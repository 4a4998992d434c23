import FlowGraph.Graph

/-!
The order of evaluation: every node after the nodes it reads from, and among the nodes that could
come next always the one with the least identifier. Nodes are placed one by one while the number of
unplaced dependencies of each is counted down; nodes that are left over when none is ready hang on a
cycle, and walking back along connections among them finds a node that lies on one.
-/

set_option autoImplicit false
set_option relaxedAutoImplicit false

namespace FlowGraph.Graph

/-- The connected pairs of nodes, each once however many connections join it. -/
def edges (graph : Graph) : List (NodeId × NodeId) :=
  (graph.connections.map fun connection ↦
    (connection.source.node, connection.target.node)).eraseDups

/-- The state of the sort: the nodes placed so far, last first, the nodes that are ready, and for
each node the number of edges into it from nodes not yet placed. -/
structure Sorting where
  placed : List NodeId
  ready : OrderedSet NodeId
  inDegree : OrderedMap NodeId Nat

namespace Sorting

/-- Counts each edge at its end and makes the nodes without edges ready. -/
def start (graph : Graph) : Sorting :=
  let inDegree := graph.edges.foldl
    (fun degrees edge ↦ degrees.insert edge.2 ((degrees.get? edge.2).getD 0 + 1))
    (graph.nodes.mapValues fun _ _ ↦ 0)
  { placed := []
    ready := .ofList ((inDegree.filter fun _ degree ↦ degree == 0).keys)
    inDegree }

/-- Counts one edge down; a node without further edges becomes ready. -/
def release (sorting : Sorting) (target : NodeId) : Sorting :=
  match sorting.inDegree.get? target with
  | none => sorting
  | some degree =>
    { sorting with
      inDegree := sorting.inDegree.insert target (degree - 1)
      ready := if degree - 1 = 0 then sorting.ready.add target else sorting.ready }

/-- Places the least ready node. -/
def step (graph : Graph) (sorting : Sorting) : Option Sorting :=
  match sorting.ready.toList with
  | [] => none
  | node :: _ =>
    let targets := (graph.edges.filter fun edge ↦ edge.1 = node).map (·.2)
    some (targets.foldl release
      { sorting with placed := node :: sorting.placed, ready := sorting.ready.erase node })

/-- Places nodes until none is ready. -/
def run (graph : Graph) : Nat → Sorting → Sorting
  | 0, sorting => sorting
  | fuel + 1, sorting =>
    match sorting.step graph with
    | none => sorting
    | some next => run graph fuel next

end Sorting

/-- Walks back along connections inside a set of nodes until a node repeats. -/
def walkBack (graph : Graph) (inside : List NodeId) : Nat → List NodeId → NodeId → NodeId
  | 0, _, current => current
  | fuel + 1, seen, current =>
    if seen.contains current then current
    else
      match (graph.dependencies current).toList.find? inside.contains with
      | some next => walkBack graph inside fuel (current :: seen) next
      | none => current

/-- The order of all nodes, or a node on a cycle. -/
def order (graph : Graph) : Except NodeId (List NodeId) :=
  let sorted := Sorting.run graph (Sorting.start graph).inDegree.size (Sorting.start graph)
  let remaining := graph.nodes.keys.filter fun id ↦ !sorted.placed.contains id
  match remaining with
  | [] => .ok sorted.placed.reverse
  | start :: _ => .error (walkBack graph remaining (remaining.length + 1) [] start)

/-- The order of evaluation, refused with a node on a cycle if there is one. -/
def topologicalOrder (graph : Graph) : Except GraphError (List NodeId) :=
  graph.order.mapError .cyclicGraph

/-- A node on a cycle, if there is one. -/
def findCycle (graph : Graph) : Option NodeId :=
  match graph.order with
  | .ok _ => none
  | .error node => some node

end FlowGraph.Graph
