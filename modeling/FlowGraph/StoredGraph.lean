import FlowGraph.Graph.Problem

/-!
The stored form of a graph: identifiers, names and settings, without types and connectors. Storing
lists the nodes by identifier and the connections in the order they were made. Loading looks the
types up and makes every connection anew, with the kind of its source; what fails first ends it.
-/

set_option autoImplicit false
set_option relaxedAutoImplicit false

namespace FlowGraph

/-- A stored node with all its settings, or with those that differ from the defaults. -/
structure StoredNode where
  id : NodeId
  typeIdentifier : String
  settings : Boxes

structure StoredConnection where
  source : NodeId
  sourceName : String
  target : NodeId
  targetName : String
deriving DecidableEq

structure StoredGraph where
  nodes : List StoredNode
  connections : List StoredConnection

namespace StoredNode

/-- Equality with settings compared by the values in their boxes. -/
def sameValue (first second : StoredNode) : Bool :=
  first.id = second.id && first.typeIdentifier == second.typeIdentifier
    && first.settings.sameValues second.settings

end StoredNode

namespace Graph

/-- The stored form of a graph. -/
def store (graph : Graph) : StoredGraph where
  nodes := graph.nodes.values.map fun node ↦ ⟨node.id, node.typeIdentifier, node.settings⟩
  connections := graph.connections.map fun connection ↦
    ⟨connection.source.node, connection.source.name, connection.target.node, connection.target.name⟩

/-- The kind of a named output of a node. -/
def outputKind (graph : Graph) (id : NodeId) (name : String) : Except GraphError Kind := do
  let node ← graph.require id
  match node.output? name with
  | some output => return output.kind
  | none => .error (.connectorNotFound id name)

end Graph

namespace StoredGraph

def sameValue (first second : StoredGraph) : Bool :=
  first.nodes.length == second.nodes.length
    && (first.nodes.zip second.nodes).all (fun pair ↦ pair.1.sameValue pair.2)
    && first.connections == second.connections

def loadNode (registry : Registry) (graph : Graph) (stored : StoredNode) :
    Except GraphError Graph :=
  graph.createNode registry stored.id stored.typeIdentifier stored.settings

def loadConnection (graph : Graph) (stored : StoredConnection) : Except GraphError Graph := do
  let kind ← graph.outputKind stored.source stored.sourceName
  graph.connect stored.source stored.sourceName stored.target stored.targetName kind

/-- The graph of a stored form: its nodes first, then its connections. -/
def load (stored : StoredGraph) (registry : Registry) : Except GraphError Graph := do
  let graph ← stored.nodes.foldlM (loadNode registry) .empty
  stored.connections.foldlM loadConnection graph

/-- The problems of one stored node behind others. -/
def nodeProblems (registry : Registry) (seen : List NodeId) (node : StoredNode) : List Problem :=
  (if seen.contains node.id then [.duplicateNode node.id] else [])
    ++ (if registry.contains node.typeIdentifier then []
      else [.unknownNodeType node.id node.typeIdentifier])

/-- The problems of stored nodes, in their order. -/
def allNodeProblems (registry : Registry) (seen : List NodeId) : List StoredNode → List Problem
  | [] => []
  | node :: rest =>
    nodeProblems registry seen node ++ allNodeProblems registry (node.id :: seen) rest

/-- What can be said against a stored graph without loading it: repeated nodes and unknown types,
then ends of connections that are no stored nodes. -/
def problems (stored : StoredGraph) (registry : Registry) : List Problem :=
  allNodeProblems registry [] stored.nodes ++
    stored.connections.flatMap fun connection ↦
      ([connection.source, connection.target].filter fun id ↦
        !(stored.nodes.map StoredNode.id).contains id).map .unknownNode

end StoredGraph

end FlowGraph
