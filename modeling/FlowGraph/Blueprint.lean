import FlowGraph.StoredGraph

/-!
Blueprints: graphs described with names of the writer's choice in place of identifiers. Steps are
recorded as they are given, and whatever is wrong with them shows when the graph is built: first the
nodes in their order, then the connections.
-/

set_option autoImplicit false
set_option relaxedAutoImplicit false

namespace FlowGraph

structure PlannedNode where
  name : String
  typeIdentifier : String
  settings : Boxes

structure PlannedConnection where
  source : String
  sourceName : String
  target : String
  targetName : String

structure Blueprint where
  nodes : List PlannedNode
  connections : List PlannedConnection

/-- A graph with the identifiers that the names of its blueprint stand for. -/
structure BuiltGraph where
  graph : Graph
  aliases : OrderedMap String NodeId

namespace Blueprint

def empty : Blueprint := ⟨[], []⟩

def addNode (blueprint : Blueprint) (name typeIdentifier : String) : Blueprint :=
  { blueprint with nodes := blueprint.nodes ++ [⟨name, typeIdentifier, .empty⟩] }

/-- Changes the last node that was added, if there is one. -/
def changeLast (change : PlannedNode → PlannedNode) : List PlannedNode → List PlannedNode
  | [] => []
  | [node] => [change node]
  | node :: rest => node :: changeLast change rest

/-- Sets a setting of the node that was added last; before any node it does nothing. -/
def setting (blueprint : Blueprint) (name : String) (value : Box) : Blueprint :=
  let change := fun node : PlannedNode ↦ { node with settings := node.settings.insert name value }
  { blueprint with nodes := changeLast change blueprint.nodes }

def connect (blueprint : Blueprint) (source sourceName target targetName : String) : Blueprint :=
  { blueprint with connections :=
      blueprint.connections ++ [⟨source, sourceName, target, targetName⟩] }

/-- Builds one node under an identifier; a name may be given once. -/
def buildNode (registry : Registry) (built : BuiltGraph) (planned : PlannedNode × NodeId) :
    Except GraphError BuiltGraph :=
  if built.aliases.contains planned.1.name then .error (.duplicateAlias planned.1.name)
  else do
    let graph ←
      built.graph.createNode registry planned.2 planned.1.typeIdentifier planned.1.settings
    return ⟨graph, built.aliases.insert planned.1.name planned.2⟩

def resolveAlias (aliases : OrderedMap String NodeId) (name : String) :
    Except GraphError NodeId :=
  match aliases.get? name with
  | some id => .ok id
  | none => .error (.unknownAlias name)

/-- Builds one connection, with the kind of its source. -/
def buildConnection (built : BuiltGraph) (planned : PlannedConnection) :
    Except GraphError BuiltGraph := do
  let source ← resolveAlias built.aliases planned.source
  let target ← resolveAlias built.aliases planned.target
  let kind ←
    match (built.graph.node? source).bind fun node ↦ node.output? planned.sourceName with
    | some output => pure output.kind
    | none => .error (.connectorNotFound source planned.sourceName)
  let graph ← built.graph.connect source planned.sourceName target planned.targetName kind
  return { built with graph }

/-- Builds the graph; the nodes get the fresh identifiers in their order. -/
def build (blueprint : Blueprint) (registry : Registry) (fresh : Nat → NodeId) :
    Except GraphError BuiltGraph := do
  let planned := blueprint.nodes.zipIdx.map fun entry ↦ (entry.1, fresh entry.2)
  let built ← planned.foldlM (buildNode registry) ⟨.empty, .empty⟩
  blueprint.connections.foldlM buildConnection built

end Blueprint

end FlowGraph
