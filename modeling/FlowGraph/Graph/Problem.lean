import FlowGraph.Graph.Order

/-!
Problems of a whole graph: a cycle, and inputs that neither a connection nor a setting supplies.
-/

set_option autoImplicit false
set_option relaxedAutoImplicit false

namespace FlowGraph

/-- What is wrong with a graph, or with a stored graph. -/
inductive Problem where
  | cycleDetected (node : NodeId)
  | unconnectedInput (node : NodeId) (name : String)
  | duplicateNode (node : NodeId)
  | unknownNodeType (node : NodeId) (identifier : String)
  | unknownNode (node : NodeId)
deriving DecidableEq

namespace Problem

def message : Problem → String
  | .cycleDetected node => "Cycle detected through node '" ++ node.text ++ "'"
  | .unconnectedInput node name =>
    "Input '" ++ name ++ "' on node '" ++ node.text ++ "' is not connected"
  | .duplicateNode node => "Node '" ++ node.text ++ "' appears more than once"
  | .unknownNodeType node identifier =>
    "Unknown node type '" ++ identifier ++ "' for node '" ++ node.text ++ "'"
  | .unknownNode node => "Connection references unknown node '" ++ node.text ++ "'"

end Problem

namespace Graph

/-- The setting that stands in for an unconnected input: one of its name and kind, if the input is
settable. -/
def standIn? (node : Node) (input : Input) : Option Box :=
  if input.settable then (node.setting? input.name).filter fun box ↦ box.kind = input.kind
  else none

/-- Whether a connection or a setting supplies an input. -/
def isSupplied (graph : Graph) (node : Node) (input : Input) : Bool :=
  (graph.connectionInto? node.id input.name).isSome || (standIn? node input).isSome

/-- All problems: a node on a cycle first, then the inputs without supply by node and name. -/
def problems (graph : Graph) : List Problem :=
  (graph.findCycle.map .cycleDetected).toList ++
    graph.nodes.values.flatMap fun node ↦
      (node.inputs.filter fun input ↦ !graph.isSupplied node input).map fun input ↦
        .unconnectedInput node.id input.name

end Graph

end FlowGraph
