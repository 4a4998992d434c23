import FlowGraph.Node

/-!
Connections from an output to an input. A connection remembers the two connectors as they were when
it was made, so it can be told whether they have changed since.
-/

set_option autoImplicit false
set_option relaxedAutoImplicit false

namespace FlowGraph

structure Connection where
  source : Output
  target : Input
deriving DecidableEq

namespace Connection

/-- Joins two connectors, which have to exist and be of the expected kind. -/
def create (sourceNode : Node) (sourceName : String) (targetNode : Node) (targetName : String)
    (expected : Kind) : Except GraphError Connection :=
  match sourceNode.output? sourceName with
  | none => .error (.connectorNotFound sourceNode.id sourceName)
  | some source =>
    match targetNode.input? targetName with
    | none => .error (.connectorNotFound targetNode.id targetName)
    | some target =>
      if source.kind ≠ expected then .error (.typeMismatch expected source.kind.name)
      else if target.kind ≠ expected then .error (.typeMismatch expected target.kind.name)
      else .ok ⟨source, target⟩

/-- The kind of value that travels along. -/
def kind (connection : Connection) : Kind := connection.source.kind

def touches (connection : Connection) (node : NodeId) : Bool :=
  connection.source.node = node || connection.target.node = node

/-- Whether the connection ends at a named input of a node. -/
def feeds (connection : Connection) (node : NodeId) (name : String) : Bool :=
  connection.target.node = node && connection.target.name = name

def text (connection : Connection) : String :=
  connection.source.node.text ++ "." ++ connection.source.name ++ " -> "
    ++ connection.target.node.text ++ "." ++ connection.target.name

end Connection

end FlowGraph
