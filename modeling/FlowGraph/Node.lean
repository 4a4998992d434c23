import FlowGraph.NodeType

/-!
Nodes: a type under an identifier, settings, and the connectors that the type derives from them.
Settings keep the names and kinds of the type's defaults; whenever one changes, all connectors are
derived anew.
-/

set_option autoImplicit false
set_option relaxedAutoImplicit false

namespace FlowGraph

/-- An input slot of a particular node. -/
structure Input where
  node : NodeId
  name : String
  kind : Kind
  settable : Bool
deriving DecidableEq

/-- An output slot of a particular node. -/
structure Output where
  node : NodeId
  name : String
  kind : Kind
deriving DecidableEq

namespace Input

def ofSlot (node : NodeId) (slot : InputSlot) : Input := ⟨node, slot.name, slot.kind, slot.settable⟩

def text (input : Input) : String := input.node.text ++ "." ++ input.name ++ ": " ++ input.kind.name

end Input

namespace Output

def ofSlot (node : NodeId) (slot : OutputSlot) : Output := ⟨node, slot.name, slot.kind⟩

def text (output : Output) : String :=
  output.node.text ++ "." ++ output.name ++ ": " ++ output.kind.name

end Output

/-- The connectors of a node by name, one space of names for each direction. -/
structure Connectors where
  inputs : OrderedMap String Input
  outputs : OrderedMap String Output

namespace Connectors

/-- Enters connectors under their names, of which each may occur once. -/
def enter {α : Type} (node : NodeId) (name : α → String) :
    List α → OrderedMap String α → Except GraphError (OrderedMap String α)
  | [], entered => .ok entered
  | connector :: rest, entered =>
    if entered.contains (name connector) then
      .error (.duplicateConnector node (name connector))
    else enter node name rest (entered.insert (name connector) connector)

/-- The connectors that a type derives from settings. -/
def derive (node : NodeId) (type : NodeType) (settings : Boxes) : Except GraphError Connectors := do
  let inputs ←
    enter node Input.name ((type.inputs node settings).map (.ofSlot node)) .empty
  let outputs ←
    enter node Output.name ((type.outputs node settings).map (.ofSlot node)) .empty
  return ⟨inputs, outputs⟩

end Connectors

structure Node where
  id : NodeId
  typeIdentifier : String
  type : NodeType
  settings : Boxes
  connectors : Connectors

namespace Node

/-- A setting may be given a value if it is known and keeps its kind. -/
def checkSetting (settings : Boxes) (name : String) (value : Box) : Except GraphError Unit :=
  match settings.get? name with
  | none => .error (.unknownSetting name)
  | some current =>
    if current.kind = value.kind then .ok ()
    else .error (.typeMismatch current.kind value.kind.name)

/-- Lays values over settings, in the order of their names. -/
def overlay : List (String × Box) → Boxes → Except GraphError Boxes
  | [], settings => .ok settings
  | (name, value) :: rest, settings => do
    checkSetting settings name value
    overlay rest (settings.insert name value)

/-- A new node with some settings other than the defaults. -/
def create (id : NodeId) (typeIdentifier : String) (type : NodeType) (overrides : Boxes) :
    Except GraphError Node := do
  let settings ← overlay overrides.entries type.defaults
  let connectors ← Connectors.derive id type settings
  return ⟨id, typeIdentifier, type, settings, connectors⟩

def setting? (node : Node) (name : String) : Option Box := node.settings.get? name

def input? (node : Node) (name : String) : Option Input := node.connectors.inputs.get? name

def output? (node : Node) (name : String) : Option Output := node.connectors.outputs.get? name

/-- The inputs in the order of their names. -/
def inputs (node : Node) : List Input := node.connectors.inputs.values

/-- The outputs in the order of their names. -/
def outputs (node : Node) : List Output := node.connectors.outputs.values

/-- Changes one setting. -/
def applySetting (node : Node) (name : String) (value : Box) : Except GraphError Node := do
  checkSetting node.settings name value
  let settings := node.settings.insert name value
  let connectors ← Connectors.derive node.id node.type settings
  return { node with settings, connectors }

end Node

end FlowGraph
