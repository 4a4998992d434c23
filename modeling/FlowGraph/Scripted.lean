import FlowGraph.NodeType

/-!
Node types given by data instead of code: fixed slots with variants that a setting selects, and
outputs that forward, combine or invent boxes, after a delay or with an error.
-/

set_option autoImplicit false
set_option relaxedAutoImplicit false

namespace FlowGraph.Scripted

/-- Where an output comes from. -/
inductive Action where
  /-- An input box of any kind. -/
  | input (name : String)
  /-- A setting box of any kind. -/
  | setting (name : String)
  /-- Several texts in a row. -/
  | concat (names : List String)
  | box (box : Box)
  /-- An error that arrives in place of a box. -/
  | failure (error : GraphError)

structure Output where
  action : Action
  delay : Nat

/-- What a computation does: fail at once, or put out what its actions say. -/
inductive Computation where
  | failure (error : GraphError)
  | outputs (outputs : OrderedMap String Output)

/-- The slots that a variant has instead of the usual ones. -/
structure Variant where
  inputs : Option (List InputSlot)
  outputs : Option (List OutputSlot)

structure Script where
  metadata : Metadata
  defaults : Boxes
  inputs : List InputSlot
  outputs : List OutputSlot
  variants : OrderedMap String Variant
  computation : Computation

/-- Begins an output. Inputs and settings are asked for before anything is awaited. -/
def Output.begin (output : Output) (inputs settings : Boxes) : Except GraphError Pending :=
  match output.action with
  | .input name =>
    match inputs.get? name with
    | some box => .ok ⟨output.delay, .ok box⟩
    | none => .error (.missingInput name)
  | .setting name =>
    match settings.get? name with
    | some box => .ok ⟨output.delay, .ok box⟩
    | none => .error (.unknownSetting name)
  | .concat names => do
    let texts ← names.mapM (inputs.require .string)
    return ⟨output.delay, .ok (.string (String.join texts))⟩
  | .box box => .ok ⟨output.delay, .ok box⟩
  | .failure error => .ok ⟨output.delay, .error error⟩

/-- Begins outputs in the order of their names; the first that cannot begin is the error. -/
def beginAll (inputs settings : Boxes) :
    List (String × Output) → OrderedMap String Pending →
      Except GraphError (OrderedMap String Pending)
  | [], begun => .ok begun
  | (name, output) :: rest, begun => do
    beginAll inputs settings rest (begun.insert name (← output.begin inputs settings))

namespace Script

/-- The variant that the setting `variant` selects. -/
def variant? (script : Script) (settings : Boxes) : Option Variant :=
  (settings.value? .string "variant").bind script.variants.get?

def toNodeType (script : Script) : NodeType where
  metadata := script.metadata
  defaults := script.defaults
  inputs _ settings := ((script.variant? settings).bind Variant.inputs).getD script.inputs
  outputs _ settings := ((script.variant? settings).bind Variant.outputs).getD script.outputs
  compute inputs settings :=
    match script.computation with
    | .failure error => .error error
    | .outputs outputs => beginAll inputs settings outputs.entries .empty

end Script

end FlowGraph.Scripted
