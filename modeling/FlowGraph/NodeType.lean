import FlowGraph.Box

/-!
Node types. A type says which settings its nodes have, which slots they show under given settings,
and how inputs and settings become outputs. An output is a `Pending` box: it arrives some
milliseconds after the computation starts, or fails then.
-/

set_option autoImplicit false
set_option relaxedAutoImplicit false

namespace FlowGraph

inductive Category where
  | input
  | output
  | processing
  | control
deriving DecidableEq, Inhabited

namespace Category

def all : List Category := [.input, .output, .processing, .control]

def name : Category → String
  | .input => "input"
  | .output => "output"
  | .processing => "processing"
  | .control => "control"

def place (category : Category) : Nat := all.idxOf category

theorem eq_of_place_eq {first second : Category} (h : first.place = second.place) :
    first = second := by
  revert h
  cases first <;> cases second <;> decide

instance : LE Category := ⟨fun first second ↦ first.place ≤ second.place⟩

instance : LT Category := ⟨fun first second ↦ first.place < second.place⟩

instance : DecidableLT Category := fun first second ↦ Nat.decLt first.place second.place

instance : Std.IsLinearOrder Category where
  le_refl category := Nat.le_refl category.place
  le_trans _ _ _ := Nat.le_trans
  le_antisymm _ _ h h' := eq_of_place_eq (Nat.le_antisymm h h')
  le_total first second := Nat.le_total first.place second.place

instance : Std.LawfulOrderLT Category where
  lt_iff first second := by
    change first.place < second.place ↔ first.place ≤ second.place ∧ ¬ second.place ≤ first.place
    omega

end Category

/-- What a type tells about itself. -/
structure Metadata where
  identifier : String
  category : Category
  label : String
  description : String
deriving DecidableEq, Inhabited

/-- A declared input. A settable input that is not connected takes the setting of its name. -/
structure InputSlot where
  name : String
  kind : Kind
  settable : Bool := false
deriving DecidableEq

/-- A declared output. -/
structure OutputSlot where
  name : String
  kind : Kind
deriving DecidableEq

/-- An output on its way: what comes of it after a delay in milliseconds. -/
structure Pending where
  delay : Nat
  outcome : Except GraphError Box

namespace Pending

def ready (box : Box) : Pending := ⟨0, .ok box⟩

end Pending

/-- A definition of a kind of node. Slots may differ from node to node and depend on the settings in
any way. -/
structure NodeType where
  metadata : Metadata
  defaults : Boxes
  inputs : NodeId → Boxes → List InputSlot
  outputs : NodeId → Boxes → List OutputSlot
  compute (inputs settings : Boxes) : Except GraphError (OrderedMap String Pending)

end FlowGraph
