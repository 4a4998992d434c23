import FlowGraph.GraphError
import FlowGraph.OrderedMap

/-!
Boxes: payloads tagged with the kind they were made for. A box carries the proof that its payload
fits its kind, so whoever finds a box of the right kind can read it (`isSome_get?`).
-/

set_option autoImplicit false
set_option relaxedAutoImplicit false

namespace FlowGraph

structure Box where
  kind : Kind
  payload : Json
  fits : kind.admits payload = true

/-- Named boxes: the inputs, outputs or settings of a node. -/
abbrev Boxes := OrderedMap String Box

namespace Box

/-- Boxes a payload, which has to fit the kind. -/
def create (kind : Kind) (payload : Json) : Except GraphError Box :=
  if h : kind.admits payload = true then .ok ⟨kind, payload, h⟩
  else .error (.payloadMismatch kind payload)

def string (s : String) : Box := ⟨.string, .string s, rfl⟩

def boolean (b : Bool) : Box := ⟨.boolean, .bool b, rfl⟩

def integer (n : Int) : Box := ⟨.number, .number (.integer n), rfl⟩

def json (document : Json) : Box := ⟨.json, document, rfl⟩

instance : Inhabited Box := ⟨json .null⟩

/-- Boxes a floating-point number. Only finite numbers have a payload. -/
def number (x : Binary64) : Except GraphError Box :=
  create .number (if x.isFinite then .number (.float x) else .null)

/-- A box of the same kind with another payload. -/
def withPayload (box : Box) (payload : Json) : Except GraphError Box := create box.kind payload

/-- The payload as a value of a kind, if that is the kind of the box. -/
def get? (kind : Kind) (box : Box) : Option kind.Carrier :=
  if box.kind = kind then kind.read? box.payload else none

theorem isSome_get? (kind : Kind) (box : Box) :
    (box.get? kind).isSome = decide (box.kind = kind) := by
  unfold get?
  split
  · next h => subst h; simp [Kind.isSome_read?, box.fits]
  · next h => simp [h]

/-- Equality of boxes: the same kind, and payloads of the same value. -/
def sameValue (first second : Box) : Bool :=
  first.kind == second.kind && first.payload.sameValue second.payload

end Box

namespace Boxes

/-- The payload of a named box of the expected kind. -/
def lookup (boxes : Boxes) (name : String) (expected : Kind) : Option Json :=
  ((boxes.get? name).filter fun box ↦ box.kind = expected).map Box.payload

/-- The value of a named box of the expected kind. -/
def value? (boxes : Boxes) (kind : Kind) (name : String) : Option kind.Carrier :=
  (boxes.get? name).bind (Box.get? kind)

/-- The value of an input that has to be there with the expected kind. -/
def require (inputs : Boxes) (kind : Kind) (name : String) : Except GraphError kind.Carrier :=
  match inputs.value? kind name with
  | some value => .ok value
  | none => .error (.missingInput name)

/-- The value of a setting, which has to be known and of the expected kind. -/
def setting (settings : Boxes) (kind : Kind) (name : String) : Except GraphError kind.Carrier :=
  match settings.get? name with
  | none => .error (.unknownSetting name)
  | some box =>
    match box.get? kind with
    | some value => .ok value
    | none => .error (.typeMismatch kind box.kind.name)

/-- Equality of names and of boxes under them. -/
def sameValues (first second : Boxes) : Bool :=
  first.size == second.size &&
    (first.entries.zip second.entries).all fun pair ↦
      pair.1.1 == pair.2.1 && pair.1.2.sameValue pair.2.2

end Boxes

end FlowGraph
