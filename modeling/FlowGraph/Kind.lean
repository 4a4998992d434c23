import FlowGraph.Json

/-!
The kinds of values that travel through a graph. Kinds are compared by identity: a document that
happens to be a string does not go where a string is expected.
-/

set_option autoImplicit false
set_option relaxedAutoImplicit false

namespace FlowGraph

inductive Kind where
  | string
  | boolean
  | number
  | json
deriving DecidableEq, Inhabited

namespace Kind

def all : List Kind := [.string, .boolean, .number, .json]

def name : Kind → String
  | .string => "string"
  | .boolean => "boolean"
  | .number => "number"
  | .json => "json"

def ofName? (name : String) : Option Kind := all.find? fun kind ↦ kind.name == name

theorem ofName?_name (kind : Kind) : ofName? kind.name = some kind := by
  cases kind <;> rfl

/-- The documents that a value of this kind may have as its payload. -/
def admits : Kind → Json → Bool
  | .string => Json.isString
  | .boolean => Json.isBool
  | .number => Json.isNumber
  | .json => fun _ ↦ true

/-- What a payload of this kind is read as. -/
abbrev Carrier : Kind → Type
  | .string => String
  | .boolean => Bool
  | .number => Binary64
  | .json => Json

/-- Reads a payload, `none` where it has another shape. -/
def read? : (kind : Kind) → Json → Option kind.Carrier
  | .string, .string s => some s
  | .boolean, .bool b => some b
  | .number, .number n => some n.toBinary64
  | .json, document => some document
  | _, _ => none

theorem isSome_read? (kind : Kind) (payload : Json) :
    (kind.read? payload).isSome = kind.admits payload := by
  cases kind <;> cases payload <;> rfl

end Kind

end FlowGraph
