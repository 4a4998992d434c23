import FlowGraph.Binary64.Decimal

/-!
JSON documents. Integers and floating-point numbers are different numbers, also where their values
agree. An object lists its members with ascending keys; `Json.ofMembers` is how one is made.
-/

set_option autoImplicit false
set_option relaxedAutoImplicit false

namespace FlowGraph

/-- A number of a document: an integer, or a finite binary64 number. -/
inductive Number where
  | integer (n : Int)
  | float (x : Binary64)
deriving DecidableEq, Inhabited

namespace Number

/-- The integers that stay integers when read: those of 64 bits, signed or not. -/
def leastInteger : Int := -0x8000000000000000

def greatestInteger : Int := 0xffffffffffffffff

def toBinary64 : Number → Binary64
  | .integer n => .ofInt n
  | .float x => x

/-- Equality of numbers of one representation; the two zeros of the floating-point numbers agree. -/
def sameValue : Number → Number → Bool
  | .integer m, .integer n => m == n
  | .float x, .float y => x.sameValue y
  | _, _ => false

/-- Floating-point numbers are positional from 10⁻⁵ to below 10¹⁶, and an exponent has its sign. -/
def layout : Binary64.Layout where
  lowest := -5
  bound := 16
  exponentMark := "e"
  positiveSign := "+"
  negativeSign := "-"

def text : Number → String
  | .integer n => toString n
  | .float x => x.write layout

end Number

inductive Json where
  | null
  | bool (b : Bool)
  | number (n : Number)
  | string (s : String)
  | array (items : List Json)
  | object (members : List (String × Json))
deriving Inhabited

namespace Json

def isString : Json → Bool
  | .string _ => true
  | _ => false

def isBool : Json → Bool
  | .bool _ => true
  | _ => false

def isNumber : Json → Bool
  | .number _ => true
  | _ => false

/-- What kind of value a document is, in one word. -/
def shape : Json → String
  | .null => "null"
  | .bool _ => "boolean"
  | .number _ => "number"
  | .string _ => "string"
  | .array _ => "array"
  | .object _ => "object"

/-- Adds a member at the place of its key, in the place of an earlier one of that key. -/
def insertMember (key : String) (value : Json) : List (String × Json) → List (String × Json)
  | [] => [(key, value)]
  | (k, v) :: rest =>
    if key < k then (key, value) :: (k, v) :: rest
    else if k < key then (k, v) :: insertMember key value rest
    else (key, value) :: rest

/-- The object of a list of members; of members with one key the last counts. -/
def ofMembers (members : List (String × Json)) : Json :=
  .object (members.foldl (fun sorted entry ↦ insertMember entry.1 entry.2 sorted) [])

/-- The member of an object, `none` also where the document is no object. -/
def field? (name : String) : Json → Option Json
  | .object members => members.lookup name
  | _ => none

/-- The element of an array, `none` also where the document is no array. -/
def item? (index : Nat) : Json → Option Json
  | .array items => items[index]?
  | _ => none

mutual

/-- Equality of documents, with numbers compared by `Number.sameValue`. -/
def sameValue : Json → Json → Bool
  | .null, .null => true
  | .bool a, .bool b => a == b
  | .number m, .number n => m.sameValue n
  | .string s, .string t => s == t
  | .array xs, .array ys => sameItems xs ys
  | .object xs, .object ys => sameMembers xs ys
  | _, _ => false

def sameItems : List Json → List Json → Bool
  | [], [] => true
  | x :: xs, y :: ys => sameValue x y && sameItems xs ys
  | _, _ => false

def sameMembers : List (String × Json) → List (String × Json) → Bool
  | [], [] => true
  | (k, x) :: xs, (l, y) :: ys => k == l && sameValue x y && sameMembers xs ys
  | _, _ => false

end

end Json

end FlowGraph
