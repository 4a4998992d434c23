import FlowGraph.Json.Token

/-!
The outline of a JSON text: its structure as far as the text can be read. A text that breaks the
grammar still has an outline, which holds everything before the break and the fault at it. Readers
of particular shapes go through an outline from left to right, so what they meet first is what
stands first in the text, be it a fault of the text or a value of the wrong shape.
-/

set_option autoImplicit false
set_option relaxedAutoImplicit false

namespace FlowGraph.Json

/-- An outline. After an item or member that holds a break nothing follows. A member whose key
cannot be read has the fault in its key and what stands there as its value. -/
inductive Outline where
  | null
  | bool (b : Bool)
  | number (token : Token Number)
  | string (token : Token String)
  | array (items : List Outline) (ending : Option Fault)
  | object (members : List (Token String × Outline)) (ending : Option Fault)
  | broken (fault : Fault)
  | ended

namespace Outline

def isBlank (c : Char) : Bool := c == ' ' || c == '\n' || c == '\t' || c == '\r'

def skipBlanks (chars : List Char) : List Char := chars.dropWhile isBlank

/-- Reads the rest of a word such as `null` after its first letter. -/
def readWord (meaning : Outline) : List Char → List Char → Outline × Option (List Char)
  | [], chars => (meaning, some chars)
  | _ :: _, [] => (.broken .truncated, none)
  | expected :: more, c :: rest =>
    if c = expected then readWord meaning more rest else (.broken .malformed, none)

mutual

/-- Reads one value. The rest is `none` when the text breaks inside the value. -/
def readValue : Nat → List Char → Outline × Option (List Char)
  | 0, _ => (.ended, none)
  | fuel + 1, chars =>
    match skipBlanks chars with
    | [] => (.ended, none)
    | c :: rest =>
      if c = '"' then
        let (token, rest?) := readString rest
        (.string token, rest?)
      else if c = '[' then
        let (items, ending, rest?) := readItems fuel true rest
        (.array items ending, rest?)
      else if c = '\x7b' then
        let (members, ending, rest?) := readMembers fuel true rest
        (.object members ending, rest?)
      else if c = 'n' then readWord .null ['u', 'l', 'l'] rest
      else if c = 't' then readWord (.bool true) ['r', 'u', 'e'] rest
      else if c = 'f' then readWord (.bool false) ['a', 'l', 's', 'e'] rest
      else if c = '-' then
        let (token, rest?) := readNumber true rest
        (.number token, rest?)
      else if c.isDigit then
        let (token, rest?) := readNumber false (c :: rest)
        (.number token, rest?)
      else (.broken .malformed, none)

/-- Reads items up to the closing bracket. -/
def readItems : Nat → Bool → List Char → List Outline × Option Fault × Option (List Char)
  | 0, _, _ => ([], some .truncated, none)
  | fuel + 1, first, chars =>
    match skipBlanks chars with
    | [] => ([], some .truncated, none)
    | c :: rest =>
      if c = ']' then ([], none, some rest)
      else if first ∨ c = ',' then
        match readValue fuel (if first then c :: rest else rest) with
        | (item, none) => ([item], none, none)
        | (item, some rest) =>
          let (more, ending, rest?) := readItems fuel false rest
          (item :: more, ending, rest?)
      else ([], some .malformed, none)

/-- Reads members up to the closing brace. -/
def readMembers :
    Nat → Bool → List Char → List (Token String × Outline) × Option Fault × Option (List Char)
  | 0, _, _ => ([], some .truncated, none)
  | fuel + 1, first, chars =>
    match skipBlanks chars with
    | [] => ([], some .truncated, none)
    | c :: rest =>
      if c = '\x7d' then ([], none, some rest)
      else if first ∨ c = ',' then
        match skipBlanks (if first then c :: rest else rest) with
        | [] => ([(.broken .truncated, .ended)], none, none)
        | c :: rest =>
          if c = '"' then
            match readString rest with
            | (key, none) => ([(key, .broken .malformed)], none, none)
            | (key, some rest) =>
              match skipBlanks rest with
              | [] => ([(key, .ended)], none, none)
              | c :: rest =>
                if c = ':' then
                  match readValue fuel rest with
                  | (value, none) => ([(key, value)], none, none)
                  | (value, some rest) =>
                    let (more, ending, rest?) := readMembers fuel false rest
                    ((key, value) :: more, ending, rest?)
                else ([(key, .broken .malformed)], none, none)
          else ([(.broken .malformed, (readValue fuel (c :: rest)).1)], none, none)
      else ([], some .malformed, none)

end

/-- The outline of a text, and whether only blanks follow it. -/
def ofChars (chars : List Char) : Outline × Bool :=
  let (outline, rest?) := readValue (2 * chars.length + 2) chars
  (outline, (rest?.map fun rest ↦ (skipBlanks rest).isEmpty).getD true)

mutual

/-- Passes over a value: the first fault in it, if any. -/
def pass : Outline → Except Fault Unit
  | .null => .ok ()
  | .bool _ => .ok ()
  | .number token => token.passed
  | .string token => token.passed
  | .array items ending => do
    passItems items
    match ending with
    | none => .ok ()
    | some fault => .error fault
  | .object members ending => do
    passMembers members
    match ending with
    | none => .ok ()
    | some fault => .error fault
  | .broken fault => .error fault
  | .ended => .error .truncated

def passItems : List Outline → Except Fault Unit
  | [] => .ok ()
  | item :: rest => do pass item; passItems rest

def passMembers : List (Token String × Outline) → Except Fault Unit
  | [] => .ok ()
  | (key, value) :: rest => do key.passed; pass value; passMembers rest

end

mutual

/-- The outline of a whole document. -/
def ofJson : Json → Outline
  | .null => .null
  | .bool b => .bool b
  | .number n => .number ⟨.ok n, .ok ()⟩
  | .string s => .string ⟨.ok s, .ok ()⟩
  | .array items => .array (ofItems items) none
  | .object members => .object (ofMembers members) none

def ofItems : List Json → List Outline
  | [] => []
  | item :: rest => ofJson item :: ofItems rest

def ofMembers : List (String × Json) → List (Token String × Outline)
  | [] => []
  | (key, value) :: rest => (⟨.ok key, .ok ()⟩, ofJson value) :: ofMembers rest

end

end Outline

end FlowGraph.Json
