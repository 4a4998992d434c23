import FlowGraph.Json

/-!
The compact text of a document: no blanks, members in the order of the object, and in strings only
the quotation mark, the backslash and the control characters below U+0020 escaped.
-/

set_option autoImplicit false
set_option relaxedAutoImplicit false

namespace FlowGraph.Json

def hexDigit (n : Nat) : Char := Nat.digitChar (n % 16)

/-- One character inside a string. -/
def escapeChar (c : Char) : List Char :=
  if c = '"' then ['\\', '"']
  else if c = '\\' then ['\\', '\\']
  else if c = '\x08' then ['\\', 'b']
  else if c = '\t' then ['\\', 't']
  else if c = '\n' then ['\\', 'n']
  else if c = '\x0c' then ['\\', 'f']
  else if c = '\r' then ['\\', 'r']
  else if c.toNat < 0x20 then ['\\', 'u', '0', '0', hexDigit (c.toNat / 16), hexDigit c.toNat]
  else [c]

def quoteChars (chars : List Char) : List Char := '"' :: chars.flatMap escapeChar ++ ['"']

def quote (s : String) : List Char := quoteChars s.toList

/-- Joins texts by commas. -/
def joinCommas : List (List Char) → List Char
  | [] => []
  | [text] => text
  | text :: rest => text ++ ',' :: joinCommas rest

mutual

def chars : Json → List Char
  | .null => ['n', 'u', 'l', 'l']
  | .bool true => ['t', 'r', 'u', 'e']
  | .bool false => ['f', 'a', 'l', 's', 'e']
  | .number n => n.text.toList
  | .string s => quote s
  | .array items => '[' :: joinCommas (itemChars items) ++ [']']
  | .object members => '\x7b' :: joinCommas (memberChars members) ++ ['\x7d']

def itemChars : List Json → List (List Char)
  | [] => []
  | item :: rest => chars item :: itemChars rest

def memberChars : List (String × Json) → List (List Char)
  | [] => []
  | (key, value) :: rest => (quote key ++ ':' :: chars value) :: memberChars rest

end

def print (document : Json) : String := String.ofList document.chars

end FlowGraph.Json
