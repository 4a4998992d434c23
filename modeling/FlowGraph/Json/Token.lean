import FlowGraph.Json
import FlowGraph.Hexadecimal

/-!
String and number tokens of a JSON text. A token can be kept, which asks for its value, or passed
over, which asks only where it ends; the second is more lenient, so a `Token` records both
outcomes. Lone surrogates and numbers out of range are faults only of a token that is kept.
-/

set_option autoImplicit false
set_option relaxedAutoImplicit false

namespace FlowGraph.Json

/-- Why a text is no JSON: it breaks the grammar, or it ends too early. -/
inductive Fault where
  | malformed
  | truncated
deriving DecidableEq

structure Token (α : Type) where
  kept : Except Fault α
  passed : Except Fault Unit

namespace Token

/-- A token that is neither kept nor passed over. -/
def broken {α : Type} (fault : Fault) : Token α := ⟨.error fault, .error fault⟩

end Token

/-- A part of a string literal: a character as it stands or behind a short escape, or a UTF-16 unit
given by its four hexadecimal digits. -/
inductive Piece where
  | char (c : Char)
  | unit (n : Nat)
deriving DecidableEq

/-- The character that a letter stands for after a backslash. -/
def escaped? (letter : Char) : Option Char :=
  if letter = '"' ∨ letter = '\\' ∨ letter = '/' then some letter
  else if letter = 'b' then some '\x08'
  else if letter = 'f' then some '\x0c'
  else if letter = 'n' then some '\n'
  else if letter = 'r' then some '\r'
  else if letter = 't' then some '\t'
  else none

def byteCount (chars : List Char) : Nat :=
  chars.foldl (fun count c ↦ count + c.utf8Size) 0

/-- The pieces of a string literal after its opening quotation mark, with the text behind the
closing one, or the fault that stops the reading. A unit needs four more bytes of text. -/
def pieces : List Char → List Piece × Except Fault (List Char)
  | [] => ([], .error .truncated)
  | c :: rest =>
    if c = '"' then ([], .ok rest)
    else if c = '\\' then
      match rest with
      | [] => ([], .error .truncated)
      | letter :: rest =>
        if letter = 'u' then
          match rest with
          | first :: second :: third :: fourth :: rest =>
            match Hexadecimal.value? [first, second, third, fourth] with
            | some n => let (more, ending) := pieces rest; (.unit n :: more, ending)
            | none => ([], .error .malformed)
          | short => ([], .error (if byteCount short < 4 then .truncated else .malformed))
        else
          match escaped? letter with
          | some meant => let (more, ending) := pieces rest; (.char meant :: more, ending)
          | none => ([], .error .malformed)
    else if c.toNat < 0x20 then ([], .error .malformed)
    else let (more, ending) := pieces rest; (.char c :: more, ending)

def isLeading (n : Nat) : Bool := 0xD800 ≤ n && n ≤ 0xDBFF

def isTrailing (n : Nat) : Bool := 0xDC00 ≤ n && n ≤ 0xDFFF

/-- The characters of the pieces before an ending: a leading surrogate is joined with the trailing
one that has to follow it. -/
def joinPieces (ending : Except Fault Unit) : List Piece → Except Fault (List Char)
  | [] => ending.map fun _ ↦ []
  | .char c :: rest => (joinPieces ending rest).map (c :: ·)
  | .unit n :: rest =>
    if isTrailing n then .error .malformed
    else if isLeading n then
      match rest with
      | [] => ending.bind fun _ ↦ .error .malformed
      | .char _ :: _ => .error .malformed
      | .unit m :: rest =>
        if isTrailing m then
          (joinPieces ending rest).map
            (Char.ofNat (0x10000 + (n - 0xD800) * 0x400 + (m - 0xDC00)) :: ·)
        else .error .malformed
    else (joinPieces ending rest).map (Char.ofNat n :: ·)

/-- Reads a string literal after its opening quotation mark. -/
def readString (chars : List Char) : Token String × Option (List Char) :=
  let (parts, ending) := pieces chars
  let passed := ending.map fun _ ↦ ()
  (⟨(joinPieces passed parts).map String.ofList, passed⟩, ending.toOption)

def digitValue (c : Char) : Nat := c.toNat - '0'.toNat

/-- Appends digits to a significand while it stays below 2⁶⁴, and says how many are left. -/
def appendDigits (significand : Nat) : List Char → Nat × Nat
  | [] => (significand, 0)
  | c :: rest =>
    let appended := significand * 10 + digitValue c
    if appended < 1 <<< 64 then appendDigits appended rest else (significand, rest.length + 1)

/-- The parts of a number literal. The exponent counts only where there is one. -/
structure NumberParts where
  negative : Bool
  whole : List Char
  fraction : List Char
  exponent : Option Int

namespace NumberParts

/-- The number that the parts stand for, `none` when it is out of range. Without fraction and
exponent it is an integer if it is one of 64 bits, negative zero excepted. Whole digits beyond the
significand raise the exponent, fraction digits beyond it are dropped. -/
def number? (parts : NumberParts) : Option Number :=
  let (significand, left) := appendDigits 0 parts.whole
  if parts.fraction.isEmpty ∧ parts.exponent.isNone ∧ left = 0 then
    if parts.negative then
      if significand = 0 ∨ 1 <<< 63 < significand then some (.float (Binary64.ofNat significand).neg)
      else some (.integer (-Int.ofNat significand))
    else some (.integer (Int.ofNat significand))
  else
    let (full, dropped) := appendDigits significand parts.fraction
    let taken := parts.fraction.length - dropped
    let exponent := Int.ofNat left - Int.ofNat taken + parts.exponent.getD 0
    (Binary64.ofScientific? parts.negative full exponent).map .float

end NumberParts

def digitsOf (chars : List Char) : List Char × List Char := chars.span Char.isDigit

/-- A literal that breaks off: at the end of the text it is truncated if it is kept. -/
def brokenNumber (rest : List Char) : Token Number × Option (List Char) :=
  (⟨.error (if rest.isEmpty then .truncated else .malformed), .error .malformed⟩, none)

def finishNumber (parts : NumberParts) (rest : List Char) : Token Number × Option (List Char) :=
  (⟨match parts.number? with | some n => .ok n | none => .error .malformed, .ok ()⟩, some rest)

/-- Reads the exponent behind `e` or `E`. -/
def readExponent (parts : NumberParts) (chars : List Char) : Token Number × Option (List Char) :=
  let (negative, chars) :=
    match chars with
    | '+' :: rest => (false, rest)
    | '-' :: rest => (true, rest)
    | _ => (false, chars)
  let (digits, rest) := digitsOf chars
  if digits.isEmpty then brokenNumber rest
  else
    let size := Int.ofNat (digits.foldl (fun n c ↦ n * 10 + digitValue c) 0)
    finishNumber { parts with exponent := some (if negative then -size else size) } rest

/-- Reads what may follow the whole part and the fraction. -/
def readTail (parts : NumberParts) : List Char → Token Number × Option (List Char)
  | 'e' :: rest => readExponent parts rest
  | 'E' :: rest => readExponent parts rest
  | rest => finishNumber parts rest

/-- Reads a number literal after its sign. A zero in front stands alone. -/
def readNumber (negative : Bool) (chars : List Char) : Token Number × Option (List Char) :=
  let (whole, rest) := digitsOf chars
  if whole.isEmpty then brokenNumber rest
  else if whole.head? = some '0' ∧ 1 < whole.length then (.broken .malformed, none)
  else
    match rest with
    | '.' :: behind =>
      let (fraction, rest) := digitsOf behind
      if fraction.isEmpty then brokenNumber rest
      else readTail ⟨negative, whole, fraction, none⟩ rest
    | rest => readTail ⟨negative, whole, [], none⟩ rest

end FlowGraph.Json
