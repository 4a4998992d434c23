import FlowGraph.Json.Outline

/-!
Readers of particular shapes. A reader takes an outline and gives a value or the first thing wrong
with it, going from left to right. What is kept may nest only so deep in a text; what is ignored is
passed over without limit.

A shape with named fields is described by a list of `Field`s over a partly read value and read by
`readFields`: from an object with its members in any order and unknown members ignored, or from an
array with the fields in the order of their declaration.
-/

set_option autoImplicit false
set_option relaxedAutoImplicit false

namespace FlowGraph.Json

/-- Why a text or document cannot be read as some shape. A mismatch tells what does not fit where
that has a fixed wording. -/
inductive ReadError where
  | malformed
  | truncated
  | mismatch (reason : Option String)
deriving DecidableEq

def Fault.toReadError : Fault → ReadError
  | .malformed => .malformed
  | .truncated => .truncated

/-- Lets a fault stand as the error of a reader. -/
def orFault {α : Type} : Except Fault α → Except ReadError α
  | .ok value => .ok value
  | .error fault => .error fault.toReadError

namespace ReadError

/-- A value of the wrong kind, which has no fixed wording. -/
def unfit : ReadError := .mismatch none

def missingField (name : String) : ReadError := .mismatch (some ("missing field `" ++ name ++ "`"))

def duplicateField (name : String) : ReadError :=
  .mismatch (some ("duplicate field `" ++ name ++ "`"))

def unknownVariant (found : String) (expected : List String) : ReadError :=
  .mismatch (some ("unknown variant `" ++ found ++ "`, expected one of "
    ++ ", ".intercalate (expected.map fun name ↦ "`" ++ name ++ "`")))

end ReadError

/-- Where values come from: how deep they may still nest, and what surplus elements count as. -/
structure Source where
  depth : Option Nat
  surplus : ReadError

namespace Source

/-- A text, in which arrays and objects nest at most 127 deep. -/
def text : Source := ⟨some 127, .malformed⟩

/-- A document that has been read before. -/
def document : Source := ⟨none, .unfit⟩

/-- The source inside one more array or object. -/
def enter (source : Source) : Except ReadError Source :=
  match source.depth with
  | none => .ok source
  | some 0 => .error .malformed
  | some (depth + 1) => .ok { source with depth := some depth }

end Source

/-- What is wrong with an outline that is not of the expected kind. A token is read before it is
rejected; an array or object is rejected at its opening bracket. -/
def misfit : Outline → ReadError
  | .null => .unfit
  | .bool _ => .unfit
  | .number token =>
    match token.kept with
    | .ok _ => .unfit
    | .error fault => fault.toReadError
  | .string token =>
    match token.kept with
    | .ok _ => .unfit
    | .error fault => fault.toReadError
  | .array _ _ => .unfit
  | .object _ _ => .unfit
  | .broken fault => fault.toReadError
  | .ended => .truncated

def readText : Outline → Except ReadError String
  | .string token => orFault token.kept
  | outline => .error (misfit outline)

/-- Reads a natural number of 64 bits. -/
def readCount : Outline → Except ReadError Nat
  | .number token => do
    match ← orFault token.kept with
    | .integer n => if 0 ≤ n ∧ n ≤ Number.greatestInteger then .ok n.toNat else .error .unfit
    | .float _ => .error .unfit
  | outline => .error (misfit outline)

/-- Reads `null` as `none`. -/
def readOption {α : Type} (read : Outline → Except ReadError α) :
    Outline → Except ReadError (Option α)
  | .null => .ok none
  | outline => (read outline).map some

def readEnding : Option Fault → Except ReadError Unit
  | none => .ok ()
  | some fault => .error fault.toReadError

mutual

/-- Reads any document. -/
def readJson (source : Source) : Outline → Except ReadError Json
  | .null => .ok .null
  | .bool b => .ok (.bool b)
  | .number token => do return .number (← orFault token.kept)
  | .string token => do return .string (← orFault token.kept)
  | .array items ending => do
    let source ← source.enter
    let values ← readJsonItems source items
    readEnding ending
    return .array values
  | .object members ending => do
    let source ← source.enter
    let values ← readJsonMembers source members
    readEnding ending
    return .ofMembers values
  | .broken fault => .error fault.toReadError
  | .ended => .error .truncated

def readJsonItems (source : Source) : List Outline → Except ReadError (List Json)
  | [] => .ok []
  | item :: rest => do
    let value ← readJson source item
    return value :: (← readJsonItems source rest)

def readJsonMembers (source : Source) :
    List (Token String × Outline) → Except ReadError (List (String × Json))
  | [] => .ok []
  | (key, value) :: rest => do
    let key ← orFault key.kept
    let value ← readJson source value
    return (key, value) :: (← readJsonMembers source rest)

end

/-- Reads an array of one kind of item. -/
def readList {α : Type} (read : Source → Outline → Except ReadError α) (source : Source) :
    Outline → Except ReadError (List α)
  | .array items ending => do
    let source ← source.enter
    let values ← items.mapM (read source)
    readEnding ending
    return values
  | outline => .error (misfit outline)

/-- Reads an object as a list of entries in the order of the text. -/
def readEntries {α : Type} (read : Source → Outline → Except ReadError α) (source : Source) :
    Outline → Except ReadError (List (String × α))
  | .object members ending => do
    let source ← source.enter
    let entries ← members.mapM fun member ↦ do
      let key ← orFault member.1.kept
      return (key, ← read source member.2)
    readEnding ending
    return entries
  | outline => .error (misfit outline)

/-- Finds a named variant. -/
def chooseVariant {α : Type} (variants : List (String × α)) (name : String) : Except ReadError α :=
  match variants.lookup name with
  | some value => .ok value
  | none => .error (.unknownVariant name (variants.map (·.1)))

/-- What is wrong with a key that is no string. -/
def keyMisfit (fault : Fault) (value : Outline) : ReadError :=
  match fault, value with
  | .truncated, _ => .truncated
  | .malformed, .broken fault => fault.toReadError
  | .malformed, value => misfit value

/-- Reads one of a list of names, given as a string or as the only key of an object whose value is
null. -/
def readVariant {α : Type} (variants : List (String × α)) (source : Source) :
    Outline → Except ReadError α
  | .string token => do chooseVariant variants (← orFault token.kept)
  | .object members ending => do
    let _ ← source.enter
    match members with
    | [] => .error (match ending with | some fault => fault.toReadError | none => source.surplus)
    | (key, value) :: rest =>
      if source.depth.isNone ∧ !rest.isEmpty then .error source.surplus
      else
        let name ←
          match key.kept, key.passed with
          | .ok name, _ => .ok name
          | .error fault, .ok _ => .error fault.toReadError
          | .error fault, .error _ => .error (keyMisfit fault value)
        let variant ← chooseVariant variants name
        match value with
        | .null => pure ()
        | value => .error (misfit value)
        match rest with
        | [] => readEnding ending
        | _ :: _ => .error source.surplus
        return variant
  | .ended => .error .truncated
  | _ => .error source.surplus

/-- A named field of a value that is read part by part. -/
structure Field (ρ : Type) where
  name : String
  isRead : ρ → Bool
  read : Source → Outline → ρ → Except ReadError ρ
  required : Bool

def readMember {ρ : Type} (fields : List (Field ρ)) (source : Source) (soFar : ρ)
    (member : Token String × Outline) : Except ReadError ρ := do
  let key ← orFault member.1.kept
  match fields.find? fun field ↦ field.name == key with
  | some field =>
    if field.isRead soFar then .error (.duplicateField field.name)
    else field.read source member.2 soFar
  | none =>
    orFault member.2.pass
    return soFar

def readElements {ρ : Type} (source : Source) (ending : Option Fault) :
    List (Field ρ) → List Outline → ρ → Except ReadError ρ
  | [], [], soFar => do readEnding ending; return soFar
  | [], _ :: _, _ => .error source.surplus
  | field :: fields, [], soFar => do
    readEnding ending
    if field.required then .error .unfit
    else readElements source ending fields [] soFar
  | field :: fields, item :: items, soFar => do
    readElements source ending fields items (← field.read source item soFar)

/-- The first field in the order of declaration that is required and has not been read. -/
def missing? {ρ : Type} (fields : List (Field ρ)) (soFar : ρ) : Option (Field ρ) :=
  fields.find? fun field ↦ field.required && !field.isRead soFar

/-- Reads a value with named fields, from nothing read to all that is required read. -/
def readFields {ρ : Type} (fields : List (Field ρ)) (unread : ρ) (source : Source) :
    Outline → Except ReadError ρ
  | .object members ending => do
    let source ← source.enter
    let soFar ← members.foldlM (readMember fields source) unread
    readEnding ending
    match missing? fields soFar with
    | some field => .error (.missingField field.name)
    | none => return soFar
  | .array items ending => do
    let source ← source.enter
    readElements source ending fields items unread
  | outline => .error (misfit outline)

/-- Reads a whole text as some shape. -/
def readWhole {α : Type} (read : Source → Outline → Except ReadError α) (text : String) :
    Except ReadError α := do
  let (outline, isWhole) := Outline.ofChars text.toList
  let value ← read .text outline
  if isWhole then return value else .error .malformed

/-- Reads a text as a document. -/
def parse (text : String) : Except ReadError Json := readWhole readJson text

end FlowGraph.Json
