import FlowGraph.Regex.Atom

/-!
Sets of characters in brackets: members, ranges, named sets, sets within sets, and the operations on
the sets before and behind an operator.
-/

set_option autoImplicit false
set_option relaxedAutoImplicit false

namespace FlowGraph.Regex

open Unicode (CharSet)

/-- A set, with the depth of the brackets, lists and operations that it is written with. -/
structure Bracket where
  set : CharSet
  depth : Nat

inductive SetOperation where
  | intersection
  | difference
  | symmetricDifference
deriving DecidableEq

namespace SetOperation

def apply : SetOperation → CharSet → CharSet → CharSet
  | .intersection => .inter
  | .difference => .diff
  | .symmetricDifference => .symmDiff

end SetOperation

namespace Bracket

def single (set : CharSet) : Bracket := ⟨set, 0⟩

/-- The union of a list of sets, which is a level of its own unless the list is short. -/
def union : List Bracket → Bracket
  | [] => single .empty
  | [only] => only
  | members => ⟨.unionAll (members.map set), (members.map depth).foldl max 0 + 1⟩

/-- The operation that waits for its second set, with its first one. -/
abbrev Pending := Option (SetOperation × Bracket)

def close (flags : Flags) (pending : Pending) (members : List Bracket) : Bracket :=
  let second := union members
  match pending with
  | none => second
  | some (operation, first) =>
    ⟨operation.apply (Atom.closeCase flags first.set) (Atom.closeCase flags second.set),
      max first.depth second.depth + 1⟩

/-- A set in brackets, or its complement. -/
def enclose (flags : Flags) (negated : Bool) (inner : Bracket) : Except Error Bracket := do
  let set ← Atom.signed flags negated (Atom.closeCase flags inner.set)
  return ⟨set, inner.depth + 1⟩

/-! ### Members -/

/-- Where characters are bytes, only the ASCII ones can be members. -/
def charMember (flags : Flags) (c : Char) : Except Error Nat :=
  if flags.unicode || c.val < 0x80 then .ok c.toNat else .error .outsideText

def member (flags : Flags) : Atom → Except Error Bracket
  | .char c _ => (charMember flags c).map fun code ↦ single (.ofRange code code)
  | .chars set => .ok (single set)
  | .assertion _ => .error .bracketMember

def range (flags : Flags) : Atom → Atom → Except Error Bracket
  | .char first _, .char last _ => do
    let first ← charMember flags first
    let last ← charMember flags last
    if last < first then throw .rangeReversed
    return single (.ofRange first last)
  | _, _ => .error .bracketMember

/-- Reads a member or a range. A hyphen in front of the closing bracket or of another hyphen makes
no range. -/
def readMember (flags : Flags) (text : List Char) : Except Error (Bracket × List Char) := do
  let (first, rest) ← Atom.read flags text
  match skip flags.spaced rest with
  | '-' :: behind =>
    let next := peekSpaced flags.spaced behind
    if next = some ']' ∨ next = some '-' then return (← member flags first, '-' :: behind)
    let (last, rest) ← Atom.read flags (skip flags.spaced behind)
    return (← range flags first last, rest)
  | rest => return (← member flags first, rest)

/-! ### Named sets -/

open Chars in
def named : List (String × CharSet) :=
  [("alnum", asciiLetter.union asciiDigit), ("alpha", asciiLetter), ("ascii", .ascii),
    ("blank", .ofRanges [⟨0x09, 0x09⟩, ⟨0x20, 0x20⟩]),
    ("cntrl", .ofRanges [⟨0x00, 0x1F⟩, ⟨0x7F, 0x7F⟩]), ("digit", asciiDigit),
    ("graph", .ofRange 0x21 0x7E), ("lower", asciiLower), ("print", .ofRange 0x20 0x7E),
    ("punct", (CharSet.ofRange 0x21 0x7E).diff (asciiLetter.union asciiDigit)),
    ("space", asciiBlank), ("upper", asciiUpper), ("word", word false),
    ("xdigit", .ofRanges [⟨0x30, 0x39⟩, ⟨0x41, 0x46⟩, ⟨0x61, 0x66⟩])]

/-- Reads the name of a set behind an opening bracket, between colons, perhaps behind a caret. -/
def readNamed? (text : List Char) : Option (Bool × CharSet × List Char) :=
  match text with
  | ':' :: rest =>
    let (negated, rest) := match rest with
      | '^' :: rest => (true, rest)
      | rest => (false, rest)
    match rest.dropWhile (· ≠ ':') with
    | ':' :: ']' :: behind =>
      (named.find? fun entry ↦ entry.1.toList = rest.takeWhile (· ≠ ':')).map fun entry ↦
        (negated, entry.2, behind)
    | _ => none
  | _ => none

/-! ### Brackets -/

/-- Reads the beginning of a set behind its bracket: whether it is negated, and the hyphens that
stand for themselves in front. A closing bracket in front stands for itself too. -/
def readOpening (flags : Flags) (text : List Char) : Bool × List Bracket × List Char :=
  let (negated, text) := match skip flags.spaced text with
    | '^' :: rest => (true, rest)
    | text => (false, text)
  match takeSpaced flags.spaced (· = '-') false text with
  | ([], ']' :: rest) => (negated, [single (.singleton ']')], rest)
  | (hyphens, rest) => (negated, hyphens.map fun c ↦ single (.singleton c), rest)

/-- Reads a set behind its opening up to the bracket that closes it. The fuel has to exceed the
length of the text. -/
def readBody (flags : Flags) : Nat → Pending → List Bracket → List Char →
    Except Error (Bracket × List Char)
  | 0, _, _, _ => .error .bracketUnclosed
  | fuel + 1, pending, members, text =>
    match skip flags.spaced text with
    | [] => .error .bracketUnclosed
    | ']' :: rest => .ok (close flags pending members, rest)
    | '&' :: '&' :: rest =>
      readBody flags fuel (some (.intersection, close flags pending members)) [] rest
    | '-' :: '-' :: rest =>
      readBody flags fuel (some (.difference, close flags pending members)) [] rest
    | '~' :: '~' :: rest =>
      readBody flags fuel (some (.symmetricDifference, close flags pending members)) [] rest
    | '[' :: rest =>
      match readNamed? rest with
      | some (negated, set, rest) => do
        let set ← Atom.signed flags negated (Atom.closeCase flags set)
        readBody flags fuel pending (single set :: members) rest
      | none => do
        let (negated, first, rest) := readOpening flags rest
        let (inner, rest) ← readBody flags fuel none first rest
        let member ← enclose flags negated inner
        readBody flags fuel pending (member :: members) rest
    | text => do
      let (member, rest) ← readMember flags text
      readBody flags fuel pending (member :: members) rest

/-- Reads a set behind its opening bracket. -/
def read (flags : Flags) (text : List Char) : Except Error (Bracket × List Char) := do
  let (negated, first, rest) := readOpening flags text
  let (inner, rest) ← readBody flags (rest.length + 1) none first rest
  return (← enclose flags negated inner, rest)

end Bracket

end FlowGraph.Regex
