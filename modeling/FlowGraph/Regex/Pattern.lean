import FlowGraph.Regex.Bracket

/-!
Patterns: how regular expressions are written. A pattern is read from left to right; flags that are
switched on the way hold up to the end of the group, and group names are used once in the whole
pattern.
-/

set_option autoImplicit false
set_option relaxedAutoImplicit false

namespace FlowGraph.Regex

open Unicode (CharSet)

/-- A part of a pattern, with the depth of its nesting. -/
structure Part where
  expression : Expression
  depth : Nat

/-- What a pattern is a list of: parts, and switches of flags, which match nothing and cannot be
repeated. -/
inductive Item where
  | part (written : Part)
  | switches

namespace Item

def expression : Item → Expression
  | .part written => written.expression
  | .switches => .empty

def depth : Item → Nat
  | .part written => written.depth
  | .switches => 0

end Item

namespace Part

/-- What a list amounts to, from its last item to its first. A list of several items is a level of
its own. -/
def ofItems : List Item → Part
  | [] => ⟨.empty, 0⟩
  | [only] => ⟨only.expression, only.depth⟩
  | last :: before =>
    ⟨before.foldl (fun behind item ↦ .seq item.expression behind) last.expression,
      (before.map Item.depth).foldl max last.depth + 1⟩

/-- The alternatives of a list, from the last to the first. -/
def ofBranches (last : Part) : List Part → Part
  | [] => last
  | before =>
    ⟨before.foldl (fun behind branch ↦ .either branch.expression behind) last.expression,
      (before.map depth).foldl max last.depth + 1⟩

def ofGroup (captures : Bool) (inner : Part) : Part :=
  ⟨if captures then .group inner.expression else inner.expression, inner.depth + 1⟩

def ofSet (bracket : Bracket) : Part := ⟨.chars bracket.set, bracket.depth⟩

def repeated (least : Nat) (most : Option Nat) (part : Part) : Part :=
  ⟨.repeated least most part.expression, part.depth + 1⟩

end Part

/-! ### Single signs -/

/-- A dot stands for all characters but the ends of lines, or for all of them. -/
def anyChar (flags : Flags) : Except Error Expression :=
  if !flags.unicode then .error .outsideText
  else if flags.dotAll then .ok (.chars .full)
  else if flags.returns then .ok (.chars (CharSet.ofRanges [⟨0x0A, 0x0A⟩, ⟨0x0D, 0x0D⟩]).complement)
  else .ok (.chars (CharSet.singleton '\n').complement)

def lineStart (flags : Flags) : Assertion :=
  if flags.multiLine then .lineStart flags.returns else .textStart

def lineEnd (flags : Flags) : Assertion :=
  if flags.multiLine then .lineEnd flags.returns else .textEnd

/-- A byte that is no ASCII character is no character at all. -/
def ofAtom (flags : Flags) : Atom → Except Error Expression
  | .char c byte =>
    if !flags.unicode && byte && c.val ≥ 0x80 then .error .outsideText
    else .ok (.chars (Atom.closeCase flags (.singleton c)))
  | .chars set => .ok (.chars set)
  | .assertion condition => .ok (.assertion condition)

/-- Reads a sign that is no bracket and no operator. -/
def readSign (flags : Flags) : List Char → Except Error (Expression × List Char)
  | '.' :: rest => (anyChar flags).map fun expression ↦ (expression, rest)
  | '^' :: rest => .ok (.assertion (lineStart flags), rest)
  | '$' :: rest => .ok (.assertion (lineEnd flags), rest)
  | text => do
    let (atom, rest) ← Atom.read flags text
    return (← ofAtom flags atom, rest)

/-! ### Groups -/

/-- What an opening bracket begins: a switch of flags, which ends at once, or a group. -/
inductive Opening where
  | switches (flags : Flags)
  | group (captures : Bool) (flags : Flags) (names : List (List Char))

def isNameStart (c : Char) : Bool := c = '_' || Unicode.Property.alphabetic.get.contains c

def isNameChar (c : Char) : Bool :=
  isNameStart c || c = '.' || c = '[' || c = ']' || Unicode.GeneralCategory.number.get.contains c

/-- Reads the name of a group up to the angle bracket behind it. -/
def readName (names : List (List Char)) (text : List Char) :
    Except Error (List (List Char) × List Char) :=
  let name := text.takeWhile (· ≠ '>')
  match name, text.dropWhile (· ≠ '>') with
  | first :: more, _ :: rest =>
    if !(isNameStart first && more.all isNameChar) then .error .groupName
    else if names.contains name then .error .groupNameRepeated
    else .ok (name :: names, rest)
  | _, _ => .error .groupName

/-- Reads what stands behind an opening bracket and is not yet the content of the group. -/
def readGroup (flags : Flags) (names : List (List Char)) (text : List Char) :
    Except Error (Opening × List Char) :=
  let named := fun text ↦ (readName names text).map fun (names, rest) ↦
    (Opening.group true flags names, rest)
  match skip flags.spaced text with
  | '?' :: '=' :: _ | '?' :: '!' :: _ | '?' :: '<' :: '=' :: _ | '?' :: '<' :: '!' :: _ =>
    .error .lookAround
  | '?' :: 'P' :: '<' :: rest => named rest
  | '?' :: '<' :: rest => named rest
  | '?' :: rest => do
    let (switches, rest) ← Switches.read true false [] rest
    let switched := switches.apply flags
    match rest with
    | ')' :: rest =>
      if switches.isEmpty then throw .nothingToRepeat
      return (.switches switched, rest)
    | _ => return (.group false switched names, rest.drop 1)
  | rest => .ok (.group true flags names, rest)

/-! ### Repetitions -/

/-- The number of a list of decimal digits, below 2³². -/
def number? (digits : List Char) : Option Nat :=
  if digits.isEmpty then none
  else
    let n := digits.foldl (fun n c ↦ 10 * n + (c.toNat - '0'.toNat)) 0
    if n < 1 <<< 32 then some n else none

/-- Reads a number with blanks around it. -/
def readNumber (spaced : Bool) (text : List Char) : Option Nat × List Char :=
  let (digits, rest) := takeSpaced spaced Char.isDigit false (text.dropWhile Text.isBlankChar)
  (number? digits, rest.dropWhile Text.isBlankChar)

/-- Reads a number of repetitions behind its opening brace: one number, or the least and perhaps the
greatest one. -/
def readCount (spaced : Bool) (text : List Char) :
    Except Error ((Nat × Option Nat) × List Char) := do
  let (least, rest) := readNumber spaced (skip spaced text)
  let some least := least | throw .count
  match rest with
  | '}' :: rest => return ((least, some least), rest)
  | ',' :: rest =>
    match skip spaced rest with
    | '}' :: rest => return ((least, none), rest)
    | rest =>
      let (most, rest) := readNumber spaced rest
      let some most := most | throw .count
      match rest with
      | '}' :: rest => if most < least then throw .count else return ((least, some most), rest)
      | _ => throw .count
  | _ => throw .count

/-- Drops the question mark behind a repetition, which tells that few are preferred to many. -/
def dropLazy : List Char → List Char
  | '?' :: rest => rest
  | text => text

/-- Repeats the last item. -/
def repeatLast (least : Nat) (most : Option Nat) : List Item → Except Error (List Item)
  | .part last :: before => .ok (.part (last.repeated least most) :: before)
  | _ => .error .nothingToRepeat

/-! ### Patterns -/

/-- How far a pattern has been read: the text left, the flags that are on, and the names in use. -/
structure Progress where
  text : List Char
  flags : Flags
  names : List (List Char)

/-- Reads alternatives up to the end of the text or the bracket that closes the group. The fuel has
to exceed the length of the text. -/
def readBranches : Nat → List Part → List Item → Progress → Except Error (Part × Progress)
  | 0, _, _, _ => .error .groupUnclosed
  | fuel + 1, branches, items, progress =>
    let flags := progress.flags
    let text := skip flags.spaced progress.text
    let counted := fun (least : Nat) (most : Option Nat) (rest : List Char) ↦ do
      let items ← repeatLast least most items
      readBranches fuel branches items { progress with text := dropLazy rest }
    match text with
    | [] => .ok ((Part.ofItems items).ofBranches branches, { progress with text })
    | ')' :: _ => .ok ((Part.ofItems items).ofBranches branches, { progress with text })
    | '|' :: rest =>
      readBranches fuel (.ofItems items :: branches) [] { progress with text := rest }
    | '?' :: rest => counted 0 (some 1) rest
    | '*' :: rest => counted 0 none rest
    | '+' :: rest => counted 1 none rest
    | '{' :: rest => do
      let ((least, most), rest) ← readCount flags.spaced rest
      counted least most (skip flags.spaced rest)
    | '[' :: rest => do
      let (bracket, rest) ← Bracket.read flags rest
      readBranches fuel branches (.part (.ofSet bracket) :: items) { progress with text := rest }
    | '(' :: rest => do
      match ← readGroup flags progress.names rest with
      | (.switches switched, rest) =>
        readBranches fuel branches (.switches :: items)
          { progress with text := rest, flags := switched }
      | (.group captures flags names, rest) =>
        let (inner, behind) ← readBranches fuel [] [] ⟨rest, flags, names⟩
        match behind.text with
        | ')' :: rest =>
          readBranches fuel branches (.part (inner.ofGroup captures) :: items)
            { progress with text := rest, names := behind.names }
        | _ => throw .groupUnclosed
    | text => do
      let (expression, rest) ← readSign flags text
      readBranches fuel branches (.part ⟨expression, 0⟩ :: items) { progress with text := rest }

/-- Reads a whole pattern. -/
def readPattern (pattern : String) : Except Error Part := do
  let text := pattern.toList
  let (part, progress) ← readBranches (text.length + 1) [] [] ⟨text, {}, []⟩
  if progress.text.isEmpty then return part else throw .groupUnopened

end FlowGraph.Regex
