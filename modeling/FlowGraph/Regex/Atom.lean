import FlowGraph.Hexadecimal
import FlowGraph.Regex.Expression
import FlowGraph.Regex.Flags
import FlowGraph.Regex.Spacing
import FlowGraph.Unicode.CaseFolding

/-!
The smallest parts of patterns: characters, and escapes for characters, for sets of characters and
for assertions.
-/

set_option autoImplicit false
set_option relaxedAutoImplicit false

namespace FlowGraph.Regex

open Unicode (CharSet)

inductive Atom where
  /-- A character; `byte` says that two hexadecimal digits stand for it. -/
  | char (c : Char) (byte : Bool)
  | chars (set : CharSet)
  | assertion (condition : Assertion)

namespace Atom

/-- The set with all cases of its characters, if case makes no difference. -/
def closeCase (flags : Flags) (set : CharSet) : CharSet :=
  if !flags.ignoreCase then set
  else if flags.unicode then Unicode.CaseFolding.close set
  else Unicode.CaseFolding.closeAscii set

/-- The set or its complement. Where characters are bytes the complement holds bytes that are no
characters. -/
def signed (flags : Flags) (negated : Bool) (set : CharSet) : Except Error CharSet :=
  if !negated then .ok set
  else if flags.unicode then .ok set.complement
  else .error .outsideText

/-- The character of a code point. -/
def charOf? (digits : List Char) : Option Char :=
  match Hexadecimal.value? digits with
  | some code => if code.isValidChar then some (Char.ofNat code) else none
  | none => none

/-- A number of hexadecimal digits. -/
def takeDigits (spaced : Bool) : Nat → List Char → Option (List Char × List Char)
  | 0, text => some ([], text)
  | count + 1, text =>
    match skip spaced text with
    | [] => none
    | c :: rest =>
      if (Hexadecimal.digit? c).isNone then none
      else (takeDigits spaced count rest).map fun (more, behind) ↦ (c :: more, behind)

/-- The content of braces behind the opening one. -/
def inBraces? (spaced : Bool) (text : List Char) : Option (List Char × List Char) :=
  match takeSpaced spaced (· ≠ '}') false text with
  | (content, _ :: behind) => some (content, behind)
  | (_, []) => none

/-- A character by its code point: a number of digits, or any number of them in braces. -/
def readCode (spaced : Bool) (count : Nat) (text : List Char) :
    Except Error (Atom × List Char) :=
  match skip spaced text with
  | '{' :: rest =>
    match inBraces? spaced rest with
    | some ([], _) => .error .escape
    | some (digits, behind) =>
      match charOf? digits with
      | some c => .ok (.char c false, behind)
      | none => .error .escape
    | none => .error .escape
  | text =>
    match takeDigits spaced count text with
    | some (digits, behind) =>
      match charOf? digits with
      | some c => .ok (.char c (count = 2), behind)
      | none => .error .escape
    | none => .error .escape

/-- The text before a sign and the text behind it. -/
def splitAt? (sign : List Char) : List Char → Option (List Char × List Char)
  | [] => none
  | c :: rest =>
    if sign.isPrefixOf (c :: rest) then some ([], (c :: rest).drop sign.length)
    else (splitAt? sign rest).map fun (before, behind) ↦ (c :: before, behind)

/-- The set that a property has, or a property and its value. -/
def propertySet? (content : List Char) : Option CharSet :=
  match (splitAt? ['!', '='] content).or ((splitAt? [':'] content).or (splitAt? ['='] content)) with
  | some (property, value) => Unicode.valued? (.ofList property) (.ofList value)
  | none => Unicode.named? (.ofList content)

/-- The name of a property: one letter, or a name in braces. -/
def readProperty (flags : Flags) (negated : Bool) (text : List Char) :
    Except Error (Atom × List Char) := do
  let (content, behind) ← match skip flags.spaced text with
    | [] => throw .escape
    | '{' :: rest =>
      match inBraces? flags.spaced rest with
      | some found => pure found
      | none => throw .escape
    | c :: rest => if c = '\\' then throw .escape else pure ([c], rest)
  if !flags.unicode then throw .outsideText
  match propertySet? content with
  | some set => return (.chars (← signed flags negated (closeCase flags set)), behind)
  | none => throw .propertyUnknown

def edges : List (String × WordEdge) :=
  [("start", .wordStart), ("end", .wordEnd), ("start-half", .noneBefore),
    ("end-half", .noneBehind)]

def isEdgeLetter (c : Char) : Bool := c.isAlpha || c = '-'

/-- An edge of a word, which may be named in braces. Braces that begin otherwise are left: they tell
a number of repetitions. -/
def readEdge (flags : Flags) (text : List Char) : Except Error (Atom × List Char) :=
  match text with
  | '{' :: rest =>
    match takeSpaced flags.spaced isEdgeLetter false rest with
    | ([], []) => .error .escape
    | ([], _) => .ok (.assertion (.word .boundary flags.unicode), text)
    | (name, '}' :: behind) =>
      match edges.find? fun edge ↦ edge.1.toList = name with
      | some (_, edge) => .ok (.assertion (.word edge flags.unicode), behind)
      | none => .error .escape
    | _ => .error .escape
  | _ => .ok (.assertion (.word .boundary flags.unicode), text)

/-- The letters that stand for a character which has no sign. -/
def control? (letter : Char) : Option Char :=
  if letter = 'a' then some '\x07'
  else if letter = 'f' then some '\x0c'
  else if letter = 't' then some '\t'
  else if letter = 'n' then some '\n'
  else if letter = 'r' then some '\r'
  else if letter = 'v' then some '\x0b'
  else none

/-- Whether a character stands for itself behind a backslash: an ASCII one that is no letter, digit
or angle bracket. -/
def isEscapable (c : Char) : Bool :=
  c.val < 0x80 && !c.isAlphanum && c != '<' && c != '>'

/-- The letter of a set of characters, a small one for the set and a capital for its complement. -/
def shorthand? (unicode : Bool) (letter : Char) : Option (CharSet × Bool) :=
  if letter = 'd' ∨ letter = 'D' then some (Chars.digit unicode, letter = 'D')
  else if letter = 's' ∨ letter = 'S' then some (Chars.blank unicode, letter = 'S')
  else if letter = 'w' ∨ letter = 'W' then some (Chars.word unicode, letter = 'W')
  else none

/-- The number of hexadecimal digits behind a letter. -/
def codeLength? (letter : Char) : Option Nat :=
  if letter = 'x' then some 2
  else if letter = 'u' then some 4
  else if letter = 'U' then some 8
  else none

def edge? (letter : Char) : Option WordEdge :=
  if letter = 'B' then some .noBoundary
  else if letter = '<' then some .wordStart
  else if letter = '>' then some .wordEnd
  else none

/-- Reads what stands behind a backslash. -/
def readEscape (flags : Flags) : List Char → Except Error (Atom × List Char)
  | [] => .error .escape
  | letter :: rest =>
    if isEscapable letter then .ok (.char letter false, rest)
    else if letter = 'b' then readEdge flags rest
    else if letter = 'A' then .ok (.assertion .textStart, rest)
    else if letter = 'z' then .ok (.assertion .textEnd, rest)
    else if letter = 'p' ∨ letter = 'P' then readProperty flags (letter = 'P') rest
    else
      match codeLength? letter, shorthand? flags.unicode letter, control? letter, edge? letter with
      | some count, _, _, _ => readCode flags.spaced count rest
      | _, some (set, negated), _, _ =>
        (signed flags negated set).map fun set ↦ (.chars set, rest)
      | _, _, some c, _ => .ok (.char c false, rest)
      | _, _, _, some edge => .ok (.assertion (.word edge flags.unicode), rest)
      | _, _, _, _ => .error .escape

/-- Reads a character that stands for itself, or an escape. -/
def read (flags : Flags) : List Char → Except Error (Atom × List Char)
  | [] => .error .escape
  | c :: rest => if c = '\\' then readEscape flags rest else .ok (.char c false, rest)

end Atom

end FlowGraph.Regex
