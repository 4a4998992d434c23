import FlowGraph.Unicode.Lookup

/-!
Regular expressions as trees, apart from the way they are written. Flags do not occur here: what
they change has been settled in the sets and the assertions.
-/

set_option autoImplicit false
set_option relaxedAutoImplicit false

namespace FlowGraph.Regex

open Unicode (CharSet)

/-- Conditions on the characters of words next to a position. -/
inductive WordEdge where
  | boundary
  | noBoundary
  | wordStart
  | wordEnd
  | noneBefore
  | noneBehind
deriving DecidableEq

/-- Conditions on a position in a text. Lines end at line feeds; `returns` says that carriage
returns end them too, and that no line ends between the two. -/
inductive Assertion where
  | textStart
  | textEnd
  | lineStart (returns : Bool)
  | lineEnd (returns : Bool)
  | word (edge : WordEdge) (unicode : Bool)
deriving DecidableEq

inductive Expression where
  | empty
  | chars (set : CharSet)
  | assertion (condition : Assertion)
  | group (body : Expression)
  | seq (first second : Expression)
  | either (first second : Expression)
  | repeated (least : Nat) (most : Option Nat) (body : Expression)
deriving DecidableEq

/-! ### Sets with a sign of their own -/

namespace Chars

open Unicode

def asciiDigit : CharSet := .ofRange 0x30 0x39

def asciiLower : CharSet := .ofRange 0x61 0x7A

def asciiUpper : CharSet := .ofRange 0x41 0x5A

def asciiLetter : CharSet := asciiLower.union asciiUpper

def asciiBlank : CharSet := .ofRanges [⟨0x09, 0x0D⟩, ⟨0x20, 0x20⟩]

/-- The characters of words: the ASCII ones are letters, digits and the underscore. -/
def word (unicode : Bool) : CharSet :=
  if unicode then wordChars.get
  else .unionAll [asciiLetter, asciiDigit, .singleton '_']

def digit (unicode : Bool) : CharSet :=
  if unicode then GeneralCategory.decimalNumber.get else asciiDigit

def blank (unicode : Bool) : CharSet :=
  if unicode then Property.whiteSpace.get else asciiBlank

end Chars

end FlowGraph.Regex
