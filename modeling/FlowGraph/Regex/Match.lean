import FlowGraph.Regex.Expression

/-!
Matching by sets of positions. `ends` gives the positions at which a match can end that begins at
one of some positions; each construct of an expression acts on these sets, so no match is tried
twice. Positions lie between characters, and run from zero to the length of the text.
-/

set_option autoImplicit false
set_option relaxedAutoImplicit false

namespace FlowGraph.Regex

/-! ### Assertions -/

/-- The character that ends at a position. -/
def before? (text : Array Char) : Nat → Option Char
  | 0 => none
  | position + 1 => text[position]?

/-- The character that begins at a position. -/
def behind? (text : Array Char) (position : Nat) : Option Char := text[position]?

namespace WordEdge

/-- Whether an edge lies between two characters, given whether each is one of words. -/
def holds (left right : Bool) : WordEdge → Bool
  | .boundary => left != right
  | .noBoundary => left == right
  | .wordStart => !left && right
  | .wordEnd => left && !right
  | .noneBefore => !left
  | .noneBehind => !right

end WordEdge

namespace Assertion

def holds (text : Array Char) (position : Nat) : Assertion → Bool
  | .textStart => position == 0
  | .textEnd => position == text.size
  | .lineStart false => (before? text position).all (· == '\n')
  | .lineStart true =>
    (before? text position).all fun c ↦
      c == '\n' || c == '\r' && behind? text position != some '\n'
  | .lineEnd false => (behind? text position).all (· == '\n')
  | .lineEnd true =>
    (behind? text position).all fun c ↦
      c == '\r' || c == '\n' && before? text position != some '\r'
  | .word edge unicode =>
    edge.holds ((before? text position).any (Chars.word unicode).contains)
      ((behind? text position).any (Chars.word unicode).contains)

end Assertion

/-! ### Sets of positions, ascending -/

/-- The positions of two sets. -/
def merge : List Nat → List Nat → List Nat
  | [], second => second
  | first, [] => first
  | i :: first, j :: second =>
    if i < j then i :: merge first (j :: second)
    else if j < i then j :: merge (i :: first) second
    else i :: merge first second
termination_by first second => first.length + second.length

/-- Takes a step a number of times. -/
def rounds (step : List Nat → List Nat) : Nat → List Nat → List Nat
  | 0, positions => positions
  | count + 1, positions =>
    let next := step positions
    if next = positions then positions else rounds step count next

/-- The positions reached by at most a number of steps from the newest of those reached already. -/
def reach (step : List Nat → List Nat) : Nat → List Nat → List Nat → List Nat
  | 0, reached, _ => reached
  | count + 1, reached, newest =>
    let fresh := (step newest).filter fun position ↦ !reached.contains position
    if fresh.isEmpty then reached else reach step count (merge reached fresh) fresh

namespace Expression

/-- The positions at which a match that begins at one of some positions can end. Without a greatest
number of rounds, as many are enough as there are positions. -/
def ends (text : Array Char) : Expression → List Nat → List Nat
  | .empty, starts => starts
  | .chars set, starts =>
    (starts.filter fun position ↦ (behind? text position).any set.contains).map (· + 1)
  | .assertion condition, starts => starts.filter fun position ↦ condition.holds text position
  | .group body, starts => ends text body starts
  | .seq first second, starts => ends text second (ends text first starts)
  | .either first second, starts => merge (ends text first starts) (ends text second starts)
  | .repeated least most body, starts =>
    let entered := rounds (ends text body) least starts
    let further := match most with
      | some most => most - least
      | none => text.size + 1
    reach (ends text body) further entered entered

/-- Whether some part of a text matches. -/
def matchesIn (expression : Expression) (text : Array Char) : Bool :=
  !(expression.ends text (List.range (text.size + 1))).isEmpty

end Expression

end FlowGraph.Regex
