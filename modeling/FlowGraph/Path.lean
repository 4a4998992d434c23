import FlowGraph.Json

/-!
Paths into documents. A path is a text of field names and of indices in brackets; dots separate
steps, and a dot too many means nothing. Following a path descends step by step and comes to nothing
as soon as a step does not apply.
-/

set_option autoImplicit false
set_option relaxedAutoImplicit false

namespace FlowGraph

/-- One step down. -/
inductive Step where
  | field (name : String)
  | index (i : Nat)
deriving DecidableEq

namespace Step

def apply : Step → Json → Option Json
  | .field name, document => document.field? name
  | .index i, document => document.item? i

end Step

namespace Path

/-- Descends by each step in turn. -/
def descend : List Step → Json → Option Json
  | [], document => some document
  | step :: rest, document => (step.apply document).bind (descend rest)

/-- The index in brackets: decimal digits, perhaps behind a plus sign, of a 64-bit number. -/
def index? (chars : List Char) : Option Nat :=
  let digits :=
    match chars with
    | '+' :: rest => rest
    | _ => chars
  if digits.isEmpty ∨ !digits.all Char.isDigit then none
  else
    let n := digits.foldl (fun n c ↦ 10 * n + (c.toNat - '0'.toNat)) 0
    if n < 1 <<< 64 then some n else none

/-- Drops one dot in front. -/
def dropDot : List Char → List Char
  | '.' :: rest => rest
  | chars => chars

theorem length_dropDot_le (chars : List Char) : (dropDot chars).length ≤ chars.length := by
  unfold dropDot
  split <;> simp

/-- Whether a character ends a field name. -/
def endsField (c : Char) : Bool := c == '.' || c == '['

/-- The steps of a path, `none` if a bracket is not closed or holds no index. -/
def steps? (path : List Char) : Option (List Step) :=
  match path with
  | [] => some []
  | c :: rest =>
    if c = '[' then
      match _hdropped : rest.dropWhile (· ≠ ']') with
      | [] => none
      | _ :: behind => do
        let i ← index? (rest.takeWhile (· ≠ ']'))
        return .index i :: (← steps? (dropDot behind))
    else if c = '.' then steps? rest
    else do
      let name := (c :: rest).takeWhile fun c ↦ !endsField c
      let behind := rest.dropWhile fun c ↦ !endsField c
      return .field (String.ofList name) :: (← steps? (dropDot behind))
termination_by path.length
decreasing_by
  · have hdot := length_dropDot_le behind
    have hdrop := (List.dropWhile_suffix (l := rest) (· ≠ ']')).length_le
    rw [_hdropped] at hdrop
    simp only [List.length_cons] at hdrop ⊢
    omega
  · simp
  · have hdot := length_dropDot_le (rest.dropWhile fun c ↦ !endsField c)
    have hdrop := (List.dropWhile_suffix (l := rest) fun c ↦ !endsField c).length_le
    simp only [List.length_cons]
    omega

/-- Follows a path from a document. -/
def extract? (document : Json) (path : String) : Option Json :=
  (steps? path.toList).bind fun steps ↦ descend steps document

end Path

end FlowGraph
