import FlowGraph.Hexadecimal

/-!
Sets of characters, given by ranges of code points. The ranges of a set ascend, do not touch, and
hold no surrogates, so a set has one list of ranges.
-/

set_option autoImplicit false
set_option relaxedAutoImplicit false

namespace FlowGraph.Unicode

/-- A range of code points, both ends included. -/
structure Range where
  first : Nat
  last : Nat
deriving DecidableEq

structure CharSet where
  ranges : List Range
deriving DecidableEq

namespace CharSet

def greatest : Nat := 0x10FFFF

def empty : CharSet := ⟨[]⟩

def isEmpty (set : CharSet) : Bool := set.ranges.isEmpty

def containsCode (set : CharSet) (code : Nat) : Bool :=
  set.ranges.any fun range ↦ range.first ≤ code && code ≤ range.last

def contains (set : CharSet) (c : Char) : Bool := set.containsCode c.toNat

/-- Joins ranges that overlap or touch. The ranges ascend by their first code points. -/
def absorb (range : Range) : List Range → List Range
  | [] => [range]
  | next :: rest =>
    if next.first ≤ range.last + 1 then absorb ⟨range.first, max range.last next.last⟩ rest
    else range :: absorb next rest

def coalesce : List Range → List Range
  | [] => []
  | range :: rest => absorb range rest

/-- Cuts the surrogates out of a range. -/
def withoutSurrogates (range : Range) : List Range :=
  [⟨range.first, min range.last 0xD7FF⟩, ⟨max range.first 0xE000, range.last⟩].filter fun part ↦
    part.first ≤ part.last

/-- The set of ranges in any order. -/
def ofRanges (ranges : List Range) : CharSet :=
  ⟨coalesce ((ranges.flatMap withoutSurrogates).mergeSort fun one other ↦ one.first ≤ other.first)⟩

def ofRange (first last : Nat) : CharSet := ofRanges [⟨first, last⟩]

def singleton (c : Char) : CharSet := ofRange c.toNat c.toNat

/-- The gaps between ascending ranges from a code point on. -/
def gaps (start : Nat) : List Range → List Range
  | [] => if start ≤ greatest then [⟨start, greatest⟩] else []
  | range :: rest =>
    if start < range.first then ⟨start, range.first - 1⟩ :: gaps (range.last + 1) rest
    else gaps (range.last + 1) rest

def complement (set : CharSet) : CharSet := ofRanges (gaps 0 set.ranges)

def full : CharSet := empty.complement

def ascii : CharSet := ofRange 0 0x7F

def union (one other : CharSet) : CharSet := ofRanges (one.ranges ++ other.ranges)

def unionAll (sets : List CharSet) : CharSet := ofRanges (sets.flatMap ranges)

def inter (one other : CharSet) : CharSet := (one.complement.union other.complement).complement

def diff (one other : CharSet) : CharSet := (one.complement.union other).complement

def symmDiff (one other : CharSet) : CharSet := (one.union other).diff (one.inter other)

/-- The code points from one to another in steps. -/
def stepped (first last step : Nat) : List Range :=
  (List.range ((last - first) / step + 1)).map fun k ↦ ⟨first + k * step, first + k * step⟩

/-- A code point of a table, in hexadecimal digits. -/
def readCode (digits : String) : Nat := (Hexadecimal.value? digits.toList).getD 0

/-- Reads `first`, `first-last` or `first-last/step`. -/
def readRange (word : String) : List Range :=
  match word.splitOn "/" with
  | [bounds] =>
    match bounds.splitOn "-" with
    | [only] => [⟨readCode only, readCode only⟩]
    | [first, last] => [⟨readCode first, readCode last⟩]
    | _ => []
  | [bounds, step] =>
    match bounds.splitOn "-" with
    | [first, last] => stepped (readCode first) (readCode last) (step.toNat?.getD 1)
    | _ => []
  | _ => []

/-- The entries of a table, which stand between spaces and on several lines. -/
def entries (table : String) : List String :=
  ((table.splitOn "\n").flatMap fun line ↦ line.splitOn " ").filter fun entry ↦ !entry.isEmpty

/-- The set of a table of ranges. -/
def ofTable (table : String) : CharSet := ofRanges ((entries table).flatMap readRange)

end CharSet

end FlowGraph.Unicode
