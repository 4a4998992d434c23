import FlowGraph.Binary64

/-!
Decimal texts of binary64 numbers. Writing takes the fewest significant digits that read back
(`shortest`) and sets them by a `Layout`; reading scales a whole significand by a power of ten
(`ofScientific?`), which is out of range when the result would be infinite.
-/

set_option autoImplicit false
set_option relaxedAutoImplicit false

namespace FlowGraph

/-- A decimal number `digits * 10 ^ exponent`. -/
structure Decimal where
  digits : Nat
  exponent : Int
deriving DecidableEq

namespace Decimal

def numerator (d : Decimal) : Nat := d.digits * Nat.pow 10 d.exponent.toNat

def denominator (d : Decimal) : Nat := Nat.pow 10 (-d.exponent).toNat

/-- Drops trailing zeros; the fuel bounds the number of digits looked at. -/
def strip : Nat → Decimal → Decimal
  | 0, d => d
  | fuel + 1, d =>
    if d.digits ≠ 0 ∧ d.digits % 10 = 0 then strip fuel ⟨d.digits / 10, d.exponent + 1⟩ else d

end Decimal

namespace Binary64

def digitCount (n : Nat) : Nat := (Nat.toDigits 10 n).length

/-- The exponent of the leading decimal digit of a positive quotient. -/
def leadingExponent (numerator denominator : Nat) : Int :=
  if denominator ≤ numerator then Int.ofNat (digitCount (numerator / denominator)) - 1
  else
    let reciprocal := (denominator + numerator - 1) / numerator
    if reciprocal ≤ 1 then 0 else - Int.ofNat (digitCount (reciprocal - 1))

/-- The two decimals on the grid of step `10 ^ exponent` next to a number: not above and above. -/
def neighbours (x : Binary64) (exponent : Int) : Decimal × Decimal :=
  let numerator := x.units * Nat.pow 10 (-exponent).toNat
  let denominator := unitsPerOne * Nat.pow 10 exponent.toNat
  let lower := numerator / denominator
  (⟨lower, exponent⟩, ⟨lower + 1, exponent⟩)

def ofDecimal (negative : Bool) (d : Decimal) : Binary64 :=
  ofRatio negative d.numerator d.denominator

/-- Of the two neighbours on a grid that read back, the nearer one; a tie goes to the even one. -/
def nearestOnGrid (x : Binary64) (exponent : Int) : Option Decimal :=
  let (lower, upper) := x.neighbours exponent
  let readsBack := fun d ↦ ofDecimal x.isNegative d == x
  match readsBack lower, readsBack upper with
  | false, false => none
  | true, false => some lower
  | false, true => some upper
  | true, true =>
    let numerator := x.units * Nat.pow 10 (-exponent).toNat
    let denominator := unitsPerOne * Nat.pow 10 exponent.toNat
    some (if roundHalfEven numerator denominator = lower.digits then lower else upper)

/-- Tries `count` significant digits and then more; the fuel is how many more may be tried. -/
def shortestFrom (x : Binary64) (leading : Int) : Nat → Nat → Decimal
  | 0, count => (x.neighbours (leading + 1 - count)).1
  | fuel + 1, count =>
    match x.nearestOnGrid (leading + 1 - count) with
    | some d => d
    | none => shortestFrom x leading fuel (count + 1)

/-- The shortest decimal that reads back as the magnitude of a finite number other than zero.
Seventeen digits always suffice. -/
def shortest (x : Binary64) : Decimal :=
  (shortestFrom x (leadingExponent x.units unitsPerOne) 17 1).strip 20

/-- How a decimal is set: positionally while the exponent of its leading digit lies from `lowest`
to below `bound`, in scientific notation otherwise. -/
structure Layout where
  lowest : Int
  bound : Int
  exponentMark : String
  positiveSign : String
  negativeSign : String
deriving DecidableEq

def Layout.write (layout : Layout) (d : Decimal) : String :=
  let digits := Nat.toDigits 10 d.digits
  let point := d.exponent + Int.ofNat digits.length
  let leading := point - 1
  if layout.lowest ≤ leading ∧ leading < layout.bound then
    if point ≤ 0 then
      "0." ++ String.ofList (List.replicate (-point).toNat '0' ++ digits)
    else if Int.ofNat digits.length ≤ point then
      String.ofList (digits ++ List.replicate d.exponent.toNat '0') ++ ".0"
    else
      String.ofList (digits.take point.toNat) ++ "." ++ String.ofList (digits.drop point.toNat)
  else
    let fraction := digits.drop 1
    String.ofList (digits.take 1) ++
      (if fraction.isEmpty then "" else "." ++ String.ofList fraction)
      ++ layout.exponentMark ++ (if leading < 0 then layout.negativeSign else layout.positiveSign)
      ++ toString leading.natAbs

/-- The text of a finite number. A zero keeps its sign. -/
def write (layout : Layout) (x : Binary64) : String :=
  (if x.isNegative then "-" else "") ++ if x.isZero then "0.0" else layout.write x.shortest

/-- The power of ten as a binary64 number. -/
def powerOfTen (exponent : Nat) : Binary64 := ofNat (Nat.pow 10 exponent)

/-- Scales a magnitude by a power of ten, 308 places at a time: `none` when it grows out of range.
A magnitude that has come to zero stays zero. -/
def scaleByTen (x : Binary64) (exponent : Int) : Option Binary64 :=
  if exponent.natAbs ≤ 308 then
    if 0 ≤ exponent then
      let scaled := x.mul (powerOfTen exponent.natAbs)
      if scaled.isFinite then some scaled else none
    else some (x.div (powerOfTen exponent.natAbs))
  else if x.isZero then some x
  else if 0 ≤ exponent then none
  else scaleByTen (x.div (powerOfTen 308)) (exponent + 308)
termination_by exponent.natAbs
decreasing_by omega

/-- The number read from a significand and a power of ten. -/
def ofScientific? (negative : Bool) (significand : Nat) (exponent : Int) : Option Binary64 :=
  ((ofNat significand).scaleByTen exponent).map fun x ↦ if negative then x.neg else x

end Binary64

end FlowGraph
