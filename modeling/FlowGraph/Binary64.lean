/-!
Floating-point numbers of 64 bits, computed exactly. A finite number is a whole count of units of
2⁻¹⁰⁷⁴ together with a sign, so every operation here is arithmetic of natural numbers followed by
one rounding, `ofRatio`: to the nearest representable number, a tie to the even one.
-/

set_option autoImplicit false
set_option relaxedAutoImplicit false

namespace FlowGraph

/-- A binary64 number, given by its bits. -/
structure Binary64 where
  bits : UInt64
deriving DecidableEq, Inhabited

namespace Binary64

/-- The quotient rounded to the nearest natural number, a half to the even one. -/
def roundHalfEven (numerator denominator : Nat) : Nat :=
  let quotient := numerator / denominator
  let twice := 2 * (numerator % denominator)
  if twice < denominator then quotient
  else if denominator < twice then quotient + 1
  else quotient + quotient % 2

def isNegative (x : Binary64) : Bool := x.bits.toNat >>> 63 == 1

/-- The bits without the sign. They order the magnitudes. -/
def magnitudeBits (x : Binary64) : Nat := x.bits.toNat % (1 <<< 63)

def exponentField (x : Binary64) : Nat := x.magnitudeBits >>> 52

def fractionField (x : Binary64) : Nat := x.magnitudeBits % (1 <<< 52)

/-- Every exponent but the largest; the largest is for the infinities and what is no number. -/
def isFinite (x : Binary64) : Bool := x.exponentField < 2047

/-- The unit in which every finite magnitude is whole, as its reciprocal. -/
def unitsPerOne : Nat := 1 <<< 1074

/-- The magnitude of a finite number, counted in units of 2⁻¹⁰⁷⁴. -/
def units (x : Binary64) : Nat :=
  if x.exponentField = 0 then x.fractionField
  else ((1 <<< 52) + x.fractionField) <<< (x.exponentField - 1)

def ofMagnitudeBits (negative : Bool) (magnitude : Nat) : Binary64 :=
  ⟨UInt64.ofNat (magnitude + if negative then 1 <<< 63 else 0)⟩

def infinity (negative : Bool) : Binary64 := ofMagnitudeBits negative (2047 <<< 52)

/-- The number nearest to a quotient, a tie going to the even one. The quotient is cut to 53 bits:
in units it is `rounded <<< shift`, and the bits of such a number are `(shift <<< 52) + rounded`
because a carry out of the fraction is a step of the exponent. -/
def ofRatio (negative : Bool) (numerator denominator : Nat) : Binary64 :=
  let scaled := numerator * unitsPerOne
  let shift := (scaled / denominator).log2 - 52
  let rounded := roundHalfEven scaled (denominator <<< shift)
  let magnitude := (shift <<< 52) + rounded
  if magnitude < 2047 <<< 52 then ofMagnitudeBits negative magnitude else infinity negative

def zero : Binary64 := ⟨0⟩

def ofNat (n : Nat) : Binary64 := ofRatio false n 1

def ofInt (n : Int) : Binary64 := ofRatio (n < 0) n.natAbs 1

def neg (x : Binary64) : Binary64 := ofMagnitudeBits (!x.isNegative) x.magnitudeBits

def isZero (x : Binary64) : Bool := x.magnitudeBits == 0

/-- The product of two finite numbers. -/
def mul (x y : Binary64) : Binary64 :=
  ofRatio (x.isNegative != y.isNegative) (x.units * y.units) (unitsPerOne * unitsPerOne)

/-- The quotient of two finite numbers, the second not zero. -/
def div (x y : Binary64) : Binary64 :=
  ofRatio (x.isNegative != y.isNegative) x.units y.units

/-- Equality of values: the two zeros are one value. -/
def sameValue (x y : Binary64) : Bool := x == y || (x.isZero && y.isZero)

/-- The whole part of a finite number, negative numbers counting as zero. -/
def wholePart (x : Binary64) : Nat := if x.isNegative then 0 else x.units / unitsPerOne

end Binary64

end FlowGraph
