import FlowGraph.Json
import Mathlib.Algebra.Order.Floor.Ring
import Mathlib.Data.Rat.Floor
import Mathlib.Tactic.Positivity
import Mathlib.Tactic.Ring

/-!
The rational number that a number of a document stands for, and what is left of it where a count is
wanted. Rounding an integer to a floating-point number changes nothing below 2⁵³, and from there on
does not come down below 2⁵³. So a number that is read as a floating-point number, with its whole
part limited to some bound below, is the number itself truncated and limited
(`min_wholePart_toBinary64`).
-/

set_option autoImplicit false
set_option relaxedAutoImplicit false

namespace FlowGraph

namespace Binary64

variable {negative : Bool} {shift rounded : Nat}

/-! ### Encoding -/

theorem isNegative_ofMagnitudeBits {magnitude : Nat} (h : magnitude < 1 <<< 63) :
    (ofMagnitudeBits negative magnitude).isNegative = negative := by
  have hbound : magnitude < 2 ^ 63 := by rwa [Nat.one_shiftLeft] at h
  cases negative <;>
    simp only [isNegative, ofMagnitudeBits, UInt64.toNat_ofNat', Nat.shiftRight_eq_div_pow,
      Nat.one_shiftLeft, if_true, if_false, Bool.false_eq_true, beq_eq_false_iff_ne, beq_iff_eq] <;>
    omega

theorem magnitudeBits_ofMagnitudeBits {magnitude : Nat} (h : magnitude < 1 <<< 63) :
    (ofMagnitudeBits negative magnitude).magnitudeBits = magnitude := by
  have hbound : magnitude < 2 ^ 63 := by rwa [Nat.one_shiftLeft] at h
  cases negative <;>
    simp only [magnitudeBits, ofMagnitudeBits, UInt64.toNat_ofNat', Nat.one_shiftLeft, if_true,
      if_false, Bool.false_eq_true] <;>
    omega

/-- Bits made of a shift and 53 rounded bits stand for those bits, shifted. A carry out of them is
part of the exponent. -/
theorem units_ofMagnitudeBits (hlow : 2 ^ 52 ≤ rounded) (hhigh : rounded ≤ 2 ^ 53)
    (hmagnitude : (shift <<< 52) + rounded < 1 <<< 63) :
    (ofMagnitudeBits negative ((shift <<< 52) + rounded)).units = rounded <<< shift := by
  rw [units, exponentField, fractionField, magnitudeBits_ofMagnitudeBits hmagnitude,
    Nat.shiftRight_eq_div_pow, Nat.one_shiftLeft, Nat.shiftLeft_eq, Nat.shiftLeft_eq,
    Nat.shiftLeft_eq]
  rcases hhigh.lt_or_eq with hlt | rfl
  · have hexponent : (shift * 2 ^ 52 + rounded) / 2 ^ 52 = shift + 1 := by omega
    have hfraction : 2 ^ 52 + (shift * 2 ^ 52 + rounded) % 2 ^ 52 = rounded := by omega
    rw [hexponent, hfraction, if_neg (Nat.succ_ne_zero shift), Nat.add_sub_cancel]
  · have hexponent : (shift * 2 ^ 52 + 2 ^ 53) / 2 ^ 52 = shift + 2 := by omega
    have hfraction : 2 ^ 52 + (shift * 2 ^ 52 + 2 ^ 53) % 2 ^ 52 = 2 ^ 52 := by omega
    rw [hexponent, hfraction, if_neg (Nat.succ_ne_zero (shift + 1))]
    simp only [Nat.reduceSubDiff, pow_succ]
    ring

theorem infinity_eq : infinity negative = ofMagnitudeBits negative ((2046 <<< 52) + 2 ^ 52) := rfl

/-! ### Rounding -/

theorem roundHalfEven_bounds (numerator denominator : Nat) :
    numerator / denominator ≤ roundHalfEven numerator denominator ∧
      roundHalfEven numerator denominator ≤ numerator / denominator + 1 := by
  simp only [roundHalfEven]
  split_ifs <;> omega

/-- A quotient without a remainder is not rounded. -/
theorem roundHalfEven_mul {denominator : Nat} (h : 0 < denominator) (quotient : Nat) :
    roundHalfEven (quotient * denominator) denominator = quotient := by
  simp [roundHalfEven, h]

theorem log2_mul_two_pow {n : Nat} (hn : n ≠ 0) (e : Nat) : (n * 2 ^ e).log2 = n.log2 + e := by
  rw [Nat.log2_eq_iff (by positivity)]
  refine ⟨?_, ?_⟩
  · rw [pow_add]
    exact Nat.mul_le_mul_right _ (Nat.log2_self_le hn)
  · rw [add_right_comm, pow_add]
    exact Nat.mul_lt_mul_of_pos_right Nat.lt_log2_self (by positivity)

/-- An integer with its first bit brought to the place of 2⁵² is rounded to 53 bits, or to a carry
out of them. -/
theorem roundHalfEven_bits {n : Nat} (hn : n ≠ 0) (e : Nat) :
    2 ^ 52 ≤ roundHalfEven (n * 2 ^ (e + 52)) (2 ^ (n.log2 + e)) ∧
      roundHalfEven (n * 2 ^ (e + 52)) (2 ^ (n.log2 + e)) ≤ 2 ^ 53 := by
  have hquotient : n * 2 ^ (e + 52) / 2 ^ (n.log2 + e) = n * 2 ^ 52 / 2 ^ n.log2 := by
    rw [pow_add, pow_add, mul_comm (2 ^ e), ← mul_assoc]
    exact Nat.mul_div_mul_right _ _ (by positivity)
  have hlow : 2 ^ 52 ≤ n * 2 ^ 52 / 2 ^ n.log2 := by
    rw [Nat.le_div_iff_mul_le (by positivity), mul_comm]
    exact Nat.mul_le_mul_right _ (Nat.log2_self_le hn)
  have hhigh : n * 2 ^ 52 / 2 ^ n.log2 < 2 ^ 53 := by
    have hbound : n < 2 ^ n.log2 * 2 := (pow_succ 2 n.log2).symm ▸ Nat.lt_log2_self
    rw [Nat.div_lt_iff_lt_mul (by positivity)]
    omega
  have hbounds := roundHalfEven_bounds (n * 2 ^ (e + 52)) (2 ^ (n.log2 + e))
  rw [hquotient] at hbounds
  omega

/-- No bit of an integer below 2⁵³ is rounded away. -/
theorem roundHalfEven_bits_shiftLeft {n : Nat} (hn : n ≠ 0) (h : n < 2 ^ 53) (e : Nat) :
    roundHalfEven (n * 2 ^ (e + 52)) (2 ^ (n.log2 + e)) <<< (n.log2 + e) =
      n * 2 ^ (e + 52) := by
  have hlog : n.log2 < 53 := (Nat.log2_lt hn).mpr h
  have hexact : n * 2 ^ (e + 52) = n * 2 ^ (52 - n.log2) * 2 ^ (n.log2 + e) := by
    rw [mul_assoc, ← pow_add]
    congr 2
    omega
  rw [Nat.shiftLeft_eq, hexact, roundHalfEven_mul (by positivity)]

/-- The exponent stays a variable, so that its power is not computed. -/
theorem exists_unitsPerOne_eq : ∃ e, e + 52 = 1074 ∧ unitsPerOne = 2 ^ (e + 52) := by
  obtain ⟨e, he⟩ : ∃ e, e + 52 = 1074 := ⟨1022, rfl⟩
  exact ⟨e, he, by rw [unitsPerOne, ← he, Nat.one_shiftLeft]⟩

theorem unitsPerOne_pos : 0 < unitsPerOne := by
  obtain ⟨e, -, hunits⟩ := exists_unitsPerOne_eq
  exact hunits ▸ Nat.two_pow_pos (e + 52)

/-- What comes of rounding a positive integer: 53 bits of it and their shift. -/
structure Encodes (n shift rounded : Nat) : Prop where
  low : 2 ^ 52 ≤ rounded
  high : rounded ≤ 2 ^ 53
  magnitude : (shift <<< 52) + rounded < 1 <<< 63
  exact : n < 2 ^ 53 → rounded <<< shift = n * unitsPerOne
  large : 2 ^ 53 ≤ n → 1075 ≤ shift

theorem exists_encodes (negative : Bool) {n : Nat} (hn : n ≠ 0) :
    ∃ shift rounded, Encodes n shift rounded ∧
      ofRatio negative n 1 = ofMagnitudeBits negative ((shift <<< 52) + rounded) := by
  obtain ⟨e, he, hunits⟩ := exists_unitsPerOne_eq
  have hshift : (n * unitsPerOne / 1).log2 - 52 = n.log2 + e := by
    rw [Nat.div_one, hunits, log2_mul_two_pow hn, ← add_assoc, Nat.add_sub_cancel]
  have hrounded : roundHalfEven (n * unitsPerOne) (1 <<< (n.log2 + e)) =
      roundHalfEven (n * 2 ^ (e + 52)) (2 ^ (n.log2 + e)) := by
    rw [hunits, Nat.one_shiftLeft]
  obtain ⟨hlow, hhigh⟩ := roundHalfEven_bits hn e
  simp only [ofRatio, hshift, hrounded]
  split
  · next hfinite =>
    refine ⟨n.log2 + e, _, ⟨hlow, hhigh, hfinite.trans (by decide), fun h ↦ ?_, fun h ↦ ?_⟩, rfl⟩
    · rw [hunits]
      exact roundHalfEven_bits_shiftLeft hn h e
    · have hlarge : 53 ≤ n.log2 := (Nat.le_log2 hn).mpr h
      omega
  · next hinfinite =>
    refine ⟨2046, 2 ^ 52, ⟨le_rfl, by decide, by decide, fun h ↦ ?_, fun _ ↦ by decide⟩,
      infinity_eq⟩
    have hsmall : n.log2 < 53 := (Nat.log2_lt hn).mpr h
    rw [Nat.shiftLeft_eq, Nat.shiftLeft_eq] at hinfinite
    omega

/-- An integer below 2⁵³ is its own whole part as a floating-point number. -/
theorem wholePart_ofRatio_of_lt {n : Nat} (h : n < 2 ^ 53) : (ofRatio false n 1).wholePart = n := by
  rcases eq_or_ne n 0 with rfl | hn
  · simp [ofRatio, roundHalfEven, ofMagnitudeBits, wholePart, isNegative, units, exponentField,
      fractionField, magnitudeBits]
  obtain ⟨shift, rounded, encodes, heq⟩ := exists_encodes false hn
  rw [wholePart, heq, isNegative_ofMagnitudeBits encodes.magnitude,
    units_ofMagnitudeBits encodes.low encodes.high encodes.magnitude, encodes.exact h,
    if_neg Bool.false_ne_true]
  exact Nat.mul_div_cancel n unitsPerOne_pos

/-- An integer from 2⁵³ on is rounded to nothing below 2⁵³. -/
theorem le_wholePart_ofRatio {n : Nat} (h : 2 ^ 53 ≤ n) :
    2 ^ 53 ≤ (ofRatio false n 1).wholePart := by
  obtain ⟨e, he, hunits⟩ := exists_unitsPerOne_eq
  have hn : n ≠ 0 := by omega
  obtain ⟨shift, rounded, encodes, heq⟩ := exists_encodes false hn
  have hshift : e + 53 ≤ shift := by
    have := encodes.large h
    omega
  rw [wholePart, heq, isNegative_ofMagnitudeBits encodes.magnitude,
    units_ofMagnitudeBits encodes.low encodes.high encodes.magnitude, if_neg Bool.false_ne_true,
    Nat.le_div_iff_mul_le unitsPerOne_pos, hunits, Nat.shiftLeft_eq]
  calc 2 ^ 53 * 2 ^ (e + 52) = 2 ^ 52 * 2 ^ (e + 53) := by ring
    _ ≤ rounded * 2 ^ shift :=
      Nat.mul_le_mul encodes.low (Nat.pow_le_pow_right Nat.two_pos hshift)

/-- What is rounded from below zero counts as zero. -/
theorem wholePart_ofRatio_negative (n : Nat) : (ofRatio true n 1).wholePart = 0 := by
  have hnegative : (ofRatio true n 1).isNegative = true := by
    simp only [ofRatio]
    split
    · next hfinite => exact isNegative_ofMagnitudeBits (hfinite.trans (by decide))
    · exact isNegative_ofMagnitudeBits (by decide)
  rw [wholePart, hnegative, if_pos rfl]

/-- The rational number that a finite floating-point number is. -/
def value (x : Binary64) : ℚ :=
  if x.isNegative then -(x.units / unitsPerOne : ℚ) else x.units / unitsPerOne

end Binary64

/-- A rational number truncated toward zero. -/
def truncated (q : ℚ) : ℤ := if 0 ≤ q then ⌊q⌋ else ⌈q⌉

theorem truncated_intCast (n : ℤ) : truncated n = n := by
  rw [truncated, Int.floor_intCast, Int.ceil_intCast, ite_self]

theorem truncated_nonpos {q : ℚ} (h : q ≤ 0) : truncated q ≤ 0 := by
  rw [truncated]
  split_ifs with hq
  · exact Int.floor_nonpos h
  · exact Int.ceil_nonpos.mpr h

namespace Number

/-- The rational number that a number of a document is. -/
def value : Number → ℚ
  | .integer n => n
  | .float x => x.value

/-- A number that is read as a floating-point number, for a count up to some limit, is the number
truncated toward zero and limited. -/
theorem min_wholePart_toBinary64 (number : Number) {limit : Nat} (hlimit : limit ≤ 2 ^ 53) :
    (min number.toBinary64.wholePart limit : ℤ) = max 0 (min (truncated number.value) limit) := by
  cases number with
  | integer n =>
    rw [value, truncated_intCast, toBinary64, Binary64.ofInt]
    rcases lt_or_ge n 0 with hneg | hnonneg
    · rw [decide_eq_true hneg, Binary64.wholePart_ofRatio_negative]
      omega
    · rw [decide_eq_false hnonneg.not_gt]
      rcases Nat.lt_or_ge n.natAbs (2 ^ 53) with hsmall | hlarge
      · rw [Binary64.wholePart_ofRatio_of_lt hsmall]
        omega
      · have := Binary64.le_wholePart_ofRatio hlarge
        omega
  | float x =>
    rw [value, toBinary64, Binary64.value, Binary64.wholePart]
    have hnonneg : 0 ≤ (x.units / Binary64.unitsPerOne : ℚ) := by positivity
    split_ifs
    · have := truncated_nonpos (neg_nonpos.mpr hnonneg)
      omega
    · rw [truncated, if_pos hnonneg, Rat.floor_natCast_div_natCast, ← Int.natCast_div]
      generalize x.units / Binary64.unitsPerOne = whole
      omega

end Number

end FlowGraph
