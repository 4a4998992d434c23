import FlowGraph.Json.Printer
import FlowGraph.Json.Token
import FlowGraph.Proofs.NodeId
import Mathlib.Data.List.TakeDrop

/-!
Tokens are read back from what is printed. A string is printed character by character, and each is
read as one piece that stands for it (`pieces_escapeChar_append`). An integer is printed as its
digits, which make up the same significand again where it is one of 64 bits.
-/

set_option autoImplicit false
set_option relaxedAutoImplicit false

namespace FlowGraph.Json

/-! ### Strings -/

/-- The characters that have a short escape. -/
def shortEscaped : List Char := ['"', '\\', '\x08', '\t', '\n', '\x0c', '\r']

/-- The piece that a printed character is read as: a control character without a short escape is
given by its code. -/
def pieceOf (c : Char) : Piece :=
  if c.toNat < 0x20 ∧ c ∉ shortEscaped then .unit c.toNat else .char c

theorem escapeChar_of_mem {c : Char} (h : c ∈ shortEscaped) :
    ∃ letter, escapeChar c = ['\\', letter] ∧ letter ≠ 'u' ∧ escaped? letter = some c := by
  simp only [shortEscaped, List.mem_cons, List.not_mem_nil, or_false] at h
  rcases h with rfl | rfl | rfl | rfl | rfl | rfl | rfl <;> exact ⟨_, rfl, by decide, rfl⟩

theorem escapeChar_of_notMem {c : Char} (h : c ∉ shortEscaped) :
    escapeChar c =
      if c.toNat < 0x20 then ['\\', 'u', '0', '0', hexDigit (c.toNat / 16), hexDigit c.toNat]
      else [c] := by
  simp only [shortEscaped, List.mem_cons, List.not_mem_nil, or_false, not_or] at h
  obtain ⟨hquote, hbackslash, hb, ht, hn, hf, hr⟩ := h
  unfold escapeChar
  rw [if_neg hquote, if_neg hbackslash, if_neg hb, if_neg ht, if_neg hn, if_neg hf, if_neg hr]

theorem value?_escapeDigits {n : Nat} (h : n < 0x20) :
    Hexadecimal.value? ['0', '0', hexDigit (n / 16), hexDigit n] = some n := by
  have hhigh : n / 16 % 16 < 16 := Nat.mod_lt _ (by omega)
  have hlow : n % 16 < 16 := Nat.mod_lt _ (by omega)
  have hzero : Hexadecimal.digit? '0' = some 0 := by decide
  unfold hexDigit
  simp only [Hexadecimal.value?, Hexadecimal.continue?, hzero, Hexadecimal.digit?_digitChar hhigh,
    Hexadecimal.digit?_digitChar hlow, Option.bind_some, Option.some.injEq]
  omega

theorem pieces_quote (rest : List Char) : pieces ('"' :: rest) = ([], .ok rest) := by
  rw [pieces.eq_def]
  simp

/-- Whatever character is printed, it is read as the one piece that stands for it. -/
theorem pieces_escapeChar_append (c : Char) (rest : List Char) :
    pieces (escapeChar c ++ rest) = (pieceOf c :: (pieces rest).1, (pieces rest).2) := by
  unfold pieceOf
  by_cases hshort : c ∈ shortEscaped
  · obtain ⟨letter, hescape, hletter, hmeant⟩ := escapeChar_of_mem hshort
    rw [if_neg fun h ↦ h.2 hshort, hescape, List.cons_append, pieces.eq_def]
    simp [hletter, hmeant]
  · rw [escapeChar_of_notMem hshort]
    by_cases hcontrol : c.toNat < 0x20
    · rw [if_pos hcontrol, if_pos ⟨hcontrol, hshort⟩, pieces.eq_def]
      simp [value?_escapeDigits hcontrol]
    · have hquote : c ≠ '"' := fun heq ↦ hshort (by simp [heq, shortEscaped])
      have hbackslash : c ≠ '\\' := fun heq ↦ hshort (by simp [heq, shortEscaped])
      rw [if_neg hcontrol, if_neg fun h ↦ hcontrol h.1, List.singleton_append, pieces.eq_def]
      simp [hquote, hbackslash, hcontrol]

theorem pieces_flatMap_append (chars rest : List Char) :
    pieces (chars.flatMap escapeChar ++ '"' :: rest) = (chars.map pieceOf, .ok rest) := by
  induction chars with
  | nil => exact pieces_quote rest
  | cons c more ih =>
    rw [List.flatMap_cons, List.append_assoc, pieces_escapeChar_append, ih]
    rfl

/-- A unit below the surrogates is the character of its code. -/
theorem joinPieces_unit {n : Nat} (h : n < 0xD800) (ending : Except Fault Unit)
    (rest : List Piece) :
    joinPieces ending (.unit n :: rest) = (joinPieces ending rest).map (Char.ofNat n :: ·) := by
  have htrailing : isTrailing n = false := by
    rw [isTrailing, Bool.and_eq_false_iff, decide_eq_false_iff_not]
    omega
  have hleading : isLeading n = false := by
    rw [isLeading, Bool.and_eq_false_iff, decide_eq_false_iff_not]
    omega
  rw [joinPieces.eq_def]
  simp [htrailing, hleading]

theorem joinPieces_map (chars : List Char) :
    joinPieces (.ok ()) (chars.map pieceOf) = .ok chars := by
  induction chars with
  | nil => rfl
  | cons c rest ih =>
    rw [List.map_cons, pieceOf]
    split
    · next h =>
      rw [joinPieces_unit (by omega), ih, Char.ofNat_toNat]
      rfl
    · rw [joinPieces, ih]
      rfl

/-- A string literal is read back. -/
theorem readString_flatMap_append (s : String) (rest : List Char) :
    readString (s.toList.flatMap escapeChar ++ '"' :: rest) = (⟨.ok s, .ok ()⟩, some rest) := by
  unfold readString
  rw [pieces_flatMap_append]
  show (Token.mk ((joinPieces (.ok ()) (s.toList.map pieceOf)).map String.ofList) (.ok ()),
    some rest) = _
  rw [joinPieces_map]
  show (Token.mk (.ok (String.ofList s.toList)) (.ok ()), some rest) = _
  rw [String.ofList_toList]

/-! ### Numbers -/

/-- What may follow a value: the end of the text, a comma or a closing bracket. -/
def Closes (rest : List Char) : Prop := ∀ c ∈ rest.head?, c = ',' ∨ c = ']' ∨ c = '\x7d'

theorem closes_nil : Closes [] := by
  simp [Closes]

theorem closes_cons {c : Char} (h : c = ',' ∨ c = ']' ∨ c = '\x7d') (rest : List Char) :
    Closes (c :: rest) := by
  simpa [Closes] using h

theorem digitsOf_append {digits rest : List Char} (hdigits : ∀ c ∈ digits, c.isDigit = true)
    (closes : Closes rest) : digitsOf (digits ++ rest) = (digits, rest) := by
  have hrest : rest.takeWhile Char.isDigit = [] ∧ rest.dropWhile Char.isDigit = rest := by
    cases rest with
    | nil => exact ⟨rfl, rfl⟩
    | cons c more =>
      have hc : c.isDigit = false := by
        rcases closes c rfl with rfl | rfl | rfl <;> decide
      simp [hc]
  rw [digitsOf, List.span_eq_takeWhile_dropWhile, List.takeWhile_append_of_pos hdigits,
    List.dropWhile_append_of_pos hdigits, hrest.1, hrest.2, List.append_nil]

theorem le_ofDigitChars (significand : Nat) (digits : List Char) :
    significand ≤ Nat.ofDigitChars 10 digits significand := by
  induction digits generalizing significand with
  | nil => exact Nat.le_refl significand
  | cons c rest ih =>
    rw [Nat.ofDigitChars_cons]
    have hle := ih (10 * significand + (c.toNat - '0'.toNat))
    omega

/-- Digits of a number below 2⁶⁴ are all taken into the significand. -/
theorem appendDigits_of_lt {significand : Nat} {digits : List Char}
    (h : Nat.ofDigitChars 10 digits significand < 1 <<< 64) :
    appendDigits significand digits = (Nat.ofDigitChars 10 digits significand, 0) := by
  induction digits generalizing significand with
  | nil => rfl
  | cons c rest ih =>
    have happended : significand * 10 + digitValue c =
        10 * significand + (c.toNat - '0'.toNat) := by
      rw [Nat.mul_comm]
      rfl
    rw [Nat.ofDigitChars_cons] at h ⊢
    rw [appendDigits, happended, if_pos (Nat.lt_of_le_of_lt (le_ofDigitChars _ rest) h)]
    exact ih h

/-- Only zero is printed with a zero in front. -/
theorem eq_zero_of_head?_toDigits {n : Nat} (h : (Nat.toDigits 10 n).head? = some '0') :
    n = 0 := by
  induction n using Nat.strongRecOn with
  | ind n ih =>
    by_cases hn : n < 10
    · have hall : ∀ n < 10, (Nat.toDigits 10 n).head? = some '0' → n = 0 := by decide
      exact hall n hn h
    · rw [Nat.toDigits_of_base_le (by omega) (by omega)] at h
      cases hdigits : Nat.toDigits 10 (n / 10) with
      | nil => exact absurd hdigits Nat.toDigits_ne_nil
      | cons c rest =>
        rw [hdigits, List.cons_append, List.head?_cons] at h
        have hzero := ih (n / 10) (by omega) (by rw [hdigits, List.head?_cons, h])
        omega

/-- The digits of a number are read up to what follows them. -/
theorem readNumber_toDigits_append (negative : Bool) (n : Nat) {rest : List Char}
    (closes : Closes rest) :
    readNumber negative (Nat.toDigits 10 n ++ rest) =
      finishNumber ⟨negative, Nat.toDigits 10 n, [], none⟩ rest := by
  have hdigits : ∀ c ∈ Nat.toDigits 10 n, c.isDigit = true :=
    fun c hc ↦ Nat.isDigit_of_mem_toDigits (by omega) (by omega) hc
  have hleading : ¬ ((Nat.toDigits 10 n).head? = some '0' ∧
      1 < (Nat.toDigits 10 n).length) := by
    rintro ⟨hzero, hlength⟩
    rw [eq_zero_of_head?_toDigits hzero] at hlength
    exact absurd hlength (by decide)
  unfold readNumber
  rw [digitsOf_append hdigits closes]
  dsimp only
  rw [if_neg (by simp [Nat.toDigits_ne_nil]), if_neg hleading]
  cases rest with
  | nil => rfl
  | cons c more => rcases closes c rfl with rfl | rfl | rfl <;> rfl

/-- An integer of 64 bits is read back from its text, its sign apart. -/
theorem readNumber_natAbs {n : Int} (hleast : Number.leastInteger ≤ n)
    (hgreatest : n ≤ Number.greatestInteger) {rest : List Char} (closes : Closes rest) :
    readNumber (n < 0) (Nat.toDigits 10 n.natAbs ++ rest) =
      (⟨.ok (.integer n), .ok ()⟩, some rest) := by
  have hleast : -0x8000000000000000 ≤ n := hleast
  have hgreatest : n ≤ 0xffffffffffffffff := hgreatest
  have hvalue : Nat.ofDigitChars 10 (Nat.toDigits 10 n.natAbs) 0 = n.natAbs :=
    Nat.ofDigitChars_toDigits (by omega) (by omega)
  have hsignificand : appendDigits 0 (Nat.toDigits 10 n.natAbs) = (n.natAbs, 0) := by
    rw [appendDigits_of_lt (by rw [hvalue]; omega), hvalue]
  have hnumber : (NumberParts.mk (n < 0) (Nat.toDigits 10 n.natAbs) [] none).number? =
      some (.integer n) := by
    unfold NumberParts.number?
    rw [hsignificand]
    dsimp only
    rw [if_pos ⟨rfl, rfl, rfl⟩]
    by_cases hn : n < 0
    · have hrange : ¬ (n.natAbs = 0 ∨ 1 <<< 63 < n.natAbs) := by omega
      have habs : -Int.ofNat n.natAbs = n := by
        show -(n.natAbs : Int) = n
        omega
      rw [if_pos (decide_eq_true hn), if_neg hrange, habs]
    · have habs : Int.ofNat n.natAbs = n := by
        show (n.natAbs : Int) = n
        omega
      rw [if_neg (by simpa using hn), habs]
  rw [readNumber_toDigits_append _ _ closes, finishNumber, hnumber]

end FlowGraph.Json
