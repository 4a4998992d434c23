import FlowGraph.NodeId

/-!
Identifiers are read back from their text (`parse?_text`), so no two of them have one text.
-/

set_option autoImplicit false
set_option relaxedAutoImplicit false

namespace FlowGraph

namespace Hexadecimal

theorem digit?_digitChar {digit : Nat} (h : digit < 16) : digit? digit.digitChar = some digit := by
  have hall : ∀ digit < 16, digit? digit.digitChar = some digit := by decide
  exact hall digit h

theorem continue?_append (value : Nat) (first second : List Char) :
    continue? value (first ++ second) =
      (continue? value first).bind fun read ↦ continue? read second := by
  induction first generalizing value with
  | nil => rfl
  | cons c rest ih =>
    rw [List.cons_append, continue?, continue?]
    cases digit? c with
    | none => rfl
    | some digit => exact ih (16 * value + digit)

theorem value?_toDigits (n : Nat) : value? (Nat.toDigits 16 n) = some n := by
  induction n using Nat.strongRecOn with
  | ind n ih =>
    by_cases hn : n < 16
    · rw [Nat.toDigits_of_lt_base hn, value?, continue?, digit?_digitChar hn]
      simp [continue?]
    · have hlt : n / 16 < n := Nat.div_lt_self (by omega) (by omega)
      have hdigit : n % 16 < 16 := Nat.mod_lt n (by omega)
      rw [Nat.toDigits_of_base_le (by omega) (by omega), value?, continue?_append]
      have hrest := ih (n / 16) hlt
      rw [value?] at hrest
      rw [hrest, Option.bind_some, continue?, digit?_digitChar hdigit, Option.bind_some, continue?,
        Nat.div_add_mod]

/-- Zeros in front of a number do not change it. -/
theorem value?_replicate_append (zeros : Nat) (digits : List Char) :
    value? (List.replicate zeros '0' ++ digits) = value? digits := by
  induction zeros with
  | zero => rfl
  | succ zeros ih =>
    rw [List.replicate_succ, List.cons_append, value?, continue?]
    exact ih

end Hexadecimal

namespace NodeId

theorem length_digits (node : NodeId) : node.digits.length = 32 := by
  have hlength : (Nat.toDigits 16 node.value).length ≤ 32 :=
    (Nat.length_toDigits_le_iff (by omega) (by omega)).mpr node.value_lt
  rw [digits, List.length_append, List.length_replicate]
  omega

theorem ofNat_value (node : NodeId) : ofNat node.value = node :=
  eq_of_value_eq (Nat.mod_eq_of_lt node.value_lt)

theorem ofDigits?_digits (node : NodeId) : ofDigits? node.digits = some node := by
  rw [ofDigits?, if_pos node.length_digits, digits, Hexadecimal.value?_replicate_append,
    Hexadecimal.value?_toDigits, Option.map_some, ofNat_value]

theorem length_hyphenate {digits : List Char} (h : digits.length = 32) :
    (hyphenate digits).length = 36 := by
  simp [hyphenate, h]

/-- The five groups of the hyphenated form make up the digits. -/
theorem groups_hyphenate {digits : List Char} (h : digits.length = 32) :
    (hyphenate digits).take 8 ++ ((hyphenate digits).drop 9).take 4 ++
      ((hyphenate digits).drop 14).take 4 ++ ((hyphenate digits).drop 19).take 4 ++
      (hyphenate digits).drop 24 = digits := by
  have hgroup : ∀ place, digits.drop place =
      (digits.drop place).take 4 ++ digits.drop (place + 4) := by
    intro place
    rw [← List.drop_drop, List.take_append_drop]
  calc _ = digits.take 8 ++ ((digits.drop 8).take 4 ++ ((digits.drop 12).take 4 ++
        ((digits.drop 16).take 4 ++ digits.drop 20))) := by
        simp [hyphenate, List.drop_append, List.drop_take, h]
    _ = digits := by
      rw [← hgroup 16, ← hgroup 12, ← hgroup 8, List.take_append_drop]

theorem parse?_text (node : NodeId) : parse? node.text = some node := by
  have hlength := length_hyphenate node.length_digits
  rw [parse?, text, String.toList_ofList, ofChars?, hlength, if_neg (by decide), if_pos rfl,
    ofHyphenated?]
  simp only [groups_hyphenate node.length_digits, if_true]
  exact ofDigits?_digits node

theorem text_inj {first second : NodeId} : first.text = second.text ↔ first = second := by
  constructor
  · intro h
    have hparse := congrArg parse? h
    rwa [parse?_text, parse?_text, Option.some.injEq] at hparse
  · rintro rfl
    rfl

end NodeId

end FlowGraph
