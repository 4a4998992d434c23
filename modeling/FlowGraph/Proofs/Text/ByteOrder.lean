import Mathlib.Data.String.Basic

/-!
The order of texts. Texts are compared character by character; in UTF-8 a greater character has
greater bytes, and no character begins like another one, so the order is that of the bytes
(`bytes_lt_of_lt`).
-/

set_option autoImplicit false
set_option relaxedAutoImplicit false

namespace FlowGraph.Text

/-- The bytes of a text in UTF-8. -/
def bytes (text : String) : List UInt8 := text.toUTF8.data.toList

theorem bytes_eq (text : String) : bytes text = text.toList.flatMap String.utf8EncodeChar := by
  have htext : text.toUTF8 = text.toList.utf8Encode := by
    rw [String.toUTF8_eq_toByteArray, ← String.toByteArray_ofList, String.ofList_toList]
  rw [bytes, htext, List.utf8Encode, List.toList_data_toByteArray]

theorem ofNat_lt_iff {first second : Nat} (hfirst : first < 256) (hsecond : second < 256) :
    UInt8.ofNat first < UInt8.ofNat second ↔ first < second := by
  rw [UInt8.lt_iff_toNat_lt, UInt8.toNat_ofNat_of_lt' hfirst, UInt8.toNat_ofNat_of_lt' hsecond]

theorem ofNat_inj {first second : Nat} (hfirst : first < 256) (hsecond : second < 256) :
    UInt8.ofNat first = UInt8.ofNat second ↔ first = second := by
  rw [← UInt8.toNat_inj, UInt8.toNat_ofNat_of_lt' hfirst, UInt8.toNat_ofNat_of_lt' hsecond]

theorem toNat_val_lt (c : Char) : c.val.toNat < 0x110000 := by
  rcases c.valid with h | h
  · exact Nat.lt_trans h (by decide)
  · exact h.2

/-- The bytes of a greater character are greater, whatever follows. -/
theorem utf8EncodeChar_append_lt {first second : Char} (h : first < second)
    (rest more : List UInt8) :
    String.utf8EncodeChar first ++ rest < String.utf8EncodeChar second ++ more := by
  have hlt : first.val.toNat < second.val.toNat := h
  have hsecond := toNat_val_lt second
  -- the bytes hold six bits each, so they are compared as digits to the base 64
  have hdigits (n : Nat) : n / 4096 = n / 64 / 64 ∧ n / 262144 = n / 64 / 64 / 64 := by omega
  unfold String.utf8EncodeChar
  simp only [hdigits]
  generalize first.val.toNat = m at hlt
  generalize second.val.toNat = n at hlt hsecond
  split_ifs <;>
    simp (disch := omega) only [List.cons_append, List.nil_append, List.cons_lt_cons_iff,
      ofNat_lt_iff, ofNat_inj] <;>
    omega

theorem flatMap_utf8EncodeChar_lt {first second : List Char} (h : first < second) :
    first.flatMap String.utf8EncodeChar < second.flatMap String.utf8EncodeChar := by
  induction first generalizing second with
  | nil =>
    cases second with
    | nil => exact absurd h (List.not_lt_nil [])
    | cons c more =>
      cases hc : String.utf8EncodeChar c with
      | nil => exact absurd hc String.utf8EncodeChar_ne_nil
      | cons byte bytes =>
        rw [List.flatMap_nil, List.flatMap_cons, hc]
        exact List.nil_lt_cons _ _
  | cons c rest ih =>
    cases second with
    | nil => exact absurd h (List.not_lt_nil _)
    | cons d more =>
      rw [List.flatMap_cons, List.flatMap_cons]
      rcases List.cons_lt_cons_iff.mp h with hlt | ⟨rfl, hrest⟩
      · exact utf8EncodeChar_append_lt hlt _ _
      · exact List.append_left_lt (ih hrest)

/-- A text that comes before another one has lesser bytes. -/
theorem bytes_lt_of_lt {first second : String} (h : first < second) :
    bytes first < bytes second := by
  rw [bytes_eq, bytes_eq]
  exact flatMap_utf8EncodeChar_lt (String.lt_iff_toList_lt.mp h)

end FlowGraph.Text
