import FlowGraph.Box

/-!
Reading named boxes. A box is read as a value of a kind exactly when it has that kind, and what is
required of inputs or settings is the value under the name.
-/

set_option autoImplicit false
set_option relaxedAutoImplicit false

namespace FlowGraph

/-- The box of a number of either representation. -/
def Box.ofNumber (number : Number) : Box := ⟨.number, .number number, rfl⟩

namespace Boxes

variable {boxes : Boxes} {kind : Kind} {name : String}

theorem exists_value?_eq_some_iff :
    (∃ value, boxes.value? kind name = some value) ↔
      (boxes.get? name).map Box.kind = some kind := by
  rw [value?, ← Option.isSome_iff_exists]
  cases boxes.get? name with
  | none => simp
  | some box => simp [Box.isSome_get?]

theorem require_eq_ok_iff {value : kind.Carrier} :
    boxes.require kind name = .ok value ↔ boxes.value? kind name = some value := by
  unfold require
  cases boxes.value? kind name <;> simp

theorem setting_eq_ok_iff {value : kind.Carrier} :
    boxes.setting kind name = .ok value ↔ boxes.value? kind name = some value := by
  unfold setting value?
  cases boxes.get? name with
  | none => simp
  | some box => cases hvalue : box.get? kind <;> simp [hvalue]

theorem value?_of_ofNumber {number : Number} (h : boxes.get? name = some (.ofNumber number)) :
    boxes.value? .number name = some number.toBinary64 := by
  rw [value?, h]
  rfl

/-- A text is read just where a box of a text stands. -/
theorem value?_string_eq_some_iff {text : String} :
    boxes.value? .string name = some text ↔ boxes.get? name = some (.string text) := by
  rw [value?, Option.bind_eq_some_iff]
  constructor
  · rintro ⟨⟨kind, payload, fits⟩, hget, htext⟩
    rw [Box.get?] at htext
    split at htext
    · next hkind =>
      obtain rfl : kind = .string := hkind
      cases payload <;> simp_all [Kind.read?, Box.string]
    · cases htext
  · intro h
    exact ⟨_, h, rfl⟩

end Boxes

end FlowGraph
