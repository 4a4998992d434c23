import FlowGraph.Encoding.Box
import FlowGraph.Proofs.Box

/-!
What boxes hold and how it is found. Every way to a box, checked or not, ends in a payload that holds
a value of the kind, and every such payload can be boxed. So a box of the right kind never fails to
be read, and the four ways of looking up a named box hit and miss together (`lookups_agree`).
-/

set_option autoImplicit false
set_option relaxedAutoImplicit false

namespace FlowGraph

namespace Kind

/-- The payload holds the value of this kind. A number is held in either representation and read as
a floating-point number. -/
inductive Holds : (kind : Kind) → kind.Carrier → Json → Prop where
  | string (text : String) : Holds .string text (.string text)
  | boolean (b : Bool) : Holds .boolean b (.bool b)
  | number (number : Number) : Holds .number number.toBinary64 (.number number)
  | json (document : Json) : Holds .json document document

variable {kind : Kind} {payload : Json}

theorem read?_eq_some_iff {value : kind.Carrier} :
    kind.read? payload = some value ↔ kind.Holds value payload := by
  constructor
  · intro h
    unfold read? at h
    split at h
    · rw [← Option.some.inj h]
      exact .string _
    · rw [← Option.some.inj h]
      exact .boolean _
    · rw [← Option.some.inj h]
      exact .number _
    · rw [← Option.some.inj h]
      exact .json _
    · cases h
  · intro h
    cases h <;> rfl

end Kind

namespace Box

/-- A box that comes of a finite use of the constructors, of giving boxes another payload, and of
reading them from a text or a document. -/
inductive Obtainable : Box → Prop where
  | create {kind : Kind} {payload : Json} {box : Box} (h : Box.create kind payload = .ok box) :
      Obtainable box
  | string (text : String) : Obtainable (.string text)
  | boolean (b : Bool) : Obtainable (.boolean b)
  | number {x : Binary64} {box : Box} (h : Box.number x = .ok box) : Obtainable box
  | integer (n : Int) : Obtainable (.integer n)
  | json (document : Json) : Obtainable (.json document)
  | withPayload {box other : Box} {payload : Json} (obtainable : Obtainable box)
      (h : box.withPayload payload = .ok other) : Obtainable other
  | read {source : Json.Source} {outline : Json.Outline} {box : Box}
      (h : Box.read source outline = .ok box) : Obtainable box

/-- What can be boxed under a kind is just what the kind admits. -/
theorem exists_obtainable_iff {kind : Kind} {payload : Json} :
    (∃ box : Box, box.Obtainable ∧ box.kind = kind ∧ box.payload = payload) ↔
      kind.admits payload = true := by
  constructor
  · rintro ⟨box, -, rfl, rfl⟩
    exact box.fits
  · intro h
    have hcreate : Box.create kind payload = .ok ⟨kind, payload, h⟩ := dif_pos h
    exact ⟨_, .create hcreate, rfl, rfl⟩

/-- A box is read as a kind when this is its kind, and then as the value that it holds. -/
theorem get?_eq_some_iff {kind : Kind} {box : Box} {value : kind.Carrier} :
    box.get? kind = some value ↔ box.kind = kind ∧ kind.Holds value box.payload := by
  unfold get?
  split
  · next hkind => rw [Kind.read?_eq_some_iff, and_iff_right hkind]
  · next hkind => simp [hkind]

/-- A box of a kind holds a value of it. -/
theorem exists_holds (box : Box) : ∃ value, box.kind.Holds value box.payload := by
  have hread : (box.kind.read? box.payload).isSome = true := by
    rw [Kind.isSome_read?, box.fits]
  obtain ⟨value, hvalue⟩ := Option.isSome_iff_exists.mp hread
  exact ⟨value, Kind.read?_eq_some_iff.mp hvalue⟩

end Box

namespace Boxes

variable {boxes : Boxes} {kind : Kind} {name : String}

/-- What the four ways of looking up a name for a kind come to. They hit when a box stands under the
name that has this very kind, and then give its payload and the value that the payload holds; the
two that have to succeed tell why they miss. -/
structure LooksUpAlike (boxes : Boxes) (kind : Kind) (name : String) : Prop where
  lookup_hits : (∃ payload, boxes.lookup name kind = some payload) ↔
    (boxes.get? name).map Box.kind = some kind
  value?_hits : (∃ value, boxes.value? kind name = some value) ↔
    (boxes.get? name).map Box.kind = some kind
  require_hits : (∃ value, boxes.require kind name = .ok value) ↔
    (boxes.get? name).map Box.kind = some kind
  setting_hits : (∃ value, boxes.setting kind name = .ok value) ↔
    (boxes.get? name).map Box.kind = some kind
  hit : ∀ box, boxes.get? name = some box → box.kind = kind →
    boxes.lookup name kind = some box.payload ∧
      ∃ value, kind.Holds value box.payload ∧ boxes.value? kind name = some value ∧
        boxes.require kind name = .ok value ∧ boxes.setting kind name = .ok value
  require_misses : ∀ error, boxes.require kind name = .error error → error = .missingInput name
  setting_absent : boxes.get? name = none →
    boxes.setting kind name = .error (.unknownSetting name)
  setting_unfit : ∀ box, boxes.get? name = some box → box.kind ≠ kind →
    boxes.setting kind name = .error (.typeMismatch kind box.kind.name)

theorem lookup_eq_some_iff {payload : Json} :
    boxes.lookup name kind = some payload ↔
      ∃ box, boxes.get? name = some box ∧ box.kind = kind ∧ box.payload = payload := by
  simp [lookup, Option.filter_eq_some_iff, and_assoc]

theorem value?_eq_some_iff {value : kind.Carrier} :
    boxes.value? kind name = some value ↔
      ∃ box, boxes.get? name = some box ∧ box.kind = kind ∧ kind.Holds value box.payload := by
  simp [value?, Option.bind_eq_some_iff, Box.get?_eq_some_iff]

theorem exists_lookup_eq_some_iff :
    (∃ payload, boxes.lookup name kind = some payload) ↔
      (boxes.get? name).map Box.kind = some kind := by
  rw [Option.map_eq_some_iff]
  constructor
  · rintro ⟨payload, hlookup⟩
    obtain ⟨box, hget, hkind, -⟩ := lookup_eq_some_iff.mp hlookup
    exact ⟨box, hget, hkind⟩
  · rintro ⟨box, hget, hkind⟩
    exact ⟨box.payload, lookup_eq_some_iff.mpr ⟨box, hget, hkind, rfl⟩⟩

theorem require_eq_error_iff {error : GraphError} :
    boxes.require kind name = .error error ↔
      boxes.value? kind name = none ∧ error = .missingInput name := by
  unfold require
  cases boxes.value? kind name <;> simp [eq_comm]

/-- A setting of another kind is refused with both kinds. -/
theorem setting_of_kind_ne {box : Box} (hget : boxes.get? name = some box)
    (hkind : box.kind ≠ kind) :
    boxes.setting kind name = .error (.typeMismatch kind box.kind.name) := by
  simp [setting, hget, Box.get?, hkind]

/-- Payloads always fit their kinds, and so all look-ups agree. The boxes that can be obtained are
those whose payload the kind admits, and under every name the ways of looking up a box find the same
one, by its kind and never by what its payload looks like. -/
theorem lookups_agree :
    (∀ kind payload, (∃ box : Box, box.Obtainable ∧ box.kind = kind ∧ box.payload = payload) ↔
      kind.admits payload = true) ∧
    ∀ (boxes : Boxes) (kind : Kind) (name : String), boxes.LooksUpAlike kind name := by
  refine ⟨fun kind payload ↦ Box.exists_obtainable_iff, fun boxes kind name ↦ ?_⟩
  refine ⟨exists_lookup_eq_some_iff, exists_value?_eq_some_iff, ?_, ?_, fun box hget hkind ↦ ?_,
    fun error h ↦ (require_eq_error_iff.mp h).2, fun hnone ↦ ?_, fun box ↦ setting_of_kind_ne⟩
  · simp only [require_eq_ok_iff, exists_value?_eq_some_iff]
  · simp only [setting_eq_ok_iff, exists_value?_eq_some_iff]
  · subst hkind
    obtain ⟨value, hholds⟩ := box.exists_holds
    have hvalue := value?_eq_some_iff.mpr ⟨box, hget, rfl, hholds⟩
    exact ⟨lookup_eq_some_iff.mpr ⟨box, hget, rfl, rfl⟩, value, hholds, hvalue,
      require_eq_ok_iff.mpr hvalue, setting_eq_ok_iff.mpr hvalue⟩
  · rw [setting, hnone]

/-- A text is not found as a document, although every payload is one. -/
example : lookup (.ofList [("text", .string "a")]) "text" .json = none := rfl

end Boxes

end FlowGraph
