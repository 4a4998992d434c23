import FlowGraph.Encoding.Box
import FlowGraph.Proofs.Mismatch

/-!
What is said against the text of a box. A mismatch of kinds is told only where a payload has been
read that does not fit its kind, and then it names two different ones; every other error has a
wording of its own, which tells of no mismatch.
-/

set_option autoImplicit false
set_option relaxedAutoImplicit false

namespace FlowGraph

namespace GraphError

theorem message_typeMismatch (expected : Kind) (found : String) :
    (typeMismatch expected found).message =
      "Type mismatch: expected " ++ expected.name ++ ", found " ++ found := rfl

/-- No name of a kind has a comma, so what stands before the first one tells the kind. -/
theorem name_append_comma_inj {expected other : Kind} {rest more : List Char}
    (h : expected.name.toList ++ ',' :: rest = other.name.toList ++ ',' :: more) :
    expected = other ∧ rest = more := by
  cases expected <;> cases other <;> simp [Kind.name] at h ⊢ <;> exact h

/-- The message of a mismatch tells what was expected and what was found. -/
theorem typeMismatch_of_message_eq {expected other : Kind} {found text : String}
    (h : (typeMismatch expected found).message = (typeMismatch other text).message) :
    expected = other ∧ found = text := by
  rw [message_typeMismatch, message_typeMismatch, ← String.toList_inj] at h
  simp only [String.toList_append, List.append_assoc, List.append_cancel_left_eq] at h
  have hcomma : expected.name.toList ++ ',' :: (" found ".toList ++ found.toList) =
      other.name.toList ++ ',' :: (" found ".toList ++ text.toList) := by simpa using h
  obtain ⟨hkind, hrest⟩ := name_append_comma_inj hcomma
  exact ⟨hkind, String.toList_inj.mp (List.append_cancel_left hrest)⟩

end GraphError

namespace Json

namespace ReadError

/-- The mismatch of kinds that the error of a reader tells of, if any, is one. -/
def Contrasts (error : ReadError) : Prop :=
  ∀ expected found, error = .mismatch (some (GraphError.typeMismatch expected found).message) →
    found ≠ expected.name

theorem contrasts_malformed : malformed.Contrasts := by
  intro expected found h
  cases h

theorem contrasts_truncated : truncated.Contrasts := by
  intro expected found h
  cases h

theorem contrasts_unfit : unfit.Contrasts := by
  intro expected found h
  cases h

theorem contrasts_toReadError (fault : Fault) : fault.toReadError.Contrasts := by
  cases fault
  · exact contrasts_malformed
  · exact contrasts_truncated

/-- A wording that begins with another letter tells of no mismatch. -/
theorem contrasts_of_head {reason : String} (h : reason.toList.head? ≠ some 'T') :
    (mismatch (some reason)).Contrasts := by
  intro expected found heq
  have hreason : reason = (GraphError.typeMismatch expected found).message := by
    simpa only [mismatch.injEq, Option.some.injEq] using heq
  rw [hreason, GraphError.message_typeMismatch] at h
  simp at h

theorem contrasts_missingField (name : String) : (missingField name).Contrasts :=
  contrasts_of_head (by simp)

theorem contrasts_duplicateField (name : String) : (duplicateField name).Contrasts :=
  contrasts_of_head (by simp)

theorem contrasts_unknownVariant (found : String) (expected : List String) :
    (unknownVariant found expected).Contrasts :=
  contrasts_of_head (by simp)

/-- The message of a mismatch tells of that mismatch only. -/
theorem contrasts_of_message {expected : Kind} {found : String} (h : found ≠ expected.name) :
    (mismatch (some (GraphError.typeMismatch expected found).message)).Contrasts := by
  intro other text heq
  have hmessage : (GraphError.typeMismatch expected found).message =
      (GraphError.typeMismatch other text).message := by
    simpa only [mismatch.injEq, Option.some.injEq] using heq
  obtain ⟨rfl, rfl⟩ := GraphError.typeMismatch_of_message_eq hmessage
  exact h

end ReadError

theorem raisesOnly_orFault {α : Type} (result : Except Fault α) :
    RaisesOnly ReadError.Contrasts (orFault result) := by
  cases result with
  | ok value => exact raisesOnly_ok value
  | error fault => exact raisesOnly_error_iff.mpr (ReadError.contrasts_toReadError fault)

theorem raisesOnly_readEnding (ending : Option Fault) :
    RaisesOnly ReadError.Contrasts (readEnding ending) := by
  cases ending with
  | none => exact raisesOnly_ok ()
  | some fault => exact raisesOnly_error_iff.mpr (ReadError.contrasts_toReadError fault)

theorem contrasts_misfit (outline : Outline) : (misfit outline).Contrasts := by
  unfold misfit
  split <;> try split
  all_goals first
    | exact ReadError.contrasts_unfit
    | exact ReadError.contrasts_truncated
    | exact ReadError.contrasts_toReadError _

theorem contrasts_keyMisfit (fault : Fault) (value : Outline) :
    (keyMisfit fault value).Contrasts := by
  unfold keyMisfit
  split
  · exact ReadError.contrasts_truncated
  · exact ReadError.contrasts_toReadError _
  · exact contrasts_misfit _

theorem Source.raisesOnly_enter (source : Source) :
    RaisesOnly ReadError.Contrasts source.enter := by
  unfold Source.enter
  split
  · exact raisesOnly_ok source
  · exact raisesOnly_error_iff.mpr ReadError.contrasts_malformed
  · exact raisesOnly_ok _

theorem Source.surplus_of_enter {source inner : Source} (h : source.enter = .ok inner) :
    inner.surplus = source.surplus := by
  unfold Source.enter at h
  split at h
  · cases h
    rfl
  · cases h
  · cases h
    rfl

theorem raisesOnly_chooseVariant {α : Type} (variants : List (String × α)) (name : String) :
    RaisesOnly ReadError.Contrasts (chooseVariant variants name) := by
  unfold chooseVariant
  split
  · exact raisesOnly_ok _
  · exact raisesOnly_error_iff.mpr (ReadError.contrasts_unknownVariant _ _)

mutual

theorem raisesOnly_readJson (source : Source) (outline : Outline) :
    RaisesOnly ReadError.Contrasts (readJson source outline) := by
  cases outline with
  | null => exact raisesOnly_ok _
  | bool b => exact raisesOnly_ok _
  | number token =>
    exact (raisesOnly_orFault token.kept).bind fun _ _ ↦ raisesOnly_ok _
  | string token =>
    exact (raisesOnly_orFault token.kept).bind fun _ _ ↦ raisesOnly_ok _
  | array items ending =>
    refine source.raisesOnly_enter.bind fun inner _ ↦ ?_
    refine (raisesOnly_readJsonItems inner items).bind fun _ _ ↦ ?_
    exact (raisesOnly_readEnding ending).bind fun _ _ ↦ raisesOnly_ok _
  | object members ending =>
    refine source.raisesOnly_enter.bind fun inner _ ↦ ?_
    refine (raisesOnly_readJsonMembers inner members).bind fun _ _ ↦ ?_
    exact (raisesOnly_readEnding ending).bind fun _ _ ↦ raisesOnly_ok _
  | broken fault => exact raisesOnly_error_iff.mpr (ReadError.contrasts_toReadError fault)
  | ended => exact raisesOnly_error_iff.mpr ReadError.contrasts_truncated

theorem raisesOnly_readJsonItems (source : Source) (items : List Outline) :
    RaisesOnly ReadError.Contrasts (readJsonItems source items) := by
  cases items with
  | nil => exact raisesOnly_ok _
  | cons item rest =>
    refine (raisesOnly_readJson source item).bind fun _ _ ↦ ?_
    exact (raisesOnly_readJsonItems source rest).bind fun _ _ ↦ raisesOnly_ok _

theorem raisesOnly_readJsonMembers (source : Source) (members : List (Token String × Outline)) :
    RaisesOnly ReadError.Contrasts (readJsonMembers source members) := by
  cases members with
  | nil => exact raisesOnly_ok _
  | cons member rest =>
    refine (raisesOnly_orFault member.1.kept).bind fun _ _ ↦ ?_
    refine (raisesOnly_readJson source member.2).bind fun _ _ ↦ ?_
    exact (raisesOnly_readJsonMembers source rest).bind fun _ _ ↦ raisesOnly_ok _

end

section Shaped

variable {α ρ : Type} {source : Source}

theorem raisesOnly_readVariant (hsurplus : source.surplus.Contrasts)
    (variants : List (String × α)) (outline : Outline) :
    RaisesOnly ReadError.Contrasts (readVariant variants source outline) := by
  have surplus {β : Type} : RaisesOnly ReadError.Contrasts (.error source.surplus : Except _ β) :=
    raisesOnly_error_iff.mpr hsurplus
  unfold readVariant
  split
  · exact (raisesOnly_orFault _).bind fun _ _ ↦ raisesOnly_chooseVariant variants _
  · refine source.raisesOnly_enter.bind fun _ _ ↦ ?_
    split
    · split
      · exact raisesOnly_error_iff.mpr (ReadError.contrasts_toReadError _)
      · exact surplus
    · split
      · exact surplus
      · dsimp only
        split
        · refine (raisesOnly_chooseVariant variants _).bind fun _ _ ↦ ?_
          split
          · split
            · exact (raisesOnly_readEnding _).bind fun _ _ ↦ raisesOnly_ok _
            · exact surplus
          · exact raisesOnly_error_iff.mpr (contrasts_misfit _)
        · exact raisesOnly_error_iff.mpr (ReadError.contrasts_toReadError _)
        · exact raisesOnly_error_iff.mpr (contrasts_keyMisfit _ _)
  · exact raisesOnly_error_iff.mpr ReadError.contrasts_truncated
  · exact surplus

variable {fields : List (Field ρ)}

/-- The fields of a shape tell of no mismatch but of one. -/
def FieldsContrast (fields : List (Field ρ)) (source : Source) : Prop :=
  ∀ field ∈ fields, ∀ outline soFar,
    RaisesOnly ReadError.Contrasts (field.read source outline soFar)

theorem raisesOnly_readMember (h : FieldsContrast fields source) (soFar : ρ)
    (member : Token String × Outline) :
    RaisesOnly ReadError.Contrasts (readMember fields source soFar member) := by
  refine (raisesOnly_orFault member.1.kept).bind fun key _ ↦ ?_
  split
  · next field hfind =>
    split
    · exact raisesOnly_error_iff.mpr (ReadError.contrasts_duplicateField _)
    · exact h field (List.mem_of_find?_eq_some hfind) member.2 soFar
  · exact (raisesOnly_orFault _).bind fun _ _ ↦ raisesOnly_ok _

theorem raisesOnly_readElements (hsurplus : source.surplus.Contrasts)
    (h : FieldsContrast fields source) (ending : Option Fault) (items : List Outline) (soFar : ρ) :
    RaisesOnly ReadError.Contrasts (readElements source ending fields items soFar) := by
  induction fields generalizing items soFar with
  | nil =>
    cases items with
    | nil => exact (raisesOnly_readEnding ending).bind fun _ _ ↦ raisesOnly_ok _
    | cons item rest => exact raisesOnly_error_iff.mpr hsurplus
  | cons field fields ih =>
    have hrest : FieldsContrast fields source :=
      fun other hother ↦ h other (List.mem_cons_of_mem field hother)
    cases items with
    | nil =>
      unfold readElements
      refine (raisesOnly_readEnding ending).bind fun _ _ ↦ ?_
      split
      · exact raisesOnly_error_iff.mpr ReadError.contrasts_unfit
      · exact ih hrest [] soFar
    | cons item rest =>
      unfold readElements
      exact (h field List.mem_cons_self item soFar).bind fun next _ ↦ ih hrest rest next

theorem raisesOnly_readFields (hsurplus : source.surplus.Contrasts)
    (h : ∀ inner : Source, inner.surplus = source.surplus → FieldsContrast fields inner)
    (unread : ρ) (outline : Outline) :
    RaisesOnly ReadError.Contrasts (readFields fields unread source outline) := by
  unfold readFields
  split
  · refine source.raisesOnly_enter.bind fun inner hinner ↦ ?_
    have hfields := h inner (Source.surplus_of_enter hinner)
    refine RaisesOnly.bind ?_ fun soFar _ ↦ ?_
    · exact raisesOnly_foldlM (fun _ ↦ True)
        (fun soFar member _ ↦ raisesOnly_readMember hfields soFar member)
        (fun _ _ _ _ _ ↦ trivial) _ trivial
    · refine (raisesOnly_readEnding _).bind fun _ _ ↦ ?_
      split
      · exact raisesOnly_error_iff.mpr (ReadError.contrasts_missingField _)
      · exact raisesOnly_ok _
  · refine source.raisesOnly_enter.bind fun inner hinner ↦ ?_
    have hinside := Source.surplus_of_enter hinner
    exact raisesOnly_readElements (hinside ▸ hsurplus) (h inner hinside) _ _ _
  · exact raisesOnly_error_iff.mpr (contrasts_misfit _)

end Shaped

theorem raisesOnly_readWhole {α : Type} {read : Source → Outline → Except ReadError α}
    (h : ∀ outline, RaisesOnly ReadError.Contrasts (read .text outline)) (text : String) :
    RaisesOnly ReadError.Contrasts (readWhole read text) := by
  unfold readWhole
  obtain ⟨outline, isWhole⟩ := Outline.ofChars text.toList
  refine (h outline).bind fun value _ ↦ ?_
  by_cases hwhole : isWhole = true
  · rw [if_pos hwhole]
    exact raisesOnly_ok value
  · rw [if_neg hwhole]
    exact raisesOnly_error_iff.mpr ReadError.contrasts_malformed

end Json

namespace Box

open Json

theorem fieldsContrast_fields {source : Source} (hsurplus : source.surplus.Contrasts) :
    FieldsContrast fields source := by
  intro field hfield outline soFar
  simp only [fields, List.mem_cons, List.not_mem_nil, or_false] at hfield
  rcases hfield with rfl | rfl
  · exact (raisesOnly_readVariant hsurplus _ outline).bind fun _ _ ↦ raisesOnly_ok _
  · exact (raisesOnly_readJson source outline).bind fun _ _ ↦ raisesOnly_ok _

/-- Reading a box tells of a mismatch only where what was found is not the expected kind. -/
theorem raisesOnly_read {source : Source} (hsurplus : source.surplus.Contrasts)
    (outline : Outline) : RaisesOnly ReadError.Contrasts (read source outline) := by
  have hfields (inner : Source) (h : inner.surplus = source.surplus) :
      FieldsContrast fields inner := fieldsContrast_fields (h ▸ hsurplus)
  refine (raisesOnly_readFields hsurplus hfields {} outline).bind fun parts _ ↦ ?_
  split
  · split
    · exact raisesOnly_ok _
    · next error herror =>
      obtain ⟨hadmits, rfl⟩ := create_eq_error_iff.mp herror
      have hcontrasts := GraphError.contrasts_payloadMismatch hadmits
      refine raisesOnly_error_iff.mpr (ReadError.contrasts_of_message ?_)
      exact GraphError.contrasts_typeMismatch_iff.mp hcontrasts
  · exact raisesOnly_error_iff.mpr ReadError.contrasts_unfit

end Box

end FlowGraph
