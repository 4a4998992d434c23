import FlowGraph.Proofs.Regex.Atom
import FlowGraph.Regex.Pattern

/-!
What stands behind an opening bracket: a switch of flags, or the beginning of a group, with a name
or flags of its own. It is read from a beginning of the text, up to a colon, a bracket or the end of
a name; only a group without any of these begins with its content, so the first character of that
matters (`readGroup_eq_ok`).
-/

set_option autoImplicit false
set_option relaxedAutoImplicit false

namespace FlowGraph.Regex

variable {flags : Flags} {text rest : List Char} {names : List (List Char)}

/-! ### Flags -/

/-- Flags are read one letter after the other, up to a colon or a closing bracket. -/
theorem Switches.read_cons_eq_ok {on dangling : Bool} {switches found : Switches} {c : Char}
    (h : Switches.read on dangling switches (c :: text) = .ok (found, rest)) :
    ((c = ':' ∨ c = ')') ∧ rest = c :: text ∧
        ∀ more, Switches.read on dangling switches (c :: more) = .ok (found, c :: more)) ∨
      ∃ on' dangling' switches', ∀ behind, Switches.read on dangling switches (c :: behind) =
        Switches.read on' dangling' switches' behind := by
  rw [Switches.read] at h
  split_ifs at h with hend hdangling hminus hon
  · cases h
    exact .inl ⟨hend, rfl, fun more ↦ by simp [Switches.read, hend, hdangling]⟩
  · exact .inr ⟨false, true, switches, fun behind ↦ by simp [Switches.read, hminus, hon]⟩
  · split at h
    · cases h
    · next flag hflag =>
      split_ifs at h with hrepeated
      refine .inr ⟨on, false, switches ++ [(flag, on)], fun behind ↦ ?_⟩
      rw [Switches.read, if_neg hend, if_neg hminus, hflag]
      exact if_neg hrepeated

theorem Switches.read_eq_ok {on dangling : Bool} {switches found : Switches}
    (h : Switches.read on dangling switches text = .ok (found, rest)) :
    ∃ c behind, rest = c :: behind ∧ (c = ':' ∨ c = ')') ∧ ∃ used, text = used ++ c :: behind ∧
      ∀ more, Switches.read on dangling switches (used ++ c :: more) = .ok (found, c :: more) := by
  induction text generalizing on dangling switches with
  | nil => cases h
  | cons c text ih =>
    rcases Switches.read_cons_eq_ok h with ⟨hend, rfl, hmore⟩ | ⟨on', dangling', switches', hnext⟩
    · exact ⟨c, text, rfl, hend, [], rfl, hmore⟩
    · obtain ⟨d, behind, hrest, hd, used, htext, hused⟩ := ih ((hnext text).symm.trans h)
      exact ⟨d, behind, hrest, hd, c :: used, by rw [htext, List.cons_append],
        fun more ↦ (hnext _).trans (hused more)⟩

/-! ### Names -/

theorem readName_eq_ok {found : List (List Char)} (h : readName names text = .ok (found, rest)) :
    ∃ used, used ≠ [] ∧ text = used ++ rest ∧
      ∀ other, readName names (used ++ other) = .ok (found, other) := by
  unfold readName at h
  dsimp only at h
  split at h
  · next first more c behind hname hdrop =>
    split_ifs at h with hproper hrepeated
    cases h
    refine ⟨text.takeWhile (· ≠ '>') ++ [c], by simp, ?_, fun other ↦ ?_⟩
    · rw [List.append_assoc, List.singleton_append, ← hdrop, List.takeWhile_append_dropWhile]
    · obtain ⟨htake, hdropped⟩ := takeWhile_of_dropWhile_eq_cons hdrop other
      rw [List.append_assoc, List.singleton_append, readName, htake, hdropped]
      rw [hname] at hrepeated ⊢
      exact (if_neg hproper).trans (if_neg hrepeated)
  · cases h

/-! ### Openings -/

/-- What flags begin: a group, or nothing if a bracket closes them. -/
def openFlags (flags : Flags) (names : List (List Char)) (switches : Switches) :
    List Char → Except Error (Opening × List Char)
  | ')' :: rest =>
    if switches.isEmpty then .error .nothingToRepeat
    else .ok (.switches (switches.apply flags), rest)
  | rest => .ok (.group false (switches.apply flags) names, rest.drop 1)

/-- Reads what stands behind the question mark of a group. -/
def readMarked (flags : Flags) (names : List (List Char)) (text : List Char) :
    Except Error (Opening × List Char) :=
  match text with
  | '=' :: _ | '!' :: _ | '<' :: '=' :: _ | '<' :: '!' :: _ => .error .lookAround
  | 'P' :: '<' :: rest | '<' :: rest =>
    (readName names rest).map fun (names, rest) ↦ (.group true flags names, rest)
  | text =>
    Switches.read true false [] text >>= fun (switches, rest) ↦ openFlags flags names switches rest

theorem openFlags_eq (switches : Switches) (text : List Char) :
    openFlags flags names switches text =
      match text with
      | ')' :: rest => do
        if switches.isEmpty then throw .nothingToRepeat
        return (.switches (switches.apply flags), rest)
      | _ => return (.group false (switches.apply flags) names, text.drop 1) := by
  cases text with
  | nil => rfl
  | cons c text =>
    by_cases hc : c = ')'
    · subst hc
      cases switches <;> rfl
    · simp [openFlags, hc, pure, Except.pure]

theorem readGroup_marked (h : skip flags.spaced text = '?' :: rest) :
    readGroup flags names text = readMarked flags names rest := by
  unfold readGroup readMarked
  rw [h]
  simp only [openFlags_eq]
  split
  · next hcons => cases hcons; rfl
  · next hcons => cases hcons; rfl
  · next hcons => cases hcons; rfl
  · next hcons => cases hcons; rfl
  · next hcons => cases hcons; rfl
  · next hcons =>
    cases hcons
    split <;> simp_all
  · next hequals hbang _ _ hname hless hcons =>
    cases hcons
    split
    · exact absurd rfl (hequals _)
    · exact absurd rfl (hbang _)
    · exact absurd rfl (hless _)
    · exact absurd rfl (hless _)
    · exact absurd rfl (hname _)
    · exact absurd rfl (hless _)
    · rfl
  · next hmark => exact absurd rfl (hmark rest)

theorem readGroup_plain {c : Char} (h : skip flags.spaced text = c :: rest) (hc : c ≠ '?') :
    readGroup flags names text = .ok (.group true flags names, c :: rest) := by
  unfold readGroup
  rw [h]
  split <;> simp_all

theorem readMarked_name {c : Char} (hequals : c ≠ '=') (hbang : c ≠ '!') :
    readMarked flags names ('<' :: c :: rest) =
      (readName names (c :: rest)).map fun (names, rest) ↦ (.group true flags names, rest) := by
  unfold readMarked
  split <;> simp_all

/-- Flags are read where no name and no look around begins. -/
theorem readMarked_flags {found : Switches × List Char}
    (h : Switches.read true false [] text = .ok found) :
    readMarked flags names text = openFlags flags names found.1 found.2 := by
  cases text with
  | nil => cases h
  | cons c text =>
    have hletter : c ≠ '=' ∧ c ≠ '!' ∧ c ≠ '<' ∧ c ≠ 'P' := by
      refine ⟨?_, ?_, ?_, ?_⟩ <;> · rintro rfl; cases h
    obtain ⟨hequals, hbang, hless, hname⟩ := hletter
    unfold readMarked
    split
    all_goals try simp_all; done
    rw [h]
    rfl

theorem openFlags_cons_eq_ok {switches : Switches} {opening : Opening} {c : Char}
    (h : openFlags flags names switches (c :: text) = .ok (opening, rest)) :
    text = rest ∧ ∀ more, openFlags flags names switches (c :: more) = .ok (opening, more) := by
  by_cases hc : c = ')'
  · subst hc
    rw [openFlags] at h
    split_ifs at h with hnone
    cases h
    exact ⟨rfl, fun _ ↦ if_neg hnone⟩
  · have hcolon : ∀ behind, openFlags flags names switches (c :: behind) =
        .ok (.group false (switches.apply flags) names, behind) := by
      intro behind
      unfold openFlags
      split
      · next hcons => exact absurd (List.cons.inj hcons).1 hc
      · rfl
    rw [hcolon] at h
    cases h
    exact ⟨rfl, hcolon⟩

theorem map_readName_eq_ok {opening : Opening}
    (h : (readName names text).map (fun (names, rest) ↦ (Opening.group true flags names, rest)) =
      .ok (opening, rest)) :
    ∃ used, used ≠ [] ∧ text = used ++ rest ∧ ∀ other,
      (readName names (used ++ other)).map (fun (names, rest) ↦ (.group true flags names, rest)) =
        .ok (opening, other) := by
  cases hname : readName names text with
  | error error =>
    rw [hname] at h
    cases h
  | ok found =>
    rw [hname] at h
    cases h
    obtain ⟨used, hne, htext, hused⟩ := readName_eq_ok hname
    exact ⟨used, hne, htext, fun other ↦ by rw [hused]; rfl⟩

theorem readMarked_isFramed : IsFramed (readMarked flags names) := by
  intro text opening rest h
  unfold readMarked at h
  split at h
  · cases h
  · cases h
  · cases h
  · cases h
  · next named =>
    obtain ⟨used, -, rfl, hused⟩ := map_readName_eq_ok h
    exact ⟨'P' :: '<' :: used, rfl, hused⟩
  · next named hequals hbang =>
    obtain ⟨used, hne, rfl, hused⟩ := map_readName_eq_ok h
    obtain ⟨c, used, rfl⟩ := List.exists_cons_of_ne_nil hne
    refine ⟨'<' :: c :: used, rfl, fun other ↦ ?_⟩
    refine (readMarked_name ?_ ?_).trans (hused other)
    · rintro rfl
      exact hequals _ rfl
    · rintro rfl
      exact hbang _ rfl
  · obtain ⟨⟨switches, left⟩, hswitches, hopen⟩ := bind_eq_ok_iff.mp h
    obtain ⟨c, behind, rfl, -, used, rfl, hused⟩ := Switches.read_eq_ok hswitches
    obtain ⟨rfl, hmore⟩ := openFlags_cons_eq_ok hopen
    refine ⟨used ++ [c], by simp, fun other ↦ ?_⟩
    rw [List.append_assoc, List.singleton_append, readMarked_flags (hused other)]
    exact hmore other

/-- An opening is read from a beginning of a text; of the content of a group behind it only the first
character may matter. -/
theorem readGroup_eq_ok {opening : Opening} (h : readGroup flags names text = .ok (opening, rest)) :
    ∃ used, text = used ++ rest ∧ ∀ other,
      (∃ switched, opening = .switches switched) ∨ other.head? = rest.head? →
        readGroup flags names (used ++ other) = .ok (opening, other) := by
  cases hskip : skip flags.spaced text with
  | nil =>
    unfold readGroup at h
    rw [hskip] at h
    cases h
    refine ⟨text, by simp, fun other hother ↦ ?_⟩
    obtain rfl := List.head?_eq_none_iff.mp (hother.resolve_left nofun)
    rw [List.append_nil]
    unfold readGroup
    rw [hskip]
  | cons c behind =>
    obtain ⟨spacing, rfl, hspacing⟩ := skip_eq_cons hskip
    by_cases hc : c = '?'
    · subst hc
      rw [readGroup_marked hskip] at h
      obtain ⟨used, rfl, hused⟩ := readMarked_isFramed _ _ _ h
      refine ⟨spacing ++ '?' :: used, by simp, fun other _ ↦ ?_⟩
      rw [List.append_assoc, List.cons_append, readGroup_marked (hspacing _), hused]
    · rw [readGroup_plain hskip hc] at h
      cases h
      refine ⟨spacing, rfl, fun other hother ↦ ?_⟩
      obtain ⟨more, rfl⟩ := List.head?_eq_some_iff.mp (hother.resolve_left nofun)
      rw [readGroup_plain (hspacing more) hc]

end FlowGraph.Regex
