import FlowGraph.Regex.Spacing

/-!
Which part of a text spacing takes up. What is passed over in front of a character is passed over in
front of that character whatever stands behind it (`skip_eq_cons`). If nothing stands behind the
spacing, it is passed over in front of any text, unless it ends within a comment (`skip_eq_nil`):
only a line feed ends a comment, so it takes in what is put behind it (`dropSpacing_comment`).
-/

set_option autoImplicit false
set_option relaxedAutoImplicit false

namespace FlowGraph.Regex

open Text (isBlankChar)

variable {spaced inComment : Bool} {kind : Char → Bool} {c : Char} {text rest taken : List Char}

/-! ### Beginnings of texts -/

/-- The first character of a text does not change with what stands behind a later one. -/
theorem exists_cons_append {d : Char} {left used : List Char} (h : d :: left = used ++ c :: rest)
    (more : List Char) : ∃ behind, used ++ c :: more = d :: behind := by
  cases used with
  | nil => exact ⟨more, by rw [(List.cons.inj h).1, List.nil_append]⟩
  | cons e used => exact ⟨used ++ c :: more, by rw [(List.cons.inj h).1, List.cons_append]⟩

/-- What is taken in front of a character is taken in front of it whatever stands behind it. -/
theorem takeWhile_of_dropWhile_eq_cons (h : text.dropWhile kind = c :: rest) (more : List Char) :
    (text.takeWhile kind ++ c :: more).takeWhile kind = text.takeWhile kind ∧
      (text.takeWhile kind ++ c :: more).dropWhile kind = c :: more := by
  have hkind : ¬ kind c = true := by
    have hhead := List.head?_dropWhile_not kind text
    rw [h] at hhead
    simp [show kind c = false from hhead]
  have hall : ∀ d ∈ text.takeWhile kind, kind d = true := List.all_eq_true.mp List.all_takeWhile
  rw [List.takeWhile_append_of_pos hall, List.takeWhile_cons_of_neg hkind, List.append_nil,
    List.dropWhile_append_of_pos hall, List.dropWhile_cons_of_neg hkind]
  exact ⟨rfl, rfl⟩

theorem dropWhile_eq_cons (h : text.dropWhile kind = c :: rest) :
    ∃ used, text = used ++ c :: rest ∧ ∀ more, (used ++ c :: more).dropWhile kind = c :: more :=
  ⟨text.takeWhile kind, by rw [← h, List.takeWhile_append_dropWhile],
    fun more ↦ (takeWhile_of_dropWhile_eq_cons h more).2⟩

/-! ### One character -/

/-- Whether a comment is open behind a character that is passed over; nothing for a character that
is not. -/
def passes? (spaced inComment : Bool) (c : Char) : Option Bool :=
  if inComment then some (c ≠ '\n')
  else if spaced && isBlankChar c then some false
  else if spaced && c = '#' then some true
  else none

theorem dropSpacing_cons (c : Char) (rest : List Char) :
    dropSpacing inComment (c :: rest) =
      match passes? true inComment c with
      | some next => dropSpacing next rest
      | none => c :: rest := by
  simp only [dropSpacing, passes?, Bool.true_and, decide_eq_true_eq]
  split
  · rfl
  · split
    · rfl
    · split <;> rfl

theorem takeSpaced_cons (c : Char) (rest : List Char) :
    takeSpaced spaced kind inComment (c :: rest) =
      match passes? spaced inComment c with
      | some next => takeSpaced spaced kind next rest
      | none =>
        if kind c then (takeSpaced spaced kind false rest).map (c :: ·) id else ([], c :: rest) := by
  simp only [takeSpaced, passes?]
  split
  · rfl
  · split
    · rfl
    · split <;> rfl

/-- What is passed over in a comment keeps it open unless it is a line feed; beyond comments only a
number sign opens one. -/
theorem passes?_eq_some_true_iff :
    passes? spaced inComment c = some true ↔
      inComment = true ∧ c ≠ '\n' ∨ inComment = false ∧ spaced = true ∧ c = '#' := by
  cases inComment with
  | true => simp [passes?]
  | false =>
    by_cases hblank : spaced && isBlankChar c
    · have hsign : c ≠ '#' := by
        rintro rfl
        exact absurd hblank (by simp [show isBlankChar '#' = false by decide])
      simp [passes?, hblank, hsign]
    · simp [passes?, hblank]

/-! ### Spacing in front of a character -/

theorem dropSpacing_eq_cons (h : dropSpacing inComment text = c :: rest) :
    passes? true false c = none ∧
      ∃ spacing, text = spacing ++ c :: rest ∧
        ∀ more, dropSpacing inComment (spacing ++ c :: more) = c :: more := by
  induction text generalizing inComment with
  | nil => cases h
  | cons d text ih =>
    rw [dropSpacing_cons] at h
    cases hpass : passes? true inComment d with
    | some next =>
      rw [hpass] at h
      obtain ⟨hc, spacing, htext, hmore⟩ := ih h
      refine ⟨hc, d :: spacing, by rw [htext, List.cons_append], fun more ↦ ?_⟩
      rw [List.cons_append, dropSpacing_cons, hpass]
      exact hmore more
    | none =>
      rw [hpass] at h
      obtain ⟨rfl, rfl⟩ := List.cons.inj h
      have houtside : inComment = false := by
        cases inComment with
        | true => cases hpass
        | false => rfl
      subst houtside
      exact ⟨hpass, [], rfl, fun more ↦ by rw [List.nil_append, dropSpacing_cons, hpass]⟩

theorem skip_eq_cons (h : skip spaced text = c :: rest) :
    ∃ spacing, text = spacing ++ c :: rest ∧
      ∀ more, skip spaced (spacing ++ c :: more) = c :: more := by
  cases spaced with
  | false => exact ⟨[], h, fun _ ↦ rfl⟩
  | true => exact (dropSpacing_eq_cons h).2

/-- What stands behind spacing is no spacing. -/
theorem passes?_of_skip_eq_cons (h : skip spaced text = c :: rest) :
    passes? spaced false c = none := by
  cases spaced with
  | false => rfl
  | true => exact (dropSpacing_eq_cons h).1

theorem skip_cons (h : passes? spaced false c = none) (rest : List Char) :
    skip spaced (c :: rest) = c :: rest := by
  cases spaced with
  | false => rfl
  | true => exact (dropSpacing_cons c rest).trans (by rw [h])

@[simp]
theorem skip_nil : skip spaced [] = [] := by cases spaced <;> rfl

@[simp]
theorem skip_skip : skip spaced (skip spaced text) = skip spaced text := by
  cases h : skip spaced text with
  | nil => exact skip_nil
  | cons c rest => exact skip_cons (passes?_of_skip_eq_cons h) rest

/-! ### Spacing at the end of a text -/

/-- A comment takes in all that stands on its line. -/
theorem dropSpacing_comment {comment : List Char} (h : '\n' ∉ comment) :
    dropSpacing true comment = [] := by
  induction comment with
  | nil => rfl
  | cons c comment ih =>
    rw [List.mem_cons, not_or] at h
    have hpass : passes? true true c = some true :=
      passes?_eq_some_true_iff.mpr (.inl ⟨rfl, Ne.symm h.1⟩)
    rw [dropSpacing_cons, hpass]
    exact ih h.2

/-- Whether a text ends within a comment that begins in it, with finished spacing in front. -/
def OpensComment (inComment : Bool) (text : List Char) : Prop :=
  ∃ before comment, text = before ++ '#' :: comment ∧ '\n' ∉ comment ∧
    ∀ other, dropSpacing inComment (before ++ other) = dropSpacing false other

theorem dropSpacing_eq_nil (h : dropSpacing inComment text = []) :
    (∀ other, dropSpacing inComment (text ++ other) = dropSpacing false other) ∨
      inComment = true ∧ '\n' ∉ text ∨ OpensComment inComment text := by
  induction text generalizing inComment with
  | nil =>
    cases inComment with
    | true => exact .inr (.inl ⟨rfl, List.not_mem_nil⟩)
    | false => exact .inl fun _ ↦ rfl
  | cons c text ih =>
    rw [dropSpacing_cons] at h
    cases hpass : passes? true inComment c with
    | none =>
      rw [hpass] at h
      cases h
    | some next =>
      rw [hpass] at h
      have hcons : ∀ behind, dropSpacing inComment (c :: behind) = dropSpacing next behind :=
        fun behind ↦ (dropSpacing_cons c behind).trans (by rw [hpass])
      rcases ih h with closed | ⟨rfl, hline⟩ | ⟨before, comment, rfl, hline, hbefore⟩
      · exact .inl fun other ↦ (hcons _).trans (closed other)
      · rcases passes?_eq_some_true_iff.mp hpass with ⟨rfl, hc⟩ | ⟨rfl, -, rfl⟩
        · refine .inr (.inl ⟨rfl, ?_⟩)
          rw [List.mem_cons, not_or]
          exact ⟨Ne.symm hc, hline⟩
        · exact .inr (.inr ⟨[], text, rfl, hline, fun _ ↦ rfl⟩)
      · exact .inr (.inr ⟨c :: before, comment, rfl, hline,
          fun other ↦ (hcons _).trans (hbefore other)⟩)

/-- Spacing with nothing behind it is finished, or it ends within a comment. -/
theorem skip_eq_nil (h : skip spaced text = []) :
    (∀ other, skip spaced (text ++ other) = skip spaced other) ∨
      spaced = true ∧ OpensComment false text := by
  cases spaced with
  | false =>
    obtain rfl : text = [] := h
    exact .inl fun _ ↦ rfl
  | true =>
    rcases dropSpacing_eq_nil h with closed | ⟨hopen, -⟩ | hopens
    · exact .inl closed
    · cases hopen
    · exact .inr ⟨rfl, hopens⟩

/-- A comment behind spacing leaves nothing. -/
theorem skip_append_comment (h : skip true text = []) {comment : List Char}
    (hline : '\n' ∉ comment) : skip true (text ++ '#' :: comment) = [] := by
  have hopen : ∀ line, '\n' ∉ line → dropSpacing false ('#' :: line) = [] :=
    fun line hline ↦ (dropSpacing_cons '#' line).trans (dropSpacing_comment hline)
  rcases skip_eq_nil h with closed | ⟨-, before, line, rfl, hfirst, hbefore⟩
  · exact (closed _).trans (hopen comment hline)
  · rw [List.append_assoc]
    exact (hbefore _).trans (hopen _ (by simp [hfirst, hline]))

/-! ### Characters with spacing between them -/

theorem takeSpaced_eq_cons (h : takeSpaced spaced kind inComment text = (taken, c :: rest)) :
    ∃ used, text = used ++ c :: rest ∧
      ∀ more, takeSpaced spaced kind inComment (used ++ c :: more) = (taken, c :: more) := by
  induction text generalizing inComment taken with
  | nil => cases h
  | cons d text ih =>
    rw [takeSpaced_cons] at h
    cases hpass : passes? spaced inComment d with
    | some next =>
      rw [hpass] at h
      obtain ⟨used, htext, hmore⟩ := ih h
      refine ⟨d :: used, by rw [htext, List.cons_append], fun more ↦ ?_⟩
      rw [List.cons_append, takeSpaced_cons, hpass]
      exact hmore more
    | none =>
      rw [hpass] at h
      by_cases hkind : kind d
      · simp only [hkind, if_true] at h
        obtain ⟨rfl, hrest⟩ := Prod.mk.inj h
        obtain ⟨used, htext, hmore⟩ := ih (Prod.ext rfl hrest)
        refine ⟨d :: used, by rw [htext, List.cons_append], fun more ↦ ?_⟩
        rw [List.cons_append, takeSpaced_cons, hpass]
        simp only [hkind, if_true, hmore, Prod.map_apply, id]
      · simp only [hkind, if_false, Bool.false_eq_true] at h
        obtain ⟨rfl, hrest⟩ := Prod.mk.inj h
        obtain ⟨rfl, rfl⟩ := List.cons.inj hrest
        refine ⟨[], rfl, fun more ↦ ?_⟩
        rw [List.nil_append, takeSpaced_cons, hpass]
        simp only [hkind, if_false, Bool.false_eq_true]

theorem takeSpaced_dropSpacing :
    takeSpaced true kind false (dropSpacing inComment text) =
      takeSpaced true kind inComment text := by
  induction text generalizing inComment with
  | nil => rfl
  | cons c text ih =>
    rw [dropSpacing_cons, takeSpaced_cons]
    cases hpass : passes? true inComment c with
    | some next => exact ih
    | none =>
      cases inComment with
      | true => cases hpass
      | false => exact (takeSpaced_cons c text).trans (by rw [hpass])

/-- Spacing in front of the first character is passed over. -/
theorem takeSpaced_skip :
    takeSpaced spaced kind false (skip spaced text) = takeSpaced spaced kind false text := by
  cases spaced with
  | false => rfl
  | true => exact takeSpaced_dropSpacing

end FlowGraph.Regex
