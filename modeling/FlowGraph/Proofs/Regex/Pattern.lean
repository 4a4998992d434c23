import FlowGraph.Proofs.Regex.Bracket
import FlowGraph.Proofs.Regex.Count
import FlowGraph.Proofs.Regex.Group

/-!
Alternatives are read from a beginning of a text, up to where it ends or a group closes
(`exists_frames_of_eq_ok`): what is read there reads the same in front of any other text that goes
on like that. Behind it there may be spacing, and a comment may be open in it.
-/

set_option autoImplicit false
set_option relaxedAutoImplicit false

namespace FlowGraph.Regex

variable {flags : Flags} {names : List (List Char)} {text rest : List Char}

/-! ### Single signs -/

theorem readSign_cons {c : Char} (hdot : c ≠ '.') (hcaret : c ≠ '^') (hdollar : c ≠ '$') :
    readSign flags (c :: rest) =
      Atom.read flags (c :: rest) >>= fun (atom, rest) ↦ do return (← ofAtom flags atom, rest) := by
  unfold readSign
  split <;> simp_all

/-- A sign is read from a beginning of a text that does not go on with the name of an edge. -/
theorem readSign_eq_ok {expression : Expression} (h : readSign flags text = .ok (expression, rest)) :
    ∃ used, used ≠ [] ∧ text = used ++ rest ∧ ∀ other, Atom.EdgeEnds flags.spaced other →
      readSign flags (used ++ other) = .ok (expression, other) := by
  cases text with
  | nil => cases h
  | cons c text =>
    by_cases hdot : c = '.'
    · subst hdot
      obtain ⟨found, hfound, hpair⟩ : ∃ found, anyChar flags = .ok found ∧
          (found, text) = (expression, rest) := by
        cases hany : anyChar flags with
        | error error =>
          rw [readSign, hany] at h
          cases h
        | ok found =>
          rw [readSign, hany] at h
          exact ⟨found, rfl, Except.ok.inj h⟩
      cases hpair
      exact ⟨['.'], nofun, rfl, fun other _ ↦ by
        rw [List.singleton_append, readSign, hfound]; rfl⟩
    by_cases hcaret : c = '^'
    · subst hcaret
      cases h
      exact ⟨['^'], nofun, rfl, fun _ _ ↦ rfl⟩
    by_cases hdollar : c = '$'
    · subst hdollar
      cases h
      exact ⟨['$'], nofun, rfl, fun _ _ ↦ rfl⟩
    rw [readSign_cons hdot hcaret hdollar] at h
    obtain ⟨⟨atom, left⟩, hatom, hrest⟩ := bind_eq_ok_iff.mp h
    obtain ⟨found, hfound, hpair⟩ := bind_eq_ok_iff.mp hrest
    cases hpair
    obtain ⟨used, hne, hcons, hused⟩ := Atom.read_eq_ok hatom
    obtain ⟨d, used, rfl⟩ := List.exists_cons_of_ne_nil hne
    obtain ⟨rfl, rfl⟩ := List.cons.inj hcons
    refine ⟨c :: used, nofun, rfl, fun other hends ↦ ?_⟩
    rw [List.cons_append, readSign_cons hdot hcaret hdollar]
    exact bind_eq_ok_iff.mpr ⟨_, hused other fun _ ↦ hends, bind_eq_ok_iff.mpr ⟨_, hfound, rfl⟩⟩

/-! ### One step -/

/-- Whether nothing stands behind spacing, or the end of a group. -/
def EndsGroup (spaced : Bool) (text : List Char) : Prop :=
  skip spaced text = [] ∨ ∃ more, skip spaced text = ')' :: more

section Step

variable {fuel : Nat} {branches : List Part} {items : List Item}

theorem readBranches_end (h : EndsGroup flags.spaced text) :
    readBranches (fuel + 1) branches items ⟨text, flags, names⟩ =
      .ok ((Part.ofItems items).ofBranches branches, ⟨skip flags.spaced text, flags, names⟩) := by
  rw [readBranches]
  rcases h with hskip | ⟨more, hskip⟩ <;> simp [hskip]

theorem readBranches_bar (h : skip flags.spaced text = '|' :: rest) :
    readBranches (fuel + 1) branches items ⟨text, flags, names⟩ =
      readBranches fuel (.ofItems items :: branches) [] ⟨rest, flags, names⟩ := by
  rw [readBranches]
  simp [h]

/-- The numbers of repetitions that have a sign. -/
def repetition? (c : Char) : Option (Nat × Option Nat) :=
  if c = '?' then some (0, some 1)
  else if c = '*' then some (0, none)
  else if c = '+' then some (1, none)
  else none

theorem readBranches_repetition {c : Char} {least : Nat} {most : Option Nat}
    (h : skip flags.spaced text = c :: rest) (hc : repetition? c = some (least, most)) :
    readBranches (fuel + 1) branches items ⟨text, flags, names⟩ =
      repeatLast least most items >>= fun items ↦
        readBranches fuel branches items ⟨dropLazy rest, flags, names⟩ := by
  unfold repetition? at hc
  rw [readBranches]
  split_ifs at hc with hquestion hstar hplus
  · cases hc
    simp [h, hquestion]
  · cases hc
    simp [h, hstar]
  · cases hc
    simp [h, hplus]

theorem readBranches_count (h : skip flags.spaced text = '{' :: rest) :
    readBranches (fuel + 1) branches items ⟨text, flags, names⟩ =
      readCount flags.spaced rest >>= fun (count, rest) ↦
        repeatLast count.1 count.2 items >>= fun items ↦
          readBranches fuel branches items ⟨dropLazy (skip flags.spaced rest), flags, names⟩ := by
  rw [readBranches]
  simp [h]

theorem readBranches_bracket (h : skip flags.spaced text = '[' :: rest) :
    readBranches (fuel + 1) branches items ⟨text, flags, names⟩ =
      Bracket.read flags rest >>= fun (bracket, rest) ↦
        readBranches fuel branches (.part (.ofSet bracket) :: items) ⟨rest, flags, names⟩ := by
  rw [readBranches]
  simp [h]

/-- Reads what a group or a switch of flags begins, and what stands behind it. -/
def readOpened (fuel : Nat) (branches : List Part) (items : List Item) (flags : Flags)
    (names : List (List Char)) : Opening × List Char → Except Error (Part × Progress)
  | (.switches switched, rest) =>
    readBranches fuel branches (.switches :: items) ⟨rest, switched, names⟩
  | (.group captures inside within, rest) =>
    readBranches fuel [] [] ⟨rest, inside, within⟩ >>= fun (inner, behind) ↦
      match behind.text with
      | ')' :: rest =>
        readBranches fuel branches (.part (inner.ofGroup captures) :: items)
          ⟨rest, flags, behind.names⟩
      | _ => .error .groupUnclosed

theorem readBranches_opening (h : skip flags.spaced text = '(' :: rest) :
    readBranches (fuel + 1) branches items ⟨text, flags, names⟩ =
      readGroup flags names rest >>= readOpened fuel branches items flags names := by
  rw [readBranches]
  simp only [h]
  cases hgroup : readGroup flags names rest with
  | error error => rfl
  | ok found =>
    obtain ⟨_ | ⟨captures, inside, within⟩, behind⟩ := found <;> rfl

def isOperator (c : Char) : Bool :=
  c = ')' || c = '|' || c = '{' || c = '[' || c = '(' || (repetition? c).isSome

theorem readBranches_sign {c : Char} (h : skip flags.spaced text = c :: rest)
    (hc : isOperator c = false) :
    readBranches (fuel + 1) branches items ⟨text, flags, names⟩ =
      readSign flags (c :: rest) >>= fun (expression, rest) ↦
        readBranches fuel branches (.part ⟨expression, 0⟩ :: items) ⟨rest, flags, names⟩ := by
  rw [readBranches]
  simp only [h]
  split <;> simp_all [isOperator, repetition?]

end Step

/-! ### Many steps -/

/-- Reads alternatives from a text. -/
def branchesFrom (branches : List Part) (items : List Item) (flags : Flags)
    (names : List (List Char)) (fuel : Nat) (text : List Char) : Except Error (Part × Progress) :=
  readBranches fuel branches items ⟨text, flags, names⟩

/-- Whether alternatives are read from the part `used` of a text: a text reads the same if it has
something else behind that part with which a group ends. -/
structure Frames (read : Nat → List Char → Except Error (Part × Progress)) (text : List Char)
    (part : Part) (after : Progress) (used rest : List Char) : Prop where
  text_eq : text = used ++ rest
  ends : EndsGroup after.flags.spaced rest
  after_text : after.text = skip after.flags.spaced rest
  replay : ∀ fuel other, EndsGroup after.flags.spaced other → used.length < fuel →
    read fuel (used ++ other) = .ok (part, { after with text := skip after.flags.spaced other })

section Frames

variable {branches : List Part} {items : List Item} {part : Part} {after : Progress}
  {used : List Char} {read read' : Nat → List Char → Except Error (Part × Progress)}

/-- What one step takes off the text stands in front of what all further steps take. -/
theorem Frames.step {left : List Char} (framed : Frames read' left part after used rest)
    (taken : List Char) (hne : taken ≠ []) (htext : text = taken ++ left)
    (htaken : ∀ fuel other, taken.length ≤ fuel → EndsGroup after.flags.spaced other →
      read (fuel + 1) (taken ++ (used ++ other)) = read' fuel (used ++ other)) :
    Frames read text part after (taken ++ used) rest where
  text_eq := by rw [htext, framed.text_eq, List.append_assoc]
  ends := framed.ends
  after_text := framed.after_text
  replay := by
    intro fuel other hends hfuel
    have hlength := List.length_pos_iff.mpr hne
    rw [List.length_append] at hfuel
    obtain ⟨fuel, rfl⟩ := Nat.exists_eq_add_of_le' (show 1 ≤ fuel by omega)
    rw [List.append_assoc, htaken fuel other (by omega) hends]
    exact framed.replay fuel other hends (by omega)

theorem frames_end (h : EndsGroup flags.spaced text) :
    Frames (branchesFrom branches items flags names) text ((Part.ofItems items).ofBranches branches)
      ⟨skip flags.spaced text, flags, names⟩ [] text where
  text_eq := rfl
  ends := h
  after_text := rfl
  replay := by
    intro fuel other hends hfuel
    obtain ⟨fuel, rfl⟩ := Nat.exists_eq_add_of_le' (show 1 ≤ fuel from hfuel)
    exact readBranches_end hends

/-- Where nothing is read no flags are switched. -/
theorem Frames.flags_eq
    (framed : Frames (branchesFrom branches items flags names) text part after [] rest) :
    after.flags = flags := by
  have hreplay := framed.replay 1 [] (.inl skip_nil) Nat.one_pos
  rw [branchesFrom, List.nil_append, readBranches_end (.inl skip_nil)] at hreplay
  exact (Progress.mk.inj (Prod.mk.inj (Except.ok.inj hreplay)).2).2.1.symm

/-! ### Repetitions -/

theorem dropLazy_cons {c : Char} (hc : c ≠ '?') : dropLazy (c :: rest) = c :: rest := by
  unfold dropLazy
  split
  · next hcons => exact absurd (List.cons.inj hcons).1 hc
  · rfl

/-- The end of a group is no mark of a lazy repetition. -/
theorem EndsGroup.dropLazy_eq {spaced : Bool} (h : EndsGroup spaced text) :
    dropLazy text = text := by
  cases text with
  | nil => rfl
  | cons c text =>
    refine dropLazy_cons ?_
    rintro rfl
    rw [EndsGroup, skip_cons (by cases spaced <;> rfl)] at h
    simp at h

/-- What is read behind a repetition is read behind its spacing and its mark. -/
theorem Frames.lazy {spaced : Bool} (hspaced : spaced = true → flags.spaced = true)
    (framed : Frames (branchesFrom branches items flags names) (dropLazy (skip spaced text)) part
      after used rest) :
    ∃ used rest, Frames
      (fun fuel text ↦ branchesFrom branches items flags names fuel (dropLazy (skip spaced text)))
      text part after used rest := by
  have hskip : ∀ text, skip flags.spaced (skip spaced text) = skip flags.spaced text := by
    intro text
    cases spaced with
    | false => rfl
    | true => rw [hspaced rfl, skip_skip]
  -- without a mark, and with nothing read, the spacing belongs to the rest
  have unread : dropLazy (skip spaced text) = skip spaced text → used = [] →
      ∃ used rest, Frames
        (fun fuel text ↦ branchesFrom branches items flags names fuel (dropLazy (skip spaced text)))
        text part after used rest := by
    rintro hlazy rfl
    have hflags := framed.flags_eq
    have hrest : rest = skip spaced text := by rw [← hlazy, framed.text_eq, List.nil_append]
    subst hrest
    have hbehind : ∀ text, skip after.flags.spaced (skip spaced text) =
        skip after.flags.spaced text := by rwa [hflags]
    refine ⟨[], text, rfl, ?_, ?_, fun fuel other hends hfuel ↦ ?_⟩
    · simpa only [EndsGroup, hbehind] using framed.ends
    · rw [framed.after_text, hbehind]
    · have hends' : EndsGroup after.flags.spaced (skip spaced other) := by
        rwa [EndsGroup, hbehind]
      have hreplay := framed.replay fuel _ hends' hfuel
      rw [hbehind] at hreplay
      rw [List.nil_append, hends'.dropLazy_eq]
      exact hreplay
  cases htext : skip spaced text with
  | nil =>
    have hused : used = [] := by
      have hsplit := framed.text_eq
      rw [htext] at hsplit
      exact (List.append_eq_nil_iff.mp hsplit.symm).1
    exact unread (by rw [htext]; rfl) hused
  | cons c behind =>
    obtain ⟨spacing, rfl, hspacing⟩ := skip_eq_cons htext
    have hsplit := framed.text_eq
    rw [htext] at hsplit
    by_cases hc : c = '?'
    · subst hc
      obtain rfl : behind = used ++ rest := hsplit
      refine ⟨spacing ++ '?' :: used, rest, by simp, framed.ends, framed.after_text,
        fun fuel other hends hfuel ↦ ?_⟩
      rw [List.append_assoc, List.cons_append, hspacing]
      rw [List.length_append, List.length_cons] at hfuel
      exact framed.replay fuel other hends (by omega)
    · rw [dropLazy_cons hc] at hsplit
      cases used with
      | nil => exact unread (by rw [htext, dropLazy_cons hc]) rfl
      | cons d used =>
        obtain ⟨rfl, rfl⟩ := List.cons.inj hsplit
        refine ⟨spacing ++ c :: used, rest, by simp, framed.ends, framed.after_text,
          fun fuel other hends hfuel ↦ ?_⟩
        rw [List.append_assoc, List.cons_append, hspacing, dropLazy_cons hc]
        rw [List.length_append] at hfuel
        exact framed.replay fuel other hends (by omega)

/-! ### One sign in front of all further ones -/

/-- Where alternatives go on with a brace, it holds a number of repetitions. -/
theorem Frames.edgeEnds {other : List Char}
    (framed : Frames (branchesFrom branches items flags names) text part after used rest)
    (hends : EndsGroup after.flags.spaced other) : Atom.EdgeEnds flags.spaced (used ++ other) := by
  intro more hmore
  have hreplay := framed.replay (used.length + 1) other hends (Nat.lt_succ_self _)
  have hbrace : passes? flags.spaced false '{' = none := by cases flags.spaced <;> rfl
  rw [hmore, branchesFrom, readBranches_count (skip_cons hbrace more)] at hreplay
  obtain ⟨⟨count, left⟩, hcount, -⟩ := bind_eq_ok_iff.mp hreplay
  exact takeSpaced_of_readCount hcount

section Sign

variable {items' : List Item} {spacing behind left : List Char} {c : Char}

/-- A repetition, by a sign or by a number. -/
theorem Frames.repeat (spaced : Bool) (hspaced : spaced = true → flags.spaced = true)
    (framed : Frames (branchesFrom branches items' flags names) (dropLazy (skip spaced left)) part
      after used rest)
    (taken : List Char) (hne : taken ≠ []) (htext : text = taken ++ left)
    (htaken : ∀ fuel other, branchesFrom branches items flags names (fuel + 1) (taken ++ other) =
      branchesFrom branches items' flags names fuel (dropLazy (skip spaced other))) :
    ∃ used rest, Frames (branchesFrom branches items flags names) text part after used rest := by
  obtain ⟨used, rest, framed⟩ := framed.lazy hspaced
  exact ⟨_, _, framed.step taken hne htext fun fuel other _ _ ↦ htaken fuel (used ++ other)⟩

theorem Frames.repetition {least : Nat} {most : Option Nat}
    (hspacing : ∀ more, skip flags.spaced (spacing ++ c :: more) = c :: more)
    (hc : repetition? c = some (least, most)) (hitems : repeatLast least most items = .ok items')
    (framed : Frames (branchesFrom branches items' flags names) (dropLazy behind) part after used
      rest) :
    ∃ used rest, Frames (branchesFrom branches items flags names) (spacing ++ c :: behind) part
      after used rest := by
  refine framed.repeat false nofun (spacing ++ [c]) (by simp) (by simp) fun fuel other ↦ ?_
  rw [branchesFrom, List.append_assoc, List.singleton_append,
    readBranches_repetition (hspacing other) hc, hitems]
  rfl

theorem Frames.count {count : Nat × Option Nat}
    (hspacing : ∀ more, skip flags.spaced (spacing ++ '{' :: more) = '{' :: more)
    (hcount : readCount flags.spaced behind = .ok (count, left))
    (hitems : repeatLast count.1 count.2 items = .ok items')
    (framed : Frames (branchesFrom branches items' flags names)
      (dropLazy (skip flags.spaced left)) part after used rest) :
    ∃ used rest, Frames (branchesFrom branches items flags names) (spacing ++ '{' :: behind) part
      after used rest := by
  obtain ⟨digits, rfl, hdigits⟩ := readCount_isFramed _ _ _ hcount
  refine framed.repeat flags.spaced id (spacing ++ '{' :: digits) (by simp) (by simp)
    fun fuel other ↦ ?_
  rw [branchesFrom, List.append_assoc, List.cons_append, readBranches_count (hspacing _), hdigits]
  change (repeatLast count.1 count.2 items >>= fun items ↦
    readBranches fuel branches items ⟨dropLazy (skip flags.spaced other), flags, names⟩) = _
  rw [hitems]
  rfl

theorem Frames.bracket {bracket : Bracket}
    (hspacing : ∀ more, skip flags.spaced (spacing ++ '[' :: more) = '[' :: more)
    (hread : Bracket.read flags behind = .ok (bracket, left))
    (framed : Frames (branchesFrom branches (.part (.ofSet bracket) :: items) flags names) left part
      after used rest) :
    ∃ used, Frames (branchesFrom branches items flags names) (spacing ++ '[' :: behind) part after
      used rest := by
  obtain ⟨members, rfl, hmembers⟩ := Bracket.read_isFramed _ _ _ hread
  refine ⟨_, framed.step (spacing ++ '[' :: members) (by simp) (by simp) fun fuel other _ _ ↦ ?_⟩
  rw [branchesFrom, List.append_assoc, List.cons_append, readBranches_bracket (hspacing _),
    hmembers]
  rfl

theorem Frames.switches {switched : Flags}
    (hspacing : ∀ more, skip flags.spaced (spacing ++ '(' :: more) = '(' :: more)
    (hgroup : readGroup flags names behind = .ok (.switches switched, left))
    (framed : Frames (branchesFrom branches (.switches :: items) switched names) left part after
      used rest) :
    ∃ used, Frames (branchesFrom branches items flags names) (spacing ++ '(' :: behind) part after
      used rest := by
  obtain ⟨front, rfl, hfront⟩ := readGroup_eq_ok hgroup
  refine ⟨_, framed.step (spacing ++ '(' :: front) (by simp) (by simp) fun fuel other _ _ ↦ ?_⟩
  rw [branchesFrom, List.append_assoc, List.cons_append, readBranches_opening (hspacing _),
    hfront _ (.inl ⟨switched, rfl⟩)]
  rfl

/-- A group is closed by the bracket with which the reading of its content ends. -/
theorem Frames.group {captures : Bool} {inside : Flags} {within names' : List (List Char)}
    {inner : Part} {flags' : Flags} {content closing : List Char}
    (hspacing : ∀ more, skip flags.spaced (spacing ++ '(' :: more) = '(' :: more)
    (hgroup : readGroup flags names behind = .ok (.group captures inside within, left))
    (hinner : Frames (branchesFrom [] [] inside within) left inner ⟨')' :: text, flags', names'⟩
      content closing)
    (framed : Frames (branchesFrom branches (.part (inner.ofGroup captures) :: items) flags names')
      text part after used rest) :
    ∃ used, Frames (branchesFrom branches items flags names) (spacing ++ '(' :: behind) part after
      used rest := by
  obtain ⟨front, rfl, hfront⟩ := readGroup_eq_ok hgroup
  obtain ⟨gap, rfl, hgap⟩ := skip_eq_cons hinner.after_text.symm
  have hleft := hinner.text_eq
  subst hleft
  refine ⟨_, framed.step (spacing ++ '(' :: (front ++ (content ++ (gap ++ [')'])))) (by simp)
    (by simp) fun fuel other hfuel _ ↦ ?_⟩
  simp only [List.length_append, List.length_cons] at hfuel
  have hreplay := hinner.replay fuel (gap ++ ')' :: (used ++ other)) (.inr ⟨_, hgap _⟩) (by omega)
  have hhead : (content ++ (gap ++ ')' :: (used ++ other))).head? =
      (content ++ (gap ++ ')' :: text)).head? := by
    simp [List.head?_append]
  simp only [branchesFrom, List.append_assoc, List.cons_append, List.nil_append]
  rw [readBranches_opening (hspacing _), hfront _ (.inr hhead)]
  change (branchesFrom [] [] inside within fuel _ >>= _) = _
  rw [hreplay, hgap]
  rfl

theorem Frames.sign {expression : Expression}
    (hspacing : ∀ more, skip flags.spaced (spacing ++ c :: more) = c :: more)
    (hc : isOperator c = false) (hread : readSign flags (c :: behind) = .ok (expression, left))
    (framed : Frames (branchesFrom branches (.part ⟨expression, 0⟩ :: items) flags names) left part
      after used rest) :
    ∃ used, Frames (branchesFrom branches items flags names) (spacing ++ c :: behind) part after
      used rest := by
  obtain ⟨front, hne, hcons, hfront⟩ := readSign_eq_ok hread
  obtain ⟨d, front, rfl⟩ := List.exists_cons_of_ne_nil hne
  obtain ⟨rfl, rfl⟩ := List.cons.inj hcons
  refine ⟨_, framed.step (spacing ++ c :: front) (by simp) (by simp) fun fuel other _ hends ↦ ?_⟩
  have hread := hfront _ (framed.edgeEnds hends)
  rw [List.cons_append] at hread
  rw [branchesFrom, List.append_assoc, List.cons_append, readBranches_sign (hspacing _) hc, hread]
  rfl

end Sign

/-! ### Alternatives -/

theorem exists_frames_of_eq_ok {fuel : Nat}
    (h : branchesFrom branches items flags names fuel text = .ok (part, after)) :
    ∃ used rest, Frames (branchesFrom branches items flags names) text part after used rest := by
  induction fuel generalizing branches items flags names text part after with
  | zero => cases h
  | succ fuel ih =>
    rw [branchesFrom] at h
    cases hskip : skip flags.spaced text with
    | nil =>
      rw [readBranches_end (.inl hskip)] at h
      cases h
      exact ⟨[], text, frames_end (.inl hskip)⟩
    | cons c behind =>
      obtain ⟨spacing, rfl, hspacing⟩ := skip_eq_cons hskip
      by_cases hclose : c = ')'
      · subst hclose
        rw [readBranches_end (.inr ⟨behind, hskip⟩)] at h
        cases h
        exact ⟨[], _, frames_end (.inr ⟨behind, hskip⟩)⟩
      by_cases hbar : c = '|'
      · subst hbar
        rw [readBranches_bar hskip] at h
        obtain ⟨used, rest, framed⟩ := ih h
        refine ⟨_, _, framed.step (spacing ++ ['|']) (by simp) (by simp) fun fuel other _ _ ↦ ?_⟩
        rw [List.append_assoc]
        exact readBranches_bar (hspacing (used ++ other))
      cases hrepetition : repetition? c with
      | some count =>
        rw [readBranches_repetition hskip hrepetition] at h
        obtain ⟨items', hitems, hrest⟩ := bind_eq_ok_iff.mp h
        obtain ⟨used, rest, framed⟩ := ih hrest
        exact framed.repetition hspacing hrepetition hitems
      | none =>
        by_cases hbrace : c = '{'
        · subst hbrace
          rw [readBranches_count hskip] at h
          obtain ⟨⟨count, left⟩, hcount, hitems⟩ := bind_eq_ok_iff.mp h
          obtain ⟨items', hitems, hrest⟩ := bind_eq_ok_iff.mp hitems
          obtain ⟨used, rest, framed⟩ := ih hrest
          exact framed.count hspacing hcount hitems
        by_cases hbracket : c = '['
        · subst hbracket
          rw [readBranches_bracket hskip] at h
          obtain ⟨⟨bracket, left⟩, hread, hrest⟩ := bind_eq_ok_iff.mp h
          obtain ⟨used, rest, framed⟩ := ih hrest
          obtain ⟨used, framed⟩ := framed.bracket hspacing hread
          exact ⟨used, rest, framed⟩
        by_cases hopen : c = '('
        · subst hopen
          rw [readBranches_opening hskip] at h
          obtain ⟨⟨opening, left⟩, hgroup, hopened⟩ := bind_eq_ok_iff.mp h
          cases opening with
          | switches switched =>
            obtain ⟨used, rest, framed⟩ := ih hopened
            obtain ⟨used, framed⟩ := framed.switches hspacing hgroup
            exact ⟨used, rest, framed⟩
          | group captures inside within =>
            obtain ⟨⟨inner, ⟨closing, flags', names'⟩⟩, hinner, hclosed⟩ :=
              bind_eq_ok_iff.mp hopened
            dsimp only at hclosed
            split at hclosed
            · next outer =>
              obtain ⟨content, closing, hcontent⟩ := ih hinner
              obtain ⟨used, rest, framed⟩ := ih hclosed
              obtain ⟨used, framed⟩ := Frames.group hspacing hgroup hcontent framed
              exact ⟨used, rest, framed⟩
            · cases hclosed
        · have hsign : isOperator c = false := by
            simp [isOperator, hclose, hbar, hbrace, hbracket, hopen, hrepetition]
          rw [readBranches_sign hskip hsign] at h
          obtain ⟨⟨expression, left⟩, hread, hrest⟩ := bind_eq_ok_iff.mp h
          obtain ⟨used, rest, framed⟩ := ih hrest
          obtain ⟨used, framed⟩ := framed.sign hspacing hsign hread
          exact ⟨used, rest, framed⟩

end Frames

end FlowGraph.Regex
