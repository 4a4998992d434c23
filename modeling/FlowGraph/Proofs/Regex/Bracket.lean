import FlowGraph.Proofs.Regex.Atom
import FlowGraph.Regex.Bracket

/-!
A set in brackets is read from a beginning of the text, up to the bracket that closes it
(`Bracket.read_isFramed`). On the way there members, ranges and named sets are told apart by looking
further ahead, but not beyond a closing bracket: texts that are the same up to one are read alike
(`ClosesAlike`).
-/

set_option autoImplicit false
set_option relaxedAutoImplicit false

namespace FlowGraph.Regex

open Text (isBlankChar)
open Unicode (CharSet)

variable {spaced : Bool} {flags : Flags} {c : Char} {text other rest : List Char}

/-! ### Texts up to a closing bracket -/

/-- Whether two texts are the same up to some closing bracket. -/
def ClosesAlike (text other : List Char) : Prop :=
  ∃ shared behind behind', ']' ∈ shared ∧ text = shared ++ behind ∧ other = shared ++ behind'

namespace ClosesAlike

theorem of_mem {used : List Char} (h : ']' ∈ used) (behind behind' : List Char) :
    ClosesAlike (used ++ behind) (used ++ behind') :=
  ⟨used, behind, behind', h, rfl, rfl⟩

theorem append (h : ClosesAlike text other) (before : List Char) :
    ClosesAlike (before ++ text) (before ++ other) := by
  obtain ⟨shared, behind, behind', hclose, rfl, rfl⟩ := h
  exact ⟨before ++ shared, behind, behind', List.mem_append_right _ hclose, by simp, by simp⟩

theorem exists_cons (h : ClosesAlike text other) :
    ∃ c behind behind', text = c :: behind ∧ other = c :: behind' := by
  obtain ⟨shared, behind, behind', hclose, rfl, rfl⟩ := h
  obtain ⟨c, shared, rfl⟩ := List.exists_cons_of_ne_nil (List.ne_nil_of_mem hclose)
  exact ⟨c, shared ++ behind, shared ++ behind', rfl, rfl⟩

theorem tail (h : ClosesAlike (c :: text) (c :: other)) (hc : c ≠ ']') :
    ClosesAlike text other := by
  obtain ⟨shared, behind, behind', hclose, htext, hother⟩ := h
  obtain ⟨d, shared, rfl⟩ := List.exists_cons_of_ne_nil (List.ne_nil_of_mem hclose)
  obtain ⟨rfl, rfl⟩ := List.cons.inj htext
  obtain ⟨-, rfl⟩ := List.cons.inj hother
  exact of_mem ((List.mem_cons.mp hclose).resolve_left (Ne.symm hc)) behind behind'

theorem head? (h : ClosesAlike text other) : text.head? = other.head? := by
  obtain ⟨c, behind, behind', rfl, rfl⟩ := h.exists_cons
  rfl

end ClosesAlike

/-- Blanks in front of a closing bracket end in front of it. -/
theorem dropWhile_append_of_mem {shared : List Char} (h : ']' ∈ shared) (behind : List Char) :
    ∃ more, ']' ∈ more ∧ shared.dropWhile isBlankChar = more ∧
      (shared ++ behind).dropWhile isBlankChar = more ++ behind := by
  induction shared with
  | nil => cases h
  | cons c shared ih =>
    by_cases hblank : isBlankChar c
    · have hc : ']' ≠ c := by
        rintro rfl
        exact absurd hblank (by decide)
      obtain ⟨more, hclose, hshared, happend⟩ := ih ((List.mem_cons.mp h).resolve_left hc)
      exact ⟨more, hclose, by simpa [hblank] using hshared, by simpa [hblank] using happend⟩
    · exact ⟨c :: shared, h, by simp [hblank], by simp [hblank]⟩

/-- What a hyphen asks for stands in front of a closing bracket, or is it. -/
theorem peekSpaced_append {shared : List Char} (h : ']' ∈ shared) (behind : List Char) :
    peekSpaced spaced (shared ++ behind) = peekSpaced spaced shared := by
  have hhead : ∀ {list : List Char}, ']' ∈ list → (list ++ behind).head? = list.head? := by
    intro list hlist
    obtain ⟨c, list, rfl⟩ := List.exists_cons_of_ne_nil (List.ne_nil_of_mem hlist)
    rfl
  unfold peekSpaced
  cases spaced with
  | false => exact hhead h
  | true =>
    obtain ⟨more, hmore, hshared, happend⟩ := dropWhile_append_of_mem h behind
    rw [hshared, happend]
    obtain ⟨c, more, rfl⟩ := List.exists_cons_of_ne_nil (List.ne_nil_of_mem hmore)
    by_cases hsign : c = '#'
    · subst hsign
      have hmore : ']' ∈ more := (List.mem_cons.mp hmore).resolve_left (by decide)
      obtain ⟨more', hmore', hleft, hright⟩ := dropWhile_append_of_mem hmore behind
      simp [hleft, hright, hhead hmore', hhead h]
    · simp

theorem ClosesAlike.peekSpaced_eq (h : ClosesAlike text other) :
    peekSpaced spaced text = peekSpaced spaced other := by
  obtain ⟨shared, behind, behind', hclose, rfl, rfl⟩ := h
  rw [peekSpaced_append hclose, peekSpaced_append hclose]

namespace Bracket

/-! ### Members -/

theorem member_eq_ok {atom : Atom} {bracket : Bracket} (h : member flags atom = .ok bracket) :
    ¬ ∃ condition, atom = .assertion condition := by
  rintro ⟨condition, rfl⟩
  cases h

theorem range_eq_ok {first last : Atom} {bracket : Bracket}
    (h : range flags first last = .ok bracket) :
    (¬ ∃ condition, first = .assertion condition) ∧ ¬ ∃ condition, last = .assertion condition := by
  constructor
  · rintro ⟨condition, rfl⟩
    cases h
  · rintro ⟨condition, rfl⟩
    cases first <;> cases h

/-- Reads what stands behind the first atom of a member: the last one of a range, or nothing. -/
def readLast (flags : Flags) (first : Atom) (text : List Char) :
    Except Error (Bracket × List Char) :=
  match skip flags.spaced text with
  | '-' :: behind =>
    if peekSpaced flags.spaced behind = some ']' ∨ peekSpaced flags.spaced behind = some '-' then do
      return (← member flags first, '-' :: behind)
    else do
      let (last, rest) ← Atom.read flags (skip flags.spaced behind)
      return (← range flags first last, rest)
  | rest => do return (← member flags first, rest)

theorem readMember_eq (text : List Char) :
    readMember flags text =
      Atom.read flags text >>= fun (first, rest) ↦ readLast flags first rest := by
  rfl

theorem readLast_eq_ok {first : Atom} {bracket : Bracket}
    (h : readLast flags first text = .ok (bracket, rest)) :
    (¬ ∃ condition, first = .assertion condition) ∧
      ∃ used, text = used ++ rest ∧ ∀ other, ClosesAlike rest other →
        readLast flags first (used ++ other) = .ok (bracket, other) := by
  unfold readLast at h
  split at h
  · next behind hskip =>
    obtain ⟨spacing, rfl, hspacing⟩ := skip_eq_cons hskip
    split_ifs at h with hpeek
    · obtain ⟨found, hmember, h⟩ := bind_eq_ok_iff.mp h
      cases h
      refine ⟨member_eq_ok hmember, spacing, rfl, fun other hother ↦ ?_⟩
      obtain ⟨c, behind, behind', hcons, rfl⟩ := hother.exists_cons
      obtain ⟨rfl, rfl⟩ := List.cons.inj hcons
      rw [(hother.tail (by decide)).peekSpaced_eq] at hpeek
      rw [readLast, hspacing]
      simp only [if_pos hpeek, hmember]
      rfl
    · obtain ⟨⟨last, left⟩, hlast, hrest⟩ := bind_eq_ok_iff.mp h
      obtain ⟨found, hrange, hpair⟩ := bind_eq_ok_iff.mp hrest
      cases hpair
      obtain ⟨used, hne, hleft, hused⟩ := Atom.read_eq_ok hlast
      obtain ⟨c, used, rfl⟩ := List.exists_cons_of_ne_nil hne
      rw [List.cons_append] at hleft
      obtain ⟨spacing', rfl, hspacing'⟩ := skip_eq_cons hleft
      refine ⟨(range_eq_ok hrange).1, spacing ++ '-' :: (spacing' ++ c :: used), by simp,
        fun other hother ↦ ?_⟩
      have halike : ClosesAlike (spacing' ++ c :: (used ++ rest))
          (spacing' ++ c :: (used ++ other)) := by
        simpa using hother.append (spacing' ++ c :: used)
      rw [halike.peekSpaced_eq] at hpeek
      have hread := hused other fun hassertion ↦ absurd hassertion (range_eq_ok hrange).2
      simp only [List.append_assoc, List.cons_append] at hread ⊢
      rw [readLast, hspacing]
      simp only [if_neg hpeek, hspacing']
      exact bind_eq_ok_iff.mpr ⟨_, hread, bind_eq_ok_iff.mpr ⟨_, hrange, rfl⟩⟩
  · next hhyphen =>
    obtain ⟨found, hmember, hpair⟩ := bind_eq_ok_iff.mp h
    obtain ⟨rfl, hrest⟩ := Prod.mk.inj (Except.ok.inj hpair)
    refine ⟨member_eq_ok hmember, ?_⟩
    subst hrest
    cases hskip : skip flags.spaced text with
    | nil =>
      refine ⟨text, by simp, fun other hother ↦ ?_⟩
      obtain ⟨c, behind, behind', hcons, -⟩ := hother.exists_cons
      cases hcons
    | cons c behind =>
      obtain ⟨spacing, rfl, hspacing⟩ := skip_eq_cons hskip
      refine ⟨spacing, rfl, fun other hother ↦ ?_⟩
      obtain ⟨c, behind, behind', hcons, rfl⟩ := hother.exists_cons
      obtain ⟨rfl, rfl⟩ := List.cons.inj hcons
      rw [readLast, hspacing]
      split
      · next hnext => exact absurd (hskip.trans (by rw [(List.cons.inj hnext).1])) (hhyphen _)
      · exact bind_eq_ok_iff.mpr ⟨_, hmember, rfl⟩

theorem readMember_eq_ok {bracket : Bracket} (h : readMember flags text = .ok (bracket, rest)) :
    ∃ used, used ≠ [] ∧ text = used ++ rest ∧ ∀ other, ClosesAlike rest other →
      readMember flags (used ++ other) = .ok (bracket, other) := by
  rw [readMember_eq] at h
  obtain ⟨⟨first, left⟩, hfirst, hlast⟩ := bind_eq_ok_iff.mp h
  obtain ⟨used, hne, rfl, hused⟩ := Atom.read_eq_ok hfirst
  obtain ⟨hassertion, behind, rfl, hbehind⟩ := readLast_eq_ok hlast
  refine ⟨used ++ behind, by simp [hne], by simp, fun other hother ↦ ?_⟩
  rw [readMember_eq, List.append_assoc, hused _ fun condition ↦ absurd condition hassertion]
  exact hbehind other hother

/-! ### Named sets -/

theorem not_mem_of_mem_named : ∀ entry ∈ named, ']' ∉ entry.1.toList := by
  simp [named]

/-- Reads a name of a set, with the colon and the bracket behind it. -/
def readName? (negated : Bool) (text : List Char) : Option (Bool × CharSet × List Char) :=
  match text.dropWhile (· ≠ ':') with
  | ':' :: ']' :: behind =>
    (named.find? fun entry ↦ entry.1.toList = text.takeWhile (· ≠ ':')).map fun entry ↦
      (negated, entry.2, behind)
  | _ => none

theorem readName?_eq_some {asked negated : Bool} {set : CharSet}
    (h : readName? asked text = some (negated, set, rest)) :
    ∃ used, text = used ++ ':' :: ']' :: rest ∧ ']' ∉ used ∧
      ∀ other, readName? asked (used ++ ':' :: ']' :: other) = some (negated, set, other) := by
  unfold readName? at h
  split at h
  · next behind hdrop =>
    obtain ⟨entry, hfind, hentry⟩ := Option.map_eq_some_iff.mp h
    cases hentry
    have hmem := not_mem_of_mem_named entry (List.mem_of_find?_eq_some hfind)
    have hsame := List.find?_some hfind
    rw [of_decide_eq_true hsame] at hmem
    refine ⟨text.takeWhile (· ≠ ':'), ?_, hmem, fun other ↦ ?_⟩
    · rw [← hdrop, List.takeWhile_append_dropWhile]
    · obtain ⟨htake, hdropped⟩ := takeWhile_of_dropWhile_eq_cons hdrop (']' :: other)
      rw [readName?, hdropped, htake]
      simp only [hfind]
      rfl
  · cases h

theorem readNamed?_cons {text : List Char} (h : text.head? ≠ some '^') :
    readNamed? (':' :: text) = readName? false text := by
  unfold readNamed?
  split
  · next rest hcons =>
    obtain rfl : text = rest := (List.cons.inj hcons).2
    split
    next rest hcaret =>
    split at hcaret
    · exact absurd rfl h
    · cases hcaret
      rfl
  · next hcolon => exact absurd rfl (hcolon text)

theorem readNamed?_eq_some {negated : Bool} {set : CharSet}
    (h : readNamed? text = some (negated, set, rest)) :
    ∃ used, text = used ++ ']' :: rest ∧ ']' ∉ used ∧
      ∀ other, readNamed? (used ++ ']' :: other) = some (negated, set, other) := by
  obtain ⟨text, rfl⟩ : ∃ behind, text = ':' :: behind := by
    unfold readNamed? at h
    split at h
    · exact ⟨_, rfl⟩
    · cases h
  by_cases hcaret : text.head? = some '^'
  · obtain ⟨text, rfl⟩ := List.head?_eq_some_iff.mp hcaret
    replace h : readName? true text = some (negated, set, rest) := h
    obtain ⟨used, rfl, hclose, hused⟩ := readName?_eq_some h
    refine ⟨':' :: '^' :: used ++ [':'], by simp, by simpa using hclose, fun other ↦ ?_⟩
    rw [List.append_assoc]
    exact hused other
  · rw [readNamed?_cons hcaret] at h
    obtain ⟨used, rfl, hclose, hused⟩ := readName?_eq_some h
    refine ⟨':' :: used ++ [':'], by simp, by simpa using hclose, fun other ↦ ?_⟩
    rw [List.append_assoc, List.cons_append, readNamed?_cons]
    · exact hused other
    · cases used with
      | nil => nofun
      | cons c used => exact hcaret

/-- Without a name up to a closing bracket there is none. -/
theorem readNamed?_eq_none (h : readNamed? text = none) (alike : ClosesAlike text other) :
    readNamed? other = none := by
  cases hsome : readNamed? other with
  | none => rfl
  | some found =>
    obtain ⟨negated, set, rest⟩ := found
    exfalso
    obtain ⟨used, hother, hclose, hused⟩ := readNamed?_eq_some hsome
    obtain ⟨shared, behind, behind', hshared, rfl, rfl⟩ := alike
    rcases List.append_eq_append_iff.mp hother with ⟨more, rfl, -⟩ | ⟨more, rfl, hmore⟩
    · exact hclose (List.mem_append_left _ hshared)
    · cases more with
      | nil => exact hclose (by simpa using hshared)
      | cons c more =>
        obtain ⟨rfl, rfl⟩ := List.cons.inj hmore
        rw [List.append_assoc, List.cons_append, hused] at h
        cases h

/-! ### Brackets -/

/-- Reads the hyphens that stand for themselves at the beginning of a set, or a closing bracket that
does. -/
def readHyphens (spaced : Bool) (text : List Char) : List Bracket × List Char :=
  match takeSpaced spaced (· = '-') false text with
  | ([], ']' :: rest) => ([single (.singleton ']')], rest)
  | (hyphens, rest) => (hyphens.map fun c ↦ single (.singleton c), rest)

theorem readHyphens_eq {first : List Bracket} (h : readHyphens spaced text = (first, c :: rest)) :
    ∃ used, text = used ++ c :: rest ∧
      ∀ more, readHyphens spaced (used ++ c :: more) = (first, c :: more) := by
  unfold readHyphens at h
  split at h
  · next behind htake =>
    cases h
    obtain ⟨used, rfl, hused⟩ := takeSpaced_eq_cons htake
    refine ⟨used ++ [']'], by simp, fun more ↦ ?_⟩
    rw [readHyphens, List.append_assoc, List.singleton_append, hused]
    rfl
  · next hyphens behind hclose htake =>
    cases h
    obtain ⟨used, rfl, hused⟩ := takeSpaced_eq_cons htake
    refine ⟨used, rfl, fun more ↦ ?_⟩
    rw [readHyphens, hused]
    split
    · next htaken =>
      obtain ⟨rfl, hcons⟩ := Prod.mk.inj htaken
      rw [(List.cons.inj hcons).1] at hclose
      exact absurd rfl (hclose _ rfl)
    · next htaken =>
      cases htaken
      rfl

/-- Reads the caret in front of a set. -/
def takeCaret : List Char → Bool × List Char
  | '^' :: rest => (true, rest)
  | text => (false, text)

theorem takeCaret_cons (hc : c ≠ '^') : takeCaret (c :: rest) = (false, c :: rest) := by
  unfold takeCaret
  split
  · next hcons => exact absurd (List.cons.inj hcons).1 hc
  · rfl

theorem readOpening_of_takeCaret {negated : Bool} {left : List Char}
    (h : takeCaret (skip flags.spaced text) = (negated, left)) :
    readOpening flags text =
      match takeSpaced flags.spaced (· = '-') false left with
      | ([], ']' :: rest) => (negated, [single (.singleton ']')], rest)
      | (hyphens, rest) => (negated, hyphens.map fun c ↦ single (.singleton c), rest) := by
  obtain ⟨rfl, rfl⟩ := Prod.mk.inj h
  rfl

theorem readOpening_eq (text : List Char) :
    readOpening flags text =
      ((takeCaret (skip flags.spaced text)).1,
        readHyphens flags.spaced (takeCaret (skip flags.spaced text)).2) := by
  rcases hcaret : takeCaret (skip flags.spaced text) with ⟨negated, left⟩
  rw [readOpening_of_takeCaret hcaret, readHyphens]
  rcases takeSpaced flags.spaced (· = '-') false left with
    ⟨_ | ⟨hyphen, hyphens⟩, _ | ⟨c, rest⟩⟩
  · rfl
  · by_cases hc : c = ']' <;> simp [hc]
  · rfl
  · rfl

theorem readOpening_eq_cons {negated : Bool} {first : List Bracket}
    (h : readOpening flags text = (negated, first, c :: rest)) :
    ∃ used, text = used ++ c :: rest ∧
      ∀ more, readOpening flags (used ++ c :: more) = (negated, first, c :: more) := by
  rw [readOpening_eq] at h
  obtain ⟨rfl, hhyphens⟩ := Prod.mk.inj h
  cases hskip : skip flags.spaced text with
  | nil =>
    rw [hskip] at hhyphens
    cases hhyphens
  | cons d left =>
    rw [hskip] at hhyphens
    obtain ⟨spacing, rfl, hspacing⟩ := skip_eq_cons hskip
    by_cases hd : d = '^'
    · subst hd
      obtain ⟨used, hleft, hused⟩ := readHyphens_eq hhyphens
      replace hleft : left = used ++ c :: rest := hleft
      subst hleft
      refine ⟨spacing ++ '^' :: used, by simp, fun more ↦ ?_⟩
      rw [readOpening_eq, List.append_assoc, List.cons_append, hspacing]
      exact congrArg (Prod.mk true) (hused more)
    · rw [takeCaret_cons hd] at hhyphens ⊢
      obtain ⟨used, hleft, hused⟩ := readHyphens_eq hhyphens
      replace hleft : d :: left = used ++ c :: rest := hleft
      refine ⟨spacing ++ used, by rw [hleft, List.append_assoc], fun more ↦ ?_⟩
      obtain ⟨behind, hbehind⟩ := exists_cons_append hleft more
      rw [readOpening_eq, List.append_assoc, hbehind, hspacing, takeCaret_cons hd, ← hbehind, hused]

section Body

variable {fuel : Nat} {pending : Pending} {members : List Bracket}

/-- Neither a bracket nor an operator, so a member. -/
theorem readBody_member (hskip : skip flags.spaced text = c :: rest) (hclose : c ≠ ']')
    (hopen : c ≠ '[') (hsingle : c = '&' ∨ c = '-' ∨ c = '~' → rest.head? ≠ some c) :
    readBody flags (fuel + 1) pending members text =
      readMember flags (c :: rest) >>= fun (member, rest) ↦
        readBody flags fuel pending (member :: members) rest := by
  rw [readBody, hskip]
  split <;> simp_all

theorem readBody_named {negated : Bool} {set : CharSet} {behind : List Char}
    (hskip : skip flags.spaced text = '[' :: behind)
    (hnamed : readNamed? behind = some (negated, set, rest)) :
    readBody flags (fuel + 1) pending members text =
      Atom.signed flags negated (Atom.closeCase flags set) >>= fun set ↦
        readBody flags fuel pending (single set :: members) rest := by
  rw [readBody, hskip]
  simp only [hnamed]

theorem readBody_nested {behind : List Char} (hskip : skip flags.spaced text = '[' :: behind)
    (hnamed : readNamed? behind = none) :
    readBody flags (fuel + 1) pending members text =
      readBody flags fuel none (readOpening flags behind).2.1 (readOpening flags behind).2.2 >>=
        fun (inner, rest) ↦ enclose flags (readOpening flags behind).1 inner >>= fun member ↦
          readBody flags fuel pending (member :: members) rest := by
  rw [readBody, hskip]
  simp only [hnamed]

theorem readBody_operator (pending : Pending) (members : List Bracket)
    (hoperator : c = '&' ∨ c = '-' ∨ c = '~') :
    ∃ operation, ∀ text rest fuel, skip flags.spaced text = c :: c :: rest →
      readBody flags (fuel + 1) pending members text =
        readBody flags fuel (some (operation, close flags pending members)) [] rest := by
  rcases hoperator with rfl | rfl | rfl
  · exact ⟨.intersection, fun _ _ _ hskip ↦ by rw [readBody, hskip]; rfl⟩
  · exact ⟨.difference, fun _ _ _ hskip ↦ by rw [readBody, hskip]; rfl⟩
  · exact ⟨.symmetricDifference, fun _ _ _ hskip ↦ by rw [readBody, hskip]; rfl⟩

/-- Whether a set is read from a beginning of a text, up to the bracket that closes it, with as much
fuel as that beginning is long. -/
def FramesBody (flags : Flags) (pending : Pending) (members : List Bracket) (text : List Char)
    (bracket : Bracket) (rest : List Char) : Prop :=
  ∃ used, ']' ∈ used ∧ text = used ++ rest ∧ ∀ fuel other, used.length ≤ fuel →
    readBody flags fuel pending members (used ++ other) = .ok (bracket, other)

/-- What one step takes off the text stands in front of what all further steps take. -/
theorem FramesBody.step {pending' : Pending} {members' : List Bracket} {left : List Char}
    {bracket : Bracket} (framed : FramesBody flags pending' members' left bracket rest)
    (taken : List Char) (hne : taken ≠ []) (htext : text = taken ++ left)
    (htaken : ∀ fuel other, taken.length ≤ fuel + 1 → ClosesAlike left other →
      readBody flags (fuel + 1) pending members (taken ++ other) =
        readBody flags fuel pending' members' other) :
    FramesBody flags pending members text bracket rest := by
  obtain ⟨used, hclose, rfl, hused⟩ := framed
  refine ⟨taken ++ used, List.mem_append_right _ hclose, by rw [htext, List.append_assoc],
    fun fuel other hfuel ↦ ?_⟩
  have hlength := List.length_pos_iff.mpr hne
  rw [List.length_append] at hfuel
  obtain ⟨fuel, rfl⟩ := Nat.exists_eq_add_of_le' (show 1 ≤ fuel by omega)
  rw [List.append_assoc, htaken fuel (used ++ other) (by omega) (.of_mem hclose rest other)]
  exact hused fuel other (by omega)

section Piece

variable {bracket : Bracket} {spacing behind left : List Char}

theorem framesBody_close
    (hspacing : ∀ more, skip flags.spaced (spacing ++ ']' :: more) = ']' :: more) :
    FramesBody flags pending members (spacing ++ ']' :: rest) (close flags pending members)
      rest := by
  refine ⟨spacing ++ [']'], by simp, by simp, fun fuel other hfuel ↦ ?_⟩
  rw [List.length_append, List.length_singleton] at hfuel
  obtain ⟨fuel, rfl⟩ := Nat.exists_eq_add_of_le' (show 1 ≤ fuel by omega)
  rw [List.append_assoc, List.singleton_append, readBody, hspacing]
  rfl

theorem FramesBody.named {negated : Bool} {set signed : CharSet}
    (hspacing : ∀ more, skip flags.spaced (spacing ++ '[' :: more) = '[' :: more)
    (hnamed : readNamed? behind = some (negated, set, left))
    (hsigned : Atom.signed flags negated (Atom.closeCase flags set) = .ok signed)
    (framed : FramesBody flags pending (single signed :: members) left bracket rest) :
    FramesBody flags pending members (spacing ++ '[' :: behind) bracket rest := by
  obtain ⟨used, rfl, -, hused⟩ := readNamed?_eq_some hnamed
  refine framed.step (spacing ++ '[' :: used ++ [']']) (by simp) (by simp) fun fuel other _ _ ↦ ?_
  rw [List.append_assoc, List.singleton_append, List.append_assoc, List.cons_append,
    readBody_named (hspacing _) (hused other), hsigned]
  rfl

/-- A set within a set is closed by a bracket of its own. -/
theorem FramesBody.nested {negated : Bool} {first : List Bracket} {content : List Char}
    {inner member : Bracket}
    (hspacing : ∀ more, skip flags.spaced (spacing ++ '[' :: more) = '[' :: more)
    (hnamed : readNamed? behind = none)
    (hopening : readOpening flags behind = (negated, first, content))
    (hinner : FramesBody flags none first content inner left)
    (hmember : enclose flags negated inner = .ok member)
    (framed : FramesBody flags pending (member :: members) left bracket rest) :
    FramesBody flags pending members (spacing ++ '[' :: behind) bracket rest := by
  obtain ⟨within, hclose, rfl, hwithin⟩ := hinner
  obtain ⟨c, within, rfl⟩ := List.exists_cons_of_ne_nil (List.ne_nil_of_mem hclose)
  rw [List.cons_append] at hopening
  obtain ⟨used, rfl, hused⟩ := readOpening_eq_cons hopening
  refine framed.step (spacing ++ '[' :: (used ++ c :: within)) (by simp) (by simp)
    fun fuel other hfuel _ ↦ ?_
  -- the closing bracket of the inner set stands in both texts, so neither has a name up to it
  have hnone : readNamed? (used ++ c :: (within ++ other)) = none := by
    refine readNamed?_eq_none hnamed ?_
    simpa using (ClosesAlike.of_mem hclose left other).append used
  simp only [List.length_append, List.length_cons] at hfuel
  have hinner := hwithin fuel other (by rw [List.length_cons]; omega)
  simp only [List.append_assoc, List.cons_append] at hinner ⊢
  simp only [readBody_nested (hspacing _) hnone, hused, hinner]
  change (enclose flags negated inner >>= fun member ↦
    readBody flags fuel pending (member :: members) other) = _
  rw [hmember]
  rfl

theorem FramesBody.member {member : Bracket}
    (hspacing : ∀ more, skip flags.spaced (spacing ++ c :: more) = c :: more) (hclose : c ≠ ']')
    (hopen : c ≠ '[') (hsingle : c = '&' ∨ c = '-' ∨ c = '~' → behind.head? ≠ some c)
    (hmember : readMember flags (c :: behind) = .ok (member, left))
    (framed : FramesBody flags pending (member :: members) left bracket rest) :
    FramesBody flags pending members (spacing ++ c :: behind) bracket rest := by
  obtain ⟨used, hne, hcons, hused⟩ := readMember_eq_ok hmember
  obtain ⟨d, used, rfl⟩ := List.exists_cons_of_ne_nil hne
  obtain ⟨rfl, rfl⟩ := List.cons.inj hcons
  refine framed.step (spacing ++ c :: used) (by simp) (by simp) fun fuel other _ alike ↦ ?_
  have hread := hused other alike
  rw [List.cons_append] at hread
  -- what stands behind the member may be the second sign of an operator
  have hsingle : c = '&' ∨ c = '-' ∨ c = '~' → (used ++ other).head? ≠ some c :=
    fun hsign hhead ↦ hsingle hsign ((alike.append used).head?.trans hhead)
  rw [List.append_assoc, List.cons_append, readBody_member (hspacing _) hclose hopen hsingle, hread]
  rfl

end Piece

/-- The induction is on the fuel: one piece is taken off the text by each step, and a set within the
set by a reading of its own with the fuel that is left. -/
theorem framesBody_of_eq_ok {bracket : Bracket}
    (h : readBody flags fuel pending members text = .ok (bracket, rest)) :
    FramesBody flags pending members text bracket rest := by
  induction fuel generalizing pending members text bracket rest with
  | zero => cases h
  | succ fuel ih =>
    cases hskip : skip flags.spaced text with
    | nil =>
      rw [readBody, hskip] at h
      cases h
    | cons c behind =>
      obtain ⟨spacing, rfl, hspacing⟩ := skip_eq_cons hskip
      by_cases hclose : c = ']'
      · subst hclose
        rw [readBody, hskip] at h
        cases h
        exact framesBody_close hspacing
      by_cases hopen : c = '['
      · subst hopen
        cases hnamed : readNamed? behind with
        | some found =>
          obtain ⟨negated, set, left⟩ := found
          rw [readBody_named hskip hnamed] at h
          obtain ⟨signed, hsigned, hrest⟩ := bind_eq_ok_iff.mp h
          exact (ih hrest).named hspacing hnamed hsigned
        | none =>
          rw [readBody_nested hskip hnamed] at h
          rcases hopening : readOpening flags behind with ⟨negated, first, content⟩
          simp only [hopening] at h
          obtain ⟨⟨inner, left⟩, hinner, hclosed⟩ := bind_eq_ok_iff.mp h
          obtain ⟨member, hmember, hrest⟩ := bind_eq_ok_iff.mp hclosed
          exact (ih hinner).nested hspacing hnamed hopening hmember (ih hrest)
      by_cases hoperator : (c = '&' ∨ c = '-' ∨ c = '~') ∧ behind.head? = some c
      · obtain ⟨hsign, hhead⟩ := hoperator
        obtain ⟨behind, rfl⟩ := List.head?_eq_some_iff.mp hhead
        obtain ⟨operation, hread⟩ := readBody_operator pending members hsign
        rw [hread _ _ _ hskip] at h
        refine (ih h).step (spacing ++ [c, c]) (by simp) (by simp) fun fuel other _ _ ↦ ?_
        rw [List.append_assoc]
        exact hread _ _ _ (hspacing (c :: other))
      · have hsingle : c = '&' ∨ c = '-' ∨ c = '~' → behind.head? ≠ some c :=
          fun hsign hhead ↦ hoperator ⟨hsign, hhead⟩
        rw [readBody_member hskip hclose hopen hsingle] at h
        obtain ⟨⟨member, left⟩, hmember, hrest⟩ := bind_eq_ok_iff.mp h
        exact (ih hrest).member hspacing hclose hopen hsingle hmember

end Body

theorem read_isFramed : IsFramed (read flags) := by
  intro text bracket rest h
  rcases hopening : readOpening flags text with ⟨negated, first, content⟩
  have hread : ∀ text content, readOpening flags text = (negated, first, content) →
      read flags text =
        readBody flags (content.length + 1) none first content >>= fun (inner, rest) ↦
          enclose flags negated inner >>= fun found ↦ pure (found, rest) := by
    intro text content hopening
    simp only [read, hopening]
  rw [hread _ _ hopening] at h
  obtain ⟨⟨inner, left⟩, hinner, hclosed⟩ := bind_eq_ok_iff.mp h
  obtain ⟨found, hfound, hpair⟩ := bind_eq_ok_iff.mp hclosed
  cases hpair
  obtain ⟨within, hclose, rfl, hwithin⟩ := framesBody_of_eq_ok hinner
  obtain ⟨c, within, rfl⟩ := List.exists_cons_of_ne_nil (List.ne_nil_of_mem hclose)
  rw [List.cons_append] at hopening
  obtain ⟨used, rfl, hused⟩ := readOpening_eq_cons hopening
  refine ⟨used ++ c :: within, by simp, fun other ↦ ?_⟩
  have hinner := hwithin ((c :: within ++ other).length + 1) other (by simp; omega)
  simp only [List.append_assoc, List.cons_append] at hinner ⊢
  rw [hread _ _ (hused _)]
  exact bind_eq_ok_iff.mpr ⟨(inner, other), hinner, bind_eq_ok_iff.mpr ⟨_, hfound, rfl⟩⟩

end Bracket

end FlowGraph.Regex
