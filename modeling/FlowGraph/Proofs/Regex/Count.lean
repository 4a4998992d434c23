import FlowGraph.Proofs.Regex.Atom
import FlowGraph.Regex.Pattern

/-!
Numbers of repetitions in braces. They are read from a beginning of the text
(`readCount_isFramed`), and what is read as such a number is no name of an edge
(`takeSpaced_of_readCount`): it begins with a digit.
-/

set_option autoImplicit false
set_option relaxedAutoImplicit false

namespace FlowGraph.Regex

open Text (isBlankChar)

variable {spaced : Bool} {c : Char} {text rest : List Char} {number : Option Nat}

/-! ### Numbers -/

theorem readNumber_eq_cons (h : readNumber spaced text = (number, c :: rest)) :
    ∃ used, text = used ++ c :: rest ∧
      ∀ more, readNumber spaced (used ++ c :: more) = (number, c :: more) := by
  rcases htake : takeSpaced spaced Char.isDigit false (text.dropWhile isBlankChar) with
    ⟨digits, left⟩
  have hread : ∀ {text left}, takeSpaced spaced Char.isDigit false (text.dropWhile isBlankChar) =
      (digits, left) → readNumber spaced text = (number? digits, left.dropWhile isBlankChar) := by
    intro text left htake
    rw [readNumber, htake]
  rw [hread htake] at h
  obtain ⟨rfl, hleft⟩ := Prod.mk.inj h
  obtain ⟨blanks, rfl, hblanks⟩ := dropWhile_eq_cons hleft
  obtain ⟨d, left, hd⟩ : ∃ d left, blanks ++ c :: rest = d :: left :=
    List.exists_cons_of_ne_nil (by simp)
  rw [hd] at htake
  obtain ⟨taken, hdigits, htaken⟩ := takeSpaced_eq_cons htake
  obtain ⟨e, front, he⟩ : ∃ e front, text.dropWhile isBlankChar = e :: front :=
    List.exists_cons_of_ne_nil (by rw [hdigits]; simp)
  obtain ⟨before, rfl, hbefore⟩ := dropWhile_eq_cons he
  rw [he] at hdigits
  refine ⟨before ++ (taken ++ blanks), ?_, fun more ↦ ?_⟩
  · rw [hdigits, ← hd]
    simp
  · obtain ⟨left', hleft'⟩ := exists_cons_append hd.symm more
    obtain ⟨front', hfront'⟩ := exists_cons_append hdigits left'
    have htake : takeSpaced spaced Char.isDigit false
        ((before ++ (taken ++ blanks) ++ c :: more).dropWhile isBlankChar) =
          (digits, blanks ++ c :: more) := by
      rw [List.append_assoc, List.append_assoc, hleft', hfront', hbefore, ← hfront', htaken]
    rw [hread htake, hblanks]

/-- Spacing in front of a number is read with it. -/
theorem readNumber_skip_eq_cons (h : readNumber spaced (skip spaced text) = (number, c :: rest)) :
    ∃ used, text = used ++ c :: rest ∧
      ∀ more, readNumber spaced (skip spaced (used ++ c :: more)) = (number, c :: more) := by
  obtain ⟨taken, htext, htaken⟩ := readNumber_eq_cons h
  obtain ⟨d, left, hd⟩ : ∃ d left, skip spaced text = d :: left :=
    List.exists_cons_of_ne_nil (by rw [htext]; simp)
  rw [hd] at htext
  obtain ⟨spacing, rfl, hspacing⟩ := skip_eq_cons hd
  refine ⟨spacing ++ taken, by rw [htext, List.append_assoc], fun more ↦ ?_⟩
  obtain ⟨left', hleft'⟩ := exists_cons_append htext more
  rw [List.append_assoc, hleft', hspacing, ← hleft', htaken]

/-- A number begins with a blank or a digit. -/
theorem blank_or_digit_of_readNumber {n : Nat} (h : (readNumber spaced (c :: rest)).1 = some n)
    (hpass : passes? spaced false c = none) : isBlankChar c = true ∨ c.isDigit = true := by
  by_cases hblank : isBlankChar c = true
  · exact .inl hblank
  · refine .inr ?_
    cases hdigit : c.isDigit with
    | true => rfl
    | false =>
      have htake : takeSpaced spaced Char.isDigit false (c :: rest) = ([], c :: rest) := by
        rw [takeSpaced_cons, hpass]
        simp [hdigit]
      rw [readNumber, List.dropWhile_cons_of_neg hblank, htake] at h
      cases h

/-! ### Counts -/

/-- Reads the greatest number of repetitions behind the comma. -/
def readMost (spaced : Bool) (least : Nat) (text : List Char) :
    Except Error ((Nat × Option Nat) × List Char) :=
  match skip spaced text with
  | '}' :: rest => .ok ((least, none), rest)
  | text =>
    match readNumber spaced text with
    | (some most, '}' :: rest) =>
      if most < least then .error .count else .ok ((least, some most), rest)
    | _ => .error .count

theorem readCount_eq (text : List Char) :
    readCount spaced text =
      match readNumber spaced (skip spaced text) with
      | (some least, '}' :: rest) => .ok ((least, some least), rest)
      | (some least, ',' :: rest) => readMost spaced least rest
      | _ => .error .count := by
  rw [readCount]
  rcases readNumber spaced (skip spaced text) with ⟨_ | least, _ | ⟨d, rest⟩⟩
  · rfl
  · rfl
  · rfl
  · by_cases hclose : d = '}'
    · subst hclose
      rfl
    · by_cases hcomma : d = ','
      · subst hcomma
        cases hskip : skip spaced rest with
        | nil => simp [readMost, hskip, readNumber, takeSpaced, number?]; rfl
        | cons e behind =>
          by_cases hbrace : e = '}'
          · simp [readMost, hskip, hbrace]; rfl
          · rcases hmost : readNumber spaced (e :: behind) with ⟨_ | most, _ | ⟨f, left⟩⟩
            · simp [readMost, hskip, hbrace, hmost]; rfl
            · simp [readMost, hskip, hbrace, hmost]; rfl
            · simp [readMost, hskip, hbrace, hmost]; rfl
            · by_cases hf : f = '}' <;> simp [readMost, hskip, hbrace, hmost, hf] <;> rfl
      · simp [hclose, hcomma]
        rfl

theorem readMost_isFramed {least : Nat} : IsFramed (readMost spaced least) := by
  intro text count rest h
  unfold readMost at h
  split at h
  · next behind hskip =>
    cases h
    obtain ⟨spacing, rfl, hspacing⟩ := skip_eq_cons hskip
    refine ⟨spacing ++ ['}'], by simp, fun other ↦ ?_⟩
    rw [readMost, List.append_assoc, List.singleton_append, hspacing]
    rfl
  · next hbrace =>
    split at h
    · next most behind hnumber =>
      obtain ⟨used, rfl, hused⟩ := readNumber_skip_eq_cons hnumber
      split_ifs at h with hless
      cases h
      refine ⟨used ++ ['}'], by simp, fun other ↦ ?_⟩
      rw [readMost, List.append_assoc, List.singleton_append]
      split
      · next hskip =>
        have hsome := congrArg Prod.fst (hused other)
        rw [hskip] at hsome
        have hpass := passes?_of_skip_eq_cons hskip
        exact absurd (blank_or_digit_of_readNumber hsome hpass) (by decide)
      · rw [hused]
        simp [hless]
    · cases h

theorem readCount_isFramed : IsFramed (readCount spaced) := by
  intro text count rest h
  rw [readCount_eq] at h
  split at h
  · next least behind hnumber =>
    cases h
    obtain ⟨used, rfl, hused⟩ := readNumber_skip_eq_cons hnumber
    refine ⟨used ++ ['}'], by simp, fun other ↦ ?_⟩
    rw [readCount_eq, List.append_assoc, List.singleton_append, hused]
    rfl
  · next least behind hnumber =>
    obtain ⟨used, rfl, hused⟩ := readNumber_skip_eq_cons hnumber
    obtain ⟨most, rfl, hmost⟩ := readMost_isFramed _ _ _ h
    refine ⟨used ++ ',' :: most, by simp, fun other ↦ ?_⟩
    rw [readCount_eq, List.append_assoc, List.cons_append, hused]
    exact hmost other
  · cases h

/-! ### Counts and the names of edges -/

theorem toNat_of_isEdgeLetter (h : Atom.isEdgeLetter c = true) :
    c.toNat = 0x2D ∨ 0x41 ≤ c.toNat ∧ c.toNat ≤ 0x5A ∨ 0x61 ≤ c.toNat ∧ c.toNat ≤ 0x7A := by
  rw [Atom.isEdgeLetter, Bool.or_eq_true] at h
  rcases h with hletter | hhyphen
  · rcases Bool.or_eq_true_iff.mp hletter with hupper | hlower
    · exact .inr (.inl (of_decide_eq_true hupper))
    · obtain ⟨hleast, hgreatest⟩ := Bool.and_eq_true_iff.mp hlower
      exact .inr (.inr ⟨of_decide_eq_true hleast, of_decide_eq_true hgreatest⟩)
  · rw [of_decide_eq_true hhyphen]
    exact .inl rfl

theorem toNat_of_isDigit (h : c.isDigit = true) : 0x30 ≤ c.toNat ∧ c.toNat ≤ 0x39 := by
  obtain ⟨hleast, hgreatest⟩ := Bool.and_eq_true_iff.mp h
  exact ⟨of_decide_eq_true hleast, of_decide_eq_true hgreatest⟩

theorem isEdgeLetter_eq_false_of_blank (h : isBlankChar c = true) :
    Atom.isEdgeLetter c = false := by
  refine Bool.eq_false_iff.mpr fun hletter ↦ ?_
  have hbounds := toNat_of_isEdgeLetter hletter
  simp only [isBlankChar, Text.blankRanges, List.any_cons, List.any_nil, Bool.or_eq_true,
    Bool.and_eq_true, decide_eq_true_eq, Bool.false_eq_true, or_false] at h
  omega

theorem isEdgeLetter_eq_false_of_digit (h : c.isDigit = true) : Atom.isEdgeLetter c = false := by
  refine Bool.eq_false_iff.mpr fun hletter ↦ ?_
  have hbounds := toNat_of_isEdgeLetter hletter
  have hdigit := toNat_of_isDigit h
  omega

/-- A brace in front of a number of repetitions holds no letter of a name. -/
theorem takeSpaced_of_readCount {count : Nat × Option Nat}
    (h : readCount spaced text = .ok (count, rest)) :
    ∃ c behind, takeSpaced spaced Atom.isEdgeLetter false text = ([], c :: behind) := by
  obtain ⟨n, hn⟩ : ∃ n, (readNumber spaced (skip spaced text)).1 = some n := by
    rw [readCount_eq] at h
    split at h
    · next hnumber => exact ⟨_, by rw [hnumber]⟩
    · next hnumber => exact ⟨_, by rw [hnumber]⟩
    · cases h
  cases hskip : skip spaced text with
  | nil =>
    rw [hskip] at hn
    cases hn
  | cons c behind =>
    rw [hskip] at hn
    have hpass := passes?_of_skip_eq_cons hskip
    have hletter : Atom.isEdgeLetter c = false :=
      (blank_or_digit_of_readNumber hn hpass).elim isEdgeLetter_eq_false_of_blank
        isEdgeLetter_eq_false_of_digit
    refine ⟨c, behind, ?_⟩
    rw [← takeSpaced_skip, hskip, takeSpaced_cons, hpass]
    simp [hletter]

end FlowGraph.Regex
