import FlowGraph.Proofs.Regex.Account
import FlowGraph.Proofs.Regex.Matching
import FlowGraph.Proofs.Regex.Pattern
import FlowGraph.Regex

/-!
The engine that reads patterns into trees has an account (`account`), whatever reasons it gives and
whatever limits it keeps. A text of a group and anchors is read item by item (`ReadsAs`), and the
group holds what its pattern is read as alone, so that alternatives, brackets and flags in it stay
in the group, unless it ends within a comment (`closes_or_opensComment`).
-/

set_option autoImplicit false
set_option relaxedAutoImplicit false

namespace FlowGraph.Regex

variable {pattern text : String} {part : Part} {items : List Item}

/-! ### Comments at the end -/

/-- Whether a text ends within a comment: what is put behind it on the same line is not read. Of
texts that are patterns this holds for no other reason. -/
def EndsInComment (text : String) : Prop :=
  ∀ more : String, '\n' ∉ more.toList → readPattern (text ++ more) = readPattern text

theorem length_le_append (text more : String) :
    text.toList.length ≤ (text ++ more).toList.length := by
  rw [String.toList_append, List.length_append]
  exact Nat.le_add_right _ _

/-- Where nothing is open, a bracket is what comes next. -/
theorem skip_bracket {spaced : Bool} {rest : List Char}
    (closed : ∀ other, skip spaced (rest ++ other) = skip spaced other) (other : List Char) :
    skip spaced (rest ++ ')' :: other) = ')' :: other := by
  rw [closed]
  exact skip_cons (by cases spaced <;> rfl) other

/-- Reading a text to its end, with as much fuel as it is long, frames what is read of it. -/
theorem exists_frames_of_readPattern (h : readPattern pattern = .ok part) :
    ∃ progress used rest, skip progress.flags.spaced rest = [] ∧
      Frames (branchesFrom [] [] {} []) pattern.toList part progress used rest := by
  obtain ⟨⟨found, progress⟩, hread, hpart⟩ := bind_eq_ok_iff.mp h
  dsimp only at hpart
  split_ifs at hpart with hend
  cases hpart
  obtain ⟨used, rest, framed⟩ := exists_frames_of_eq_ok hread
  exact ⟨progress, used, rest, framed.after_text.symm.trans (List.isEmpty_iff.mp hend), framed⟩

/-- What is read of a pattern is read of it in front of any text with which a group ends. -/
theorem readBranches_append {progress : Progress} {used rest : List Char}
    (framed : Frames (branchesFrom [] [] {} []) pattern.toList part progress used rest)
    {fuel : Nat} (hfuel : pattern.toList.length < fuel) {other : List Char}
    (hends : EndsGroup progress.flags.spaced (rest ++ other)) :
    readBranches fuel [] [] ⟨pattern.toList ++ other, {}, []⟩ =
      .ok (part, { progress with text := skip progress.flags.spaced (rest ++ other) }) := by
  have hlength := congrArg List.length framed.text_eq
  rw [List.length_append] at hlength
  have hreplay := framed.replay fuel (rest ++ other) hends (by omega)
  rwa [← List.append_assoc, ← framed.text_eq] at hreplay

theorem readPattern_append {progress : Progress} {used rest : List Char}
    (framed : Frames (branchesFrom [] [] {} []) pattern.toList part progress used rest)
    {more : String} (hends : EndsGroup progress.flags.spaced (rest ++ more.toList)) :
    readPattern (pattern ++ more) =
      if (skip progress.flags.spaced (rest ++ more.toList)).isEmpty then .ok part
      else .error .groupUnopened := by
  have hfuel := Nat.lt_succ_of_le (length_le_append pattern more)
  have hread := readBranches_append framed hfuel hends
  rw [← String.toList_append] at hread
  change (readBranches _ [] [] ⟨(pattern ++ more).toList, {}, []⟩ >>= _) = _
  rw [hread]
  rfl

/-- A pattern ends within a comment, or nothing is open where it ends. -/
theorem closes_or_opensComment (h : readPattern pattern = .ok part) :
    ∃ progress used rest, skip progress.flags.spaced rest = [] ∧
      Frames (branchesFrom [] [] {} []) pattern.toList part progress used rest ∧
        ((∀ other, skip progress.flags.spaced (rest ++ other) = skip progress.flags.spaced other) ∨
          ∀ comment, '\n' ∉ comment → skip progress.flags.spaced (rest ++ comment) = []) := by
  obtain ⟨progress, used, rest, hrest, framed⟩ := exists_frames_of_readPattern h
  refine ⟨progress, used, rest, hrest, framed, ?_⟩
  rcases skip_eq_nil hrest with closed | ⟨hspaced, before, comment, rfl, hline, hbefore⟩
  · exact Or.inl closed
  · refine Or.inr fun more hmore ↦ ?_
    have hopen : '\n' ∉ comment ++ more := by simp [hline, hmore]
    have hnil : skip true before = [] := by
      have hfirst := hbefore []
      rw [List.append_nil] at hfirst
      exact hfirst
    rw [hspaced, List.append_assoc, List.cons_append]
    exact skip_append_comment hnil hopen

/-- Behind a pattern that does not end within a comment a bracket closes a group. -/
theorem closes_of_not_endsInComment (h : readPattern pattern = .ok part)
    (hclosed : ¬ EndsInComment pattern) :
    ∃ progress used rest,
      Frames (branchesFrom [] [] {} []) pattern.toList part progress used rest ∧
        ∀ other, skip progress.flags.spaced (rest ++ other) = skip progress.flags.spaced other := by
  obtain ⟨progress, used, rest, -, framed, closed | opened⟩ := closes_or_opensComment h
  · exact ⟨progress, used, rest, framed, closed⟩
  · refine absurd (fun more hmore ↦ ?_) hclosed
    have hskip := opened more.toList hmore
    rw [readPattern_append framed (.inl hskip), hskip, h]
    rfl

/-- A pattern that ends within a comment takes in what is put behind it on its line. -/
theorem opens_of_endsInComment (h : readPattern pattern = .ok part)
    (hcomment : EndsInComment pattern) :
    ∃ progress used rest,
      Frames (branchesFrom [] [] {} []) pattern.toList part progress used rest ∧
        ∀ comment, '\n' ∉ comment → skip progress.flags.spaced (rest ++ comment) = [] := by
  obtain ⟨progress, used, rest, -, framed, closed | opened⟩ := closes_or_opensComment h
  · -- a closing bracket behind the pattern would be read
    have hskip : skip progress.flags.spaced (rest ++ ")".toList) = [')'] := skip_bracket closed []
    have hread := hcomment ")" (by decide)
    rw [readPattern_append framed (.inr ⟨[], hskip⟩), hskip, h] at hread
    cases hread
  · exact ⟨progress, used, rest, framed, opened⟩

/-! ### Groups that are not closed -/

/-- Behind the opening of a group, what is read to its end leaves the group open. -/
theorem readPattern_opened {flags : Flags} {names : List (List Char)}
    (h : readBranches (text.toList.length + 3) [] [] ⟨text.toList, {}, []⟩ =
      .ok (part, ⟨[], flags, names⟩)) :
    readPattern ("^(?:" ++ text) = .error .groupUnclosed := by
  have htext : ("^(?:" ++ text).toList = '^' :: '(' :: '?' :: ':' :: text.toList := by
    rw [String.toList_append]
    rfl
  have hread : readBranches (text.toList.length + 3 + 2) [] []
      ⟨'^' :: '(' :: '?' :: ':' :: text.toList, {}, []⟩ = .error .groupUnclosed := by
    rw [readBranches_sign rfl rfl]
    change readBranches (text.toList.length + 3 + 1) [] _
      ⟨'(' :: '?' :: ':' :: text.toList, {}, []⟩ = _
    rw [readBranches_opening rfl]
    change (readBranches (text.toList.length + 3) [] [] ⟨text.toList, {}, []⟩ >>= _) = _
    rw [h]
    rfl
  rw [readPattern, htext]
  change (readBranches (text.toList.length + 3 + 2) [] [] _ >>= _) = _
  rw [hread]
  rfl

theorem readPattern_opened_of_ok (h : readPattern pattern = .ok part) :
    readPattern ("^(?:" ++ pattern) = .error .groupUnclosed := by
  obtain ⟨progress, used, rest, hrest, framed⟩ := exists_frames_of_readPattern h
  have hends : skip progress.flags.spaced (rest ++ []) = [] := by rwa [List.append_nil]
  have hfuel : pattern.toList.length < pattern.toList.length + 3 := by omega
  have hread := readBranches_append framed hfuel (.inl hends)
  rw [hends, List.append_nil] at hread
  exact readPattern_opened hread

theorem endsInComment_opened (h : readPattern pattern = .ok part)
    (hcomment : EndsInComment pattern) : EndsInComment ("^(?:" ++ pattern) := by
  obtain ⟨progress, used, rest, framed, opened⟩ := opens_of_endsInComment h hcomment
  intro more hmore
  have hskip := opened more.toList hmore
  have hlength := length_le_append pattern more
  have hfuel : pattern.toList.length < (pattern ++ more).toList.length + 3 := by omega
  have hread := readBranches_append framed hfuel (.inl hskip)
  rw [hskip, ← String.toList_append] at hread
  rw [String.append_assoc, readPattern_opened hread, readPattern_opened_of_ok h]

/-! ### Groups and anchors, item by item -/

/-- Whether a text is read as some items, the last one first, whatever stands in front of it and
behind it. Each item takes one step. -/
def ReadsAs (text : String) (items : List Item) : Prop :=
  items.length ≤ text.toList.length ∧ ∃ names, ∀ fuel before other,
    text.toList.length ≤ fuel + items.length →
      readBranches (fuel + items.length) [] before ⟨text.toList ++ other, {}, []⟩ =
        readBranches fuel [] (items ++ before) ⟨other, {}, names⟩

def anchorItem (condition : Assertion) : Item := .part ⟨.assertion condition, 0⟩

theorem readsAs_group (h : readPattern pattern = .ok part) (hclosed : ¬ EndsInComment pattern) :
    ReadsAs ("(?:" ++ pattern ++ ")") [.part (part.ofGroup false)] := by
  obtain ⟨progress, used, rest, framed, closed⟩ := closes_of_not_endsInComment h hclosed
  have htext : ("(?:" ++ pattern ++ ")").toList =
      '(' :: '?' :: ':' :: (pattern.toList ++ [')']) := by simp
  refine ⟨by rw [htext]; simp, progress.names, fun fuel before other hfuel ↦ ?_⟩
  rw [htext] at hfuel ⊢
  simp only [List.length_cons, List.length_append, List.length_nil] at hfuel
  have hbracket := skip_bracket closed other
  have hinner : pattern.toList.length < fuel := by omega
  have hread := readBranches_append framed hinner (.inr ⟨other, hbracket⟩)
  have hsplit : '(' :: '?' :: ':' :: (pattern.toList ++ [')']) ++ other =
      '(' :: '?' :: ':' :: (pattern.toList ++ ')' :: other) := by simp
  rw [hsplit]
  change readBranches (fuel + 1) [] before _ = _
  rw [readBranches_opening rfl]
  change (readBranches fuel [] [] ⟨pattern.toList ++ ')' :: other, {}, []⟩ >>= _) = _
  rw [hread, hbracket]
  rfl

theorem ReadsAs.start (h : ReadsAs text items) :
    ReadsAs ("^" ++ text) (items ++ [anchorItem .textStart]) := by
  obtain ⟨hlength, names, hread⟩ := h
  have htext : ("^" ++ text).toList = '^' :: text.toList := by
    rw [String.toList_append]
    rfl
  rw [ReadsAs, htext, List.length_append, List.length_cons]
  refine ⟨by simpa using hlength, names, fun fuel before other hfuel ↦ ?_⟩
  have hinner : text.toList.length ≤ fuel + items.length := by
    simp only [List.length_cons, List.length_nil] at hfuel
    omega
  rw [List.append_assoc, ← hread fuel _ other hinner]
  change readBranches (fuel + items.length + 1) [] before
    ⟨'^' :: (text.toList ++ other), {}, []⟩ = _
  rw [readBranches_sign rfl rfl]
  rfl

theorem ReadsAs.stop (h : ReadsAs text items) :
    ReadsAs (text ++ "$") (anchorItem .textEnd :: items) := by
  obtain ⟨hlength, names, hread⟩ := h
  have htext : (text ++ "$").toList = text.toList ++ ['$'] := by
    rw [String.toList_append]
    rfl
  rw [ReadsAs, htext, List.length_append, List.length_cons, List.length_singleton]
  refine ⟨by omega, names, fun fuel before other hfuel ↦ ?_⟩
  have hbefore := hread (fuel + 1) before ('$' :: other) (by omega)
  rw [List.append_assoc, List.singleton_append, ← Nat.add_assoc, Nat.add_right_comm, hbefore,
    readBranches_sign rfl rfl]
  rfl

/-- What is read as some items is the pattern that they amount to. -/
theorem ReadsAs.readPattern_eq (h : ReadsAs text items) :
    readPattern text = .ok (Part.ofItems items) := by
  obtain ⟨hlength, names, hread⟩ := h
  have hwhole := hread (text.toList.length + 1 - items.length) [] [] (by omega)
  have hfuel : text.toList.length + 1 - items.length =
      text.toList.length - items.length + 1 := by omega
  rw [Nat.sub_add_cancel (by omega), List.append_nil, List.append_nil, hfuel,
    readBranches_end (.inl rfl : EndsGroup _ [])] at hwhole
  rw [readPattern, hwhole]
  rfl

theorem exists_readsAs_of_branch
    (branch : Branch (fun pattern ↦ ∃ part, readPattern pattern = .ok part) EndsInComment text) :
    ∃ items, ReadsAs text items := by
  induction branch with
  | group valid outside =>
    obtain ⟨part, hpart⟩ := valid
    exact ⟨_, readsAs_group hpart outside⟩
  | start _ ih =>
    obtain ⟨items, h⟩ := ih
    exact ⟨_, h.start⟩
  | stop _ ih =>
    obtain ⟨items, h⟩ := ih
    exact ⟨_, h.stop⟩

/-! ### What items match -/

section Chain

variable {letters : Array Char} {i j : Nat}

/-- An item stands in front of what stands behind it. -/
def putBefore (behind : Expression) (item : Item) : Expression := .seq item.expression behind

/-- Items, the last one first, match one after the other. -/
def MatchesItems (letters : Array Char) (items : List Item) : Nat → Nat → Prop :=
  (items.foldl putBefore .empty).Matches letters

theorem matches_foldl_iff (items : List Item) (behind : Expression) :
    (items.foldl putBefore behind).Matches letters i j ↔
      ∃ k, MatchesItems letters items i k ∧ behind.Matches letters k j := by
  induction items generalizing behind j with
  | nil =>
    change _ ↔ ∃ k, i = k ∧ _
    simp
  | cons item before ih =>
    change (before.foldl putBefore (putBefore behind item)).Matches letters i j ↔
      ∃ k, (before.foldl putBefore (putBefore .empty item)).Matches letters i k ∧ _
    simp only [ih]
    constructor
    · rintro ⟨k, hbefore, l, hitem, hbehind⟩
      exact ⟨l, ⟨k, hbefore, l, hitem, rfl⟩, hbehind⟩
    · rintro ⟨l, ⟨k, hbefore, m, hitem, rfl⟩, hbehind⟩
      exact ⟨k, hbefore, m, hitem, hbehind⟩

theorem matches_ofItems_iff (items : List Item) :
    (Part.ofItems items).expression.Matches letters i j ↔ MatchesItems letters items i j := by
  match items with
  | [] => exact Iff.rfl
  | last :: before =>
    have hlast : (Part.ofItems (last :: before)).expression =
        before.foldl putBefore last.expression := by
      cases before <;> rfl
    change _ ↔ (before.foldl putBefore (putBefore .empty last)).Matches letters i j
    rw [hlast, matches_foldl_iff, matches_foldl_iff]
    refine exists_congr fun k ↦ and_congr_right fun _ ↦ ?_
    change _ ↔ ∃ l, last.expression.Matches letters k l ∧ l = j
    simp

theorem matchesItems_start_iff :
    MatchesItems letters (items ++ [anchorItem .textStart]) i j ↔
      i = 0 ∧ MatchesItems letters items i j := by
  rw [MatchesItems, List.foldl_append]
  change (∃ k, (i = k ∧ (i == 0) = true) ∧ MatchesItems letters items k j) ↔ _
  constructor
  · rintro ⟨k, ⟨rfl, hstart⟩, h⟩
    exact ⟨beq_iff_eq.mp hstart, h⟩
  · rintro ⟨hstart, h⟩
    exact ⟨i, ⟨rfl, beq_iff_eq.mpr hstart⟩, h⟩

theorem matchesItems_stop_iff :
    MatchesItems letters (anchorItem .textEnd :: items) i j ↔
      MatchesItems letters items i j ∧ j = letters.size := by
  rw [MatchesItems, List.foldl_cons, matches_foldl_iff]
  change (∃ k, MatchesItems letters items i k ∧
    ∃ l, (k = l ∧ (k == letters.size) = true) ∧ l = j) ↔ _
  constructor
  · rintro ⟨k, h, l, ⟨rfl, hstop⟩, rfl⟩
    exact ⟨h, beq_iff_eq.mp hstop⟩
  · rintro ⟨h, hstop⟩
    exact ⟨j, h, j, ⟨rfl, beq_iff_eq.mpr hstop⟩, rfl⟩

end Chain

/-! ### The account -/

theorem size_toArray_toList (text : String) : text.toList.toArray.size = text.length :=
  String.length_toList

/-- Whether a pattern, read into a tree, matches between two positions of a text. -/
def ReadMatches (pattern text : String) (first last : Nat) : Prop :=
  first ≤ text.length ∧ ∃ part, readPattern pattern = .ok part ∧
    part.expression.Matches text.toList.toArray first last

theorem readMatches_iff (h : readPattern pattern = .ok part) (text : String) (first last : Nat) :
    ReadMatches pattern text first last ↔
      first ≤ text.length ∧ part.expression.Matches text.toList.toArray first last := by
  rw [ReadMatches, h]
  simp

theorem ReadsAs.readMatches_iff (h : ReadsAs pattern items) (text : String) (first last : Nat) :
    ReadMatches pattern text first last ↔
      first ≤ text.length ∧ MatchesItems text.toList.toArray items first last := by
  rw [Regex.readMatches_iff h.readPattern_eq, matches_ofItems_iff]

theorem exists_compile_eq_ok_iff {describe : Error → String} {fits : Part → Bool} :
    (∃ regex, (engine describe fits).compile pattern = .ok regex) ↔
      (∃ part, readPattern pattern = .ok part) ∧
        ¬ ∃ part, readPattern pattern = .ok part ∧ fits part = false := by
  simp only [engine]
  cases hread : readPattern pattern with
  | error error => simp
  | ok part =>
    by_cases hfits : fits part = true
    · simp [hfits]
    · simp [hfits]

theorem isMatch_iff_of_compile_eq_ok {describe : Error → String} {fits : Part → Bool}
    {regex : Expression} (h : (engine describe fits).compile pattern = .ok regex) (text : String) :
    (engine describe fits).isMatch regex text = true ↔
      ∃ first last, ReadMatches pattern text first last := by
  obtain ⟨part, hread, hregex⟩ : ∃ part, readPattern pattern = .ok part ∧
      part.expression = regex := by
    simp only [engine] at h
    cases hread : readPattern pattern with
    | error error =>
      rw [hread] at h
      cases h
    | ok part =>
      simp only [hread] at h
      split_ifs at h
      exact ⟨part, rfl, Except.ok.inj h⟩
  subst hregex
  refine Expression.matchesIn_iff.trans ?_
  simp only [readMatches_iff hread, size_toArray_toList, exists_and_left]

/-- The account of the engine that reads patterns into trees. -/
def account (describe : Error → String) (fits : Part → Bool) : (engine describe fits).Account where
  Valid pattern := ∃ part, readPattern pattern = .ok part
  Exceeds pattern := ∃ part, readPattern pattern = .ok part ∧ fits part = false
  InComment := EndsInComment
  Matches := ReadMatches
  compile_iff _ := exists_compile_eq_ok_iff
  isMatch_iff _ _ h := isMatch_iff_of_compile_eq_ok h
  group pattern valid outside := by
    obtain ⟨part, hpart⟩ := valid
    have reads := readsAs_group hpart outside
    refine ⟨⟨_, reads.readPattern_eq⟩, fun text first last ↦ ?_⟩
    rw [readMatches_iff reads.readPattern_eq, readMatches_iff hpart]
    exact Iff.rfl
  start branch h := by
    obtain ⟨items, reads⟩ := exists_readsAs_of_branch h
    refine ⟨⟨_, reads.start.readPattern_eq⟩, fun text first last ↦ ?_⟩
    rw [reads.start.readMatches_iff, reads.readMatches_iff, matchesItems_start_iff]
    exact and_left_comm
  stop branch h := by
    obtain ⟨items, reads⟩ := exists_readsAs_of_branch h
    refine ⟨⟨_, reads.stop.readPattern_eq⟩, fun text first last ↦ ?_⟩
    rw [reads.stop.readMatches_iff, reads.readMatches_iff, matchesItems_stop_iff,
      size_toArray_toList, and_assoc]
  comment text more hcomment hmore := by rw [hcomment more hmore]
  comment_opened pattern valid hcomment := by
    obtain ⟨part, hpart⟩ := valid
    exact endsInComment_opened hpart hcomment
  unclosed pattern valid := by
    obtain ⟨part, hpart⟩ := valid
    rw [readPattern_opened_of_ok hpart]
    rintro ⟨found, hfound⟩
    cases hfound

def plainAccount : plainEngine.Account := account _ _

end FlowGraph.Regex
