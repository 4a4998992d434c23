import FlowGraph.Regex.Match
import Mathlib.Data.List.Basic

/-!
What an expression matches. `Expression.Matches` says between which positions of a text an
expression matches, one case for each construct and with no set of positions in it; `ends` computes
just that (`mem_ends`).

A repetition takes any number of steps within its bounds. The search for them ends early, at a step
that reaches nothing new (`mem_reach`), and without a greatest number it ends with the positions of
the text: a step that stays where it is may be left out of a way (`Steps.shorten`).
-/

set_option autoImplicit false
set_option relaxedAutoImplicit false

namespace FlowGraph.Regex

variable {step : Nat → Nat → Prop} {i j k : Nat}

/-! ### Repeated steps -/

/-- Whether a number of steps lead from one position to another. -/
def Steps (step : Nat → Nat → Prop) : Nat → Nat → Nat → Prop
  | 0, i, j => i = j
  | count + 1, i, j => ∃ k, step i k ∧ Steps step count k j

namespace Steps

theorem add_iff {first second : Nat} :
    Steps step (first + second) i j ↔
      ∃ k, Steps step first i k ∧ Steps step second k j := by
  induction first generalizing i with
  | zero => simp [Steps]
  | succ first ih =>
    rw [Nat.add_right_comm]
    simp only [Steps, ih]
    constructor
    · rintro ⟨next, hnext, k, hfirst, hsecond⟩
      exact ⟨k, ⟨next, hnext, hfirst⟩, hsecond⟩
    · rintro ⟨k, ⟨next, hnext, hfirst⟩, hsecond⟩
      exact ⟨next, hnext, k, hfirst, hsecond⟩

theorem le (onward : ∀ i j, step i j → i ≤ j) {count : Nat} (h : Steps step count i j) :
    i ≤ j := by
  induction count generalizing i with
  | zero => exact Nat.le_of_eq h
  | succ count ih =>
    obtain ⟨k, hk, h⟩ := h
    exact Nat.le_trans (onward i k hk) (ih h)

theorem le_max {bound : Nat} (bounded : ∀ i j, step i j → j ≤ max i bound) {count : Nat}
    (h : Steps step count i j) : j ≤ max i bound := by
  induction count generalizing i with
  | zero =>
    obtain rfl : i = j := h
    exact Nat.le_max_left _ _
  | succ count ih =>
    obtain ⟨k, hk, h⟩ := h
    have hbound := bounded i k hk
    have hrest := ih h
    omega

/-- Where no step leads back, no more steps are needed than there are positions on the way. -/
theorem shorten (onward : ∀ i j, step i j → i ≤ j) {count : Nat} (h : Steps step count i j) :
    ∃ fewer, fewer ≤ j - i ∧ Steps step fewer i j := by
  induction count generalizing i with
  | zero => exact ⟨0, Nat.zero_le _, h⟩
  | succ count ih =>
    obtain ⟨k, hk, h⟩ := h
    obtain ⟨fewer, hfewer, hsteps⟩ := ih h
    rcases Nat.eq_or_lt_of_le (onward i k hk) with rfl | hlt
    · exact ⟨fewer, hfewer, hsteps⟩
    · have hle := h.le onward
      exact ⟨fewer + 1, by omega, k, hk, hsteps⟩

end Steps

/-! ### Sets of positions -/

@[simp]
theorem mem_merge {first second : List Nat} : i ∈ merge first second ↔ i ∈ first ∨ i ∈ second := by
  fun_induction merge first second <;> grind

section Search

variable {take : List Nat → List Nat}
  (mem_take : ∀ starts j, j ∈ take starts ↔ ∃ i ∈ starts, step i j)
include mem_take

theorem mem_rounds {count : Nat} {starts : List Nat} :
    j ∈ rounds take count starts ↔ ∃ i ∈ starts, Steps step count i j := by
  induction count generalizing starts with
  | zero => simp [rounds, Steps]
  | succ count ih =>
    have hnext : j ∈ rounds take count (take starts) ↔
        ∃ i ∈ starts, Steps step (count + 1) i j := by
      rw [ih]
      constructor
      · rintro ⟨k, hk, h⟩
        obtain ⟨i, hi, hstep⟩ := (mem_take starts k).mp hk
        exact ⟨i, hi, k, hstep, h⟩
      · rintro ⟨i, hi, k, hstep, h⟩
        exact ⟨k, (mem_take starts k).mpr ⟨i, hi, hstep⟩, h⟩
    by_cases hsame : take starts = starts
    · -- a round that changes nothing is the last: all further ones change nothing either
      rw [← hnext, hsame]
      cases count <;> simp [rounds, hsame]
    · simpa [rounds, hsame] using hnext

/-- Steps from positions that are not among the newest lead to positions that are reached. -/
theorem mem_reach {count : Nat} {reached newest : List Nat} (hnewest : newest ⊆ reached)
    (explored : ∀ i ∈ reached, i ∉ newest → ∀ j, step i j → j ∈ reached) :
    j ∈ reach take count reached newest ↔ ∃ i ∈ reached, ∃ n ≤ count, Steps step n i j := by
  induction count generalizing reached newest with
  | zero => simp [reach, Steps]
  | succ count ih =>
    obtain ⟨fresh, hfresh⟩ : ∃ fresh, fresh =
      (take newest).filter fun position ↦ !reached.contains position := ⟨_, rfl⟩
    have mem_fresh : ∀ k, k ∈ fresh ↔ (∃ i ∈ newest, step i k) ∧ k ∉ reached := by
      simp [hfresh, mem_take]
    have next : ∀ i ∈ reached, ∀ k, step i k → k ∈ reached ∨ k ∈ fresh := by
      intro i hi k hstep
      by_cases hk : k ∈ reached
      · exact .inl hk
      · by_cases hold : i ∈ newest
        · exact .inr ((mem_fresh k).mpr ⟨⟨i, hold, hstep⟩, hk⟩)
        · exact .inl (explored i hi hold k hstep)
    rw [reach, ← hfresh]
    by_cases hnone : fresh = []
    · -- nothing new is reached, so no number of steps leads out of the positions reached
      have closed : ∀ n i, i ∈ reached → Steps step n i j → j ∈ reached := by
        intro n
        induction n with
        | zero =>
          intro i hi h
          obtain rfl : i = j := h
          exact hi
        | succ n ihn =>
          rintro i hi ⟨k, hstep, h⟩
          have hk : k ∈ reached := by simpa [hnone] using next i hi k hstep
          exact ihn k hk h
      simp only [hnone, List.isEmpty_nil, if_true]
      exact ⟨fun h ↦ ⟨j, h, 0, Nat.zero_le _, rfl⟩, fun ⟨i, hi, n, _, h⟩ ↦ closed n i hi h⟩
    · rw [if_neg (by simpa using hnone), ih]
      · constructor
        · rintro ⟨k, hk, n, hn, h⟩
          rcases mem_merge.mp hk with hk | hk
          · exact ⟨k, hk, n, by omega, h⟩
          · obtain ⟨⟨i, hi, hstep⟩, -⟩ := (mem_fresh k).mp hk
            exact ⟨i, hnewest hi, n + 1, by omega, k, hstep, h⟩
        · rintro ⟨i, hi, n, hn, h⟩
          cases n with
          | zero => exact ⟨i, mem_merge.mpr (.inl hi), 0, Nat.zero_le _, h⟩
          | succ n =>
            obtain ⟨k, hstep, h⟩ := h
            exact ⟨k, mem_merge.mpr (next i hi k hstep), n, by omega, h⟩
      · exact fun k hk ↦ mem_merge.mpr (.inr hk)
      · intro i hi hold k hstep
        exact mem_merge.mpr (next i ((mem_merge.mp hi).resolve_right hold) k hstep)

end Search

/-! ### Single characters -/

open Unicode (CharSet) in
theorem singleton_eq (c : Char) : CharSet.singleton c = ⟨[⟨c.toNat, c.toNat⟩]⟩ := by
  have hvalid : c.toNat < 0xD800 ∨ 0xDFFF < c.toNat := by
    rcases c.valid with h | ⟨h, -⟩
    · exact .inl h
    · exact .inr h
  have hranges : CharSet.withoutSurrogates ⟨c.toNat, c.toNat⟩ = [⟨c.toNat, c.toNat⟩] := by
    rcases hvalid with h | h
    · have hmin : min c.toNat 0xD7FF = c.toNat := by omega
      have hmax : ¬ max c.toNat 0xE000 ≤ c.toNat := by omega
      simp [CharSet.withoutSurrogates, hmin, hmax]
    · have hmin : ¬ c.toNat ≤ min c.toNat 0xD7FF := by omega
      have hmax : max c.toNat 0xE000 = c.toNat := by omega
      simp [CharSet.withoutSurrogates, hmin, hmax]
  simp [CharSet.singleton, CharSet.ofRange, CharSet.ofRanges, hranges, CharSet.coalesce,
    CharSet.absorb]

theorem contains_singleton_iff {c d : Char} :
    (Unicode.CharSet.singleton c).contains d = true ↔ d = c := by
  rw [singleton_eq]
  simp only [Unicode.CharSet.contains, Unicode.CharSet.containsCode, List.any_cons, List.any_nil,
    Bool.or_false, Bool.and_eq_true, decide_eq_true_eq]
  constructor
  · rintro ⟨hle, hge⟩
    exact Char.toNat_inj.mp (Nat.le_antisymm hge hle)
  · rintro rfl
    exact ⟨Nat.le_refl _, Nat.le_refl _⟩

/-! ### Matches -/

namespace Expression

variable {text : Array Char}

/-- Whether an expression matches the part of a text between two positions. -/
def Matches (text : Array Char) : Expression → Nat → Nat → Prop
  | .empty, i, j => i = j
  | .chars set, i, j => j = i + 1 ∧ ∃ c, behind? text i = some c ∧ set.contains c
  | .assertion condition, i, j => i = j ∧ condition.holds text i
  | .group body, i, j => Matches text body i j
  | .seq first second, i, j => ∃ k, Matches text first i k ∧ Matches text second k j
  | .either first second, i, j => Matches text first i j ∨ Matches text second i j
  | .repeated least most body, i, j =>
    ∃ count, least ≤ count ∧ (∀ greatest ∈ most, count ≤ max least greatest) ∧
      Steps (Matches text body) count i j

namespace Matches

theorem le {expression : Expression} (h : expression.Matches text i j) : i ≤ j := by
  induction expression generalizing i j with
  | empty => exact Nat.le_of_eq h
  | chars set => exact Nat.le.intro h.1.symm
  | assertion condition => exact Nat.le_of_eq h.1
  | group body ih => exact ih h
  | seq first second ihfirst ihsecond =>
    obtain ⟨k, hfirst, hsecond⟩ := h
    exact Nat.le_trans (ihfirst hfirst) (ihsecond hsecond)
  | either first second ihfirst ihsecond => exact h.elim ihfirst ihsecond
  | repeated least most body ih =>
    obtain ⟨count, -, -, h⟩ := h
    exact h.le fun _ _ ↦ ih

theorem le_max {expression : Expression} (h : expression.Matches text i j) :
    j ≤ max i text.size := by
  induction expression generalizing i j with
  | empty => exact Nat.le_trans (Nat.le_of_eq h.symm) (Nat.le_max_left _ _)
  | chars set =>
    obtain ⟨rfl, c, hc, -⟩ := h
    obtain ⟨hlt, -⟩ := Array.getElem?_eq_some_iff.mp hc
    exact Nat.le_trans hlt (Nat.le_max_right _ _)
  | assertion condition => exact Nat.le_trans (Nat.le_of_eq h.1.symm) (Nat.le_max_left _ _)
  | group body ih => exact ih h
  | seq first second ihfirst ihsecond =>
    obtain ⟨k, hfirst, hsecond⟩ := h
    have hk := ihfirst hfirst
    have hj := ihsecond hsecond
    omega
  | either first second ihfirst ihsecond => exact h.elim ihfirst ihsecond
  | repeated least most body ih =>
    obtain ⟨count, -, -, h⟩ := h
    exact h.le_max fun _ _ ↦ ih

end Matches

/-- The rounds that are searched beyond the least number are as good as all that are allowed. -/
theorem exists_further_iff {least : Nat} {most : Option Nat} {body : Expression} :
    (∃ further ≤ (match most with | some most => most - least | none => text.size + 1),
        Steps (body.Matches text) (least + further) i j) ↔
      (repeated least most body).Matches text i j := by
  cases most with
  | some most =>
    constructor
    · rintro ⟨further, hfurther, h⟩
      have hfurther : further ≤ most - least := hfurther
      have hmost : ∀ greatest ∈ some most, least + further ≤ max least greatest := by
        rintro _ ⟨⟩
        omega
      exact ⟨least + further, Nat.le_add_right _ _, hmost, h⟩
    · rintro ⟨count, hleast, hmost, h⟩
      obtain ⟨further, rfl⟩ := Nat.exists_eq_add_of_le hleast
      have hcount := hmost most rfl
      have hfurther : further ≤ most - least := by omega
      exact ⟨further, hfurther, h⟩
  | none =>
    constructor
    · rintro ⟨further, -, h⟩
      exact ⟨least + further, Nat.le_add_right _ _, by simp, h⟩
    · rintro ⟨count, hleast, -, h⟩
      obtain ⟨further, rfl⟩ := Nat.exists_eq_add_of_le hleast
      obtain ⟨k, hentered, h⟩ := Steps.add_iff.mp h
      have hbound := h.le_max fun _ _ ↦ Matches.le_max
      obtain ⟨fewer, hfewer, h⟩ := h.shorten fun _ _ ↦ Matches.le
      have hfurther : fewer ≤ text.size + 1 := by omega
      exact ⟨fewer, hfurther, Steps.add_iff.mpr ⟨k, hentered, h⟩⟩

/-- The positions computed are those at which a match ends. -/
theorem mem_ends {expression : Expression} {starts : List Nat} :
    j ∈ expression.ends text starts ↔ ∃ i ∈ starts, expression.Matches text i j := by
  induction expression generalizing starts j with
  | empty => simp [ends, Matches]
  | chars set =>
    simp only [ends, Matches, List.mem_map, List.mem_filter, Option.any_eq_true]
    constructor
    · rintro ⟨i, ⟨hi, c, hc, hset⟩, rfl⟩
      exact ⟨i, hi, rfl, c, hc, hset⟩
    · rintro ⟨i, hi, rfl, c, hc, hset⟩
      exact ⟨i, ⟨hi, c, hc, hset⟩, rfl⟩
  | assertion condition => simp [ends, Matches]
  | group body ih => exact ih
  | seq first second ihfirst ihsecond =>
    simp only [ends, Matches, ihsecond, ihfirst]
    constructor
    · rintro ⟨k, ⟨i, hi, hfirst⟩, hsecond⟩
      exact ⟨i, hi, k, hfirst, hsecond⟩
    · rintro ⟨i, hi, k, hfirst, hsecond⟩
      exact ⟨k, ⟨i, hi, hfirst⟩, hsecond⟩
  | either first second ihfirst ihsecond =>
    simp only [ends, Matches, mem_merge, ihfirst, ihsecond, and_or_left, exists_or]
  | repeated least most body ih =>
    have mem_body : ∀ starts j, j ∈ ends text body starts ↔ ∃ i ∈ starts, body.Matches text i j :=
      fun _ _ ↦ ih
    simp only [ends, mem_reach mem_body (List.Subset.refl _) fun i hi hold ↦ absurd hi hold,
      mem_rounds mem_body, ← exists_further_iff, Steps.add_iff]
    constructor
    · rintro ⟨k, ⟨i, hi, hentered⟩, further, hfurther, h⟩
      exact ⟨i, hi, further, hfurther, k, hentered, h⟩
    · rintro ⟨i, hi, further, hfurther, k, hentered, h⟩
      exact ⟨k, ⟨i, hi, hentered⟩, further, hfurther, h⟩

/-- A part of a text is found if and only if there is one that matches. -/
theorem matchesIn_iff {expression : Expression} :
    expression.matchesIn text = true ↔
      ∃ i ≤ text.size, ∃ j, expression.Matches text i j := by
  rw [matchesIn, Bool.not_eq_true', List.isEmpty_eq_false_iff_exists_mem]
  simp only [mem_ends, List.mem_range, Nat.lt_succ_iff]
  exact ⟨fun ⟨j, i, hi, h⟩ ↦ ⟨i, hi, j, h⟩, fun ⟨i, hi, j, h⟩ ↦ ⟨j, i, hi, h⟩⟩

end Expression

end FlowGraph.Regex
