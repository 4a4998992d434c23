import FlowGraph.Proofs.Builtin
import FlowGraph.Proofs.Path

/-!
Writing paths. Steps are written with every index in brackets and with a dot before every field name
but a first one, and read back as they are (`steps?_write`), for all names that a path can give and
all indices of 64 bits. So the path that is written for the way to a descendant of a document
selects that descendant, and a filter with that path finds it, be it null (`written_path_selects`).
-/

set_option autoImplicit false
set_option relaxedAutoImplicit false

namespace FlowGraph

namespace Step

/-- A path can name the step: by a field name that is not empty and has no character that ends a
name, or by an index of 64 bits. -/
def IsNamable : Step → Prop
  | .field name => name ≠ "" ∧ '.' ∉ name.toList ∧ '[' ∉ name.toList
  | .index i => i < 2 ^ 64

instance (step : Step) : Decidable step.IsNamable :=
  match step with
  | .field name =>
    inferInstanceAs (Decidable (name ≠ "" ∧ '.' ∉ name.toList ∧ '[' ∉ name.toList))
  | .index i => inferInstanceAs (Decidable (i < 2 ^ 64))

/-- The text of a step in front of a path. -/
def text : Step → String
  | .field name => name
  | .index i => "[" ++ toString i ++ "]"

/-- The text of a step behind another one. -/
def textBehind : Step → String
  | .field name => "." ++ name
  | .index i => text (.index i)

end Step

namespace Path

/-- The texts of steps behind another one. -/
def writeBehind (steps : List Step) : String := String.join (steps.map Step.textBehind)

/-- Steps written as a path, the first without a dot in front. -/
def write : List Step → String
  | [] => ""
  | step :: rest => step.text ++ writeBehind rest

/-- Steps lead from a document down to one of its descendants: a field name leads to the member of
an object, and an index to the element of an array. -/
inductive Reaches : Json → List Step → Json → Prop where
  | here (document : Json) : Reaches document [] document
  | member {members : List (String × Json)} {name : String} {child found : Json}
      {rest : List Step} (named : members.lookup name = some child)
      (reaches : Reaches child rest found) : Reaches (.object members) (.field name :: rest) found
  | element {items : List Json} {i : Nat} {child found : Json} {rest : List Step}
      (placed : items[i]? = some child) (reaches : Reaches child rest found) :
      Reaches (.array items) (.index i :: rest) found

/-! ### Reading what is written -/

section Written

variable {steps rest : List Step} {name : String} {i : Nat}

theorem toList_writeBehind_field :
    (writeBehind (.field name :: rest)).toList =
      '.' :: (name.toList ++ (writeBehind rest).toList) := by
  simp [writeBehind, Step.textBehind]

theorem toList_writeBehind_index :
    (writeBehind (.index i :: rest)).toList =
      '[' :: (Nat.toDigits 10 i ++ ']' :: (writeBehind rest).toList) := by
  simp [writeBehind, Step.textBehind, Step.text]

theorem toList_write_field :
    (write (.field name :: rest)).toList = name.toList ++ (writeBehind rest).toList := by
  simp [write, Step.text]

theorem toList_write_index :
    (write (.index i :: rest)).toList =
      '[' :: (Nat.toDigits 10 i ++ ']' :: (writeBehind rest).toList) := by
  simp [write, Step.text]

/-- Behind a step a path is read on without the dot in front. -/
theorem dropDot_writeBehind (steps : List Step) :
    dropDot (writeBehind steps).toList = (write steps).toList := by
  match steps with
  | [] => rfl
  | .field name :: rest => rw [toList_writeBehind_field, toList_write_field, dropDot]
  | .index i :: rest =>
    rw [toList_writeBehind_index, toList_write_index]
    rfl

/-- What is written behind a field name ends it. -/
theorem endsField_of_mem_head?_writeBehind (steps : List Step) :
    ∀ c ∈ (writeBehind steps).toList.head?, endsField c = true := by
  match steps with
  | [] => simp [writeBehind]
  | .field name :: rest =>
    rw [toList_writeBehind_field]
    simp [endsField]
  | .index i :: rest =>
    rw [toList_writeBehind_index]
    simp [endsField]

theorem names_of_isNamable (namable : (Step.field name).IsNamable) (steps : List Step) :
    Names name.toList (writeBehind steps).toList where
  nonempty := by simpa using namable.1
  chars c hc := by
    have hdot : c ≠ '.' := fun heq ↦ namable.2.1 (heq ▸ hc)
    have hopen : c ≠ '[' := fun heq ↦ namable.2.2 (heq ▸ hc)
    simp [endsField, hdot, hopen]
  ended := endsField_of_mem_head?_writeBehind steps

theorem isDigit_of_mem_toDigits {c : Char} (h : c ∈ Nat.toDigits 10 i) : c.isDigit = true :=
  Nat.isDigit_of_mem_toDigits (by decide) (by decide) h

/-- Digits of a number below 2⁶⁴ are an index. -/
theorem index?_of_lt {digits : List Char} (hne : digits ≠ [])
    (hdigits : ∀ c ∈ digits, c.isDigit = true) (h : Nat.ofDigitChars 10 digits 0 < 2 ^ 64) :
    index? digits = some (Nat.ofDigitChars 10 digits 0) := by
  have hread : ¬ (digits.isEmpty = true ∨ (!digits.all Char.isDigit) = true) := by
    rw [not_or, Bool.not_eq_true', Bool.not_eq_false, List.all_eq_true]
    exact ⟨by simpa using hne, hdigits⟩
  unfold index?
  dsimp only
  split
  · exact absurd (hdigits '+' List.mem_cons_self) (by decide)
  · rw [if_neg hread]
    exact if_pos h

/-- An index of 64 bits is read back from its digits. -/
theorem index?_toDigits (h : i < 2 ^ 64) : index? (Nat.toDigits 10 i) = some i := by
  have hvalue : Nat.ofDigitChars 10 (Nat.toDigits 10 i) 0 = i :=
    Nat.ofDigitChars_toDigits (by decide) (by decide)
  rw [index?_of_lt Nat.toDigits_ne_nil (fun c ↦ isDigit_of_mem_toDigits) (hvalue.symm ▸ h), hvalue]

theorem notMem_toDigits : ']' ∉ Nat.toDigits 10 i :=
  fun h ↦ absurd (isDigit_of_mem_toDigits h) (by decide)

/-- Steps that a path can name are read back from the path. -/
theorem steps?_write (namable : ∀ step ∈ steps, step.IsNamable) :
    steps? (write steps).toList = some steps := by
  induction steps with
  | nil => exact steps?_nil
  | cons step rest ih =>
    have hrest := ih fun other hother ↦ namable other (List.mem_cons_of_mem step hother)
    have hstep := namable step List.mem_cons_self
    cases step with
    | field name =>
      rw [toList_write_field, steps?_field (names_of_isNamable hstep rest), dropDot_writeBehind,
        hrest, String.ofList_toList]
      rfl
    | index i =>
      rw [toList_write_index, steps?_index notMem_toDigits, index?_toDigits hstep,
        dropDot_writeBehind, hrest]
      rfl

/-- What steps come to one after the other is what they lead to. -/
theorem descend_eq_some_iff (steps : List Step) (document found : Json) :
    descend steps document = some found ↔ Reaches document steps found := by
  constructor
  · intro h
    induction steps generalizing document with
    | nil =>
      cases h
      exact .here _
    | cons step rest ih =>
      obtain ⟨child, hchild, hfound⟩ := Option.bind_eq_some_iff.mp h
      cases step with
      | field name =>
        cases document <;> first | cases hchild | skip
        exact .member hchild (ih child hfound)
      | index i =>
        cases document <;> first | cases hchild | skip
        exact .element hchild (ih child hfound)
  · intro h
    induction h with
    | here document => rfl
    | member named _ ih => exact Option.bind_eq_some_iff.mpr ⟨_, named, ih⟩
    | element placed _ ih => exact Option.bind_eq_some_iff.mpr ⟨_, placed, ih⟩

end Written

end Path

namespace Builtin

/-- A written path selects exactly what its steps lead to, step by step: the member of an object
under a field name, the element of an array at an index, and nothing as soon as a step leads
nowhere. A filter with that path puts out what the steps lead to as found, be it null, and null as
not found if they lead nowhere. -/
theorem written_path_selects (steps : List Step) (namable : ∀ step ∈ steps, step.IsNamable)
    (document : Json) :
    Path.extract? document (Path.write steps) = Path.descend steps document ∧
      (∀ found, Path.extract? document (Path.write steps) = some found ↔
        Path.Reaches document steps found) ∧
      ∀ inputs settings : Boxes, inputs.value? .json "json" = some document →
        settings.value? .string "path" = some (Path.write steps) →
          (∀ found, Path.Reaches document steps found →
            jsonFilter.compute inputs settings = .ok (filtered found true)) ∧
          ((∀ found, ¬ Path.Reaches document steps found) →
            jsonFilter.compute inputs settings = .ok (filtered .null false)) := by
  have hselected : Path.extract? document (Path.write steps) = Path.descend steps document := by
    rw [Path.extract?, Path.steps?_write namable]
    rfl
  have hreaches : ∀ found, Path.extract? document (Path.write steps) = some found ↔
      Path.Reaches document steps found := by
    intro found
    rw [hselected, Path.descend_eq_some_iff]
  refine ⟨hselected, hreaches, fun inputs settings hdocument hpath ↦ ?_⟩
  have hcompute := compute_jsonFilter hdocument hpath
  constructor
  · intro found hfound
    rwa [(hreaches found).mpr hfound] at hcompute
  · intro hnowhere
    have hnone : Path.extract? document (Path.write steps) = none :=
      Option.eq_none_iff_forall_ne_some.mpr fun found h ↦ hnowhere found ((hreaches found).mp h)
    rwa [hnone] at hcompute

/-- A document with null in a list, under a name with a bracket in it. -/
def shelf : Json := .object [("a]", .array [.string "first", .null])]

theorem reaches_shelf : Path.Reaches shelf [.field "a]", .index 1] .null :=
  .member rfl (.element rfl (.here .null))

theorem written_path_selects_null :
    (∀ step ∈ [.field "a]", .index 1], Step.IsNamable step) ∧
      Path.write [.field "a]", .index 1] = "a][1]" ∧
      Path.Reaches shelf [.field "a]", .index 1] .null ∧
      jsonFilter.compute (.ofList [("json", .json shelf)]) (.ofList [("path", .string "a][1]")]) =
        .ok (filtered .null true) := by
  have hnamable : ∀ step ∈ [.field "a]", .index 1], Step.IsNamable step := by decide
  have hwritten : Path.write [.field "a]", .index 1] = "a][1]" := by decide
  refine ⟨hnamable, hwritten, reaches_shelf, ?_⟩
  obtain ⟨-, -, hfilter⟩ := written_path_selects [.field "a]", .index 1] hnamable shelf
  rw [hwritten] at hfilter
  exact (hfilter _ _ rfl rfl).1 .null reaches_shelf

end Builtin

end FlowGraph
