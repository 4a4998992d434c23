import FlowGraph.Path
import Mathlib.Data.List.TakeWhile

/-!
How paths are read. A path begins with a dot, with an index in its brackets, with a bracket that is
never closed or with a field name, and is read on from there (`Path.induction`). What stands behind
a dot is read as if it were alone, also where the path before it is malformed, so two paths with a
dot between them select in a document what the second selects in what the first selects
(`paths_compose`). Following a path is also a scan, a loop that keeps the document it has come to
and what remains of the path, and cuts the path shorter on every turn.
-/

set_option autoImplicit false
set_option relaxedAutoImplicit false

namespace FlowGraph.Path

/-! ### The beginnings of paths -/

section Beginnings

variable {rest digits name behind : List Char}

theorem takeWhile_dropWhile_of_closed (h : ']' ∉ digits) (behind : List Char) :
    (digits ++ ']' :: behind).takeWhile (· ≠ ']') = digits ∧
      (digits ++ ']' :: behind).dropWhile (· ≠ ']') = ']' :: behind := by
  have hdigits : ∀ c ∈ digits, decide (c ≠ ']') = true :=
    fun _ hc ↦ decide_eq_true fun heq ↦ h (heq ▸ hc)
  rw [List.takeWhile_append_of_pos hdigits, List.dropWhile_append_of_pos hdigits]
  simp

theorem dropWhile_of_unclosed (h : ']' ∉ rest) : rest.dropWhile (· ≠ ']') = [] :=
  List.dropWhile_eq_nil_iff.mpr fun _ hc ↦ decide_eq_true fun heq ↦ h (heq ▸ hc)

/-- Characters of a name in front of what ends a name. -/
structure Names (name behind : List Char) : Prop where
  nonempty : name ≠ []
  chars : ∀ c ∈ name, endsField c = false
  ended : ∀ c ∈ behind.head?, endsField c = true

theorem Names.takeWhile_dropWhile (names : Names name behind) :
    (name ++ behind).takeWhile (fun c ↦ !endsField c) = name ∧
      (name ++ behind).dropWhile (fun c ↦ !endsField c) = behind := by
  have hname : ∀ c ∈ name, (!endsField c) = true := fun c hc ↦ by rw [names.chars c hc]; rfl
  rw [List.takeWhile_append_of_pos hname, List.dropWhile_append_of_pos hname]
  cases behind with
  | nil => simp
  | cons c behind =>
    have hc := names.ended c rfl
    simp [hc]

theorem Names.exists_cons (names : Names name behind) :
    ∃ c more, name = c :: more ∧ c ≠ '[' ∧ c ≠ '.' := by
  obtain ⟨c, more, rfl⟩ := List.exists_cons_of_ne_nil names.nonempty
  have hc := names.chars c List.mem_cons_self
  refine ⟨c, more, rfl, ?_, ?_⟩
  · rintro rfl
    exact absurd hc (by decide)
  · rintro rfl
    exact absurd hc (by decide)

theorem steps?_nil : steps? [] = some [] := by
  rw [steps?]

theorem steps?_dot (rest : List Char) : steps? ('.' :: rest) = steps? rest := by
  rw [steps?.eq_def]
  simp

theorem steps?_unclosed (h : ']' ∉ rest) : steps? ('[' :: rest) = none := by
  rw [steps?.eq_def]
  dsimp only
  rw [if_pos rfl]
  split
  · rfl
  · next hdropped =>
    rw [dropWhile_of_unclosed h] at hdropped
    cases hdropped

theorem steps?_index (h : ']' ∉ digits) (behind : List Char) :
    steps? ('[' :: (digits ++ ']' :: behind)) =
      (index? digits).bind fun i ↦ (steps? (dropDot behind)).map (Step.index i :: ·) := by
  obtain ⟨htake, hdrop⟩ := takeWhile_dropWhile_of_closed h behind
  rw [steps?.eq_def]
  dsimp only
  rw [if_pos rfl]
  split
  · next hdropped =>
    rw [hdrop] at hdropped
    cases hdropped
  · next hdropped =>
    rw [hdrop] at hdropped
    cases hdropped
    rw [htake]
    cases index? digits with
    | none => rfl
    | some i => cases steps? (dropDot behind) <;> rfl

theorem steps?_field (names : Names name behind) :
    steps? (name ++ behind) =
      (steps? (dropDot behind)).map (Step.field (String.ofList name) :: ·) := by
  obtain ⟨htake, hdrop⟩ := names.takeWhile_dropWhile
  obtain ⟨c, more, rfl, hopen, hdot⟩ := names.exists_cons
  have hc : (!endsField c) = true := by rw [names.chars c List.mem_cons_self]; rfl
  rw [List.cons_append, List.dropWhile_cons_of_pos (p := fun c ↦ !endsField c) hc] at hdrop
  rw [List.cons_append] at htake ⊢
  rw [steps?.eq_def]
  dsimp only
  rw [if_neg hopen, if_neg hdot, htake, hdrop]
  cases steps? (dropDot behind) <;> rfl

end Beginnings

/-- What holds of the empty path and is handed on from what remains of a path behind its beginning
holds of every path. -/
@[elab_as_elim]
theorem induction {motive : List Char → Prop} (nil : motive [])
    (dot : ∀ rest, motive rest → motive ('.' :: rest))
    (unclosed : ∀ rest, ']' ∉ rest → motive ('[' :: rest))
    (index : ∀ digits behind, ']' ∉ digits → motive (dropDot behind) →
      motive ('[' :: (digits ++ ']' :: behind)))
    (field : ∀ name behind, Names name behind → motive (dropDot behind) → motive (name ++ behind))
    (path : List Char) : motive path := by
  induction path using steps?.induct with
  | case1 => exact nil
  | case2 rest hdropped =>
    refine unclosed rest fun hmem ↦ ?_
    have hnone := List.dropWhile_eq_nil_iff.mp hdropped ']' hmem
    simp at hnone
  | case3 rest c behind hdropped ih =>
    have hc : c = ']' := by
      have hhead := List.head?_dropWhile_not (fun c ↦ decide (c ≠ ']')) rest
      rw [hdropped] at hhead
      simpa using hhead
    have hsplit := List.takeWhile_append_dropWhile (p := fun c ↦ decide (c ≠ ']')) (l := rest)
    rw [hdropped, hc] at hsplit
    rw [← hsplit]
    refine index _ behind (fun hmem ↦ ?_) ih
    have hdigit := List.mem_takeWhile_imp hmem
    simp at hdigit
  | case4 rest _ ih => exact dot rest ih
  | case5 c rest hopen hdot behind ih =>
    have hc : (!endsField c) = true := by simp [endsField, hopen, hdot]
    have hsplit := List.takeWhile_append_dropWhile (p := fun c ↦ !endsField c) (l := c :: rest)
    rw [List.dropWhile_cons_of_pos (p := fun c ↦ !endsField c) hc] at hsplit
    rw [← hsplit]
    refine field _ _ ⟨?_, fun d hd ↦ ?_, fun d hd ↦ ?_⟩ ih
    · rw [List.takeWhile_cons_of_pos (p := fun c ↦ !endsField c) hc]
      exact List.cons_ne_nil c _
    · simpa using List.mem_takeWhile_imp hd
    · have hhead := List.head?_dropWhile_not (fun c ↦ !endsField c) rest
      rw [Option.mem_def.mp hd] at hhead
      simpa using hhead

/-! ### Two paths with a dot between them -/

theorem index?_eq_none {digits : List Char} (h : '.' ∈ digits) : index? digits = none := by
  have hsigned : ∀ chars : List Char, '.' ∈ chars → (!chars.all Char.isDigit) = true := by
    intro chars hmem
    rw [Bool.not_eq_true', List.all_eq_false]
    exact ⟨'.', hmem, by decide⟩
  unfold index?
  dsimp only
  split
  · next rest =>
    have hrest : '.' ∈ rest := by simpa using h
    exact if_pos (Or.inr (hsigned rest hrest))
  · exact if_pos (Or.inr (hsigned digits h))

/-- A dot behind a path may be the one that is dropped behind a step. -/
theorem steps?_dropDot_append (behind second : List Char) :
    steps? (dropDot (behind ++ '.' :: second)) = steps? (dropDot behind ++ '.' :: second) := by
  match behind with
  | [] => exact (steps?_dot second).symm
  | c :: rest =>
    by_cases hc : c = '.'
    · subst hc
      rfl
    · have hkept : ∀ chars, dropDot (c :: chars) = c :: chars := by
        intro chars
        unfold dropDot
        split
        · next heq => exact absurd (List.cons.inj heq).1 hc
        · rfl
      rw [List.cons_append, hkept, hkept, List.cons_append]

/-- A path with another behind a dot has the steps of both, and none if one of them is malformed. -/
theorem steps?_append_dot (first second : List Char) :
    steps? (first ++ '.' :: second) =
      (steps? first).bind fun steps ↦ (steps? second).map (steps ++ ·) := by
  induction first using Path.induction with
  | nil =>
    rw [List.nil_append, steps?_dot, steps?_nil]
    simp
  | dot rest ih => rw [List.cons_append, steps?_dot, steps?_dot, ih]
  | unclosed rest h =>
    rw [steps?_unclosed h, Option.bind_none, List.cons_append]
    by_cases hsecond : ']' ∈ second
    · -- the bracket is closed behind the dot, which no index contains
      obtain ⟨inner, behind, rfl, hinner⟩ := List.eq_append_cons_of_mem hsecond
      have hdigits : ']' ∉ rest ++ '.' :: inner := by simp [h, hinner]
      have hnone : index? (rest ++ '.' :: inner) = none := index?_eq_none (by simp)
      have hsplit : rest ++ '.' :: (inner ++ ']' :: behind) =
          rest ++ '.' :: inner ++ ']' :: behind := by simp
      rw [hsplit, steps?_index hdigits, hnone, Option.bind_none]
    · exact steps?_unclosed (by simp [h, hsecond])
  | index digits behind h ih =>
    rw [List.cons_append, List.append_assoc, List.cons_append, steps?_index h, steps?_index h,
      steps?_dropDot_append, ih]
    cases index? digits with
    | none => rfl
    | some i => cases steps? (dropDot behind) <;> cases steps? second <;> rfl
  | field name behind names ih =>
    have names' : Names name (behind ++ '.' :: second) := by
      refine ⟨names.nonempty, names.chars, fun c hc ↦ ?_⟩
      cases behind with
      | nil =>
        obtain rfl : '.' = c := Option.some.inj hc
        rfl
      | cons d behind => exact names.ended c hc
    rw [List.append_assoc, steps?_field names', steps?_field names, steps?_dropDot_append, ih]
    cases steps? (dropDot behind) <;> cases steps? second <;> rfl

theorem descend_append (first second : List Step) (document : Json) :
    descend (first ++ second) document = (descend first document).bind (descend second) := by
  induction first generalizing document with
  | nil => rfl
  | cons step rest ih =>
    rw [List.cons_append, descend, descend, Option.bind_assoc]
    exact congrArg _ (funext ih)

/-- What the characters of a path select in a document. -/
def follow? (document : Json) (path : List Char) : Option Json :=
  (steps? path).bind fun steps ↦ descend steps document

theorem follow?_nil (document : Json) : follow? document [] = some document := by
  rw [follow?, steps?_nil]
  rfl

theorem follow?_append_dot (document : Json) (first second : List Char) :
    follow? document (first ++ '.' :: second) =
      (follow? document first).bind fun found ↦ follow? found second := by
  unfold follow?
  rw [steps?_append_dot]
  cases steps? first with
  | none => rfl
  | some steps =>
    cases steps? second with
    | none => cases hfound : descend steps document <;> simp [hfound]
    | some more => exact descend_append steps more document

/-! ### The scan -/

/-- One turn of a scan: it goes down by the index in front or by the field name in front, of which
an empty one leads nowhere else, and a dot behind it is dropped. -/
def turn? (document : Json) (path : List Char) : Option (Json × List Char) :=
  match path with
  | '[' :: rest =>
    match rest.dropWhile (· ≠ ']') with
    | [] => none
    | _ :: behind =>
      (index? (rest.takeWhile (· ≠ ']'))).bind fun i ↦
        (document.item? i).map fun item ↦ (item, dropDot behind)
  | _ =>
    let name := path.takeWhile fun c ↦ !endsField c
    let behind := path.dropWhile fun c ↦ !endsField c
    if name = [] then some (document, dropDot behind)
    else (document.field? (String.ofList name)).map fun member ↦ (member, dropDot behind)

/-- What a scan comes to that turns until nothing remains of the path, or until it cannot turn. -/
inductive Scans : Json → List Char → Option Json → Prop where
  | done (document : Json) : Scans document [] (some document)
  | stuck {document : Json} {path : List Char} (remains : path ≠ [])
      (turned : turn? document path = none) : Scans document path none
  | further {document next : Json} {path rest : List Char} {found : Option Json}
      (remains : path ≠ []) (turned : turn? document path = some (next, rest))
      (scans : Scans next rest found) : Scans document path found

section Turn

variable {document next : Json} {path rest digits name behind : List Char} {found : Option Json}

theorem turn?_dot (document : Json) (rest : List Char) :
    turn? document ('.' :: rest) = some (document, rest) := by
  simp [turn?, endsField, dropDot]

theorem turn?_unclosed (h : ']' ∉ rest) : turn? document ('[' :: rest) = none := by
  rw [turn?, dropWhile_of_unclosed h]

theorem turn?_index (h : ']' ∉ digits) (behind : List Char) :
    turn? document ('[' :: (digits ++ ']' :: behind)) =
      (index? digits).bind fun i ↦ (document.item? i).map fun item ↦ (item, dropDot behind) := by
  obtain ⟨htake, hdrop⟩ := takeWhile_dropWhile_of_closed h behind
  rw [turn?, hdrop]
  dsimp only
  rw [htake]

theorem turn?_field (names : Names name behind) :
    turn? document (name ++ behind) =
      (document.field? (String.ofList name)).map fun member ↦ (member, dropDot behind) := by
  obtain ⟨htake, hdrop⟩ := names.takeWhile_dropWhile
  obtain ⟨c, more, hname, hopen, -⟩ := names.exists_cons
  unfold turn?
  split
  · next heq =>
    rw [hname] at heq
    exact absurd (List.cons.inj heq).1 hopen
  · dsimp only
    rw [htake, hdrop, if_neg names.nonempty]

/-- Every turn cuts the path shorter. -/
theorem length_lt_of_turn? (remains : path ≠ []) (h : turn? document path = some (next, rest)) :
    rest.length < path.length := by
  cases path using Path.induction with
  | nil => exact absurd rfl remains
  | dot tail =>
    rw [turn?_dot] at h
    cases h
    exact Nat.lt_succ_self _
  | unclosed tail hunclosed =>
    rw [turn?_unclosed hunclosed] at h
    cases h
  | index digits behind hdigits =>
    rw [turn?_index hdigits] at h
    obtain ⟨i, -, hitem⟩ := Option.bind_eq_some_iff.mp h
    obtain ⟨item, -, heq⟩ := Option.map_eq_some_iff.mp hitem
    cases heq
    have hdropped := length_dropDot_le behind
    simp only [List.length_cons, List.length_append]
    omega
  | field name behind names =>
    rw [turn?_field names] at h
    obtain ⟨member, -, heq⟩ := Option.map_eq_some_iff.mp h
    cases heq
    have hdropped := length_dropDot_le behind
    have hname := List.length_pos_iff.mpr names.nonempty
    rw [List.length_append]
    omega

/-- Following a path is turning once and following what remains. -/
theorem follow?_eq_turn? (document : Json) (remains : path ≠ []) :
    follow? document path =
      (turn? document path).bind fun turned ↦ follow? turned.1 turned.2 := by
  unfold follow?
  cases path using Path.induction with
  | nil => exact absurd rfl remains
  | dot tail =>
    rw [turn?_dot, steps?_dot]
    rfl
  | unclosed tail hunclosed =>
    rw [turn?_unclosed hunclosed, steps?_unclosed hunclosed]
    rfl
  | index digits behind hdigits =>
    rw [turn?_index hdigits, steps?_index hdigits]
    cases index? digits with
    | none => rfl
    | some i =>
      cases hsteps : steps? (dropDot behind) with
      | none => cases hitem : document.item? i <;> simp [hitem, hsteps]
      | some steps =>
        cases hitem : document.item? i <;> simp [hitem, hsteps, descend, Step.apply]
  | field name behind names =>
    rw [turn?_field names, steps?_field names]
    cases hsteps : steps? (dropDot behind) with
    | none => cases hmember : document.field? (String.ofList name) <;> simp [hsteps]
    | some steps =>
      cases hmember : document.field? (String.ofList name) <;>
        simp [hsteps, hmember, descend, Step.apply]

theorem scans_follow? (document : Json) (path : List Char) :
    Scans document path (follow? document path) := by
  induction hlength : path.length using Nat.strong_induction_on generalizing document path with
  | h length ih =>
    by_cases remains : path = []
    · rw [remains, follow?_nil]
      exact .done document
    · rw [follow?_eq_turn? document remains]
      cases turned : turn? document path with
      | none => exact .stuck remains turned
      | some turn =>
        have hshorter := length_lt_of_turn? remains turned
        exact .further remains turned (ih _ (hlength ▸ hshorter) turn.1 turn.2 rfl)

theorem Scans.eq_follow? (scans : Scans document path found) : found = follow? document path := by
  induction scans with
  | done document => exact (follow?_nil document).symm
  | stuck remains turned => rw [follow?_eq_turn? _ remains, turned]; rfl
  | further remains turned _ ih =>
    rw [follow?_eq_turn? _ remains, turned]
    exact ih

end Turn

/-! ### Composition -/

section Composition

variable (document : Json) (first second : String)

theorem extract?_empty : extract? document "" = some document :=
  follow?_nil document

theorem extract?_append_dot :
    extract? document (first ++ "." ++ second) =
      (extract? document first).bind fun found ↦ extract? found second := by
  have hchars : (first ++ "." ++ second).toList = first.toList ++ '.' :: second.toList := by simp
  change follow? document _ = _
  rw [hchars]
  exact follow?_append_dot document first.toList second.toList

theorem extract?_dot_append : extract? document ("." ++ second) = extract? document second := by
  have hcompose := extract?_append_dot document "" second
  rwa [String.empty_append, extract?_empty, Option.bind_some] at hcompose

end Composition

/-- Paths compose. Every scan of a path comes to an end, and to what the path selects; and a path, a
dot and a path select what the second path selects in what the first selects, so nothing if the
first selects nothing, whatever the two texts are. So dots at the ends of a path or one more beside
a dot change nothing. -/
theorem paths_compose (document : Json) (first second : String) :
    (∀ found, Scans document first.toList found ↔ found = extract? document first) ∧
      extract? document (first ++ "." ++ second) =
        (extract? document first).bind (fun found ↦ extract? found second) ∧
      extract? document ("." ++ second) = extract? document second ∧
      extract? document (first ++ ".") = extract? document first ∧
      extract? document (first ++ ".." ++ second) = extract? document (first ++ "." ++ second) := by
  refine ⟨fun found ↦ ⟨Scans.eq_follow?, ?_⟩, extract?_append_dot document first second,
    extract?_dot_append document second, ?_, ?_⟩
  · rintro rfl
    exact scans_follow? document first.toList
  · calc extract? document (first ++ ".")
        = extract? document (first ++ "." ++ "") := by rw [String.append_empty]
      _ = (extract? document first).bind fun found ↦ extract? found "" :=
        extract?_append_dot document first ""
      _ = extract? document first := by simp only [extract?_empty, Option.bind_fun_some]
  · have hdots : first ++ ".." ++ second = first ++ "." ++ ("." ++ second) := by
      have htwo : ".." = "." ++ "." := by decide
      rw [htwo, ← String.append_assoc, String.append_assoc, String.append_assoc]
    rw [hdots, extract?_append_dot, extract?_append_dot]
    simp only [extract?_dot_append]

end FlowGraph.Path
