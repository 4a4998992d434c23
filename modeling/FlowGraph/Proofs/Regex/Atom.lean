import FlowGraph.Proofs.Node
import FlowGraph.Proofs.Regex.Spacing
import FlowGraph.Regex.Atom

/-!
Which part of a text an atom is read from: a beginning that reads the same whatever stands behind it
(`IsFramed`). One atom looks further, the edge of a word, since a brace behind it may begin its name
or tell how often it is repeated; `EdgeEnds` says when the brace is none of its own
(`read_eq_ok`).
-/

set_option autoImplicit false
set_option relaxedAutoImplicit false

namespace FlowGraph.Regex

variable {α β : Type} {spaced : Bool} {flags : Flags} {text rest : List Char}

/-- Whether a reader takes a beginning off a text, the same whatever stands behind it. -/
def IsFramed (read : List Char → Except Error (α × List Char)) : Prop :=
  ∀ text value rest, read text = .ok (value, rest) →
    ∃ used, text = used ++ rest ∧ ∀ other, read (used ++ other) = .ok (value, other)

theorem IsFramed.map {read : List Char → Except Error (α × List Char)} (framed : IsFramed read)
    (f : α → Except Error β) :
    IsFramed fun text ↦ do
      let (value, rest) ← read text
      return (← f value, rest) := by
  intro text value rest h
  obtain ⟨⟨first, left⟩, hread, h⟩ := bind_eq_ok_iff.mp h
  obtain ⟨value, hvalue, h⟩ := bind_eq_ok_iff.mp h
  cases h
  obtain ⟨used, htext, hused⟩ := framed text first rest hread
  exact ⟨used, htext, fun other ↦ bind_eq_ok_iff.mpr ⟨_, hused other,
    bind_eq_ok_iff.mpr ⟨value, hvalue, rfl⟩⟩⟩

namespace Atom

/-! ### Digits and names in braces -/

theorem takeDigits_skip {count : Nat} (hcount : count ≠ 0) :
    takeDigits spaced count (skip spaced text) = takeDigits spaced count text := by
  obtain ⟨count, rfl⟩ := Nat.exists_eq_succ_of_ne_zero hcount
  simp only [takeDigits, skip_skip]

theorem takeDigits_eq_some {count : Nat} {digits : List Char}
    (h : takeDigits spaced count text = some (digits, rest)) :
    ∃ used, text = used ++ rest ∧
      ∀ other, takeDigits spaced count (used ++ other) = some (digits, other) := by
  induction count generalizing text digits with
  | zero =>
    obtain ⟨rfl, rfl⟩ := Prod.mk.inj (Option.some.inj h)
    exact ⟨[], rfl, fun _ ↦ rfl⟩
  | succ count ih =>
    rw [takeDigits] at h
    cases hskip : skip spaced text with
    | nil => simp [hskip] at h
    | cons c behind =>
      obtain ⟨spacing, rfl, hspacing⟩ := skip_eq_cons hskip
      simp only [hskip, Option.ite_none_left_eq_some, Option.map_eq_some_iff] at h
      obtain ⟨hdigit, ⟨more, left⟩, hmore, hpair⟩ := h
      obtain ⟨rfl, rfl⟩ := Prod.mk.inj hpair
      obtain ⟨used, rfl, hused⟩ := ih hmore
      refine ⟨spacing ++ c :: used, by simp, fun other ↦ ?_⟩
      rw [List.append_assoc, List.cons_append, takeDigits, hspacing]
      simp [hdigit, hused]

theorem inBraces?_eq_some {content : List Char}
    (h : inBraces? spaced text = some (content, rest)) :
    ∃ used, text = used ++ rest ∧
      ∀ other, inBraces? spaced (used ++ other) = some (content, other) := by
  rw [inBraces?] at h
  rcases htake : takeSpaced spaced (· ≠ '}') false text with ⟨taken, _ | ⟨c, behind⟩⟩
  · rw [htake] at h
    cases h
  · rw [htake] at h
    obtain ⟨rfl, rfl⟩ := Prod.mk.inj (Option.some.inj h)
    obtain ⟨used, rfl, hused⟩ := takeSpaced_eq_cons htake
    refine ⟨used ++ [c], by simp, fun other ↦ ?_⟩
    rw [inBraces?, List.append_assoc, List.singleton_append, hused]

/-! ### Characters by their code points -/

/-- Reads a code point by a number of digits, which is not in braces then. -/
theorem readCode_of_takeDigits {count : Nat} (hcount : count ≠ 0) {digits : List Char}
    (h : takeDigits spaced count text = some (digits, rest)) :
    readCode spaced count text =
      match charOf? digits with
      | some c => .ok (.char c (count = 2), rest)
      | none => .error .escape := by
  have hskip := (takeDigits_skip hcount).trans h
  obtain ⟨count, rfl⟩ := Nat.exists_eq_succ_of_ne_zero hcount
  cases htext : skip spaced text with
  | nil =>
    rw [htext] at hskip
    simp [takeDigits] at hskip
  | cons c behind =>
    have hbrace : c ≠ '{' := by
      rintro rfl
      rw [takeDigits, htext] at h
      simp [show (Hexadecimal.digit? '{').isNone = true by decide] at h
    rw [htext] at hskip
    simp only [readCode, htext]
    split
    · next hcons => exact absurd (List.cons.inj hcons).1 hbrace
    · exact hskip ▸ rfl

theorem readCode_isFramed {count : Nat} (hcount : count ≠ 0) :
    IsFramed (readCode spaced count) := by
  intro text atom rest h
  rw [readCode] at h
  split at h
  · next behind hskip =>
    obtain ⟨spacing, rfl, hspacing⟩ := skip_eq_cons hskip
    split at h
    · cases h
    · next digits left hbraces =>
      obtain ⟨used, rfl, hused⟩ := inBraces?_eq_some hbraces
      split at h
      · next c hchar =>
        cases h
        refine ⟨spacing ++ '{' :: used, by simp, fun other ↦ ?_⟩
        rw [readCode, List.append_assoc, List.cons_append, hspacing]
        simp only [hused, hchar]
      · cases h
    · cases h
  · split at h
    · next digits left hdigits =>
      obtain ⟨used, rfl, hused⟩ := takeDigits_eq_some ((takeDigits_skip hcount).symm.trans hdigits)
      split at h
      · next c hchar =>
        cases h
        refine ⟨used, rfl, fun other ↦ ?_⟩
        rw [readCode_of_takeDigits hcount (hused other), hchar]
      · cases h
    · cases h

/-! ### Properties -/

/-- Reads the name of a property: one letter, or a name in braces. -/
def readPropertyName (spaced : Bool) (text : List Char) : Except Error (List Char × List Char) :=
  match skip spaced text with
  | [] => throw .escape
  | '{' :: rest =>
    match inBraces? spaced rest with
    | some found => pure found
    | none => throw .escape
  | c :: rest => if c = '\\' then throw .escape else pure ([c], rest)

/-- The set of a property, or of all characters that do not have it. -/
def ofProperty (flags : Flags) (negated : Bool) (content : List Char) : Except Error Atom := do
  if !flags.unicode then throw .outsideText
  match propertySet? content with
  | some set => return .chars (← signed flags negated (closeCase flags set))
  | none => throw .propertyUnknown

theorem readProperty_eq (negated : Bool) (text : List Char) :
    readProperty flags negated text = do
      let (content, rest) ← readPropertyName flags.spaced text
      return (← ofProperty flags negated content, rest) := by
  rw [readProperty, readPropertyName]
  cases skip flags.spaced text with
  | nil => rfl
  | cons c rest =>
    by_cases hbrace : c = '{'
    · subst hbrace
      cases hfound : inBraces? flags.spaced rest with
      | none =>
        simp only [hfound]
        rfl
      | some found =>
        cases hunicode : flags.unicode <;> cases hset : propertySet? found.1 <;>
          simp [ofProperty, hfound, hunicode, hset] <;> rfl
    · by_cases hsign : c = '\\'
      · simp [hsign]
        rfl
      · cases hunicode : flags.unicode <;> cases hset : propertySet? [c] <;>
          simp [ofProperty, hsign, hunicode, hset] <;> rfl

theorem readPropertyName_isFramed : IsFramed (readPropertyName spaced) := by
  intro text content rest h
  rw [readPropertyName] at h
  split at h
  · cases h
  · next behind hskip =>
    obtain ⟨spacing, rfl, hspacing⟩ := skip_eq_cons hskip
    split at h
    · next hbraces =>
      cases h
      obtain ⟨used, rfl, hused⟩ := inBraces?_eq_some hbraces
      refine ⟨spacing ++ '{' :: used, by simp, fun other ↦ ?_⟩
      rw [readPropertyName, List.append_assoc, List.cons_append, hspacing]
      simp only [hused]
      rfl
    · cases h
  · next c behind hbrace hskip =>
    obtain ⟨spacing, rfl, hspacing⟩ := skip_eq_cons hskip
    split at h
    · cases h
    · next hsign =>
      cases h
      refine ⟨spacing ++ [c], by simp, fun other ↦ ?_⟩
      rw [readPropertyName, List.append_assoc, List.singleton_append, hspacing]
      simp only [hsign, if_false]
      rfl

theorem readProperty_isFramed {negated : Bool} : IsFramed (readProperty flags negated) := by
  have hread : readProperty flags negated = _ := funext (readProperty_eq negated)
  rw [hread]
  exact readPropertyName_isFramed.map _

/-! ### Edges of words -/

/-- Whether a text does not go on with the name of an edge: a brace that it begins with is closed or
holds something else before any letter. -/
def EdgeEnds (spaced : Bool) (text : List Char) : Prop :=
  ∀ rest, text = '{' :: rest →
    ∃ c behind, takeSpaced spaced isEdgeLetter false rest = ([], c :: behind)

theorem readEdge_of_ends (h : EdgeEnds flags.spaced text) :
    readEdge flags text = .ok (.assertion (.word .boundary flags.unicode), text) := by
  unfold readEdge
  split
  · next rest =>
    obtain ⟨c, behind, htake⟩ := h rest rfl
    rw [htake]
  · rfl

theorem readEdge_eq_ok {atom : Atom} (h : readEdge flags text = .ok (atom, rest)) :
    (∃ edge, atom = .assertion (.word edge flags.unicode)) ∧
      ∃ used, text = used ++ rest ∧ ∀ other, EdgeEnds flags.spaced other →
        readEdge flags (used ++ other) = .ok (atom, other) := by
  unfold readEdge at h
  split at h
  · next behind =>
    split at h
    · cases h
    · cases h
      exact ⟨⟨_, rfl⟩, [], rfl, fun other hends ↦ readEdge_of_ends hends⟩
    · next name left hname htake =>
      obtain ⟨used, rfl, hused⟩ := takeSpaced_eq_cons htake
      split at h
      · next named edge hfind =>
        cases h
        refine ⟨⟨edge, rfl⟩, '{' :: used ++ ['}'], by simp, fun other _ ↦ ?_⟩
        simp only [List.cons_append, List.append_assoc, List.nil_append, readEdge, hused]
        rw [hfind]
      · cases h
    · cases h
  · cases h
    exact ⟨⟨_, rfl⟩, [], rfl, fun other hends ↦ readEdge_of_ends hends⟩

/-! ### Escapes -/

theorem codeLength?_ne_zero {letter : Char} {count : Nat} (h : codeLength? letter = some count) :
    count ≠ 0 := by
  unfold codeLength? at h
  split_ifs at h <;> cases h <;> decide

/-- Reads an escape by the letters that stand for codes, sets, controls and edges. -/
def readLetter (flags : Flags) (letter : Char) (rest : List Char) :
    Except Error (Atom × List Char) :=
  match codeLength? letter with
  | some count => readCode flags.spaced count rest
  | none =>
    match shorthand? flags.unicode letter with
    | some (set, negated) => do return (.chars (← signed flags negated set), rest)
    | none =>
      match control? letter with
      | some c => .ok (.char c false, rest)
      | none =>
        match edge? letter with
        | some edge => .ok (.assertion (.word edge flags.unicode), rest)
        | none => .error .escape

theorem readLetter_eq (letter : Char) (rest : List Char) :
    readLetter flags letter rest =
      match codeLength? letter, shorthand? flags.unicode letter, control? letter, edge? letter with
      | some count, _, _, _ => readCode flags.spaced count rest
      | _, some (set, negated), _, _ =>
        (signed flags negated set).map fun set ↦ (.chars set, rest)
      | _, _, some c, _ => .ok (.char c false, rest)
      | _, _, _, some edge => .ok (.assertion (.word edge flags.unicode), rest)
      | _, _, _, _ => .error .escape := by
  rw [readLetter]
  cases codeLength? letter with
  | some count => rfl
  | none =>
    cases shorthand? flags.unicode letter with
    | some set => rfl
    | none =>
      cases control? letter with
      | some c => rfl
      | none => cases edge? letter <;> rfl

theorem readEscape_cons (letter : Char) (rest : List Char) :
    readEscape flags (letter :: rest) =
      if isEscapable letter then .ok (.char letter false, rest)
      else if letter = 'b' then readEdge flags rest
      else if letter = 'A' then .ok (.assertion .textStart, rest)
      else if letter = 'z' then .ok (.assertion .textEnd, rest)
      else if letter = 'p' ∨ letter = 'P' then readProperty flags (letter = 'P') rest
      else readLetter flags letter rest := by
  rw [readLetter_eq]
  rfl

theorem readLetter_isFramed {letter : Char} : IsFramed (readLetter flags letter) := by
  intro text atom rest h
  unfold readLetter at h ⊢
  split at h
  · next count hcode =>
    exact readCode_isFramed (codeLength?_ne_zero hcode) _ _ _ h
  · split at h
    · next set negated hset =>
      obtain ⟨set, hsigned, h⟩ := bind_eq_ok_iff.mp h
      cases h
      exact ⟨[], rfl, fun _ ↦ bind_eq_ok_iff.mpr ⟨set, hsigned, rfl⟩⟩
    · split at h
      · cases h
        exact ⟨[], rfl, fun _ ↦ rfl⟩
      · split at h
        · cases h
          exact ⟨[], rfl, fun _ ↦ rfl⟩
        · cases h

theorem readEscape_eq_ok {atom : Atom} (h : readEscape flags text = .ok (atom, rest)) :
    ∃ used, used ≠ [] ∧ text = used ++ rest ∧
      ∀ other, ((∃ condition, atom = .assertion condition) → EdgeEnds flags.spaced other) →
        readEscape flags (used ++ other) = .ok (atom, other) := by
  cases text with
  | nil => cases h
  | cons letter text =>
    have hread := @readEscape_cons flags letter
    rw [hread] at h
    split_ifs at h hread with hsign hedge hstart hend hproperty
    · cases h
      exact ⟨[letter], nofun, rfl, fun other _ ↦ hread other⟩
    · obtain ⟨⟨edge, rfl⟩, used, rfl, hused⟩ := readEdge_eq_ok h
      exact ⟨letter :: used, nofun, rfl,
        fun other hends ↦ (hread _).trans (hused other (hends ⟨_, rfl⟩))⟩
    · cases h
      exact ⟨[letter], nofun, rfl, fun other _ ↦ hread other⟩
    · cases h
      exact ⟨[letter], nofun, rfl, fun other _ ↦ hread other⟩
    · obtain ⟨used, rfl, hused⟩ := readProperty_isFramed _ _ _ h
      exact ⟨letter :: used, nofun, rfl, fun other _ ↦ (hread _).trans (hused other)⟩
    · obtain ⟨used, rfl, hused⟩ := readLetter_isFramed _ _ _ h
      exact ⟨letter :: used, nofun, rfl, fun other _ ↦ (hread _).trans (hused other)⟩

/-- An atom is read from a beginning of a text; only for an edge it matters what stands behind. -/
theorem read_eq_ok {atom : Atom} (h : read flags text = .ok (atom, rest)) :
    ∃ used, used ≠ [] ∧ text = used ++ rest ∧
      ∀ other, ((∃ condition, atom = .assertion condition) → EdgeEnds flags.spaced other) →
        read flags (used ++ other) = .ok (atom, other) := by
  cases text with
  | nil => cases h
  | cons c text =>
    rw [read] at h
    split_ifs at h with hescape
    · obtain ⟨used, -, rfl, hused⟩ := readEscape_eq_ok h
      refine ⟨c :: used, List.cons_ne_nil _ _, rfl, fun other hends ↦ ?_⟩
      rw [List.cons_append, read, if_pos hescape, hused other hends]
    · cases h
      exact ⟨[c], List.cons_ne_nil _ _, rfl, fun other _ ↦ by simp [read, hescape]⟩

end Atom

end FlowGraph.Regex
