import FlowGraph.Json.Reader
import FlowGraph.Proofs.Json.Outline

/-!
Readers on the outlines of whole documents. A reader that takes a document as some value takes it
from every source that lets it nest deep enough, and gives the error of a malformed text otherwise
(`Reads`). Each shape has a lemma that says so of its reader, given the same of the readers of its
parts; a text that has been printed is read as its document is.
-/

set_option autoImplicit false
set_option relaxedAutoImplicit false

namespace FlowGraph.Json

/-- The value, if so many levels may nest in the source. -/
def Source.permit {α : Type} (source : Source) (levels : Nat) (value : α) : Except ReadError α :=
  if source.depth.all (levels ≤ ·) then .ok value else .error .malformed

/-- The reader takes the document as the value, from every source in which it may nest so deep. -/
def Reads {α : Type} (read : Source → Outline → Except ReadError α) (document : Json) (value : α) :
    Prop :=
  ∀ source, read source (Outline.ofJson document) = source.permit document.depth value

section Permit

variable {α β : Type} {source : Source}

theorem Source.permit_zero (source : Source) (value : α) : source.permit 0 value = .ok value := by
  unfold permit
  rw [if_pos]
  cases source.depth <;> simp

/-- What is read in two parts nests as deep as the deeper one. -/
theorem Source.permit_bind {levels more : Nat} {value : α} {result : β}
    {rest : α → Except ReadError β} (h : rest value = source.permit more result) :
    (source.permit levels value >>= rest) = source.permit (max levels more) result := by
  unfold permit at h ⊢
  cases hdepth : source.depth with
  | none =>
    rw [hdepth] at h
    exact h
  | some depth =>
    rw [hdepth] at h
    simp only [Option.all_some, decide_eq_true_eq] at h ⊢
    by_cases hlevels : levels ≤ depth
    · rw [if_pos hlevels]
      refine h.trans ?_
      by_cases hmore : more ≤ depth
      · rw [if_pos hmore, if_pos (by omega)]
      · rw [if_neg hmore, if_neg (by omega)]
    · rw [if_neg hlevels, if_neg (by omega)]
      rfl

theorem Source.permit_map {levels : Nat} {value : α} {result : β}
    {rest : α → Except ReadError β} (h : rest value = .ok result) :
    (source.permit levels value >>= rest) = source.permit levels result := by
  rw [permit_bind (h.trans (source.permit_zero result).symm), Nat.max_zero]

/-- What is read inside one more array or object nests one level deeper. -/
theorem Source.enter_bind {levels : Nat} {result : β} {rest : Source → Except ReadError β}
    (h : ∀ inner, rest inner = inner.permit levels result) :
    (source.enter >>= rest) = source.permit (levels + 1) result := by
  unfold enter
  split
  · next hdepth =>
    refine (h source).trans ?_
    unfold permit
    rw [hdepth]
    rfl
  · next hdepth =>
    unfold permit
    rw [hdepth]
    simp
    rfl
  · next depth hdepth =>
    refine (h _).trans ?_
    unfold permit
    rw [hdepth]
    simp

end Permit

/-! ### Any document -/

mutual

theorem readJson_ofJson (source : Source) (document : Json) :
    readJson source (Outline.ofJson document) = source.permit document.depth document.asRead := by
  cases document with
  | null => exact (source.permit_zero _).symm
  | bool b => exact (source.permit_zero _).symm
  | number n => exact (source.permit_zero _).symm
  | string s => exact (source.permit_zero _).symm
  | array items =>
    rw [Outline.ofJson, readJson, depth]
    refine source.enter_bind fun inner ↦ ?_
    rw [readJsonItems_ofItems inner items]
    exact inner.permit_map rfl
  | object members =>
    rw [Outline.ofJson, readJson, depth]
    refine source.enter_bind fun inner ↦ ?_
    rw [readJsonMembers_ofMembers inner members]
    exact inner.permit_map rfl

theorem readJsonItems_ofItems (source : Source) (items : List Json) :
    readJsonItems source (Outline.ofItems items) =
      source.permit (itemsDepth items) (itemsAsRead items) := by
  cases items with
  | nil => exact (source.permit_zero _).symm
  | cons item rest =>
    rw [Outline.ofItems, readJsonItems, readJson_ofJson source item, itemsDepth]
    refine source.permit_bind ?_
    rw [readJsonItems_ofItems source rest]
    exact source.permit_map rfl

theorem readJsonMembers_ofMembers (source : Source) (members : List (String × Json)) :
    readJsonMembers source (Outline.ofMembers members) =
      source.permit (membersDepth members) (membersAsRead members) := by
  cases members with
  | nil => exact (source.permit_zero _).symm
  | cons member rest =>
    obtain ⟨key, value⟩ := member
    rw [Outline.ofMembers, readJsonMembers, membersDepth]
    show (readJson source (Outline.ofJson value) >>= _) = _
    rw [readJson_ofJson source value]
    refine source.permit_bind ?_
    rw [readJsonMembers_ofMembers source rest]
    exact source.permit_map rfl

end

/-- A document is read as it is if its objects are in order. -/
theorem reads_json {document : Json} (ordered : document.everywhere isOrdered = true) :
    Reads readJson document document := fun source ↦ by
  rw [readJson_ofJson, asRead_of_isOrdered ordered]

theorem reads_text (s : String) : Reads (fun _ ↦ readText) (.string s) s :=
  fun source ↦ (source.permit_zero s).symm

theorem reads_count {count : Nat} (h : (count : Int) ≤ Number.greatestInteger) :
    Reads (fun _ ↦ readCount) (.number (.integer count)) count := by
  intro source
  show (if 0 ≤ (count : Int) ∧ (count : Int) ≤ Number.greatestInteger then
    Except.ok (count : Int).toNat else .error ReadError.unfit) = _
  rw [if_pos ⟨Int.natCast_nonneg count, h⟩, Int.toNat_natCast]
  exact (source.permit_zero count).symm

/-! ### Particular shapes -/

section Shapes

variable {α β ρ : Type} {read : Source → Outline → Except ReadError α} {document : Json}

/-- What is made of a value that has been read nests no deeper. -/
theorem Reads.bind {value : α} (reads : Reads read document value)
    {rest : α → Except ReadError β} {result : β} (h : rest value = .ok result) :
    Reads (fun source outline ↦ read source outline >>= rest) document result := by
  intro source
  show (read source (Outline.ofJson document) >>= rest) = _
  rw [reads source]
  exact source.permit_map h

theorem reads_list {toJson : α → Json} {items : List α}
    (h : ∀ item ∈ items, Reads read (toJson item) item) :
    Reads (readList read) (.array (items.map toJson)) items := by
  have hitems (source : Source) : (Outline.ofItems (items.map toJson)).mapM (read source) =
      source.permit (itemsDepth (items.map toJson)) items := by
    induction items with
    | nil => exact (source.permit_zero _).symm
    | cons item rest ih =>
      rw [List.map_cons, Outline.ofItems, List.mapM_cons, h item List.mem_cons_self source,
        itemsDepth]
      refine source.permit_bind ?_
      rw [ih fun other hother ↦ h other (List.mem_cons_of_mem item hother)]
      exact source.permit_map rfl
  intro source
  rw [Outline.ofJson, readList, depth]
  refine source.enter_bind fun inner ↦ ?_
  rw [hitems]
  exact inner.permit_map rfl

theorem reads_entries {toJson : α → Json} {entries : List (String × α)}
    (h : ∀ entry ∈ entries, Reads read (toJson entry.2) entry.2) :
    Reads (readEntries read) (.object (entries.map fun entry ↦ (entry.1, toJson entry.2)))
      entries := by
  have hentries (source : Source) :
      ((Outline.ofMembers (entries.map fun entry ↦ (entry.1, toJson entry.2))).mapM
        fun member ↦ do
          let key ← orFault member.1.kept
          return (key, ← read source member.2)) =
        source.permit (membersDepth (entries.map fun entry ↦ (entry.1, toJson entry.2)))
          entries := by
    induction entries with
    | nil => exact (source.permit_zero _).symm
    | cons entry rest ih =>
      have hentry : (read source (Outline.ofJson (toJson entry.2)) >>= fun value ↦
          .ok (entry.1, value)) = source.permit (toJson entry.2).depth entry := by
        rw [h entry List.mem_cons_self source]
        exact source.permit_map rfl
      rw [List.map_cons, Outline.ofMembers, List.mapM_cons, membersDepth]
      show ((read source (Outline.ofJson (toJson entry.2)) >>= fun value ↦
          .ok (entry.1, value)) >>= _) = _
      rw [hentry]
      refine source.permit_bind ?_
      rw [ih fun other hother ↦ h other (List.mem_cons_of_mem entry hother)]
      exact source.permit_map rfl
  intro source
  rw [Outline.ofJson, readEntries, depth]
  refine source.enter_bind fun inner ↦ ?_
  rw [hentries]
  exact inner.permit_map rfl

/-- Reading a member takes what has been read of a value from one state to the next. -/
def Takes (fields : List (Field ρ)) (soFar : ρ) (member : String × Json) (next : ρ) : Prop :=
  ∀ source, readMember fields source soFar (⟨.ok member.1, .ok ()⟩, Outline.ofJson member.2) =
    source.permit member.2.depth next

/-- Members that are taken one after the other. -/
inductive TakesAll (fields : List (Field ρ)) : ρ → List (String × Json) → ρ → Prop where
  | nil (last : ρ) : TakesAll fields last [] last
  | cons {soFar next last : ρ} {member : String × Json} {members : List (String × Json)}
      (first : Takes fields soFar member next) (rest : TakesAll fields next members last) :
      TakesAll fields soFar (member :: members) last

variable {fields : List (Field ρ)} {soFar next last : ρ} {members : List (String × Json)}

/-- A field that has not been read is taken from the member of its name. -/
theorem takes_of_field {key : String} {value : Json} {field : Field ρ}
    (hfind : (fields.find? fun field ↦ field.name == key) = some field)
    (hunread : field.isRead soFar = false)
    (hread : Reads (fun source outline ↦ field.read source outline soFar) value next) :
    Takes fields soFar (key, value) next := by
  intro source
  rw [← hread source]
  simp only [readMember, orFault, bind, Except.bind, hfind, hunread, Bool.false_eq_true, if_false]

theorem TakesAll.foldlM_readMember (takes : TakesAll fields soFar members last)
    (source : Source) :
    (Outline.ofMembers members).foldlM (readMember fields source) soFar =
      source.permit (membersDepth members) last := by
  induction takes with
  | nil last => exact (source.permit_zero last).symm
  | @cons _ _ _ member _ first _ ih =>
    obtain ⟨key, value⟩ := member
    rw [Outline.ofMembers, List.foldlM_cons, first source, membersDepth]
    exact source.permit_bind ih

/-- An object is read by its members, once all that is required has been read. -/
theorem reads_fields (takes : TakesAll fields soFar members last)
    (complete : missing? fields last = none) :
    Reads (readFields fields soFar) (.object members) last := by
  intro source
  rw [Outline.ofJson, readFields, depth]
  refine source.enter_bind fun inner ↦ ?_
  rw [takes.foldlM_readMember]
  refine inner.permit_map ?_
  rw [complete]
  rfl

/-- A member of no field is passed over. -/
theorem readMember_of_find?_eq_none {key : String} {value : Json} {source : Source}
    (h : (fields.find? fun field ↦ field.name == key) = none) :
    readMember fields source soFar (⟨.ok key, .ok ()⟩, Outline.ofJson value) = .ok soFar := by
  simp only [readMember, orFault, bind, Except.bind, h, Outline.pass_ofJson]
  rfl

/-- What has been read of a value is determined by the names of the members so far: a member of the
value is taken once, and others are passed over. -/
structure TakesByName (fields : List (Field ρ)) (soFar : List String → ρ)
    (own : List (String × Json)) : Prop where
  take : ∀ names, ∀ member ∈ own, member.1 ∉ names →
    Takes fields (soFar names) member (soFar (member.1 :: names))
  skip : ∀ names name, name ∉ own.map Prod.fst → soFar (name :: names) = soFar names
  fields : ∀ field ∈ fields, field.name ∈ own.map Prod.fst

variable {own others : List (String × Json)}

theorem TakesByName.foldlM_readMember {soFar : List String → ρ}
    (byName : TakesByName fields soFar own) {names : List String}
    (hown : ∀ member ∈ members, member.1 ∈ own.map Prod.fst → member ∈ own ∧ member.1 ∉ names)
    (honce : members.Pairwise fun first second ↦
      first.1 ∈ own.map Prod.fst → second.1 ≠ first.1) :
    (Outline.ofMembers members).foldlM (readMember fields .document) (soFar names) =
      .ok (soFar ((members.map Prod.fst).reverse ++ names)) := by
  induction members generalizing names with
  | nil => rfl
  | cons member rest ih =>
    obtain ⟨key, value⟩ := member
    rw [List.forall_mem_cons] at hown
    rw [List.pairwise_cons] at honce
    have hmember : readMember fields .document (soFar names)
        (⟨.ok key, .ok ()⟩, Outline.ofJson value) = .ok (soFar (key :: names)) := by
      by_cases hkey : key ∈ own.map Prod.fst
      · -- The first member of this name, so its field has not been read.
        obtain ⟨hmem, hnew⟩ := hown.1 hkey
        exact byName.take names (key, value) hmem hnew .document
      · rw [byName.skip names key hkey]
        refine readMember_of_find?_eq_none (List.find?_eq_none.mpr fun field hfield ↦ ?_)
        have hne : field.name ≠ key := fun heq ↦ hkey (heq ▸ byName.fields field hfield)
        simpa using hne
    have hrest : ∀ other ∈ rest, other.1 ∈ own.map Prod.fst →
        other ∈ own ∧ other.1 ∉ key :: names := by
      intro other hother hname
      obtain ⟨hmem, hnew⟩ := hown.2 other hother hname
      refine ⟨hmem, fun h ↦ ?_⟩
      rcases List.mem_cons.mp h with heq | hold
      · exact honce.1 other hother (heq ▸ hname) heq
      · exact hnew hold
    rw [Outline.ofMembers, List.foldlM_cons, hmember]
    show (Outline.ofMembers rest).foldlM (readMember fields .document) (soFar (key :: names)) = _
    rw [ih hrest honce.2, List.map_cons, List.reverse_cons, List.append_assoc,
      List.singleton_append]

/-- The members of a value are read from a document that has been read before in any order and among
any others. -/
theorem TakesByName.foldlM_readMember_of_perm {soFar : List String → ρ}
    (byName : TakesByName fields soFar own) (hnodup : (own.map Prod.fst).Nodup)
    (perm : members.Perm (own ++ others))
    (hothers : ∀ other ∈ others, other.1 ∉ own.map Prod.fst) :
    (Outline.ofMembers members).foldlM (readMember fields .document) (soFar []) =
      .ok (soFar (members.map Prod.fst).reverse) := by
  have hown : ∀ member ∈ members, member.1 ∈ own.map Prod.fst →
      member ∈ own ∧ member.1 ∉ [] := by
    intro member hmem hname
    refine ⟨?_, List.not_mem_nil⟩
    exact (List.mem_append.mp (perm.mem_iff.mp hmem)).resolve_right fun hother ↦
      hothers member hother hname
  have honce : members.Pairwise fun first second ↦
      first.1 ∈ own.map Prod.fst → second.1 ≠ first.1 := by
    have hsymm : ∀ {first second : String × Json},
        (first.1 ∈ own.map Prod.fst → second.1 ≠ first.1) →
          second.1 ∈ own.map Prod.fst → first.1 ≠ second.1 :=
      fun h hmem heq ↦ h (heq ▸ hmem) heq.symm
    rw [perm.pairwise_iff hsymm, List.pairwise_append]
    refine ⟨?_, ?_, ?_⟩
    · exact (List.pairwise_map.mp hnodup).imp fun h _ ↦ h.symm
    · exact List.pairwise_of_forall_mem_list fun first hfirst _ _ hname ↦
        absurd hname (hothers first hfirst)
    · exact fun first hfirst second hsecond _ heq ↦
        hothers second hsecond (heq ▸ List.mem_map_of_mem hfirst)
  rw [byName.foldlM_readMember hown honce, List.append_nil]

/-- A text that has been printed is read as its document is. -/
theorem readWhole_print {value : α} (reads : Reads read document value)
    (integral : document.everywhere isIntegral = true) :
    readWhole read document.print = Source.text.permit document.depth value := by
  unfold readWhole print
  rw [String.toList_ofList, Outline.ofChars_chars document integral]
  show (read .text (Outline.ofJson document) >>= _) = _
  rw [reads .text]
  exact Source.permit_map rfl

end Shapes

end FlowGraph.Json
