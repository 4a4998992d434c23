import FlowGraph.Encoding.Evaluation
import FlowGraph.Proofs.Json.Reader

/-!
Events as texts. The member that tells the variant of an event may stand anywhere among the others,
so they are kept as they are met and read when the variant is known. What has been read of an event
then depends on the names of the members so far and not on their order (`takesByName`), and an event
is read from its members in any order and among any others (`reads_rearranged`).
-/

set_option autoImplicit false
set_option relaxedAutoImplicit false

namespace FlowGraph.Evaluation.Event

open Json

/-! ### Members of an event -/

/-- An event that a text holds as it is: its count is one of 64 bits, and so are the numbers in its
outputs, of which the objects are in order. -/
def IsExact : Event → Prop
  | .evaluationStarted _ nodeCount => (nodeCount : Int) ≤ Number.greatestInteger
  | .nodeResolved _ _ outputs => outputs.isExact = true
  | _ => True

def variant : Event → Variant
  | .evaluationStarted .. => .evaluationStarted
  | .nodeStarted .. => .nodeStarted
  | .nodeResolved .. => .nodeResolved
  | .nodeFailed .. => .nodeFailed
  | .nodeSkipped .. => .nodeSkipped
  | .evaluationCompleted .. => .evaluationCompleted
  | .evaluationFailed .. => .evaluationFailed

def tag (event : Event) : String × Json := ("type", .string event.variant.name)

/-- The members of an event beside that of its variant. -/
def fieldMembers (event : Event) : List (String × Json) := event.toJson.members.tail

theorem toJson_eq (event : Event) : event.toJson = .object (event.tag :: event.fieldMembers) := by
  cases event <;> rfl

/-- The parts of an event that its variant has. -/
def parts : Event → Parts
  | .evaluationStarted executionId nodeCount =>
    { executionId := some executionId, nodeCount := some nodeCount }
  | .nodeStarted executionId nodeId => { executionId := some executionId, nodeId := some nodeId }
  | .nodeResolved executionId nodeId outputs =>
    { executionId := some executionId, nodeId := some nodeId, outputs := some outputs }
  | .nodeFailed executionId nodeId error =>
    { executionId := some executionId, nodeId := some nodeId, error := some error }
  | .nodeSkipped executionId nodeId origin =>
    { executionId := some executionId, nodeId := some nodeId, origin := some origin }
  | .evaluationCompleted executionId => { executionId := some executionId }
  | .evaluationFailed executionId error =>
    { executionId := some executionId, error := some error }

/-- Of some parts those with these names. -/
def Parts.only (parts : Parts) (names : List String) : Parts where
  executionId := if "executionId" ∈ names then parts.executionId else none
  nodeCount := if "nodeCount" ∈ names then parts.nodeCount else none
  nodeId := if "nodeId" ∈ names then parts.nodeId else none
  outputs := if "outputs" ∈ names then parts.outputs else none
  error := if "error" ∈ names then parts.error else none
  origin := if "origin" ∈ names then parts.origin else none

theorem nodup_names (event : Event) :
    ("type" :: event.fieldMembers.map Prod.fst).Nodup := by
  cases event <;> simp [fieldMembers, toJson, Json.members]

theorem names_fields (event : Event) :
    event.variant.fields.map Json.Field.name = event.fieldMembers.map Prod.fst := by
  cases event <;> rfl

/-- Names that an event has no part of do not count. -/
theorem only_congr (event : Event) {first second : List String}
    (h : ∀ name ∈ event.fieldMembers.map Prod.fst, name ∈ first ↔ name ∈ second) :
    event.parts.only first = event.parts.only second := by
  cases event <;> simp_all [fieldMembers, toJson, Json.members, parts, Parts.only]

theorem only_fieldMembers (event : Event) :
    event.parts.only (event.fieldMembers.map Prod.fst) = event.parts := by
  cases event <;> rfl

/-! ### Reading the fields of an event -/

section Takes

variable {fields : List (Json.Field Parts)} {parts : Parts} {names : List String}

theorem takes_executionId {id : String} (hpart : parts.executionId = some id)
    (hfind : (fields.find? fun field ↦ field.name == "executionId") = some executionIdField)
    (hnew : "executionId" ∉ names) :
    Takes fields (parts.only names) ("executionId", .string id)
      (parts.only ("executionId" :: names)) :=
  takes_of_field hfind (by simp [executionIdField, Parts.only, hnew])
    ((reads_text id).bind (by simp [Parts.only, hpart]; rfl))

theorem takes_nodeCount {count : Nat} (hcount : (count : Int) ≤ Number.greatestInteger)
    (hpart : parts.nodeCount = some count)
    (hfind : (fields.find? fun field ↦ field.name == "nodeCount") = some nodeCountField)
    (hnew : "nodeCount" ∉ names) :
    Takes fields (parts.only names) ("nodeCount", .number (.integer count))
      (parts.only ("nodeCount" :: names)) :=
  takes_of_field hfind (by simp [nodeCountField, Parts.only, hnew])
    ((reads_count hcount).bind (by simp [Parts.only, hpart]; rfl))

theorem takes_nodeId {id : String} (hpart : parts.nodeId = some id)
    (hfind : (fields.find? fun field ↦ field.name == "nodeId") = some nodeIdField)
    (hnew : "nodeId" ∉ names) :
    Takes fields (parts.only names) ("nodeId", .string id) (parts.only ("nodeId" :: names)) :=
  takes_of_field hfind (by simp [nodeIdField, Parts.only, hnew])
    ((reads_text id).bind (by simp [Parts.only, hpart]; rfl))

theorem takes_outputs {outputs : Json} (ordered : outputs.everywhere isOrdered = true)
    (hpart : parts.outputs = some outputs)
    (hfind : (fields.find? fun field ↦ field.name == "outputs") = some outputsField)
    (hnew : "outputs" ∉ names) :
    Takes fields (parts.only names) ("outputs", outputs) (parts.only ("outputs" :: names)) :=
  takes_of_field hfind (by simp [outputsField, Parts.only, hnew])
    ((reads_json ordered).bind (by simp [Parts.only, hpart]; rfl))

theorem takes_error {error : String} (hpart : parts.error = some error)
    (hfind : (fields.find? fun field ↦ field.name == "error") = some errorField)
    (hnew : "error" ∉ names) :
    Takes fields (parts.only names) ("error", .string error) (parts.only ("error" :: names)) :=
  takes_of_field hfind (by simp [errorField, Parts.only, hnew])
    ((reads_text error).bind (by simp [Parts.only, hpart]; rfl))

theorem takes_origin {origin : String} (hpart : parts.origin = some origin)
    (hfind : (fields.find? fun field ↦ field.name == "origin") = some originField)
    (hnew : "origin" ∉ names) :
    Takes fields (parts.only names) ("origin", .string origin)
      (parts.only ("origin" :: names)) :=
  takes_of_field hfind (by simp [originField, Parts.only, hnew])
    ((reads_text origin).bind (by simp [Parts.only, hpart]; rfl))

end Takes

/-- A member of an event that has not been taken is taken as the part of its name. -/
theorem takes (event : Event) (exact : event.IsExact) (names : List String) :
    ∀ member ∈ event.fieldMembers, member.1 ∉ names →
      Takes event.variant.fields (event.parts.only names) member
        (event.parts.only (member.1 :: names)) := by
  cases event <;>
    simp only [fieldMembers, toJson, Json.members, List.tail_cons, List.forall_mem_cons]
  case evaluationStarted => exact ⟨takes_executionId rfl rfl, takes_nodeCount exact rfl rfl, by simp⟩
  case nodeStarted => exact ⟨takes_executionId rfl rfl, takes_nodeId rfl rfl, by simp⟩
  case nodeResolved outputs =>
    have ordered : outputs.everywhere isOrdered = true := (Bool.and_eq_true_iff.mp exact).2
    exact ⟨takes_executionId rfl rfl, takes_nodeId rfl rfl, takes_outputs ordered rfl rfl, by simp⟩
  case nodeFailed =>
    exact ⟨takes_executionId rfl rfl, takes_nodeId rfl rfl, takes_error rfl rfl, by simp⟩
  case nodeSkipped =>
    exact ⟨takes_executionId rfl rfl, takes_nodeId rfl rfl, takes_origin rfl rfl, by simp⟩
  case evaluationCompleted => exact ⟨takes_executionId rfl rfl, by simp⟩
  case evaluationFailed => exact ⟨takes_executionId rfl rfl, takes_error rfl rfl, by simp⟩

theorem takesByName (event : Event) (exact : event.IsExact) :
    TakesByName event.variant.fields event.parts.only event.fieldMembers where
  take := event.takes exact
  skip names name hname := event.only_congr fun own hown ↦ by
    have hne : own ≠ name := fun heq ↦ hname (heq ▸ hown)
    simp [hne]
  fields field hfield := event.names_fields ▸ List.mem_map_of_mem hfield

/-! ### Members in any order -/

/-- Members are kept as they are met until one tells the variant. -/
theorem foldlM_keepMember (source : Source) {members : List (String × Json)}
    (hnames : ∀ member ∈ members, member.1 ≠ "type") (kept : Members) :
    (Outline.ofMembers members).foldlM (keepMember source) kept =
      source.permit (membersDepth members)
        { kept with others := (Outline.ofMembers members).reverse ++ kept.others } := by
  induction members generalizing kept with
  | nil => exact (source.permit_zero kept).symm
  | cons member rest ih =>
    obtain ⟨key, value⟩ := member
    rw [List.forall_mem_cons] at hnames
    have hmember : keepMember source kept (⟨.ok key, .ok ()⟩, Outline.ofJson value) =
        source.permit value.depth
          { kept with others := (⟨.ok key, .ok ()⟩, Outline.ofJson value) :: kept.others } := by
      show (if key = "type" then _ else readJson source (Outline.ofJson value) >>= _) = _
      rw [if_neg hnames.1, readJson_ofJson]
      exact source.permit_map rfl
    rw [Outline.ofMembers, List.foldlM_cons, hmember, membersDepth]
    refine source.permit_bind ?_
    rw [ih hnames.2, List.reverse_cons, List.append_assoc, List.singleton_append]

theorem keepMember_tag (source : Source) (event : Event)
    (others : List (Token String × Outline)) :
    keepMember source ⟨none, others⟩
        (⟨.ok event.tag.1, .ok ()⟩, Outline.ofJson event.tag.2) =
      source.permit event.tag.2.depth ⟨some event.variant, others⟩ := by
  cases event <;> exact (source.permit_zero _).symm

/-- Wherever the variant is told, the other members are kept in their order. -/
theorem foldlM_keepMember_tag (source : Source) (event : Event)
    {before after : List (String × Json)}
    (hnames : ∀ member ∈ before ++ after, member.1 ≠ "type") :
    (Outline.ofMembers (before ++ event.tag :: after)).foldlM (keepMember source) {} =
      source.permit (membersDepth (before ++ event.tag :: after))
        ⟨some event.variant, (Outline.ofMembers (before ++ after)).reverse⟩ := by
  rw [List.forall_mem_append] at hnames
  have hsplit : Outline.ofMembers (before ++ event.tag :: after) =
      Outline.ofMembers before ++
        (⟨.ok event.tag.1, .ok ()⟩, Outline.ofJson event.tag.2) :: Outline.ofMembers after := by
    simp [Outline.ofMembers_eq_map]
  rw [hsplit, List.foldlM_append, foldlM_keepMember source hnames.1, membersDepth_append]
  refine source.permit_bind ?_
  rw [List.foldlM_cons, keepMember_tag, tag, membersDepth]
  refine source.permit_bind ?_
  rw [foldlM_keepMember source hnames.2]
  simp [Outline.ofMembers_eq_map]

variable {event : Event} {extras : List (String × Json)}

theorem readKept_eq {event : Event} {members : List (String × Json)}
    (h : (Outline.ofMembers members).foldlM (readMember event.variant.fields .document) {} =
      .ok event.parts) :
    readKept event.variant (.object (Outline.ofMembers members) none) = .ok event := by
  have hread : readFields event.variant.fields {} .document
      (.object (Outline.ofMembers members) none) = .ok event.parts := by
    show ((Outline.ofMembers members).foldlM (readMember event.variant.fields .document) {} >>=
      _) = _
    rw [h]
    cases event <;> rfl
  rw [readKept, hread]
  cases event <;> rfl

/-- The fields of an event are read from its members in any order and among others. -/
theorem readKept_of_perm (exact : event.IsExact) {members : List (String × Json)}
    (perm : members.Perm (event.fieldMembers ++ extras))
    (hextras : ∀ extra ∈ extras, extra.1 ∉ event.fieldMembers.map Prod.fst) :
    readKept event.variant (.object (Outline.ofMembers members) none) = .ok event := by
  have hfold := (event.takesByName exact).foldlM_readMember_of_perm event.nodup_names.of_cons perm
    hextras
  have hparts : event.parts.only (members.map Prod.fst).reverse = event.parts := by
    refine (event.only_congr fun name hname ↦ ?_).trans event.only_fieldMembers
    have hmem : name ∈ members.map Prod.fst := by
      rw [(perm.map Prod.fst).mem_iff, List.map_append]
      exact List.mem_append_left _ hname
    simp only [List.mem_reverse, hmem, hname]
  rw [hparts] at hfold
  exact readKept_eq hfold

/-- An event is read from a document of its members in any order and among members of other
names. -/
theorem reads_rearranged (exact : event.IsExact) {members : List (String × Json)}
    (perm : members.Perm (event.toJson.members ++ extras))
    (hextras : ∀ extra ∈ extras, extra.1 ∉ event.toJson.members.map Prod.fst) :
    Reads Event.read (.object members) event := by
  rw [toJson_eq, Json.members] at perm hextras
  simp only [List.map_cons, List.mem_cons, not_or] at hextras
  have htag : event.tag ∈ members := perm.mem_iff.mpr List.mem_cons_self
  obtain ⟨before, after, rfl⟩ := List.append_of_mem htag
  have hrest : (before ++ after).Perm (event.fieldMembers ++ extras) :=
    (List.perm_middle.symm.trans perm).cons_inv
  have hnames : ∀ member ∈ before ++ after, member.1 ≠ "type" := by
    intro member hmem
    rcases List.mem_append.mp (hrest.mem_iff.mp hmem) with hfield | hextra
    · exact fun heq ↦ (List.nodup_cons.mp event.nodup_names).1
        (heq ▸ List.mem_map_of_mem hfield)
    · exact (hextras member hextra).1
  have hkept := readKept_of_perm exact hrest fun extra hextra ↦ (hextras extra hextra).2
  intro source
  rw [Outline.ofJson, Event.read, depth]
  refine source.enter_bind fun inner ↦ ?_
  rw [foldlM_keepMember_tag inner event hnames]
  refine inner.permit_map ?_
  rw [List.reverse_reverse]
  exact hkept

theorem everywhere_isIntegral_toJson (exact : event.IsExact) :
    event.toJson.everywhere isIntegral = true := by
  cases event
  case evaluationStarted executionId nodeCount =>
    have hleast : Number.leastInteger ≤ (nodeCount : Int) :=
      (by decide : Number.leastInteger ≤ 0).trans (Int.natCast_nonneg nodeCount)
    have hgreatest : (nodeCount : Int) ≤ Number.greatestInteger := exact
    simp [toJson, everywhere, membersEverywhere, isIntegral, hleast, hgreatest]
  case nodeResolved outputs =>
    have integral : outputs.everywhere isIntegral = true := (Bool.and_eq_true_iff.mp exact).1
    simp [toJson, everywhere, membersEverywhere, isIntegral, integral]
  all_goals rfl

theorem everywhere_isIntegral_rearranged (exact : event.IsExact)
    {members : List (String × Json)} (perm : members.Perm (event.toJson.members ++ extras))
    (hextras : ∀ extra ∈ extras, extra.2.everywhere isIntegral = true) :
    (Json.object members).everywhere isIntegral = true := by
  have hevent := everywhere_isIntegral_toJson exact
  rw [toJson_eq, everywhere, Bool.and_eq_true, membersEverywhere_iff] at hevent
  rw [toJson_eq] at perm
  rw [everywhere, Bool.and_eq_true, membersEverywhere_iff]
  refine ⟨rfl, fun member hmem ↦ ?_⟩
  rcases List.mem_append.mp (perm.mem_iff.mp hmem) with hown | hextra
  · exact hevent.2 member hown
  · exact hextras member hextra

/-- Events survive the wire. The text of an event is read as that event, and so is every text in
which its members stand in another order, also that of the variant, and among members of other
names, whatever documents these hold, even names that occur more than once: as long as all numbers
are integers of 64 bits and the text nests at most 127 deep. -/
theorem reads_in_any_order (event : Event) (exact : event.IsExact) :
    (event.toJson.depth ≤ 127 → readWhole Event.read event.toJson.print = .ok event) ∧
      ∀ members extras, members.Perm (event.toJson.members ++ extras) →
        (∀ extra ∈ extras, extra.1 ∉ event.toJson.members.map Prod.fst) →
        (∀ extra ∈ extras, extra.2.everywhere isIntegral = true) →
        (Json.object members).depth ≤ 127 →
        readWhole Event.read (Json.object members).print = .ok event := by
  have hrearranged : ∀ members extras, members.Perm (event.toJson.members ++ extras) →
      (∀ extra ∈ extras, extra.1 ∉ event.toJson.members.map Prod.fst) →
      (∀ extra ∈ extras, extra.2.everywhere isIntegral = true) →
      (Json.object members).depth ≤ 127 →
      readWhole Event.read (Json.object members).print = .ok event := by
    intro members extras perm hextras hintegral hdepth
    rw [readWhole_print (reads_rearranged exact perm hextras)
      (everywhere_isIntegral_rearranged exact perm hintegral)]
    exact if_pos (by simpa [Source.text] using hdepth)
  refine ⟨fun hdepth ↦ ?_, hrearranged⟩
  rw [toJson_eq] at hdepth ⊢
  refine hrearranged _ [] ?_ (by simp) (by simp) hdepth
  rw [toJson_eq, Json.members, List.append_nil]

/-- A node that has put out a list. -/
def resolved : Event :=
  .nodeResolved "run" "node" (.object [("list", .array [.number (.integer 1), .null])])

/-- A member that no event has. -/
def attempt : String × Json := ("attempt", .array [.number (.integer 2)])

/-- An event is read from its members in reverse, with its variant last and a member before them
that it does not have. -/
theorem reads_in_any_order_resolved :
    resolved.IsExact ∧ attempt.1 ∉ resolved.toJson.members.map Prod.fst ∧
      attempt.2.everywhere isIntegral = true ∧
      readWhole Event.read (Json.object (attempt :: resolved.toJson.members.reverse)).print =
        .ok resolved := by
  have exact : resolved.IsExact := rfl
  have perm : (attempt :: resolved.toJson.members.reverse).Perm
      (resolved.toJson.members ++ [attempt]) :=
    ((List.reverse_perm _).cons attempt).trans (List.perm_append_singleton _ _).symm
  have hname : attempt.1 ∉ resolved.toJson.members.map Prod.fst := by decide
  have hintegral : attempt.2.everywhere isIntegral = true := rfl
  refine ⟨exact, hname, hintegral, ?_⟩
  exact (reads_in_any_order resolved exact).2 _ [attempt] perm
    (List.forall_mem_singleton.mpr hname) (List.forall_mem_singleton.mpr hintegral) (by decide)

end FlowGraph.Evaluation.Event
