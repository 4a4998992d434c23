import FlowGraph.Proofs.OrderedMap
import FlowGraph.Proofs.Text.ByteOrder
import FlowGraph.Registry

/-!
Registries and how they have come to be. A history of registering and merging amounts to a list of
registrations, and what is found under a name is what was registered last under it
(`get?_registry`). The other views tell the same: the names in the order of their bytes, what the
types tell about themselves, and the groups of that by category (`views_agree`).
-/

set_option autoImplicit false
set_option relaxedAutoImplicit false

namespace FlowGraph.Registry

/-- The type that was registered last under a name. -/
def latest? (registrations : List (String × NodeType)) (name : String) : Option NodeType :=
  (registrations.filter fun entry ↦ entry.1 = name).getLast?.map Prod.snd

/-- How a registry has come to be, from an empty one. -/
inductive History where
  | empty
  | register (before : History) (identifier : String) (type : NodeType)
  | registerType (before : History) (type : NodeType)
  /-- The type that is found under a name, if any, is registered under another one too. -/
  | registerFound (before : History) (found identifier : String)
  | merge (before other : History)

namespace History

/-- The registry that comes of a history. -/
def registry : History → Registry
  | .empty => Registry.empty
  | .register before identifier type => before.registry.register identifier type
  | .registerType before type => before.registry.registerType type
  | .registerFound before found identifier =>
    match before.registry.get? found with
    | some type => before.registry.register identifier type
    | none => before.registry
  | .merge before other => before.registry.merge other.registry

/-- What has been registered, one after the other. A merge registers everything that the other
registry holds. -/
def registrations : History → List (String × NodeType)
  | .empty => []
  | .register before identifier type => before.registrations ++ [(identifier, type)]
  | .registerType before type => before.registrations ++ [(type.metadata.identifier, type)]
  | .registerFound before found identifier =>
    match before.registry.get? found with
    | some type => before.registrations ++ [(identifier, type)]
    | none => before.registrations
  | .merge before other => before.registrations ++ other.registry.types.entries

end History

/-! ### What is found -/

section Latest

variable {name : String}

theorem latest?_append (registrations more : List (String × NodeType)) :
    latest? (registrations ++ more) name = (latest? more name).or (latest? registrations name) := by
  rw [latest?, List.filter_append, List.getLast?_append, Option.map_or]
  rfl

theorem latest?_singleton (identifier : String) (type : NodeType) :
    latest? [(identifier, type)] name = if name = identifier then some type else none := by
  by_cases h : identifier = name
  · simp [latest?, h]
  · simp [latest?, h, Ne.symm h]

/-- Of registrations under different names each one is the last under its name. -/
theorem latest?_eq_some_iff {registrations : List (String × NodeType)}
    (h : (registrations.map Prod.fst).Nodup) {type : NodeType} :
    latest? registrations name = some type ↔ (name, type) ∈ registrations := by
  induction registrations generalizing type with
  | nil => simp [latest?]
  | cons entry rest ih =>
    obtain ⟨identifier, first⟩ := entry
    rw [List.map_cons, List.nodup_cons] at h
    have hrest : ∀ other, (identifier, other) ∉ rest := fun other hother ↦
      h.1 (List.mem_map.mpr ⟨_, hother, rfl⟩)
    rw [← List.singleton_append, latest?_append, latest?_singleton, Option.or_eq_some_iff]
    by_cases hname : name = identifier
    · have hnone : latest? rest name = none :=
        Option.eq_none_iff_forall_ne_some.mpr fun other hother ↦
          hrest other (hname ▸ (ih h.2).mp hother)
      subst hname
      simp [hnone, hrest, eq_comm]
    · simp [hname, ih h.2]

theorem latest?_entries (types : OrderedMap String NodeType) :
    latest? types.entries name = types.get? name := by
  ext type
  rw [latest?_eq_some_iff (OrderedMap.nodup_keys types), OrderedMap.get?_eq_some_iff]

end Latest

theorem get?_register (registry : Registry) (identifier : String) (type : NodeType)
    (name : String) :
    (registry.register identifier type).get? name =
      (latest? [(identifier, type)] name).or (registry.get? name) := by
  rw [latest?_singleton, get?, register, OrderedMap.get?_insert]
  split_ifs with h <;> simp [get?]

theorem get?_merge (registry other : Registry) (name : String) :
    (registry.merge other).get? name = (other.get? name).or (registry.get? name) :=
  OrderedMap.get?_union registry.types other.types name

/-- Under every name that type is found which was registered last under it. -/
theorem History.get?_registry (history : History) (name : String) :
    history.registry.get? name = latest? history.registrations name := by
  induction history with
  | empty => rfl
  | register before identifier type ih =>
    rw [registry, registrations, get?_register, latest?_append, ih]
  | registerType before type ih =>
    rw [registry, registrations, Registry.registerType, get?_register, latest?_append, ih]
  | registerFound before found identifier ih =>
    rw [registry, registrations]
    split
    · rw [get?_register, latest?_append, ih]
    · exact ih
  | merge before other ih _ =>
    rw [registry, registrations, get?_merge, latest?_append, latest?_entries, ih]
    rfl

/-! ### What is listed -/

section Views

variable {registry : Registry} {identifier : String}

theorem contains_iff :
    registry.contains identifier = true ↔ ∃ type, registry.get? identifier = some type :=
  OrderedMap.contains_iff registry.types identifier

theorem require_eq_ok_iff {type : NodeType} :
    registry.require identifier = .ok type ↔ registry.get? identifier = some type := by
  unfold require
  cases registry.get? identifier <;> simp

theorem require_eq_error_iff {error : GraphError} :
    registry.require identifier = .error error ↔
      registry.get? identifier = none ∧ error = .unknownNodeType identifier := by
  unfold require
  cases registry.get? identifier <;> simp [eq_comm]

theorem collectIdentifiers_of_perm {listed : List (String × NodeType)}
    (h : listed.Perm registry.types.entries) : collectIdentifiers listed = registry.types.keys :=
  (eq_mergeSort_of_ascending (fun identifier ↦ identifier) (OrderedMap.pairwise_keys registry.types)
    (h.symm.map Prod.fst)).symm

theorem collectMetadata_of_perm {listed : List (String × NodeType)}
    (h : listed.Perm registry.types.entries) :
    collectMetadata listed =
      registry.types.entries.map fun entry ↦ { entry.2.metadata with identifier := entry.1 } := by
  have hascending : (registry.types.entries.map fun entry ↦
      { entry.2.metadata with identifier := entry.1 }).Pairwise
        fun first second ↦ first.identifier < second.identifier :=
    List.pairwise_map.mpr registry.types.ascending
  exact (eq_mergeSort_of_ascending Metadata.identifier hascending (h.symm.map _)).symm

theorem identifiers_eq (registry : Registry) : registry.identifiers = registry.types.keys :=
  collectIdentifiers_of_perm (.refl _)

theorem metadata_eq (registry : Registry) :
    registry.metadata =
      registry.types.entries.map fun entry ↦ { entry.2.metadata with identifier := entry.1 } :=
  collectMetadata_of_perm (.refl _)

theorem isEmpty_iff : registry.isEmpty = true ↔ ∀ name, registry.get? name = none :=
  List.isEmpty_iff.trans (OrderedMap.entries_eq_nil_iff registry.types)

theorem mem_identifiers_iff :
    identifier ∈ registry.identifiers ↔ ∃ type, registry.get? identifier = some type := by
  rw [identifiers_eq]
  exact OrderedMap.mem_keys_iff registry.types identifier

/-- The size is the number of names under which a type is found. -/
theorem size_eq_ncard (registry : Registry) :
    registry.size = {name | ∃ type, registry.get? name = some type}.ncard := by
  have hnodup : registry.types.keys.Nodup := OrderedMap.nodup_keys registry.types
  refine Eq.trans ?_ (ncard_eq_length hnodup fun name ↦
    (OrderedMap.mem_keys_iff registry.types name).symm).symm
  exact (List.length_map _).symm

theorem map_identifier_metadata (registry : Registry) :
    registry.metadata.map Metadata.identifier = registry.identifiers := by
  rw [metadata_eq, identifiers_eq, List.map_map]
  rfl

theorem mem_metadata_iff {metadata : Metadata} :
    metadata ∈ registry.metadata ↔ ∃ type, registry.get? metadata.identifier = some type ∧
      metadata = { type.metadata with identifier := metadata.identifier } := by
  rw [metadata_eq, List.mem_map]
  constructor
  · rintro ⟨⟨name, type⟩, hentry, rfl⟩
    exact ⟨type, (OrderedMap.get?_eq_some_iff _ _ _).mpr hentry, rfl⟩
  · rintro ⟨type, htype, heq⟩
    exact ⟨(metadata.identifier, type), (OrderedMap.get?_eq_some_iff _ _ _).mp htype, heq.symm⟩

/-! ### Groups -/

theorem get?_pushGroup (groups : OrderedMap Category (List Metadata)) (metadata : Metadata)
    (category : Category) :
    (pushGroup groups metadata).get? category =
      if category = metadata.category then some ((groups.get? category).getD [] ++ [metadata])
      else groups.get? category := by
  rw [pushGroup, OrderedMap.get?_insert]
  split_ifs with h
  · rw [h]
  · rfl

/-- What has been pushed follows what was in the group before, in the order of the pushes. -/
theorem getD_foldl_pushGroup (whole : List Metadata)
    (groups : OrderedMap Category (List Metadata)) (category : Category) :
    ((whole.foldl pushGroup groups).get? category).getD [] =
      (groups.get? category).getD [] ++
        whole.filter fun metadata ↦ metadata.category = category := by
  induction whole generalizing groups with
  | nil => simp
  | cons metadata rest ih =>
    rw [List.foldl_cons, ih, get?_pushGroup, List.filter_cons]
    by_cases h : metadata.category = category
    · simp [h]
    · simp [h, Ne.symm h]

/-- A group is started by its first member, so that none is empty. -/
theorem foldl_pushGroup_ne_nil {groups : OrderedMap Category (List Metadata)}
    (h : ∀ category, groups.get? category ≠ some []) (whole : List Metadata) (category : Category) :
    (whole.foldl pushGroup groups).get? category ≠ some [] := by
  induction whole generalizing groups with
  | nil => exact h category
  | cons metadata rest ih =>
    refine ih fun other ↦ ?_
    rw [get?_pushGroup]
    split_ifs
    · simp
    · exact h other

/-- The metadata of one category. -/
def metadataOf (registry : Registry) (category : Category) : List Metadata :=
  registry.metadata.filter fun metadata ↦ metadata.category = category

theorem mem_metadataByCategory_iff {group : Category × List Metadata} :
    group ∈ registry.metadataByCategory ↔
      group.2 = registry.metadataOf group.1 ∧ group.2 ≠ [] := by
  have hgroup := getD_foldl_pushGroup registry.metadata .empty group.1
  have hempty : ∀ category,
      (.empty : OrderedMap Category (List Metadata)).get? category ≠ some [] := by simp
  have hnonempty := foldl_pushGroup_ne_nil hempty registry.metadata group.1
  rw [OrderedMap.get?_empty, Option.getD_none, List.nil_append] at hgroup
  rw [metadataByCategory, ← OrderedMap.get?_eq_some_iff _ group.1 group.2, metadataOf, ← hgroup]
  constructor
  · intro h
    rw [h] at hnonempty ⊢
    exact ⟨rfl, fun hnil ↦ hnonempty (congrArg some hnil)⟩
  · rintro ⟨heq, hne⟩
    cases hfound : (registry.metadata.foldl pushGroup .empty).get? group.1 with
    | none =>
      rw [hfound] at heq
      exact absurd heq hne
    | some members =>
      rw [hfound] at heq
      exact congrArg some heq.symm

/-- The groups are the parts of the metadata by category, without the empty ones. -/
theorem metadataByCategory_eq (registry : Registry) :
    registry.metadataByCategory =
      (Category.all.map fun category ↦ (category, registry.metadataOf category)).filter fun group ↦
        !group.2.isEmpty := by
  have hall : Category.all.Pairwise (· < ·) := by decide
  have hparts : (Category.all.map fun category ↦ (category, registry.metadataOf category)).Pairwise
      fun first second ↦ first.1 < second.1 := List.pairwise_map.mpr hall
  let parts : OrderedMap Category (List Metadata) :=
    ⟨_, hparts.filter fun group ↦ !group.2.isEmpty⟩
  suffices hmap : registry.metadata.foldl pushGroup .empty = parts from
    congrArg OrderedMap.entries hmap
  refine OrderedMap.eq_of_get?_eq fun category ↦ ?_
  have hcategory : category ∈ Category.all := by cases category <;> decide
  ext members
  rw [OrderedMap.get?_eq_some_iff, OrderedMap.get?_eq_some_iff]
  refine mem_metadataByCategory_iff.trans (Iff.trans ?_ List.mem_filter.symm)
  rw [List.mem_map]
  constructor
  · rintro ⟨hmembers, hne⟩
    exact ⟨⟨category, hcategory, Prod.ext rfl hmembers.symm⟩, by simpa using hne⟩
  · rintro ⟨⟨other, -, heq⟩, hne⟩
    rw [← heq] at hne ⊢
    exact ⟨rfl, by simpa using hne⟩

/-- Groups that split what types tell about themselves by category: one for each category that
occurs, with its part of the whole in the order of the whole. -/
structure SplitsByCategory (whole : List Metadata) (groups : List (Category × List Metadata)) :
    Prop where
  categories_nodup : (groups.map Prod.fst).Nodup
  nonempty : ∀ group ∈ groups, group.2 ≠ []
  category : ∀ group ∈ groups, ∀ metadata ∈ group.2, metadata.category = group.1
  sublist : ∀ group ∈ groups, group.2.Sublist whole
  perm : (groups.flatMap Prod.snd).Perm whole

theorem flatMap_filter_nonempty {α β : Type} (groups : List (α × List β)) :
    (groups.filter fun group ↦ !group.2.isEmpty).flatMap Prod.snd = groups.flatMap Prod.snd := by
  induction groups with
  | nil => rfl
  | cons group rest ih =>
    obtain ⟨key, members⟩ := group
    cases members with
    | nil => simpa using ih
    | cons first more => simpa using ih

theorem count_metadataOf (registry : Registry) (category : Category) (metadata : Metadata) :
    (registry.metadataOf category).count metadata =
      if metadata.category = category then registry.metadata.count metadata else 0 := by
  unfold metadataOf
  split_ifs with h
  · exact List.count_filter (decide_eq_true h)
  · refine List.count_eq_zero_of_not_mem fun hmem ↦ h ?_
    exact of_decide_eq_true (List.mem_filter.mp hmem).2

theorem flatMap_metadataOf_perm (registry : Registry) :
    (Category.all.flatMap registry.metadataOf).Perm registry.metadata := by
  refine List.perm_iff_count.mpr fun metadata ↦ ?_
  simp only [Category.all, List.flatMap_cons, List.flatMap_nil, List.append_nil, List.count_append,
    count_metadataOf]
  cases metadata.category <;> simp

theorem splitsByCategory (registry : Registry) :
    SplitsByCategory registry.metadata registry.metadataByCategory where
  categories_nodup := OrderedMap.nodup_keys (registry.metadata.foldl pushGroup .empty)
  nonempty group hgroup := (mem_metadataByCategory_iff.mp hgroup).2
  category group hgroup metadata hmetadata := by
    rw [(mem_metadataByCategory_iff.mp hgroup).1] at hmetadata
    exact of_decide_eq_true (List.mem_filter.mp hmetadata).2
  sublist group hgroup := by
    rw [(mem_metadataByCategory_iff.mp hgroup).1]
    exact List.filter_sublist
  perm := by
    rw [metadataByCategory_eq, flatMap_filter_nonempty, List.flatMap_map]
    exact flatMap_metadataOf_perm registry

end Views

/-! ### All views -/

/-- The views of a registry, as they follow from what has been registered. -/
structure Views (registry : Registry) (registrations : List (String × NodeType)) : Prop where
  found : ∀ name, registry.get? name = latest? registrations name
  contains_iff : ∀ name,
    registry.contains name = true ↔ ∃ type, registry.get? name = some type
  require_found : ∀ name type,
    registry.require name = .ok type ↔ registry.get? name = some type
  require_unknown : ∀ name error, registry.require name = .error error ↔
    registry.get? name = none ∧ error = .unknownNodeType name
  size_eq : registry.size = {name | ∃ type, registry.get? name = some type}.ncard
  isEmpty_iff : registry.isEmpty = true ↔ ∀ name, registry.get? name = none
  ascending : registry.identifiers.Pairwise fun first second ↦
    Text.bytes first < Text.bytes second
  mem_identifiers_iff : ∀ name,
    name ∈ registry.identifiers ↔ ∃ type, registry.get? name = some type
  any_order : ∀ listed, listed.Perm registry.types.entries →
    collectIdentifiers listed = registry.identifiers ∧ collectMetadata listed = registry.metadata
  metadata_identifiers : registry.metadata.map Metadata.identifier = registry.identifiers
  metadata_types : ∀ metadata ∈ registry.metadata,
    ∃ type, registry.get? metadata.identifier = some type ∧
      metadata = { type.metadata with identifier := metadata.identifier }
  categories : SplitsByCategory registry.metadata registry.metadataByCategory

/-- All views of a registry agree, whatever has been registered, registered again under another name
and merged before: under every name the type is found that was registered last under it, and names,
metadata and groups list just what is found. -/
theorem History.views_agree (history : History) : history.registry.Views history.registrations where
  found := history.get?_registry
  contains_iff _ := Registry.contains_iff
  require_found _ _ := require_eq_ok_iff
  require_unknown _ _ := require_eq_error_iff
  size_eq := history.registry.size_eq_ncard
  isEmpty_iff := Registry.isEmpty_iff
  ascending := by
    rw [identifiers_eq]
    exact (OrderedMap.pairwise_keys _).imp Text.bytes_lt_of_lt
  mem_identifiers_iff _ := Registry.mem_identifiers_iff
  any_order listed h := by
    rw [identifiers_eq, metadata_eq]
    exact ⟨collectIdentifiers_of_perm h, collectMetadata_of_perm h⟩
  metadata_identifiers := history.registry.map_identifier_metadata
  metadata_types _ := mem_metadata_iff.mp
  categories := history.registry.splitsByCategory

/-- A type is listed under the name it is registered under, not under its own. -/
example (type : NodeType) :
    (History.empty.register "copy" type).registry.metadata =
      [{ type.metadata with identifier := "copy" }] := by cbv

end FlowGraph.Registry
