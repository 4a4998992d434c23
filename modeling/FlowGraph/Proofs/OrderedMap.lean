import FlowGraph.OrderedSet
import Mathlib.Data.Set.Card

/-!
The theory of ordered maps and sets. A map is determined by its look-ups (`eq_of_get?_eq`), each
operation is described by the look-ups in its result, and the first entry is the one of the least
key. Sets list their members in ascending order and each once.
-/

set_option autoImplicit false
set_option relaxedAutoImplicit false

namespace FlowGraph

/-- A set has as many members as a list that lists each of them once. -/
theorem ncard_eq_length {α : Type} {set : Set α} {items : List α} (hnodup : items.Nodup)
    (h : ∀ item, item ∈ set ↔ item ∈ items) : set.ncard = items.length := by
  classical
  have hset : set = (items.toFinset : Set α) := by
    ext item
    rw [Finset.mem_coe, List.mem_toFinset, h]
  rw [hset, Set.ncard_coe_finset, List.toFinset_card_of_nodup hnodup]

/-- Items with ascending keys are the only sorted list of themselves. -/
theorem eq_mergeSort_of_ascending {α κ : Type} [LT κ] [LE κ] [DecidableLE κ] [Std.IsLinearOrder κ]
    [Std.LawfulOrderLT κ] (key : α → κ) {sorted items : List α}
    (hascending : sorted.Pairwise fun first second ↦ key first < key second)
    (hperm : sorted.Perm items) :
    sorted = items.mergeSort fun first second ↦ key first ≤ key second := by
  have hnodup : (sorted.map key).Nodup := (List.pairwise_map.mpr hascending).imp Std.ne_of_lt
  have hsorted : (items.mergeSort fun first second ↦ key first ≤ key second).Pairwise
      fun first second ↦ decide (key first ≤ key second) = true := by
    refine List.pairwise_mergeSort (fun first second third h h' ↦ ?_) (fun first second ↦ ?_) items
    · rw [decide_eq_true_eq] at *
      exact Std.le_trans h h'
    · rw [Bool.or_eq_true, decide_eq_true_eq, decide_eq_true_eq]
      exact Std.le_total
  have hboth : sorted.Perm (items.mergeSort fun first second ↦ key first ≤ key second) :=
    hperm.trans (List.mergeSort_perm items _).symm
  refine hboth.eq_of_pairwise (fun first second hfirst hsecond h h' ↦ ?_)
    (hascending.imp Std.le_of_lt) (hsorted.imp of_decide_eq_true)
  exact List.inj_on_of_nodup_map hnodup hfirst (hboth.symm.subset hsecond) (Std.le_antisymm h h')

namespace OrderedMap

variable {κ ν μ : Type} [LT κ]

theorem pairwise_keys (map : OrderedMap κ ν) : map.keys.Pairwise (· < ·) :=
  List.pairwise_map.mpr map.ascending

/-- Values that know the keys they stand under list the keys. -/
theorem map_values_eq_keys {map : OrderedMap κ ν} {key : ν → κ}
    (h : ∀ entry ∈ map.entries, key entry.2 = entry.1) : map.values.map key = map.keys := by
  rw [values, keys, List.map_map]
  exact List.map_congr_left h

section Distinct

variable [LE κ] [Std.LawfulOrderLT κ]

theorem nodup_keys (map : OrderedMap κ ν) : map.keys.Nodup :=
  (pairwise_keys map).imp Std.ne_of_lt

theorem nodup_entries (map : OrderedMap κ ν) : map.entries.Nodup :=
  map.ascending.imp fun h heq ↦ Std.ne_of_lt h (congrArg Prod.fst heq)

/-- Maps with the same keys have the same size. -/
theorem size_eq_of_mem_keys {first : OrderedMap κ ν} {second : OrderedMap κ μ}
    (h : ∀ key, key ∈ first.keys ↔ key ∈ second.keys) : first.size = second.size := by
  have hperm : first.keys.Perm second.keys :=
    (List.perm_ext_iff_of_nodup (nodup_keys first) (nodup_keys second)).mpr h
  simpa only [keys, List.length_map, size] using hperm.length_eq

/-- Erasing the least key leaves the other entries. -/
theorem entries_erase_of_cons [DecidableLT κ] {map : OrderedMap κ ν} {key : κ} {value : ν}
    {rest : List (κ × ν)} (h : map.entries = (key, value) :: rest) :
    (map.erase key).entries = rest := by
  simp [erase, h, eraseEntry, Std.lt_irrefl]

end Distinct

section Lookup

variable [DecidableLT κ]

@[simp] theorem get?_empty (key : κ) : (empty : OrderedMap κ ν).get? key = none := rfl

theorem contains_iff (map : OrderedMap κ ν) (key : κ) :
    map.contains key = true ↔ ∃ value, map.get? key = some value :=
  Option.isSome_iff_exists

theorem contains_eq_false_iff (map : OrderedMap κ ν) (key : κ) :
    map.contains key = false ↔ map.get? key = none := by
  simp [contains]

variable [LE κ] [Std.LawfulOrderLT κ] [Std.IsLinearOrder κ]

theorem not_mem_eraseEntry {key : κ} {value : ν} {entries : List (κ × ν)}
    (h : entries.Pairwise fun first second ↦ first.1 < second.1) :
    (key, value) ∉ eraseEntry key entries := by
  fun_induction eraseEntry key entries with
  | case1 => simp
  | case2 k v rest hlt ih =>
    rw [List.mem_cons, not_or]
    refine ⟨fun heq ↦ ?_, ih (List.pairwise_cons.mp h).2⟩
    obtain ⟨rfl, rfl⟩ := Prod.mk.inj heq
    exact Std.lt_irrefl hlt
  | case3 k v rest _ hlt ih =>
    rw [List.mem_cons, not_or]
    refine ⟨fun heq ↦ ?_, ih (List.pairwise_cons.mp h).2⟩
    obtain ⟨rfl, rfl⟩ := Prod.mk.inj heq
    exact Std.lt_irrefl hlt
  | case4 k v rest hle hge =>
    obtain rfl := eq_of_not_lt hle hge
    exact fun hmem ↦ Std.lt_irrefl ((List.pairwise_cons.mp h).1 (key, value) hmem)

theorem lookupEntry_eraseEntry {key : κ} {entries : List (κ × ν)}
    (h : entries.Pairwise fun first second ↦ first.1 < second.1) :
    lookupEntry key (eraseEntry key entries) = none := by
  rw [Option.eq_none_iff_forall_ne_some]
  intro value hvalue
  exact not_mem_eraseEntry h ((lookupEntry_eq_some_iff (pairwise_eraseEntry h)).mp hvalue)

theorem lookupEntry_eraseEntry_of_ne {key other : κ} (hne : other ≠ key)
    (entries : List (κ × ν)) :
    lookupEntry other (eraseEntry key entries) = lookupEntry other entries := by
  have habsurd : ¬ (¬ other < key ∧ ¬ key < other) := fun h ↦ hne (eq_of_not_lt h.1 h.2)
  fun_induction eraseEntry key entries with
  | case1 => rfl
  | case2 k v rest _ ih => simp only [lookupEntry, ih]
  | case3 k v rest _ _ ih => simp only [lookupEntry, ih]
  | case4 k v rest hle hge =>
    obtain rfl := eq_of_not_lt hle hge
    simp only [lookupEntry]; grind

theorem get?_insert [DecidableEq κ] (map : OrderedMap κ ν) (key other : κ) (value : ν) :
    (map.insert key value).get? other = if other = key then some value else map.get? other := by
  by_cases h : other = key
  · subst h
    rw [get?_insert_self, if_pos rfl]
  · rw [get?_insert_of_ne map h, if_neg h]

/-- An overwritten value and the new one aside, the same keys have a value as before. -/
theorem get?_insert_eq_some_iff_of_ne [DecidableEq κ] {map : OrderedMap κ ν} {key : κ}
    {old new value : ν} (hold : map.get? key = some old) (hne : value ≠ old) (hnew : value ≠ new)
    (other : κ) : (map.insert key new).get? other = some value ↔ map.get? other = some value := by
  rw [get?_insert]
  by_cases hother : other = key
  · rw [if_pos hother, hother, hold, Option.some.injEq, Option.some.injEq]
    exact iff_of_false hnew.symm hne.symm
  · rw [if_neg hother]

theorem get?_erase [DecidableEq κ] (map : OrderedMap κ ν) (key other : κ) :
    (map.erase key).get? other = if other = key then none else map.get? other := by
  by_cases h : other = key
  · subst h
    rw [if_pos rfl]
    exact lookupEntry_eraseEntry map.ascending
  · rw [if_neg h]
    exact lookupEntry_eraseEntry_of_ne h map.entries

theorem mem_keys_iff (map : OrderedMap κ ν) (key : κ) :
    key ∈ map.keys ↔ ∃ value, map.get? key = some value := by
  simp only [keys, List.mem_map, get?_eq_some_iff]
  constructor
  · rintro ⟨⟨k, value⟩, hmem, rfl⟩
    exact ⟨value, hmem⟩
  · rintro ⟨value, hmem⟩
    exact ⟨(key, value), hmem, rfl⟩

theorem mem_values_iff (map : OrderedMap κ ν) (value : ν) :
    value ∈ map.values ↔ ∃ key, map.get? key = some value := by
  simp only [values, List.mem_map, get?_eq_some_iff]
  constructor
  · rintro ⟨⟨key, v⟩, hmem, rfl⟩
    exact ⟨key, hmem⟩
  · rintro ⟨key, hmem⟩
    exact ⟨(key, value), hmem, rfl⟩

theorem mem_map_values {β : Type} (f : ν → β) {map : OrderedMap κ ν} {key : κ} {value : ν}
    (h : map.get? key = some value) : f value ∈ map.values.map f :=
  List.mem_map_of_mem ((mem_values_iff map value).mpr ⟨key, h⟩)

/-- A map is determined by its look-ups. -/
theorem eq_of_get?_eq {first second : OrderedMap κ ν}
    (h : ∀ key, first.get? key = second.get? key) : first = second := by
  have hperm : first.entries.Perm second.entries := by
    rw [List.perm_ext_iff_of_nodup (nodup_entries first) (nodup_entries second)]
    rintro ⟨key, value⟩
    rw [← get?_eq_some_iff, ← get?_eq_some_iff, h]
  have hentries : first.entries = second.entries :=
    hperm.eq_of_pairwise (fun _ _ _ _ hab hba ↦ absurd (Std.lt_trans hab hba) Std.lt_irrefl)
      first.ascending second.ascending
  cases first; cases second; simpa using hentries

/-- Entering the value that a key has already changes nothing. -/
theorem insert_eq_self {map : OrderedMap κ ν} {key : κ} {value : ν}
    (h : map.get? key = some value) : map.insert key value = map := by
  classical
  refine eq_of_get?_eq fun other ↦ ?_
  rw [get?_insert]
  by_cases hother : other = key
  · rw [if_pos hother, hother, h]
  · rw [if_neg hother]

/-- Erasing a key gives the map back that it has been entered into. -/
theorem erase_insert_of_new {map : OrderedMap κ ν} {key : κ} (hnew : map.get? key = none)
    (value : ν) : (map.insert key value).erase key = map := by
  classical
  refine eq_of_get?_eq fun other ↦ ?_
  rw [get?_erase, get?_insert]
  by_cases hother : other = key
  · rw [if_pos hother, hother, hnew]
  · rw [if_neg hother, if_neg hother]

/-- What a key is given does not matter when it is erased. -/
theorem erase_insert (map : OrderedMap κ ν) (key : κ) (value : ν) :
    (map.insert key value).erase key = map.erase key := by
  classical
  refine eq_of_get?_eq fun other ↦ ?_
  rw [get?_erase, get?_erase, get?_insert]
  by_cases hother : other = key
  · rw [if_pos hother, if_pos hother]
  · rw [if_neg hother, if_neg hother, if_neg hother]

/-- A new key comes to the entries that are there. -/
theorem perm_entries_insert {map : OrderedMap κ ν} {key : κ} (hnew : map.get? key = none)
    (value : ν) : (map.insert key value).entries.Perm ((key, value) :: map.entries) := by
  classical
  have habsent : (key, value) ∉ map.entries := by
    rw [← get?_eq_some_iff, hnew]
    simp
  rw [List.perm_ext_iff_of_nodup (nodup_entries _)
    (List.nodup_cons.mpr ⟨habsent, nodup_entries map⟩)]
  rintro ⟨other, found⟩
  rw [← get?_eq_some_iff, get?_insert, List.mem_cons, ← get?_eq_some_iff, Prod.mk.injEq]
  by_cases hother : other = key
  · simp [hother, hnew, eq_comm]
  · simp [hother]

theorem get?_mapValues (change : κ → ν → μ) (map : OrderedMap κ ν) (key : κ) :
    (map.mapValues change).get? key = (map.get? key).map (change key) := by
  ext value
  simp only [Option.map_eq_some_iff, get?_eq_some_iff, mapValues, List.mem_map, Prod.mk.injEq]
  constructor
  · rintro ⟨⟨k, v⟩, hmem, rfl, rfl⟩
    exact ⟨v, hmem, rfl⟩
  · rintro ⟨v, hmem, rfl⟩
    exact ⟨(key, v), hmem, rfl, rfl⟩

theorem get?_filter_eq_some_iff (test : κ → ν → Bool) (map : OrderedMap κ ν) (key : κ)
    (value : ν) :
    (map.filter test).get? key = some value ↔
      map.get? key = some value ∧ test key value = true := by
  rw [get?_eq_some_iff, get?_eq_some_iff]
  exact List.mem_filter

/-- Of entries with different keys every one can be looked up. -/
theorem get?_foldl_insert {entries : List (κ × ν)} (h : (entries.map Prod.fst).Nodup)
    (map : OrderedMap κ ν) (key : κ) (value : ν) :
    (entries.foldl (fun map entry ↦ map.insert entry.1 entry.2) map).get? key = some value ↔
      (key, value) ∈ entries ∨ key ∉ entries.map Prod.fst ∧ map.get? key = some value := by
  induction entries generalizing map with
  | nil => simp
  | cons entry rest ih =>
    obtain ⟨k, v⟩ := entry
    rw [List.map_cons, List.nodup_cons] at h
    rw [List.foldl_cons, ih h.2]
    by_cases hkey : key = k
    · subst hkey
      have hrest : ∀ v, (key, v) ∉ rest := fun v hmem ↦ h.1 (List.mem_map.mpr ⟨_, hmem, rfl⟩)
      simp only [get?_insert_self, Option.some.injEq, List.mem_cons, Prod.mk.injEq, List.map_cons,
        h.1, not_false_eq_true, hrest, true_and, false_or, or_false, not_true_eq_false, false_and]
      exact eq_comm
    · rw [get?_insert_of_ne map hkey]
      simp [hkey]

theorem get?_ofList_eq_some_iff {entries : List (κ × ν)} (h : (entries.map Prod.fst).Nodup)
    (key : κ) (value : ν) : (ofList entries).get? key = some value ↔ (key, value) ∈ entries := by
  rw [ofList, get?_foldl_insert h]
  simp

/-- What a union has under a key is what the second map has there, or else the first. -/
theorem get?_union (map other : OrderedMap κ ν) (key : κ) :
    (map.union other).get? key = (other.get? key).or (map.get? key) := by
  ext value
  have hkey : key ∉ other.entries.map Prod.fst ↔ other.get? key = none := by
    rw [← keys, mem_keys_iff, not_exists, Option.eq_none_iff_forall_ne_some]
  rw [union, get?_foldl_insert (nodup_keys other), ← get?_eq_some_iff, hkey,
    Option.or_eq_some_iff]

/-- Entering the entries of a map over others whose keys it has gives the map. -/
theorem foldl_insert_entries {map base : OrderedMap κ ν}
    (h : ∀ key, map.get? key = none → base.get? key = none) :
    map.entries.foldl (fun entered entry ↦ entered.insert entry.1 entry.2) base = map := by
  refine eq_of_get?_eq fun key ↦ (get?_union base map key).trans ?_
  cases hkey : map.get? key with
  | none => exact h key hkey
  | some value => rfl

theorem ofList_entries (map : OrderedMap κ ν) : ofList map.entries = map :=
  foldl_insert_entries fun _ _ ↦ rfl

/-- The first entry is the one of the least key. -/
theorem get?_of_entries_cons {map : OrderedMap κ ν} {key : κ} {value : ν}
    {rest : List (κ × ν)} (h : map.entries = (key, value) :: rest) :
    map.get? key = some value ∧
      ∀ other v, map.get? other = some v → other = key ∨ key < other := by
  refine ⟨(get?_eq_some_iff map key value).mpr (by simp [h]), fun other v hother ↦ ?_⟩
  rw [get?_eq_some_iff, h, List.mem_cons] at hother
  rcases hother with heq | hrest
  · exact Or.inl (Prod.mk.inj heq).1
  · have hascending := map.ascending
    rw [h] at hascending
    exact Or.inr ((List.pairwise_cons.mp hascending).1 _ hrest)

theorem entries_eq_nil_iff (map : OrderedMap κ ν) :
    map.entries = [] ↔ ∀ key, map.get? key = none := by
  constructor
  · intro h key
    simp [get?, h, lookupEntry]
  · intro h
    rw [List.eq_nil_iff_forall_not_mem]
    rintro ⟨key, value⟩ hmem
    rw [← get?_eq_some_iff, h] at hmem
    cases hmem

end Lookup

/-- A map from places in a list, with values taken from what stands there, lists them in the order
of the list. -/
theorem values_eq_filterMap {α : Type} {items : List α} {value? : α → Option ν}
    {map : OrderedMap Nat ν}
    (h : ∀ place value, map.get? place = some value ↔
      ∃ item, items[place]? = some item ∧ value? item = some value) :
    map.values = items.filterMap value? := by
  let entry (item : α × Nat) : Option (Nat × ν) :=
    (value? item.1).map fun value ↦ (item.2, value)
  have hplaces : items.zipIdx.Pairwise fun first second ↦ first.2 < second.2 := by
    have hrange := List.pairwise_lt_range' (s := 0) (n := items.length)
    rw [← List.zipIdx_map_snd 0 items, List.pairwise_map] at hrange
    exact hrange
  have hascending : (items.zipIdx.filterMap entry).Pairwise fun first second ↦
      first.1 < second.1 := by
    refine hplaces.filterMap entry fun first second hlt out hout other hother ↦ ?_
    obtain ⟨-, -, rfl⟩ := Option.map_eq_some_iff.mp hout
    obtain ⟨-, -, rfl⟩ := Option.map_eq_some_iff.mp hother
    exact hlt
  have hmap : map = ⟨items.zipIdx.filterMap entry, hascending⟩ := by
    refine eq_of_get?_eq fun place ↦ Option.ext fun value ↦ ?_
    rw [h, get?_eq_some_iff, List.mem_filterMap]
    constructor
    · rintro ⟨item, hitem, hvalue⟩
      exact ⟨(item, place), List.mk_mem_zipIdx_iff_getElem?.mpr hitem, by simp [entry, hvalue]⟩
    · rintro ⟨⟨item, index⟩, hitem, hentry⟩
      obtain ⟨found, hvalue, heq⟩ := Option.map_eq_some_iff.mp hentry
      obtain ⟨rfl, rfl⟩ := Prod.mk.inj heq
      exact ⟨item, List.mk_mem_zipIdx_iff_getElem?.mp hitem, hvalue⟩
  calc map.values = (items.zipIdx.filterMap entry).map Prod.snd := by rw [hmap, values]
    _ = items.zipIdx.filterMap fun item ↦ value? item.1 := by
      rw [List.map_filterMap]
      refine congrArg (fun out ↦ items.zipIdx.filterMap out) (funext fun item ↦ ?_)
      simp [entry, Function.comp_def]
    _ = (items.zipIdx.map Prod.fst).filterMap value? := by rw [List.filterMap_map]; rfl
    _ = items.filterMap value? := by rw [List.zipIdx_map_fst]

end OrderedMap

namespace OrderedSet

variable {κ : Type} [LT κ]

theorem pairwise_toList (set : OrderedSet κ) : set.toList.Pairwise (· < ·) :=
  OrderedMap.pairwise_keys set

theorem length_toList (set : OrderedSet κ) : set.toList.length = OrderedMap.size set :=
  List.length_map _

theorem nodup_toList [LE κ] [Std.LawfulOrderLT κ] (set : OrderedSet κ) : set.toList.Nodup :=
  OrderedMap.nodup_keys set

variable [DecidableLT κ] [LE κ] [Std.LawfulOrderLT κ] [Std.IsLinearOrder κ]

theorem mem_toList_iff (set : OrderedSet κ) (member : κ) :
    member ∈ set.toList ↔ OrderedMap.get? set member = some () := by
  rw [toList, OrderedMap.mem_keys_iff]
  exact ⟨fun ⟨_, h⟩ ↦ h, fun h ↦ ⟨(), h⟩⟩

/-- A set is determined by its members. -/
theorem eq_of_mem_toList_iff {first second : OrderedSet κ}
    (h : ∀ member, member ∈ first.toList ↔ member ∈ second.toList) : first = second := by
  apply OrderedMap.eq_of_get?_eq
  intro member
  ext value
  rw [← mem_toList_iff, ← mem_toList_iff]
  exact h member

theorem mem_toList_add (set : OrderedSet κ) (added member : κ) :
    member ∈ (set.add added).toList ↔ member = added ∨ member ∈ set.toList := by
  classical
  rw [mem_toList_iff, mem_toList_iff, add, OrderedMap.get?_insert]
  by_cases h : member = added <;> simp [h]

theorem mem_toList_erase (set : OrderedSet κ) (erased member : κ) :
    member ∈ toList (OrderedMap.erase set erased) ↔ member ≠ erased ∧ member ∈ set.toList := by
  classical
  rw [mem_toList_iff, mem_toList_iff, OrderedMap.get?_erase]
  by_cases h : member = erased <;> simp [h]

theorem mem_toList_foldl_add (members : List κ) (set : OrderedSet κ) (member : κ) :
    member ∈ (members.foldl add set).toList ↔ member ∈ members ∨ member ∈ set.toList := by
  induction members generalizing set with
  | nil => simp
  | cons first rest ih =>
    rw [List.foldl_cons, ih, mem_toList_add, List.mem_cons, or_left_comm, or_assoc]

@[simp] theorem mem_toList_ofList (members : List κ) (member : κ) :
    member ∈ (ofList members).toList ↔ member ∈ members := by
  rw [ofList, mem_toList_foldl_add]
  simp [toList, OrderedMap.keys, OrderedMap.empty]

end OrderedSet

end FlowGraph
