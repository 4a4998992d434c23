/-!
Finite maps whose entries stand in strictly ascending order of their keys. The order is part of the
type, so a map has one representation: two maps that agree on every key are equal. Listing a map
lists it in key order, which is the order every report of this library uses.
-/

set_option autoImplicit false
set_option relaxedAutoImplicit false

namespace FlowGraph

/-- A finite map with ascending keys. -/
structure OrderedMap (κ ν : Type) [LT κ] where
  entries : List (κ × ν)
  ascending : entries.Pairwise fun first second ↦ first.1 < second.1

namespace OrderedMap

variable {κ ν μ : Type} [LT κ]

/-- Keys that neither precede nor follow each other are the same key. -/
theorem eq_of_not_lt [LE κ] [Std.IsLinearOrder κ] [Std.LawfulOrderLT κ] {first second : κ}
    (h : ¬ first < second) (h' : ¬ second < first) : first = second :=
  Std.le_antisymm (Std.not_lt.mp h') (Std.not_lt.mp h)

section Entries

variable [DecidableLT κ]

/-- The value beside a key in a list of entries. -/
def lookupEntry (key : κ) : List (κ × ν) → Option ν
  | [] => none
  | (k, v) :: rest =>
    if key < k then lookupEntry key rest
    else if k < key then lookupEntry key rest
    else some v

/-- Puts an entry at its place, replacing an entry of the same key. -/
def insertEntry (key : κ) (value : ν) : List (κ × ν) → List (κ × ν)
  | [] => [(key, value)]
  | (k, v) :: rest =>
    if key < k then (key, value) :: (k, v) :: rest
    else if k < key then (k, v) :: insertEntry key value rest
    else (key, value) :: rest

/-- Removes the entry of a key. -/
def eraseEntry (key : κ) : List (κ × ν) → List (κ × ν)
  | [] => []
  | (k, v) :: rest =>
    if key < k then (k, v) :: eraseEntry key rest
    else if k < key then (k, v) :: eraseEntry key rest
    else rest

theorem mem_insertEntry {key : κ} {value : ν} {entry : κ × ν} {entries : List (κ × ν)}
    (h : entry ∈ insertEntry key value entries) : entry = (key, value) ∨ entry ∈ entries := by
  fun_induction insertEntry key value entries <;> grind

theorem mem_of_mem_eraseEntry {key : κ} {entry : κ × ν} {entries : List (κ × ν)}
    (h : entry ∈ eraseEntry key entries) : entry ∈ entries := by
  fun_induction eraseEntry key entries <;> grind

theorem pairwise_eraseEntry {key : κ} {entries : List (κ × ν)}
    (h : entries.Pairwise fun first second ↦ first.1 < second.1) :
    (eraseEntry key entries).Pairwise fun first second ↦ first.1 < second.1 := by
  fun_induction eraseEntry key entries with
  | case1 => exact h
  | case2 k v rest _ ih =>
    rw [List.pairwise_cons] at h ⊢
    exact ⟨fun entry hentry ↦ h.1 entry (mem_of_mem_eraseEntry hentry), ih h.2⟩
  | case3 k v rest _ _ ih =>
    rw [List.pairwise_cons] at h ⊢
    exact ⟨fun entry hentry ↦ h.1 entry (mem_of_mem_eraseEntry hentry), ih h.2⟩
  | case4 k v rest => exact (List.pairwise_cons.mp h).2

variable [LE κ] [Std.LawfulOrderLT κ]

theorem lookupEntry_insertEntry (key : κ) (value : ν) (entries : List (κ × ν)) :
    lookupEntry key (insertEntry key value entries) = some value := by
  fun_induction insertEntry key value entries with
  | case1 => simp [lookupEntry, Std.lt_irrefl]
  | case2 k v rest hlt => simp [lookupEntry, Std.lt_irrefl]
  | case3 k v rest hle hlt ih => simp [lookupEntry, hle, hlt, ih]
  | case4 k v rest hle hge => simp [lookupEntry, Std.lt_irrefl]

variable [Std.IsLinearOrder κ]

theorem pairwise_insertEntry {key : κ} {value : ν} {entries : List (κ × ν)}
    (h : entries.Pairwise fun first second ↦ first.1 < second.1) :
    (insertEntry key value entries).Pairwise fun first second ↦ first.1 < second.1 := by
  fun_induction insertEntry key value entries with
  | case1 => exact List.pairwise_singleton _ _
  | case2 k v rest hlt =>
    refine List.pairwise_cons.mpr ⟨fun entry hentry ↦ ?_, h⟩
    rcases List.mem_cons.mp hentry with rfl | hrest
    · exact hlt
    · exact Std.lt_trans hlt ((List.pairwise_cons.mp h).1 entry hrest)
  | case3 k v rest _ hlt ih =>
    rw [List.pairwise_cons] at h ⊢
    refine ⟨fun entry hentry ↦ ?_, ih h.2⟩
    rcases mem_insertEntry hentry with rfl | hrest
    · exact hlt
    · exact h.1 entry hrest
  | case4 k v rest hle hge =>
    obtain rfl := eq_of_not_lt hle hge
    rw [List.pairwise_cons] at h ⊢
    exact h

theorem lookupEntry_insertEntry_of_ne {key other : κ} (hne : other ≠ key) (value : ν)
    (entries : List (κ × ν)) :
    lookupEntry other (insertEntry key value entries) = lookupEntry other entries := by
  have habsurd : ¬ (¬ other < key ∧ ¬ key < other) := fun h ↦ hne (eq_of_not_lt h.1 h.2)
  fun_induction insertEntry key value entries with
  | case1 => simp only [lookupEntry]; grind
  | case2 k v rest _ => simp only [lookupEntry]; grind
  | case3 k v rest _ _ ih => simp only [lookupEntry, ih]
  | case4 k v rest hle hge =>
    obtain rfl := eq_of_not_lt hle hge
    simp only [lookupEntry]; grind

theorem lookupEntry_eq_some_iff {key : κ} {value : ν} {entries : List (κ × ν)}
    (h : entries.Pairwise fun first second ↦ first.1 < second.1) :
    lookupEntry key entries = some value ↔ (key, value) ∈ entries := by
  fun_induction lookupEntry key entries with
  | case1 => simp
  | case2 k v rest hlt ih =>
    rw [ih (List.pairwise_cons.mp h).2]
    simp only [List.mem_cons, Prod.mk.injEq, iff_or_self, and_imp]
    rintro rfl; exact absurd hlt Std.lt_irrefl
  | case3 k v rest _ hlt ih =>
    rw [ih (List.pairwise_cons.mp h).2]
    simp only [List.mem_cons, Prod.mk.injEq, iff_or_self, and_imp]
    rintro rfl; exact absurd hlt Std.lt_irrefl
  | case4 k v rest hle hge =>
    obtain rfl := eq_of_not_lt hle hge
    constructor
    · rintro ⟨⟩; exact List.mem_cons_self
    · intro hmem
      rcases List.mem_cons.mp hmem with heq | hrest
      · rw [Prod.mk.injEq] at heq; rw [heq.2]
      · exact absurd ((List.pairwise_cons.mp h).1 _ hrest) Std.lt_irrefl

end Entries

def empty : OrderedMap κ ν := ⟨[], .nil⟩

instance : EmptyCollection (OrderedMap κ ν) := ⟨empty⟩

instance : Inhabited (OrderedMap κ ν) := ⟨empty⟩

def keys (map : OrderedMap κ ν) : List κ := map.entries.map (·.1)

def values (map : OrderedMap κ ν) : List ν := map.entries.map (·.2)

def size (map : OrderedMap κ ν) : Nat := map.entries.length

def isEmpty (map : OrderedMap κ ν) : Bool := map.entries.isEmpty

/-- Changes the values and leaves the keys. -/
def mapValues (change : κ → ν → μ) (map : OrderedMap κ ν) : OrderedMap κ μ where
  entries := map.entries.map fun entry ↦ (entry.1, change entry.1 entry.2)
  ascending := List.pairwise_map.mpr map.ascending

/-- Keeps the entries that pass a test. -/
def filter (test : κ → ν → Bool) (map : OrderedMap κ ν) : OrderedMap κ ν where
  entries := map.entries.filter fun entry ↦ test entry.1 entry.2
  ascending := map.ascending.filter _

section Operations

variable [DecidableLT κ]

def get? (map : OrderedMap κ ν) (key : κ) : Option ν := lookupEntry key map.entries

def contains (map : OrderedMap κ ν) (key : κ) : Bool := (map.get? key).isSome

def erase (map : OrderedMap κ ν) (key : κ) : OrderedMap κ ν :=
  ⟨eraseEntry key map.entries, pairwise_eraseEntry map.ascending⟩

variable [LE κ] [Std.IsLinearOrder κ] [Std.LawfulOrderLT κ]

def insert (map : OrderedMap κ ν) (key : κ) (value : ν) : OrderedMap κ ν :=
  ⟨insertEntry key value map.entries, pairwise_insertEntry map.ascending⟩

/-- The map of a list of entries; of entries with one key the last counts. -/
def ofList (entries : List (κ × ν)) : OrderedMap κ ν :=
  entries.foldl (fun map entry ↦ map.insert entry.1 entry.2) empty

/-- Every entry of `other`, and those of `map` whose keys `other` does not have. -/
def union (map other : OrderedMap κ ν) : OrderedMap κ ν :=
  other.entries.foldl (fun merged entry ↦ merged.insert entry.1 entry.2) map

@[simp] theorem get?_insert_self (map : OrderedMap κ ν) (key : κ) (value : ν) :
    (map.insert key value).get? key = some value :=
  lookupEntry_insertEntry key value map.entries

theorem get?_insert_of_ne (map : OrderedMap κ ν) {key other : κ} (hne : other ≠ key) (value : ν) :
    (map.insert key value).get? other = map.get? other :=
  lookupEntry_insertEntry_of_ne hne value map.entries

theorem get?_eq_some_iff (map : OrderedMap κ ν) (key : κ) (value : ν) :
    map.get? key = some value ↔ (key, value) ∈ map.entries :=
  lookupEntry_eq_some_iff map.ascending

end Operations

end OrderedMap

end FlowGraph
