import FlowGraph.Json
import Mathlib.Order.MinMax
import Mathlib.Order.Nat

/-!
What matters of a document when it goes through a text: that its numbers are integers, that its
objects list their members in order, and how deep it nests.
-/

set_option autoImplicit false
set_option relaxedAutoImplicit false

namespace FlowGraph.Json

/-! ### Tests of all parts -/

mutual

/-- Whether a document and everything inside it pass a test. -/
def everywhere (test : Json → Bool) : Json → Bool
  | .array items => test (.array items) && itemsEverywhere test items
  | .object members => test (.object members) && membersEverywhere test members
  | document => test document

def itemsEverywhere (test : Json → Bool) : List Json → Bool
  | [] => true
  | item :: rest => item.everywhere test && itemsEverywhere test rest

def membersEverywhere (test : Json → Bool) : List (String × Json) → Bool
  | [] => true
  | (_, value) :: rest => value.everywhere test && membersEverywhere test rest

end

/-- A number is an integer that stays one when it is read. -/
def isIntegral : Json → Bool
  | .number (.integer n) => Number.leastInteger ≤ n && n ≤ Number.greatestInteger
  | .number (.float _) => false
  | _ => true

/-- An object lists its members with ascending keys. -/
def isOrdered : Json → Bool
  | .object members => decide (members.Pairwise fun first second ↦ first.1 < second.1)
  | _ => true

/-- A document that a text holds as it is: all its numbers are integers of 64 bits, signed or not,
and all its objects are in order. -/
def isExact (document : Json) : Bool :=
  document.everywhere isIntegral && document.everywhere isOrdered

variable {test : Json → Bool}

theorem itemsEverywhere_map_iff {α : Type} {toJson : α → Json} {items : List α} :
    itemsEverywhere test (items.map toJson) = true ↔
      ∀ item ∈ items, (toJson item).everywhere test = true := by
  induction items with
  | nil => simp [itemsEverywhere]
  | cons item rest ih => simp [itemsEverywhere, ih]

theorem membersEverywhere_iff {members : List (String × Json)} :
    membersEverywhere test members = true ↔
      ∀ member ∈ members, member.2.everywhere test = true := by
  induction members with
  | nil => simp [membersEverywhere]
  | cons member rest ih => simp [membersEverywhere, ih]

theorem membersEverywhere_map_iff {α : Type} {toJson : α → Json} {entries : List (String × α)} :
    membersEverywhere test (entries.map fun entry ↦ (entry.1, toJson entry.2)) = true ↔
      ∀ entry ∈ entries, (toJson entry.2).everywhere test = true := by
  rw [membersEverywhere_iff, List.forall_mem_map]

/-! ### Nesting -/

mutual

/-- How deep arrays and objects nest in a document. -/
def depth : Json → Nat
  | .array items => itemsDepth items + 1
  | .object members => membersDepth members + 1
  | _ => 0

def itemsDepth : List Json → Nat
  | [] => 0
  | item :: rest => max item.depth (itemsDepth rest)

def membersDepth : List (String × Json) → Nat
  | [] => 0
  | (_, value) :: rest => max value.depth (membersDepth rest)

end

theorem membersDepth_append (members more : List (String × Json)) :
    membersDepth (members ++ more) = max (membersDepth members) (membersDepth more) := by
  induction members with
  | nil => simp [membersDepth]
  | cons member rest ih => simp [membersDepth, ih, max_assoc]

theorem lt_itemsDepth_map_iff {α : Type} {toJson : α → Json} {items : List α} {bound : Nat} :
    bound < itemsDepth (items.map toJson) ↔ ∃ item ∈ items, bound < (toJson item).depth := by
  induction items with
  | nil => simp [itemsDepth]
  | cons item rest ih => simp [itemsDepth, ih]

theorem lt_membersDepth_map_iff {α : Type} {toJson : α → Json} {entries : List (String × α)}
    {bound : Nat} :
    bound < membersDepth (entries.map fun entry ↦ (entry.1, toJson entry.2)) ↔
      ∃ entry ∈ entries, bound < (toJson entry.2).depth := by
  induction entries with
  | nil => simp [membersDepth]
  | cons entry rest ih => simp [membersDepth, ih]

/-! ### Members in order -/

/-- The members of an object. -/
def members : Json → List (String × Json)
  | .object members => members
  | _ => []

/-- A member with a greater key than all others goes to the end. -/
theorem insertMember_of_greater {key : String} {value : Json} {members : List (String × Json)}
    (h : ∀ member ∈ members, member.1 < key) :
    insertMember key value members = members ++ [(key, value)] := by
  induction members with
  | nil => rfl
  | cons member rest ih =>
    obtain ⟨k, v⟩ := member
    have hless : k < key := h (k, v) List.mem_cons_self
    rw [insertMember, if_neg (Std.not_lt.mpr (Std.le_of_lt hless)), if_pos hless,
      ih fun member hmember ↦ h member (List.mem_cons_of_mem _ hmember), List.cons_append]

/-- Members in order make up the object that lists them as they are. -/
theorem ofMembers_of_isOrdered {members : List (String × Json)}
    (h : members.Pairwise fun first second ↦ first.1 < second.1) :
    ofMembers members = .object members := by
  have hfold (sorted rest : List (String × Json))
      (h : (sorted ++ rest).Pairwise fun first second ↦ first.1 < second.1) :
      rest.foldl (fun sorted entry ↦ insertMember entry.1 entry.2 sorted) sorted =
        sorted ++ rest := by
    induction rest generalizing sorted with
    | nil => rw [List.foldl_nil, List.append_nil]
    | cons entry rest ih =>
      have hgreater : ∀ member ∈ sorted, member.1 < entry.1 := fun member hmember ↦
        (List.pairwise_append.mp h).2.2 member hmember entry List.mem_cons_self
      rw [List.append_cons] at h ⊢
      rw [List.foldl_cons, insertMember_of_greater hgreater, ih _ h]
  rw [ofMembers, hfold [] members h, List.nil_append]

/-! ### Documents as they are read -/

mutual

/-- A document as it is read: of the members of one key the last counts, and they are in order. -/
def asRead : Json → Json
  | .array items => .array (itemsAsRead items)
  | .object members => ofMembers (membersAsRead members)
  | document => document

def itemsAsRead : List Json → List Json
  | [] => []
  | item :: rest => item.asRead :: itemsAsRead rest

def membersAsRead : List (String × Json) → List (String × Json)
  | [] => []
  | (key, value) :: rest => (key, value.asRead) :: membersAsRead rest

end

mutual

/-- A document in order is read as it is. -/
theorem asRead_of_isOrdered {document : Json} (h : document.everywhere isOrdered = true) :
    document.asRead = document := by
  cases document with
  | array items =>
    rw [everywhere, Bool.and_eq_true] at h
    rw [asRead, itemsAsRead_of_isOrdered h.2]
  | object members =>
    rw [everywhere, Bool.and_eq_true, isOrdered, decide_eq_true_eq] at h
    rw [asRead, membersAsRead_of_isOrdered h.2, ofMembers_of_isOrdered h.1]
  | _ => rfl

theorem itemsAsRead_of_isOrdered {items : List Json}
    (h : itemsEverywhere isOrdered items = true) : itemsAsRead items = items := by
  cases items with
  | nil => rfl
  | cons item rest =>
    rw [itemsEverywhere, Bool.and_eq_true] at h
    rw [itemsAsRead, asRead_of_isOrdered h.1, itemsAsRead_of_isOrdered h.2]

theorem membersAsRead_of_isOrdered {members : List (String × Json)}
    (h : membersEverywhere isOrdered members = true) : membersAsRead members = members := by
  cases members with
  | nil => rfl
  | cons member rest =>
    rw [membersEverywhere, Bool.and_eq_true] at h
    rw [membersAsRead, asRead_of_isOrdered h.1, membersAsRead_of_isOrdered h.2]

end

end FlowGraph.Json
