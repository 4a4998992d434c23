import FlowGraph.Proofs.Graph.Invariant
import Mathlib.Data.Fintype.Card
import Mathlib.Data.List.Perm.Subperm
import Mathlib.Data.Set.Finite.List
import Mathlib.Logic.Relation

/-!
The order of evaluation. The sort keeps one invariant: the count of a node is the number of edges
into it from nodes that are not placed, the ready nodes are the unplaced ones whose count is zero,
and a placed node stands after the nodes it reads from. When no node is ready, every node that is
left over reads from another one that is left over, which a graph without cycles does not allow; so
the sort places all nodes of such a graph (`exists_order_of_acyclic`), and what it returns lists
every node once, after its dependencies (`orders_of_order`).
-/

set_option autoImplicit false
set_option relaxedAutoImplicit false

namespace FlowGraph.Graph

/-- Some connection leads from one node to another. -/
def Feeds (graph : Graph) (source target : NodeId) : Prop :=
  ∃ connection ∈ graph.connections,
    connection.source.node = source ∧ connection.target.node = target

/-- No node can be reached from itself along connections. -/
def Acyclic (graph : Graph) : Prop := ∀ id, ¬ Relation.TransGen graph.Feeds id id

/-- A list of all nodes, each once and after the nodes it reads from. -/
structure Orders (graph : Graph) (order : List NodeId) : Prop where
  nodup : order.Nodup
  mem_iff : ∀ id, id ∈ order ↔ graph.contains id = true
  after : ∀ before id rest, order = before ++ id :: rest →
    ∀ source, graph.Feeds source id → source ∈ before

variable {graph : Graph}

theorem WellFormed.contains_of_feeds (wellFormed : graph.WellFormed) {source target : NodeId}
    (h : graph.Feeds source target) :
    graph.contains source = true ∧ graph.contains target = true := by
  obtain ⟨connection, hmem, rfl, rfl⟩ := h
  exact ⟨wellFormed.contains_source hmem, wellFormed.contains_target hmem⟩

@[simp] theorem mem_dependencies {source id : NodeId} :
    source ∈ (graph.dependencies id).toList ↔ graph.Feeds source id := by
  simp only [dependencies, OrderedSet.mem_toList_ofList, connectionsInto, List.mem_map,
    List.mem_filter, decide_eq_true_eq, Feeds]
  constructor
  · rintro ⟨connection, ⟨hmem, htarget⟩, hsource⟩
    exact ⟨connection, hmem, hsource, htarget⟩
  · rintro ⟨connection, hmem, hsource, htarget⟩
    exact ⟨connection, ⟨hmem, htarget⟩, hsource⟩

@[simp] theorem mem_dependents {id target : NodeId} :
    target ∈ (graph.dependents id).toList ↔ graph.Feeds id target := by
  simp only [dependents, OrderedSet.mem_toList_ofList, connectionsFrom, List.mem_map,
    List.mem_filter, decide_eq_true_eq, Feeds]
  constructor
  · rintro ⟨connection, ⟨hmem, hsource⟩, htarget⟩
    exact ⟨connection, hmem, hsource, htarget⟩
  · rintro ⟨connection, hmem, hsource, htarget⟩
    exact ⟨connection, ⟨hmem, hsource⟩, htarget⟩

/-- A node that the same nodes feed in two graphs has the same dependencies in both. -/
theorem dependencies_congr {other : Graph} {id : NodeId}
    (h : ∀ source, graph.Feeds source id ↔ other.Feeds source id) :
    graph.dependencies id = other.dependencies id := by
  apply OrderedSet.eq_of_mem_toList_iff
  intro source
  rw [mem_dependencies, mem_dependencies]
  exact h source

theorem dependents_congr {other : Graph} {id : NodeId}
    (h : ∀ target, graph.Feeds id target ↔ other.Feeds id target) :
    graph.dependents id = other.dependents id := by
  apply OrderedSet.eq_of_mem_toList_iff
  intro target
  rw [mem_dependents, mem_dependents]
  exact h target

/-! ### Along an order -/

section Along

variable {order before rest : List NodeId} {last : NodeId}

theorem Orders.notMem_before (orders : graph.Orders order)
    (hsplit : order = before ++ last :: rest) : last ∉ before := by
  have hnodup := orders.nodup
  rw [hsplit] at hnodup
  exact fun hmem ↦ List.disjoint_of_nodup_append hnodup hmem List.mem_cons_self

/-- What a node reads from stands before every node that does not stand before it. -/
theorem Orders.mem_before (orders : graph.Orders order) (hsplit : order = before ++ last :: rest)
    {source id : NodeId} (hid : id ∈ before ++ [last]) (hfeeds : graph.Feeds source id) :
    source ∈ before := by
  rcases List.mem_append.mp hid with hbefore | hlast
  · obtain ⟨first, second, rfl⟩ := List.append_of_mem hbefore
    rw [List.append_assoc, List.cons_append] at hsplit
    exact List.mem_append_left _ (orders.after first id _ hsplit source hfeeds)
  · rw [List.mem_singleton.mp hlast] at hfeeds
    exact orders.after before last rest hsplit source hfeeds

/-- What holds of no nodes and is kept when the next node of an order is added to those before it
holds of the order. -/
theorem prefix_induction {motive : List NodeId → Prop} (nil : motive [])
    (append : ∀ before last rest, order = before ++ last :: rest → motive before →
      motive (before ++ [last])) : motive order := by
  have hprefix : ∀ before rest, order = before ++ rest → motive before := by
    intro before
    induction before using List.reverseRecOn with
    | nil => exact fun _ _ ↦ nil
    | append_singleton before last ih =>
      intro rest hsplit
      rw [List.append_assoc, List.singleton_append] at hsplit
      exact append before last rest hsplit (ih (last :: rest) hsplit)
  exact hprefix order [] (List.append_nil order).symm

/-- What holds of a node when it holds of the nodes it reads from holds of all nodes. -/
theorem Orders.induction (orders : graph.Orders order) {motive : NodeId → Prop}
    (step : ∀ id ∈ order, (∀ source, graph.Feeds source id → motive source) → motive id) :
    ∀ id ∈ order, motive id := by
  refine prefix_induction (motive := fun before ↦ ∀ id ∈ before, motive id) ?_ ?_
  · exact fun _ hmem ↦ absurd hmem List.not_mem_nil
  · intro before last rest hsplit ih id hid
    refine step id ?_ fun source hfeeds ↦ ih source (orders.mem_before hsplit hid hfeeds)
    rw [hsplit, List.append_cons]
    exact List.mem_append_left rest hid

end Along

/-! ### Edges -/

theorem nodup_eraseDups {α : Type} [BEq α] [LawfulBEq α] (items : List α) :
    items.eraseDups.Nodup := by
  match items with
  | [] => exact List.nodup_nil
  | first :: rest =>
    rw [List.eraseDups_cons, List.nodup_cons, List.mem_eraseDups]
    refine ⟨by simp, ?_⟩
    have hlength := List.length_filter_le (fun other ↦ !other == first) rest
    exact nodup_eraseDups _
termination_by items.length
decreasing_by simp only [List.length_cons]; omega

theorem nodup_edges (graph : Graph) : graph.edges.Nodup := nodup_eraseDups _

theorem mem_edges_iff {source target : NodeId} :
    (source, target) ∈ graph.edges ↔ graph.Feeds source target := by
  simp only [edges, List.mem_eraseDups, List.mem_map, Prod.mk.injEq, Feeds]

/-- The edges into a node from nodes that are not among the placed ones. -/
def openEdges (graph : Graph) (placed : List NodeId) (id : NodeId) : List (NodeId × NodeId) :=
  graph.edges.filter fun edge ↦ edge.2 = id ∧ edge.1 ∉ placed

theorem mem_openEdges_iff {placed : List NodeId} {id : NodeId} {edge : NodeId × NodeId} :
    edge ∈ graph.openEdges placed id ↔ edge ∈ graph.edges ∧ edge.2 = id ∧ edge.1 ∉ placed := by
  simp [openEdges]

theorem openEdges_eq_nil_iff {placed : List NodeId} {id : NodeId} :
    graph.openEdges placed id = [] ↔ ∀ source, graph.Feeds source id → source ∈ placed := by
  simp only [List.eq_nil_iff_forall_not_mem, mem_openEdges_iff, Prod.forall]
  constructor
  · intro h source hfeeds
    by_contra hplaced
    exact h source id ⟨mem_edges_iff.mpr hfeeds, rfl, hplaced⟩
  · rintro h source target ⟨hedge, rfl, hplaced⟩
    exact hplaced (h source (mem_edges_iff.mp hedge))

/-- Placing a node closes its edge into another one. -/
theorem openEdges_cons (placed : List NodeId) (node id : NodeId) :
    graph.openEdges (node :: placed) id = (graph.openEdges placed id).erase (node, id) := by
  have hnodup : (graph.openEdges placed id).Nodup := (nodup_edges graph).filter _
  rw [hnodup.erase_eq_filter, openEdges, openEdges, List.filter_filter]
  refine List.filter_congr fun edge _ ↦ ?_
  obtain ⟨source, target⟩ := edge
  by_cases htarget : target = id <;> by_cases hsource : source = node <;> simp [htarget, hsource]

/-! ### The sort -/

/-- What the sort keeps from step to step. -/
structure Sorting.Sound (graph : Graph) (sorting : Sorting) : Prop where
  degree : ∀ id, sorting.inDegree.get? id =
    if graph.contains id then some (graph.openEdges sorting.placed id).length else none
  ready : ∀ id, id ∈ sorting.ready.toList ↔
    graph.contains id = true ∧ id ∉ sorting.placed ∧ graph.openEdges sorting.placed id = []
  nodup : sorting.placed.Nodup
  contained : ∀ id ∈ sorting.placed, graph.contains id = true
  after : ∀ later id earlier, sorting.placed = later ++ id :: earlier →
    ∀ source, graph.Feeds source id → source ∈ earlier

namespace Sorting

/-- Counting edges at their ends adds to each count the number of edges that end there. -/
theorem get?_count {edges : List (NodeId × NodeId)} {degrees : OrderedMap NodeId Nat} {id : NodeId}
    {degree : Nat} (h : degrees.get? id = some degree) :
    (edges.foldl (fun degrees edge ↦ degrees.insert edge.2 ((degrees.get? edge.2).getD 0 + 1))
      degrees).get? id = some (degree + (edges.filter fun edge ↦ edge.2 = id).length) := by
  induction edges generalizing degrees degree with
  | nil => simpa using h
  | cons edge rest ih =>
    rw [List.foldl_cons]
    by_cases hedge : edge.2 = id
    · subst hedge
      rw [ih (OrderedMap.get?_insert_self _ _ _), h, List.filter_cons_of_pos (by simp),
        List.length_cons, Option.getD_some, Nat.add_right_comm, Nat.add_assoc]
    · rw [ih ((OrderedMap.get?_insert_of_ne _ (Ne.symm hedge) _).trans h),
        List.filter_cons_of_neg (by simpa using hedge)]

theorem get?_count_of_forall_ne {edges : List (NodeId × NodeId)}
    {degrees : OrderedMap NodeId Nat} {id : NodeId} (h : ∀ edge ∈ edges, edge.2 ≠ id) :
    (edges.foldl (fun degrees edge ↦ degrees.insert edge.2 ((degrees.get? edge.2).getD 0 + 1))
      degrees).get? id = degrees.get? id := by
  induction edges generalizing degrees with
  | nil => rfl
  | cons edge rest ih =>
    rw [List.foldl_cons, ih fun other hother ↦ h other (List.mem_cons_of_mem _ hother),
      OrderedMap.get?_insert_of_ne _ (Ne.symm (h edge List.mem_cons_self))]

theorem get?_inDegree_start (wellFormed : graph.WellFormed) (id : NodeId) :
    (start graph).inDegree.get? id =
      if graph.contains id then some (graph.openEdges [] id).length else none := by
  have hopen : graph.openEdges [] id = graph.edges.filter fun edge ↦ edge.2 = id := by
    simp [openEdges]
  rw [start, hopen]
  split_ifs with hid
  · obtain ⟨node, hnode⟩ := (contains_iff graph id).mp hid
    have hzero : (graph.nodes.mapValues fun _ _ ↦ 0).get? id = some 0 := by
      rw [OrderedMap.get?_mapValues, show graph.nodes.get? id = some node from hnode]
      rfl
    rw [get?_count hzero, Nat.zero_add]
  · rw [get?_count_of_forall_ne, OrderedMap.get?_mapValues, Option.map_eq_none_iff]
    · exact (OrderedMap.contains_eq_false_iff _ _).mp (Bool.eq_false_iff.mpr hid)
    · rintro ⟨source, target⟩ hedge rfl
      exact hid (wellFormed.contains_of_feeds (mem_edges_iff.mp hedge)).2

theorem sound_start (wellFormed : graph.WellFormed) : (start graph).Sound graph := by
  refine ⟨get?_inDegree_start wellFormed, fun id ↦ ?_, List.nodup_nil,
    fun id h ↦ absurd h List.not_mem_nil, fun later id earlier h ↦ ?_⟩
  · have hready : id ∈ (start graph).ready.toList ↔ (start graph).inDegree.get? id = some 0 := by
      rw [start, OrderedSet.mem_toList_ofList, OrderedMap.mem_keys_iff]
      simp [OrderedMap.get?_filter_eq_some_iff]
    rw [hready, get?_inDegree_start wellFormed]
    by_cases hid : graph.contains id = true <;> simp [hid, start]
  · exact absurd h (by simp [start])

theorem placed_foldl_release (targets : List NodeId) (sorting : Sorting) :
    (targets.foldl release sorting).placed = sorting.placed := by
  induction targets generalizing sorting with
  | nil => rfl
  | cons target rest ih =>
    rw [List.foldl_cons, ih, release]
    split <;> rfl

theorem inDegree_release (sorting : Sorting) (target id : NodeId) :
    (sorting.release target).inDegree.get? id =
      if id = target then (sorting.inDegree.get? id).map (· - 1)
      else sorting.inDegree.get? id := by
  unfold release
  split
  · next h =>
    split_ifs with hid
    · rw [hid, h]
      rfl
    · rfl
  · next degree h =>
    rw [OrderedMap.get?_insert]
    split_ifs with hid
    · rw [hid, h]
      rfl
    · rfl

theorem mem_ready_release (sorting : Sorting) (target id : NodeId) :
    id ∈ (sorting.release target).ready.toList ↔
      id ∈ sorting.ready.toList ∨
        id = target ∧ (sorting.inDegree.get? id).map (· - 1) = some 0 := by
  unfold release
  split
  · next h =>
    refine ⟨Or.inl, ?_⟩
    rintro (hmem | ⟨rfl, hzero⟩)
    · exact hmem
    · rw [h] at hzero
      cases hzero
  · next degree h =>
    by_cases hzero : degree - 1 = 0
    · rw [if_pos hzero, OrderedSet.mem_toList_add]
      constructor
      · rintro (rfl | hmem)
        · exact Or.inr ⟨rfl, by rw [h, Option.map_some, hzero]⟩
        · exact Or.inl hmem
      · rintro (hmem | ⟨rfl, -⟩)
        · exact Or.inr hmem
        · exact Or.inl rfl
    · rw [if_neg hzero]
      refine ⟨Or.inl, ?_⟩
      rintro (hmem | ⟨rfl, hsome⟩)
      · exact hmem
      · rw [h, Option.map_some, Option.some.injEq] at hsome
        exact absurd hsome hzero

/-- Released one after the other, different targets are each counted down once. -/
theorem inDegree_foldl_release {targets : List NodeId} (hnodup : targets.Nodup)
    (sorting : Sorting) (id : NodeId) :
    (targets.foldl release sorting).inDegree.get? id =
      if id ∈ targets then (sorting.inDegree.get? id).map (· - 1)
      else sorting.inDegree.get? id := by
  induction targets generalizing sorting with
  | nil => simp
  | cons target rest ih =>
    rw [List.nodup_cons] at hnodup
    rw [List.foldl_cons, ih hnodup.2, inDegree_release]
    by_cases hid : id = target
    · subst hid
      simp [hnodup.1]
    · simp [hid]

theorem mem_ready_foldl_release {targets : List NodeId} (hnodup : targets.Nodup)
    (sorting : Sorting) (id : NodeId) :
    id ∈ (targets.foldl release sorting).ready.toList ↔
      id ∈ sorting.ready.toList ∨
        id ∈ targets ∧ (sorting.inDegree.get? id).map (· - 1) = some 0 := by
  induction targets generalizing sorting with
  | nil => simp
  | cons target rest ih =>
    rw [List.nodup_cons] at hnodup
    rw [List.foldl_cons, ih hnodup.2, mem_ready_release, inDegree_release]
    by_cases hid : id = target
    · subst hid
      simp [hnodup.1]
    · simp [hid]

/-- The targets of the edges out of a node. -/
theorem mem_targets_iff {node id : NodeId} :
    id ∈ (graph.edges.filter fun edge ↦ edge.1 = node).map Prod.snd ↔ graph.Feeds node id := by
  simp only [List.mem_map, List.mem_filter, decide_eq_true_eq, Prod.exists, ← mem_edges_iff]
  constructor
  · rintro ⟨source, target, ⟨hedge, rfl⟩, rfl⟩
    exact hedge
  · intro hedge
    exact ⟨node, id, ⟨hedge, rfl⟩, rfl⟩

theorem nodup_targets (graph : Graph) (node : NodeId) :
    ((graph.edges.filter fun edge ↦ edge.1 = node).map Prod.snd).Nodup := by
  refine List.Nodup.map_on (fun first hfirst second hsecond heq ↦ ?_)
    ((nodup_edges graph).filter _)
  simp only [List.mem_filter, decide_eq_true_eq] at hfirst hsecond
  exact Prod.ext (hfirst.2.trans hsecond.2.symm) heq

/-- An unplaced node is among the open edges of each node it feeds. -/
theorem mem_openEdges_of_feeds {placed : List NodeId} {node id : NodeId} (hnode : node ∉ placed) :
    (node, id) ∈ graph.openEdges placed id ↔ graph.Feeds node id := by
  rw [mem_openEdges_iff, mem_edges_iff]
  exact ⟨fun h ↦ h.1, fun h ↦ ⟨h, rfl, hnode⟩⟩

theorem Sound.feeds_not_placed {sorting : Sorting} (sound : sorting.Sound graph)
    {node id : NodeId} (hnode : node ∉ sorting.placed) (h : graph.Feeds node id) :
    id ∉ sorting.placed := by
  intro hid
  obtain ⟨later, earlier, hsplit⟩ := List.append_of_mem hid
  exact hnode (hsplit ▸ List.mem_append_right _
    (List.mem_cons_of_mem _ (sound.after later id earlier hsplit node h)))

/-- Placing a node closes no edge into a node that it does not feed. -/
theorem openEdges_cons_of_not_feeds {placed : List NodeId} {node id : NodeId}
    (hnode : node ∉ placed) (hfeeds : ¬ graph.Feeds node id) :
    graph.openEdges (node :: placed) id = graph.openEdges placed id := by
  rw [openEdges_cons]
  exact List.erase_of_not_mem (mt (mem_openEdges_of_feeds hnode).mp hfeeds)

/-- Placing a node closes one edge into each node that it feeds, which is then counted down. -/
theorem Sound.inDegree_of_feeds {sorting : Sorting} (sound : sorting.Sound graph)
    (wellFormed : graph.WellFormed) {node id : NodeId} (hnode : node ∉ sorting.placed)
    (hfeeds : graph.Feeds node id) :
    (sorting.inDegree.get? id).map (· - 1) =
      some (graph.openEdges (node :: sorting.placed) id).length := by
  have hid := (wellFormed.contains_of_feeds hfeeds).2
  have hmem := (mem_openEdges_of_feeds hnode).mpr hfeeds
  rw [sound.degree, if_pos hid, openEdges_cons, List.length_erase_of_mem hmem]
  rfl

/-- A node is ready after a placement when all that it reads from has been placed. -/
theorem Sound.ready_place_iff {sorting : Sorting} (sound : sorting.Sound graph)
    (wellFormed : graph.WellFormed) {node : NodeId} (hnode : node ∉ sorting.placed)
    (hself : ¬ graph.Feeds node node) (id : NodeId) :
    (id ≠ node ∧ id ∈ sorting.ready.toList) ∨
        (graph.Feeds node id ∧ (sorting.inDegree.get? id).map (· - 1) = some 0) ↔
      graph.contains id = true ∧ id ∉ node :: sorting.placed ∧
        graph.openEdges (node :: sorting.placed) id = [] := by
  rw [sound.ready, List.mem_cons, not_or]
  by_cases hfeeds : graph.Feeds node id
  · have hid := (wellFormed.contains_of_feeds hfeeds).2
    have hopen : graph.openEdges sorting.placed id ≠ [] :=
      List.ne_nil_of_mem ((mem_openEdges_of_feeds hnode).mpr hfeeds)
    have hne : id ≠ node := by
      intro heq
      exact hself (heq ▸ hfeeds)
    rw [sound.inDegree_of_feeds wellFormed hnode hfeeds]
    simp [hopen, hfeeds, hid, hne, sound.feeds_not_placed hnode hfeeds]
  · rw [openEdges_cons_of_not_feeds hnode hfeeds]
    constructor
    · intro h
      obtain ⟨hne, hid, hplaced, hnil⟩ := h.resolve_right fun h ↦ hfeeds h.1
      exact ⟨hid, ⟨hne, hplaced⟩, hnil⟩
    · rintro ⟨hid, ⟨hne, hplaced⟩, hnil⟩
      exact Or.inl ⟨hne, hid, hplaced, hnil⟩

/-- Placing a ready node keeps the invariant. -/
theorem Sound.step {sorting next : Sorting} (sound : sorting.Sound graph)
    (wellFormed : graph.WellFormed) (h : sorting.step graph = some next) :
    next.Sound graph ∧ next.placed.length = sorting.placed.length + 1 := by
  unfold Sorting.step at h
  split at h
  · cases h
  · next node rest hready =>
    obtain ⟨hcontains, hnode, hopen⟩ := (sound.ready node).mp (hready ▸ List.mem_cons_self)
    have hself : ¬ graph.Feeds node node := fun hfeeds ↦
      hnode (openEdges_eq_nil_iff.mp hopen node hfeeds)
    rw [Option.some.injEq] at h
    subst h
    refine ⟨⟨fun id ↦ ?_, fun id ↦ ?_, ?_, ?_, ?_⟩, ?_⟩
    · rw [inDegree_foldl_release (nodup_targets graph node), placed_foldl_release]
      by_cases hfeeds : graph.Feeds node id
      · have hid := (wellFormed.contains_of_feeds hfeeds).2
        rw [if_pos (mem_targets_iff.mpr hfeeds), if_pos hid]
        exact sound.inDegree_of_feeds wellFormed hnode hfeeds
      · rw [if_neg (mt mem_targets_iff.mp hfeeds), openEdges_cons_of_not_feeds hnode hfeeds]
        exact sound.degree id
    · rw [mem_ready_foldl_release (nodup_targets graph node), placed_foldl_release,
        OrderedSet.mem_toList_erase, mem_targets_iff]
      exact sound.ready_place_iff wellFormed hnode hself id
    · rw [placed_foldl_release]
      exact List.nodup_cons.mpr ⟨hnode, sound.nodup⟩
    · rw [placed_foldl_release]
      intro id hid
      rcases List.mem_cons.mp hid with rfl | hold
      · exact hcontains
      · exact sound.contained id hold
    · rw [placed_foldl_release]
      intro later id earlier hsplit source hfeeds
      cases later with
      | nil =>
        obtain ⟨rfl, rfl⟩ := List.cons.inj hsplit
        exact openEdges_eq_nil_iff.mp hopen source hfeeds
      | cons _ later => exact sound.after later id earlier (List.cons.inj hsplit).2 source hfeeds
    · rw [placed_foldl_release]
      rfl

theorem Sound.length_placed_le {sorting : Sorting} (sound : sorting.Sound graph) :
    sorting.placed.length ≤ graph.size := by
  have hsubset : sorting.placed ⊆ graph.nodes.keys := fun id hid ↦
    (OrderedMap.mem_keys_iff _ _).mpr ((contains_iff graph id).mp (sound.contained id hid))
  have hle := (sound.nodup.subperm hsubset).length_le
  rwa [OrderedMap.keys, List.length_map] at hle

/-- As many steps as there are unplaced nodes leave no node ready. -/
theorem Sound.run {sorting : Sorting} (sound : sorting.Sound graph)
    (wellFormed : graph.WellFormed) (fuel : Nat)
    (hfuel : graph.size ≤ fuel + sorting.placed.length) :
    (run graph fuel sorting).Sound graph ∧ (run graph fuel sorting).ready.toList = [] := by
  induction fuel generalizing sorting with
  | zero =>
    refine ⟨sound, ?_⟩
    cases hstep : sorting.step graph with
    | none =>
      unfold Sorting.step at hstep
      split at hstep
      · assumption
      · cases hstep
    | some next =>
      obtain ⟨hnext, hlength⟩ := sound.step wellFormed hstep
      have hle := hnext.length_placed_le
      omega
  | succ fuel ih =>
    rw [Sorting.run]
    cases hstep : sorting.step graph with
    | none =>
      refine ⟨sound, ?_⟩
      unfold Sorting.step at hstep
      split at hstep
      · assumption
      · cases hstep
    | some next =>
      obtain ⟨hnext, hlength⟩ := sound.step wellFormed hstep
      exact ih hnext (by omega)

theorem size_inDegree_start (wellFormed : graph.WellFormed) :
    (start graph).inDegree.size = graph.size := by
  refine OrderedMap.size_eq_of_mem_keys fun id ↦ ?_
  rw [OrderedMap.mem_keys_iff, OrderedMap.mem_keys_iff, get?_inDegree_start wellFormed]
  have hcontains := contains_iff graph id
  by_cases hid : graph.contains id = true
  · simpa [hid, node?] using hcontains.mp hid
  · have hnone := mt hcontains.mpr hid
    simpa [hid, node?] using hnone

end Sorting

/-! ### The order -/

/-- The state in which the sort ends. -/
def sorted (graph : Graph) : Sorting :=
  Sorting.run graph (Sorting.start graph).inDegree.size (Sorting.start graph)

theorem WellFormed.sorted (wellFormed : graph.WellFormed) :
    graph.sorted.Sound graph ∧ graph.sorted.ready.toList = [] :=
  (Sorting.sound_start wellFormed).run wellFormed _
    (by rw [Sorting.size_inDegree_start wellFormed]; exact Nat.le_add_right _ _)

/-- The nodes that the sort leaves over. -/
def leftOver (graph : Graph) : List NodeId :=
  graph.nodes.keys.filter fun id ↦ !graph.sorted.placed.contains id

theorem order_eq (graph : Graph) :
    graph.order = match graph.leftOver with
      | [] => .ok graph.sorted.placed.reverse
      | start :: _ =>
        .error (graph.walkBack graph.leftOver (graph.leftOver.length + 1) [] start) := rfl

theorem mem_leftOver_iff {id : NodeId} :
    id ∈ graph.leftOver ↔ graph.contains id = true ∧ id ∉ graph.sorted.placed := by
  simp only [leftOver, List.mem_filter, OrderedMap.mem_keys_iff, Bool.not_eq_true',
    List.contains_eq_mem, decide_eq_false_iff_not, contains_iff]
  rfl

/-- A node that is left over reads from another one that is left over. -/
theorem WellFormed.exists_leftOver_source (wellFormed : graph.WellFormed) {id : NodeId}
    (h : id ∈ graph.leftOver) : ∃ source ∈ graph.leftOver, graph.Feeds source id := by
  obtain ⟨sound, hready⟩ := wellFormed.sorted
  obtain ⟨hcontains, hplaced⟩ := mem_leftOver_iff.mp h
  by_contra hnone
  have hopen : graph.openEdges graph.sorted.placed id = [] := by
    refine openEdges_eq_nil_iff.mpr fun source hfeeds ↦ ?_
    by_contra hsource
    exact hnone ⟨source,
      mem_leftOver_iff.mpr ⟨(wellFormed.contains_of_feeds hfeeds).1, hsource⟩, hfeeds⟩
  have hmem := (sound.ready id).mpr ⟨hcontains, hplaced, hopen⟩
  rw [hready] at hmem
  cases hmem

theorem orders_of_order (wellFormed : graph.WellFormed) {order : List NodeId}
    (h : graph.order = .ok order) : graph.Orders order := by
  obtain ⟨sound, -⟩ := wellFormed.sorted
  rw [order_eq] at h
  split at h
  · next hnil =>
    cases h
    refine ⟨List.nodup_reverse.mpr sound.nodup, fun id ↦ ?_,
      fun before id rest hsplit source hfeeds ↦ ?_⟩
    · rw [List.mem_reverse]
      refine ⟨sound.contained id, fun hcontains ↦ ?_⟩
      by_contra hplaced
      have hmem := mem_leftOver_iff.mpr ⟨hcontains, hplaced⟩
      rw [hnil] at hmem
      cases hmem
    · have hreverse : graph.sorted.placed = rest.reverse ++ id :: before.reverse := by
        rw [← List.reverse_reverse graph.sorted.placed, hsplit]
        simp
      exact List.mem_reverse.mp (sound.after _ id _ hreverse source hfeeds)
  · cases h

/-- Going upstream inside what is left over would never end, so without a cycle nothing is left. -/
theorem exists_order_of_acyclic (wellFormed : graph.WellFormed) (acyclic : graph.Acyclic) :
    ∃ order, graph.order = .ok order := by
  let upstream (source target : {id // id ∈ graph.leftOver}) : Prop :=
    Relation.TransGen graph.Feeds source target
  have hfounded : WellFounded upstream := by
    have : Finite {id // id ∈ graph.leftOver} := List.finite_toSet graph.leftOver
    have : IsTrans {id // id ∈ graph.leftOver} upstream := ⟨fun _ _ _ ↦ Relation.TransGen.trans⟩
    have : Std.Irrefl upstream := ⟨fun id ↦ acyclic id⟩
    exact Finite.wellFounded_of_trans_of_irrefl upstream
  have hempty : ∀ id : {id // id ∈ graph.leftOver}, False := by
    intro id
    induction id using hfounded.induction with
    | _ id ih =>
      obtain ⟨source, hsource, hfeeds⟩ := wellFormed.exists_leftOver_source id.property
      exact ih ⟨source, hsource⟩ (.single hfeeds)
  rw [order_eq]
  cases hleft : graph.leftOver with
  | nil => exact ⟨_, rfl⟩
  | cons first rest => exact (hempty ⟨first, hleft ▸ List.mem_cons_self⟩).elim

/-- Along an order of the nodes connections lead forward only. -/
theorem Orders.acyclic (wellFormed : graph.WellFormed) {order : List NodeId}
    (orders : graph.Orders order) : graph.Acyclic := by
  have hstep : ∀ {source target : NodeId}, graph.Feeds source target →
      order.idxOf source < order.idxOf target := by
    intro source target hfeeds
    have hmem := (orders.mem_iff target).mpr (wellFormed.contains_of_feeds hfeeds).2
    obtain ⟨before, rest, hsplit⟩ := List.append_of_mem hmem
    have hsource := orders.after before target rest hsplit source hfeeds
    have hnodup := orders.nodup
    rw [hsplit] at hnodup ⊢
    have htarget : target ∉ before := fun hbefore ↦
      List.disjoint_of_nodup_append hnodup hbefore List.mem_cons_self
    rw [List.idxOf_append_of_mem hsource, List.idxOf_append_of_notMem htarget,
      List.idxOf_cons_self, Nat.add_zero]
    exact List.idxOf_lt_length_of_mem hsource
  have hpath : ∀ {source target : NodeId}, Relation.TransGen graph.Feeds source target →
      order.idxOf source < order.idxOf target := by
    intro source target hpath
    induction hpath with
    | single hfeeds => exact hstep hfeeds
    | tail _ hfeeds ih => exact ih.trans (hstep hfeeds)
  exact fun id hcycle ↦ Nat.lt_irrefl _ (hpath hcycle)

theorem order_relay : relay.order = .ok [.ofNat 1, .ofNat 2] := by
  decide

theorem acyclic_relay : relay.Acyclic :=
  (orders_of_order reachable_relay.wellFormed order_relay).acyclic reachable_relay.wellFormed

end FlowGraph.Graph
