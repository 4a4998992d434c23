import FlowGraph.Proofs.Graph.Order

/-!
The sort as a whole. Its counts are those of the open edges, so a node is counted down only where an
edge into it is still open; checking every count before it is taken down changes nothing
(`Sound.runChecked_eq`). An order is found exactly when no node can be reached from itself.
-/

set_option autoImplicit false
set_option relaxedAutoImplicit false

namespace FlowGraph.Graph

variable {graph : Graph}

namespace Sorting

/-- The ends of the edges out of a node, each once. -/
def targets (graph : Graph) (node : NodeId) : List NodeId :=
  (graph.edges.filter fun edge ↦ edge.1 = node).map (·.2)

/-- Places a node, with its edges not yet counted down. -/
def place (sorting : Sorting) (node : NodeId) : Sorting :=
  { sorting with placed := node :: sorting.placed, ready := sorting.ready.erase node }

theorem step_of_ready_cons (graph : Graph) {sorting : Sorting} {node : NodeId}
    {rest : List NodeId} (h : sorting.ready.toList = node :: rest) :
    sorting.step graph = some ((targets graph node).foldl release (sorting.place node)) := by
  rw [Sorting.step, h]
  rfl

/-- Counts one edge down, unless there is none left to count. -/
def releaseChecked (sorting : Sorting) (target : NodeId) : Option Sorting :=
  if sorting.inDegree.get? target = some 0 then none else some (sorting.release target)

/-- Places nodes until none is ready, and gives up if a count would fall below zero. -/
def runChecked (graph : Graph) : Nat → Sorting → Option Sorting
  | 0, sorting => some sorting
  | fuel + 1, sorting =>
    match sorting.ready.toList with
    | [] => some sorting
    | node :: _ =>
      ((targets graph node).foldlM releaseChecked (sorting.place node)).bind (runChecked graph fuel)

theorem foldlM_releaseChecked {targets : List NodeId} (hnodup : targets.Nodup) {sorting : Sorting}
    (hcounted : ∀ target ∈ targets, sorting.inDegree.get? target ≠ some 0) :
    targets.foldlM releaseChecked sorting = some (targets.foldl release sorting) :=
  foldlM_eq_some_foldl (fun (sorting : Sorting) target ↦ sorting.inDegree.get? target ≠ some 0)
    (fun _ _ hcounted ↦ if_neg hcounted)
    (fun _ _ _ hne hcounted ↦ by rwa [inDegree_release, if_neg hne]) hnodup hcounted

/-- Where a ready node has been placed, each of its edges is still to be counted down. -/
theorem Sound.counted_targets {sorting : Sorting} (sound : sorting.Sound graph)
    (wellFormed : graph.WellFormed) {node target : NodeId} (hnode : node ∉ sorting.placed)
    (htarget : target ∈ targets graph node) : sorting.inDegree.get? target ≠ some 0 := by
  have hfeeds : graph.Feeds node target := mem_targets_iff.mp htarget
  have hopen := List.length_pos_of_mem ((mem_openEdges_of_feeds hnode).mpr hfeeds)
  rw [sound.degree, if_pos (wellFormed.contains_of_feeds hfeeds).2, ne_eq, Option.some.injEq]
  exact Nat.ne_of_gt hopen

/-- Checking the counts before they are taken down changes nothing. -/
theorem Sound.runChecked_eq {sorting : Sorting} (sound : sorting.Sound graph)
    (wellFormed : graph.WellFormed) (fuel : Nat) :
    runChecked graph fuel sorting = some (Sorting.run graph fuel sorting) := by
  induction fuel generalizing sorting with
  | zero => rfl
  | succ fuel ih =>
    rw [runChecked, Sorting.run]
    cases hready : sorting.ready.toList with
    | nil => simp only [Sorting.step, hready]
    | cons node rest =>
      have hnode := ((sound.ready node).mp (hready ▸ List.mem_cons_self)).2.1
      have hstep := step_of_ready_cons graph hready
      have hchecked : (targets graph node).foldlM releaseChecked (sorting.place node) =
          some ((targets graph node).foldl release (sorting.place node)) :=
        foldlM_releaseChecked (nodup_targets graph node) fun target htarget ↦
          sound.counted_targets wellFormed hnode htarget
      simp only [hchecked, hstep, Option.bind_some]
      exact ih (sound.step wellFormed hstep).1

/-- At first a node is counted once for each node that it reads from, however many connections
join the two. -/
theorem get?_inDegree_start_eq_size (wellFormed : graph.WellFormed) {id : NodeId}
    (hid : graph.contains id = true) :
    (start graph).inDegree.get? id = some (graph.dependencies id).size := by
  have hnodup : (graph.openEdges [] id).Nodup := (nodup_edges graph).filter _
  have hsources : ((graph.openEdges [] id).map Prod.fst).Nodup := by
    refine hnodup.map_on fun first hfirst second hsecond heq ↦ ?_
    exact Prod.ext heq ((mem_openEdges_iff.mp hfirst).2.1.trans
      (mem_openEdges_iff.mp hsecond).2.1.symm)
  have hperm : ((graph.openEdges [] id).map Prod.fst).Perm (graph.dependencies id).toList := by
    refine (List.perm_ext_iff_of_nodup hsources (OrderedSet.nodup_toList _)).mpr fun source ↦ ?_
    simp only [List.mem_map, mem_openEdges_iff, mem_dependencies, Prod.exists, ← mem_edges_iff]
    constructor
    · rintro ⟨first, second, ⟨hedge, rfl, -⟩, rfl⟩
      exact hedge
    · intro hedge
      exact ⟨source, id, ⟨hedge, rfl, List.not_mem_nil⟩, rfl⟩
  rw [get?_inDegree_start wellFormed, if_pos hid, ← OrderedSet.length_toList, ← hperm.length_eq,
    List.length_map]

end Sorting

theorem topologicalOrder_eq_ok_iff {order : List NodeId} :
    graph.topologicalOrder = .ok order ↔ graph.order = .ok order :=
  mapError_eq_ok_iff

theorem findCycle_eq_none_iff : graph.findCycle = none ↔ ∃ order, graph.order = .ok order := by
  unfold findCycle
  split
  · next order h => simp [h]
  · next node h => simp [h]

theorem findCycle_eq_some_iff {id : NodeId} :
    graph.findCycle = some id ↔ graph.order = .error id := by
  unfold findCycle
  split
  · next order horder => simp [horder]
  · next node horder => simp [horder]

/-- The sort is sound and complete. It finds an order exactly when no node can be reached from
itself along connections, and exactly then no cycle is found; the order lists every node once, after
the nodes it reads from. A node is counted once for each node that it reads from, and no count is
taken down that is zero. -/
theorem topologicalOrder_sound_complete (graph : Graph) (reachable : graph.Reachable) :
    ((∃ order, graph.topologicalOrder = .ok order) ↔ graph.Acyclic) ∧
      (∀ order, graph.topologicalOrder = .ok order → graph.Orders order) ∧
      (graph.findCycle = none ↔ ∃ order, graph.topologicalOrder = .ok order) ∧
      (∀ id, graph.contains id = true →
        (Sorting.start graph).inDegree.get? id = some (graph.dependencies id).size) ∧
      ∀ fuel, Sorting.runChecked graph fuel (Sorting.start graph) =
        some (Sorting.run graph fuel (Sorting.start graph)) := by
  have wellFormed := reachable.wellFormed
  simp only [topologicalOrder_eq_ok_iff]
  refine ⟨⟨?_, exists_order_of_acyclic wellFormed⟩, fun order ↦ orders_of_order wellFormed,
    findCycle_eq_none_iff, fun id ↦ Sorting.get?_inDegree_start_eq_size wellFormed,
    (Sorting.sound_start wellFormed).runChecked_eq wellFormed⟩
  rintro ⟨order, horder⟩
  exact (orders_of_order wellFormed horder).acyclic wellFormed

/-- A merge node with a lesser identifier than the text that both its inputs read. -/
def doubled : Graph :=
  afterEdits
    [ .createNode (.ofTypes [Builtin.merge]) (.ofNat 1) "merge" .empty,
      .createNode (.ofTypes [Builtin.textInput]) (.ofNat 2) "text-input" .empty,
      .connect (.ofNat 2) "text" (.ofNat 1) "input_0" .string,
      .connect (.ofNat 2) "text" (.ofNat 1) "input_1" .string ]

theorem reachable_doubled : doubled.Reachable := ⟨_, rfl⟩

theorem findCycle_echo : echo.findCycle = some (.ofNat 1) := by
  decide +kernel

theorem order_doubled : doubled.order = .ok [.ofNat 2, .ofNat 1] := by
  decide +kernel

/-- No order where a node reads itself twice, and an order where a node reads another twice; either
is counted once for both connections. -/
theorem topologicalOrder_sound_complete_echo_doubled :
    (echo.Reachable ∧ echo.connections.length = 2 ∧ echo.findCycle = some (.ofNat 1) ∧
      ¬ echo.Acyclic ∧ (Sorting.start echo).inDegree.get? (.ofNat 1) = some 1) ∧
    (doubled.Reachable ∧ doubled.connections.length = 2 ∧
      doubled.topologicalOrder = .ok [.ofNat 2, .ofNat 1] ∧
      doubled.Orders [.ofNat 2, .ofNat 1] ∧ doubled.Acyclic ∧ doubled.findCycle = none ∧
      (Sorting.start doubled).inDegree.get? (.ofNat 1) = some 1 ∧
      ∀ fuel, Sorting.runChecked doubled fuel (Sorting.start doubled) =
        some (Sorting.run doubled fuel (Sorting.start doubled))) := by
  obtain ⟨hacyclic, -, hcycle, hcount, -⟩ := topologicalOrder_sound_complete echo reachable_echo
  have hnone : ¬ ∃ order, echo.topologicalOrder = .ok order := by
    rw [← hcycle, findCycle_echo]
    exact Option.some_ne_none _
  have hself : (echo.dependencies (.ofNat 1)).size = 1 := by decide +kernel
  have hcounted := hcount (.ofNat 1) (by decide +kernel)
  rw [hself] at hcounted
  obtain ⟨hacyclic', horders, hcycle', hcount', hchecked⟩ :=
    topologicalOrder_sound_complete doubled reachable_doubled
  have hsorted : doubled.topologicalOrder = .ok [.ofNat 2, .ofNat 1] :=
    topologicalOrder_eq_ok_iff.mpr order_doubled
  have hsource : (doubled.dependencies (.ofNat 1)).size = 1 := by decide +kernel
  have hcounted' := hcount' (.ofNat 1) (by decide +kernel)
  rw [hsource] at hcounted'
  refine ⟨⟨reachable_echo, by decide +kernel, findCycle_echo, ?_, hcounted⟩,
    reachable_doubled, by decide +kernel, hsorted, horders _ hsorted, ?_, ?_, hcounted', hchecked⟩
  · exact fun acyclic ↦ hnone (hacyclic.mpr acyclic)
  · exact hacyclic'.mp ⟨_, hsorted⟩
  · exact hcycle'.mpr ⟨_, hsorted⟩

end FlowGraph.Graph
