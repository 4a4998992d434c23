import FlowGraph.Proofs.Evaluation.Step
import Mathlib.Data.List.Perm.Subperm

/-!
How far a failure spreads. The nodes that are skipped with a failed one are found with a stack of
nodes to look at; when it is empty, exactly the nodes have been skipped that the failure reaches
through pending nodes (`mem_skippedBy_iff_transGen`), each of them once. The stack is empty in time,
since every connection puts its target there at most once.
-/

set_option autoImplicit false
set_option relaxedAutoImplicit false

namespace FlowGraph.Evaluation.Run

variable {graph : Graph} {run : Run} {origin : NodeId}

/-- A failure passes along a connection to a node that is still pending. -/
def Passes (graph : Graph) (run : Run) (source id : NodeId) : Prop :=
  graph.Feeds source id ∧ run.states.get? id = some .pending

theorem get?_states_skip (origin : NodeId) (run : Run) (node id : NodeId) :
    (skip origin run node).states.get? id =
      if id = node then some .failed else run.states.get? id :=
  OrderedMap.get?_insert _ _ _ _

theorem get?_states_foldl_skip (origin : NodeId) (skipped : List NodeId) (run : Run)
    (id : NodeId) :
    (skipped.foldl (skip origin) run).states.get? id =
      if id ∈ skipped then some .failed else run.states.get? id := by
  induction skipped generalizing run with
  | nil => simp
  | cons first rest ih =>
    rw [List.foldl_cons, ih, get?_states_skip]
    by_cases hid : id = first <;> simp [hid]

theorem get?_states_foldl_skip_eq_pending_iff (origin : NodeId) (skipped : List NodeId) (run : Run)
    (id : NodeId) :
    (skipped.foldl (skip origin) run).states.get? id = some .pending ↔
      run.states.get? id = some .pending ∧ id ∉ skipped := by
  rw [get?_states_foldl_skip]
  by_cases hid : id ∈ skipped
  · simp [hid]
  · simp [hid]

/-! ### The stack empties -/

/-- The connections that can still be followed: those out of pending nodes. -/
def openConnections (graph : Graph) (run : Run) : List Connection :=
  graph.connections.filter fun connection ↦ run.isPending connection.source.node

theorem length_dependents_le (graph : Graph) (id : NodeId) :
    (graph.dependents id).toList.length ≤ (graph.connectionsFrom id).length := by
  have hsubset : (graph.dependents id).toList ⊆
      (graph.connectionsFrom id).map fun connection ↦ connection.target.node := by
    intro target htarget
    exact (OrderedSet.mem_toList_ofList _ _).mp htarget
  have hle := (List.subperm_of_subset (OrderedSet.nodup_toList _) hsubset).length_le
  rwa [List.length_map] at hle

/-- A skipped node closes the connections out of it. -/
theorem length_openConnections_skip (graph : Graph) (origin : NodeId) {node : NodeId}
    (hpending : run.isPending node = true) :
    (openConnections graph (skip origin run node)).length + (graph.connectionsFrom node).length =
      (openConnections graph run).length := by
  have hfrom : (openConnections graph run).filter
      (fun connection ↦ connection.source.node = node) = graph.connectionsFrom node := by
    rw [openConnections, Graph.connectionsFrom, List.filter_filter]
    refine List.filter_congr fun connection _ ↦ ?_
    by_cases h : connection.source.node = node
    · simp [h, hpending]
    · simp [h]
  have hrest : (openConnections graph run).filter
      (fun connection ↦ !decide (connection.source.node = node)) =
        openConnections graph (skip origin run node) := by
    rw [openConnections, openConnections, List.filter_filter]
    refine List.filter_congr fun connection _ ↦ ?_
    rw [isPending, isPending, get?_states_skip]
    by_cases h : connection.source.node = node
    · simp [h]
    · simp [h]
  have hsplit : (openConnections graph run).length = _ := List.length_eq_length_filter_add
    fun connection ↦ decide (connection.source.node = node)
  rw [hsplit, hfrom, hrest, Nat.add_comm]

/-- What is on the stack and what can still be put there. -/
def looksLeft (graph : Graph) (frontier : List NodeId) (run : Run) : Nat :=
  frontier.length + (openConnections graph run).length

theorem looksLeft_skip_lt (graph : Graph) (origin : NodeId) {node : NodeId}
    (hpending : run.isPending node = true) (frontier : List NodeId) :
    looksLeft graph ((graph.dependents node).toList.reverse ++ frontier) (skip origin run node) <
      looksLeft graph (node :: frontier) run := by
  have hclosed := length_openConnections_skip graph origin hpending
  have hle := length_dependents_le graph node
  simp only [looksLeft, List.length_append, List.length_reverse, List.length_cons]
  omega

/-- Out of a failed node and out of pending ones there are no more connections than there are. -/
theorem looksLeft_failed_le {id : NodeId} (hfailed : run.states.get? id = some .failed) :
    looksLeft graph (graph.dependents id).toList.reverse run ≤ graph.connections.length := by
  have hle := length_dependents_le graph id
  have hsublist : (openConnections graph run).length ≤ (graph.connections.filter
      fun connection ↦ !decide (connection.source.node = id)).length := by
    refine (List.monotone_filter_right _ fun connection h ↦ ?_).length_le
    by_cases hid : connection.source.node = id
    · rw [isPending, hid, hfailed] at h
      simp at h
    · simp [hid]
  have hall : graph.connections.length = _ := List.length_eq_length_filter_add
    fun connection ↦ decide (connection.source.node = id)
  rw [looksLeft, List.length_reverse]
  rw [Graph.connectionsFrom] at hle
  omega

/-! ### What has been skipped when it is empty -/

/-- How far the failure of a node has spread from a run. No node has been skipped twice; the skipped
nodes are reached by the failure, and so are those on the stack where they are pending; and where
the failure passes on from what has failed with it, it has been followed or is about to be. -/
structure Spread (graph : Graph) (run : Run) (origin : NodeId) (frontier skipped : List NodeId) :
    Prop where
  nodup : skipped.Nodup
  reached : ∀ id ∈ skipped, Relation.TransGen (run.Passes graph) origin id
  fed : ∀ id ∈ frontier, ∃ source, (source = origin ∨ source ∈ skipped) ∧
    graph.Feeds source id
  followed : ∀ source id, source = origin ∨ source ∈ skipped → run.Passes graph source id →
    id ∈ frontier ∨ id ∈ skipped

theorem spread_start (graph : Graph) (run : Run) (origin : NodeId) :
    Spread graph run origin (graph.dependents origin).toList.reverse [] where
  nodup := List.nodup_nil
  reached _ hid := absurd hid List.not_mem_nil
  fed id hid := ⟨origin, Or.inl rfl, Graph.mem_dependents.mp (List.mem_reverse.mp hid)⟩
  followed source id hsource hpasses := by
    have horigin : source = origin := hsource.resolve_right List.not_mem_nil
    rw [horigin] at hpasses
    exact Or.inl (List.mem_reverse.mpr (Graph.mem_dependents.mpr hpasses.1))

namespace Spread

variable {node : NodeId} {frontier skipped : List NodeId}

/-- A node that is no longer pending is passed over. -/
theorem pass (spread : Spread graph run origin (node :: frontier) skipped)
    (h : (skipped.foldl (skip origin) run).states.get? node ≠ some .pending) :
    Spread graph run origin frontier skipped where
  nodup := spread.nodup
  reached := spread.reached
  fed id hid := spread.fed id (List.mem_cons_of_mem node hid)
  followed source id hsource hpasses := by
    by_cases hskipped : id ∈ skipped
    · exact Or.inr hskipped
    · rcases spread.followed source id hsource hpasses with hfrontier | hmem
      · refine Or.inl ((List.mem_cons.mp hfrontier).resolve_left fun hnode ↦ h ?_)
        rw [get?_states_foldl_skip_eq_pending_iff, ← hnode]
        exact ⟨hpasses.2, hskipped⟩
      · exact absurd hmem hskipped

/-- A pending node is skipped, and the nodes that read from it are put on the stack. -/
theorem skip (spread : Spread graph run origin (node :: frontier) skipped)
    (h : (skipped.foldl (skip origin) run).states.get? node = some .pending) :
    Spread graph run origin ((graph.dependents node).toList.reverse ++ frontier)
      (skipped ++ [node]) := by
  rw [get?_states_foldl_skip_eq_pending_iff] at h
  have hnode : Relation.TransGen (run.Passes graph) origin node := by
    obtain ⟨source, hsource, hfeeds⟩ := spread.fed node List.mem_cons_self
    rcases hsource with horigin | hskipped
    · exact .single ⟨horigin ▸ hfeeds, h.1⟩
    · exact (spread.reached source hskipped).tail ⟨hfeeds, h.1⟩
  refine ⟨?_, fun id hid ↦ ?_, fun id hid ↦ ?_, fun source id hsource hpasses ↦ ?_⟩
  · exact List.nodup_append.mpr ⟨spread.nodup, List.nodup_singleton node, by grind⟩
  · rcases List.mem_append.mp hid with hskipped | hlast
    · exact spread.reached id hskipped
    · rw [List.mem_singleton.mp hlast]
      exact hnode
  · rcases List.mem_append.mp hid with hnew | hold
    · exact ⟨node, Or.inr (List.mem_append_right _ (List.mem_singleton_self node)),
        Graph.mem_dependents.mp (List.mem_reverse.mp hnew)⟩
    · obtain ⟨source, hsource, hfeeds⟩ := spread.fed id (List.mem_cons_of_mem node hold)
      exact ⟨source, hsource.imp_right (List.mem_append_left _), hfeeds⟩
  · simp only [List.mem_append, List.mem_reverse, List.mem_singleton, Graph.mem_dependents]
      at hsource ⊢
    by_cases hlast : source = node
    · rw [hlast] at hpasses
      exact Or.inl (Or.inl hpasses.1)
    · have hold := spread.followed source id (by tauto) hpasses
      rw [List.mem_cons] at hold
      tauto

/-- With an empty stack, what has been skipped is what the failure reaches. -/
theorem mem_iff (spread : Spread graph run origin [] skipped) (id : NodeId) :
    id ∈ skipped ↔ Relation.TransGen (run.Passes graph) origin id := by
  refine ⟨spread.reached id, fun h ↦ ?_⟩
  have hclosed : ∀ source id, source = origin ∨ source ∈ skipped →
      run.Passes graph source id → id ∈ skipped := by
    intro source id hsource hpasses
    exact (spread.followed source id hsource hpasses).resolve_left List.not_mem_nil
  induction h with
  | single hpasses => exact hclosed origin _ (Or.inl rfl) hpasses
  | tail _ hpasses ih => exact hclosed _ _ (Or.inr ih) hpasses

end Spread

/-- From any stage on, the failure spreads to the end while there is fuel. -/
theorem exists_skipDownstream_eq {fuel : Nat} {frontier skipped : List NodeId}
    (spread : Spread graph run origin frontier skipped)
    (hfuel : looksLeft graph frontier (skipped.foldl (skip origin) run) ≤ fuel) :
    ∃ all, skipDownstream graph origin fuel frontier skipped (skipped.foldl (skip origin) run) =
        (all, all.foldl (skip origin) run) ∧ Spread graph run origin [] all := by
  induction fuel generalizing frontier skipped with
  | zero =>
    have hnil : frontier = [] := by
      rw [looksLeft] at hfuel
      exact List.length_eq_zero_iff.mp (by omega)
    rw [hnil] at spread ⊢
    exact ⟨skipped, rfl, spread⟩
  | succ fuel ih =>
    cases frontier with
    | nil => exact ⟨skipped, rfl, spread⟩
    | cons node frontier =>
      unfold skipDownstream
      by_cases hpending : (skipped.foldl (skip origin) run).isPending node = true
      · have hlt := looksLeft_skip_lt graph origin hpending frontier
        have hnext : skip origin (skipped.foldl (skip origin) run) node =
            (skipped ++ [node]).foldl (skip origin) run := by
          rw [List.foldl_append, List.foldl_cons, List.foldl_nil]
        rw [if_pos hpending]
        rw [hnext] at hlt ⊢
        exact ih (spread.skip ((isPending_iff _ _).mp hpending)) (by omega)
      · rw [if_neg hpending]
        refine ih (spread.pass fun h ↦ hpending ((isPending_iff _ _).mpr h)) ?_
        rw [looksLeft, List.length_cons] at hfuel
        rw [looksLeft]
        omega

/-- The states of a run in which a node has just failed. What is skipped depends on nothing else, so
the rest is left empty: then runs with equal states skip the same nodes by definition. -/
def withFailed (run : Run) (id : NodeId) : Run :=
  { start "" .empty [] with states := run.states.insert id .failed }

theorem exists_skipDownstream_of_failed (graph : Graph)
    (hfailed : run.states.get? origin = some .failed) :
    ∃ all, skipDownstream graph origin graph.connections.length
          (graph.dependents origin).toList.reverse [] run = (all, all.foldl (skip origin) run) ∧
        Spread graph run origin [] all :=
  exists_skipDownstream_eq (spread_start graph run origin) (looksLeft_failed_le hfailed)

/-- The nodes that fail with a node, in ascending order. -/
def skippedBy (graph : Graph) (run : Run) (id : NodeId) : List NodeId :=
  (OrderedSet.ofList (skipDownstream graph id graph.connections.length
    (graph.dependents id).toList.reverse [] (run.withFailed id)).1).toList

theorem pairwise_skippedBy (graph : Graph) (run : Run) (id : NodeId) :
    (skippedBy graph run id).Pairwise (· < ·) :=
  OrderedSet.pairwise_toList _

/-- Skipped with a node is exactly what its failure reaches through pending nodes. -/
theorem mem_skippedBy_iff_transGen (graph : Graph) (run : Run) (id other : NodeId) :
    other ∈ skippedBy graph run id ↔
      Relation.TransGen ((run.withFailed id).Passes graph) id other := by
  have hfailed : (run.withFailed id).states.get? id = some .failed :=
    OrderedMap.get?_insert_self _ _ _
  obtain ⟨all, hall, spread⟩ := exists_skipDownstream_of_failed graph hfailed
  rw [skippedBy, OrderedSet.mem_toList_ofList, hall]
  exact spread.mem_iff other

/-- Skipped are the pending nodes that read from the failed node or from a skipped one. -/
theorem mem_skippedBy_iff (graph : Graph) (run : Run) (id other : NodeId) :
    other ∈ skippedBy graph run id ↔
      other ≠ id ∧ run.states.get? other = some .pending ∧
        ∃ source, graph.Feeds source other ∧
          (source = id ∨ source ∈ skippedBy graph run id) := by
  have hpending : (run.withFailed id).states.get? other = some .pending ↔
      other ≠ id ∧ run.states.get? other = some .pending := by
    rw [withFailed, OrderedMap.get?_insert]
    by_cases hother : other = id <;> simp [hother]
  have hfrom : ∀ source, Relation.ReflTransGen ((run.withFailed id).Passes graph) id source ↔
      source = id ∨ source ∈ skippedBy graph run id := by
    intro source
    rw [Relation.reflTransGen_iff_eq_or_transGen, mem_skippedBy_iff_transGen]
  rw [mem_skippedBy_iff_transGen, Relation.TransGen.tail'_iff]
  simp only [hfrom, Passes, hpending]
  constructor
  · rintro ⟨source, hsource, hfeeds, hne, h⟩
    exact ⟨hne, h, source, hfeeds, hsource⟩
  · rintro ⟨hne, h, source, hfeeds, hsource⟩
    exact ⟨source, hsource, hfeeds, hne, h⟩

end FlowGraph.Evaluation.Run
