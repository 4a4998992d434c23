import FlowGraph.Proofs.Evaluation.Effect

/-!
The bookkeeping of a run. `Tracks` says what each part of a run stands for: a node waits on its
dependencies that have not resolved, it is ready when it is pending and waits on none, it is running
while it resolves, it has outputs when it has resolved, and failures go downstream. Every step keeps
this (`Tracks.step`), whichever running node completes.
-/

set_option autoImplicit false
set_option relaxedAutoImplicit false

namespace FlowGraph.Evaluation

/-- The nodes that a node reads from and that have not resolved. -/
def unresolved (graph : Graph) (states : OrderedMap NodeId NodeState) (id : NodeId) :
    List NodeId :=
  (graph.dependencies id).toList.filter fun source ↦ states.get? source ≠ some .resolved

section Unresolved

variable {graph : Graph} {states : OrderedMap NodeId NodeState} {id : NodeId}

theorem mem_unresolved_iff {source : NodeId} :
    source ∈ unresolved graph states id ↔
      graph.Feeds source id ∧ states.get? source ≠ some .resolved := by
  simp [unresolved]

theorem unresolved_eq_nil_iff :
    unresolved graph states id = [] ↔
      ∀ source, graph.Feeds source id → states.get? source = some .resolved := by
  simp only [List.eq_nil_iff_forall_not_mem, mem_unresolved_iff, not_and, Decidable.not_not]

theorem unresolved_congr {other : OrderedMap NodeId NodeState}
    (h : ∀ source, other.get? source = some .resolved ↔ states.get? source = some .resolved) :
    unresolved graph other id = unresolved graph states id := by
  refine List.filter_congr fun source _ ↦ ?_
  simp only [ne_eq, h]

theorem unresolved_insert_resolved (resolved : NodeId) :
    unresolved graph (states.insert resolved .resolved) id =
      (unresolved graph states id).erase resolved := by
  have hnodup : (unresolved graph states id).Nodup := (OrderedSet.nodup_toList _).filter _
  rw [hnodup.erase_eq_filter, unresolved, unresolved, List.filter_filter]
  refine List.filter_congr fun source _ ↦ ?_
  rw [OrderedMap.get?_insert]
  by_cases hsource : source = resolved <;> simp [hsource]

end Unresolved

namespace Run

/-- Who is to blame: failures go downstream and are on record, and a node has failed by its own
failure or because something that it reads from has failed. -/
structure Blames (graph : Graph) (order : List NodeId) (run : Run) : Prop where
  downstream : ∀ source id, graph.Feeds source id → run.states.get? source = some .failed →
    run.states.get? id = some .failed
  failures : ∀ id, (∃ failure, run.failures.get? id = some failure) ↔
    run.states.get? id = some .failed
  ownFailures : ∀ place id error, run.ownFailures.get? place = some (id, error) →
    order[place]? = some id ∧ run.states.get? id = some .failed ∧
      run.failures.get? id = some ⟨id, error.rootCause.message⟩
  upstream : ∀ id, run.states.get? id = some .failed →
    (∃ place error, run.ownFailures.get? place = some (id, error)) ∨
      ∃ source, graph.Feeds source id ∧ run.states.get? source = some .failed

/-- What the parts of a run stand for. -/
structure Tracks (graph : Graph) (order : List NodeId) (run : Run) : Prop
    extends Blames graph order run where
  order_eq : run.order = order
  position : ∀ id place, run.position.get? id = some place ↔ order[place]? = some id
  state : ∀ id, (∃ state, run.states.get? id = some state) ↔ id ∈ order
  waiting : ∀ id ∈ order,
    run.waitingOn.get? id = some (unresolved graph run.states id).length
  ready : ∀ place id, run.ready.get? place = some id ↔
    order[place]? = some id ∧ run.states.get? id = some .pending ∧
      unresolved graph run.states id = []
  running_nodup : (run.running.map Task.node).Nodup
  running : ∀ id, id ∈ run.running.map Task.node ↔ run.states.get? id = some .resolving
  started : ∀ id, run.states.get? id = some .resolving ∨ run.states.get? id = some .resolved →
    unresolved graph run.states id = []
  outputs : ∀ id, (∃ outputs, run.outputs.get? id = some outputs) ↔
    run.states.get? id = some .resolved

variable {graph : Graph} {order : List NodeId} {run next : Run}

/-! ### The first run -/

theorem get?_ofList_map {ν : Type} {order : List NodeId} (hnodup : order.Nodup)
    (value : NodeId → ν) (id : NodeId) (found : ν) :
    (OrderedMap.ofList (order.map fun id ↦ (id, value id))).get? id = some found ↔
      id ∈ order ∧ found = value id := by
  have hkeys : ((order.map fun id ↦ (id, value id)).map Prod.fst).Nodup := by
    rw [List.map_map]
    exact (List.map_id order).symm ▸ hnodup
  rw [OrderedMap.get?_ofList_eq_some_iff hkeys, List.mem_map]
  constructor
  · rintro ⟨other, hmem, heq⟩
    obtain ⟨rfl, rfl⟩ := Prod.mk.inj heq
    exact ⟨hmem, rfl⟩
  · rintro ⟨hmem, rfl⟩
    exact ⟨id, hmem, rfl⟩

theorem get?_states_start (graph : Graph) (executionId : String) (hnodup : order.Nodup)
    (id : NodeId) (state : NodeState) :
    (start executionId graph order).states.get? id = some state ↔
      id ∈ order ∧ state = .pending :=
  get?_ofList_map hnodup (fun _ ↦ NodeState.pending) id state

theorem unresolved_start (graph : Graph) (executionId : String) (hnodup : order.Nodup)
    (id : NodeId) :
    unresolved graph (start executionId graph order).states id =
      (graph.dependencies id).toList := by
  refine List.filter_eq_self.mpr fun source _ ↦ decide_eq_true fun hsource ↦ ?_
  cases ((get?_states_start graph executionId hnodup source _).mp hsource).2

theorem get?_waitingOn_start (executionId : String) (hnodup : order.Nodup) (id : NodeId)
    (waiting : Nat) :
    (start executionId graph order).waitingOn.get? id = some waiting ↔
      id ∈ order ∧ waiting = (graph.dependencies id).size :=
  get?_ofList_map hnodup (fun id ↦ (graph.dependencies id).size) id waiting

theorem get?_ready_start (executionId : String) (hnodup : order.Nodup) (place : Nat)
    (id : NodeId) :
    (start executionId graph order).ready.get? place = some id ↔
      order[place]? = some id ∧ (graph.dependencies id).size = 0 := by
  have hkeys : (((order.zipIdx.filter fun entry ↦
      (start executionId graph order).waitingOn.get? entry.1 = some 0).map fun entry ↦
        (entry.2, entry.1)).map Prod.fst).Nodup := by
    rw [List.map_map]
    refine ((List.filter_sublist (l := order.zipIdx)).map Prod.snd).nodup ?_
    rw [List.zipIdx_map_snd]
    exact List.nodup_range'
  refine (OrderedMap.get?_ofList_eq_some_iff hkeys place id).trans ?_
  simp only [List.mem_map, List.mem_filter, Prod.exists, Prod.mk.injEq, decide_eq_true_eq,
    get?_waitingOn_start executionId hnodup, List.mem_zipIdx_iff_getElem?]
  constructor
  · rintro ⟨other, index, ⟨hplace, -, hzero⟩, rfl, rfl⟩
    exact ⟨hplace, hzero.symm⟩
  · rintro ⟨hplace, hzero⟩
    exact ⟨id, place, ⟨hplace, List.mem_of_getElem? hplace, hzero.symm⟩, rfl, rfl⟩

theorem tracks_start (executionId : String) (orders : graph.Orders order) :
    (start executionId graph order).Tracks graph order := by
  have hstate := get?_states_start graph executionId orders.nodup
  have hlist := unresolved_start graph executionId orders.nodup
  have hnone : ∀ id state, state ≠ .pending →
      (start executionId graph order).states.get? id ≠ some state :=
    fun id state hne h ↦ hne ((hstate id state).mp h).2
  refine ⟨⟨fun source id _ h ↦ ?_, fun id ↦ ?_, fun place id error h ↦ ?_, fun id h ↦ ?_⟩, rfl,
    fun id place ↦ ?_, fun id ↦ ?_, fun id hid ↦ ?_, fun place id ↦ ?_, List.nodup_nil,
    fun id ↦ ?_, fun id h ↦ ?_, fun id ↦ ?_⟩
  · exact absurd h (hnone source .failed (by simp))
  · exact iff_of_false (by simp [start]) (hnone id .failed (by simp))
  · exact absurd h (by simp [start])
  · exact absurd h (hnone id .failed (by simp))
  · have hkeys : (order.zipIdx.map Prod.fst).Nodup := by
      rw [List.zipIdx_map_fst]
      exact orders.nodup
    exact (OrderedMap.get?_ofList_eq_some_iff hkeys id place).trans List.mem_zipIdx_iff_getElem?
  · simp [hstate]
  · rw [hlist, OrderedSet.length_toList]
    exact (get?_waitingOn_start executionId orders.nodup id _).mpr ⟨hid, rfl⟩
  · rw [get?_ready_start executionId orders.nodup, hstate, hlist, ← OrderedSet.length_toList,
      List.length_eq_zero_iff]
    constructor
    · intro h
      exact ⟨h.1, ⟨List.mem_of_getElem? h.1, rfl⟩, h.2⟩
    · intro h
      exact ⟨h.1, h.2.2⟩
  · exact iff_of_false (by simp [start]) (hnone id .resolving (by simp))
  · exact absurd h (not_or.mpr ⟨hnone id .resolving (by simp), hnone id .resolved (by simp)⟩)
  · exact iff_of_false (by simp [start]) (hnone id .resolved (by simp))

/-! ### Starting a node -/

/-- The books on failures stay right as long as the same nodes have failed. -/
theorem Blames.congr (blames : run.Blames graph order) (hfailures : next.failures = run.failures)
    (hown : next.ownFailures = run.ownFailures)
    (hstates : ∀ id, next.states.get? id = some .failed ↔ run.states.get? id = some .failed) :
    next.Blames graph order := by
  refine ⟨fun source id hfeeds h ↦ ?_, fun id ↦ ?_, fun place id error h ↦ ?_, fun id h ↦ ?_⟩
  · rw [hstates] at h ⊢
    exact blames.downstream source id hfeeds h
  · rw [hfailures, hstates]
    exact blames.failures id
  · rw [hown] at h
    rw [hfailures, hstates]
    exact blames.ownFailures place id error h
  · rw [hstates] at h
    simp only [hown, hstates]
    exact blames.upstream id h

theorem Tracks.placed (tracks : run.Tracks graph order) : run.Placed where
  ready place id h := (tracks.position id place).mpr ((tracks.ready place id).mp h).1
  injective place first second hfirst hsecond := by
    rw [tracks.position] at hfirst hsecond
    exact Option.some.inj (hfirst.symm.trans hsecond)

theorem place_unique (hnodup : order.Nodup) {id : NodeId} {first second : Nat}
    (hfirst : order[first]? = some id) (hsecond : order[second]? = some id) : first = second := by
  have hlength := (List.getElem?_eq_some_iff.mp hfirst).1
  exact (List.getElem?_inj hlength hnodup).mp (hfirst.trans hsecond.symm)

/-- A node that is started stands at its place in the order, is pending and waits on nothing. -/
theorem Tracks.of_starts (tracks : run.Tracks graph order) {limit : Option Nat} {position : Nat}
    {node : Node} (starts : run.Starts graph limit position node) :
    order[position]? = some node.id ∧ run.states.get? node.id = some .pending ∧
      unresolved graph run.states node.id = [] := by
  obtain ⟨rest, first⟩ := starts.first
  exact (tracks.ready position node.id).mp (OrderedMap.get?_of_entries_cons first).1

/-- A node that is started is not ready any more, and the other ready nodes still are. -/
theorem Tracks.get?_ready_erase (tracks : run.Tracks graph order) (orders : graph.Orders order)
    {limit : Option Nat} {position : Nat} {node : Node}
    (starts : run.Starts graph limit position node) (place : Nat) (other : NodeId) :
    (run.ready.erase position).get? place = some other ↔
      order[place]? = some other ∧
        (run.states.insert node.id .resolving).get? other = some .pending ∧
        unresolved graph run.states other = [] := by
  have hplace := (tracks.of_starts starts).1
  rw [OrderedMap.get?_erase, OrderedMap.get?_insert]
  by_cases hposition : place = position
  · rw [if_pos hposition]
    refine iff_of_false (by simp) ?_
    rintro ⟨hat, hstate, -⟩
    rw [hposition, hplace] at hat
    rw [if_pos (Option.some.inj hat).symm] at hstate
    cases hstate
  · rw [if_neg hposition, tracks.ready]
    refine and_congr_right fun hat ↦ ?_
    have hother : other ≠ node.id := by
      intro heq
      exact hposition (place_unique orders.nodup hat (heq ▸ hplace))
    rw [if_neg hother]

theorem Tracks.startNode (tracks : run.Tracks graph order) (orders : graph.Orders order)
    {limit : Option Nat} {position : Nat} {node : Node}
    (starts : run.Starts graph limit position node) :
    (startNode graph { run with ready := run.ready.erase position } node).Tracks graph order := by
  obtain ⟨hplace, hpending, hnil⟩ := tracks.of_starts starts
  have hstates : ∀ other, (run.states.insert node.id .resolving).get? other =
      if other = node.id then some .resolving else run.states.get? other :=
    fun other ↦ OrderedMap.get?_insert _ _ _ _
  -- the started node was pending, so no node has become or ceased to be resolved or failed
  have hresolved : ∀ other, (run.states.insert node.id .resolving).get? other = some .resolved ↔
      run.states.get? other = some .resolved :=
    OrderedMap.get?_insert_eq_some_iff_of_ne hpending (by simp) (by simp)
  have hfailed : ∀ other, (run.states.insert node.id .resolving).get? other = some .failed ↔
      run.states.get? other = some .failed :=
    OrderedMap.get?_insert_eq_some_iff_of_ne hpending (by simp) (by simp)
  have hunresolved : ∀ other, unresolved graph (run.states.insert node.id .resolving) other =
      unresolved graph run.states other := fun other ↦ unresolved_congr hresolved
  have hfree : node.id ∉ run.running.map Task.node := by
    rw [tracks.running, hpending]
    simp
  refine ⟨tracks.toBlames.congr rfl rfl hfailed, tracks.order_eq, tracks.position,
    fun other ↦ ?_, fun other hother ↦ ?_, fun place other ↦ ?_, ?_, fun other ↦ ?_,
    fun other h ↦ ?_, fun other ↦ (tracks.outputs other).trans (hresolved other).symm⟩
  · rw [Run.startNode, hstates]
    split_ifs with hother
    · simp [hother, List.mem_of_getElem? hplace]
    · exact tracks.state other
  · rw [Run.startNode, hunresolved]
    exact tracks.waiting other hother
  · rw [Run.startNode, hunresolved]
    exact tracks.get?_ready_erase orders starts place other
  · simp only [Run.startNode, List.map_append, List.map_singleton]
    rw [← List.concat_eq_append]
    exact List.Nodup.concat hfree tracks.running_nodup
  · simp only [Run.startNode, List.map_append, List.map_singleton, List.mem_append,
      List.mem_singleton]
    rw [hstates, tracks.running]
    split_ifs with hother
    · simp [hother]
    · simp [hother]
  · simp only [Run.startNode] at h ⊢
    rw [hunresolved]
    rw [hstates] at h
    split_ifs at h with hother
    · rw [hother, hnil]
    · exact tracks.started other h

/-- A node with a dependency that will not resolve is pending or has failed with it. -/
theorem Tracks.pending_or_failed (tracks : run.Tracks graph order) (orders : graph.Orders order)
    (wellFormed : graph.WellFormed) {source id : NodeId} (hfeeds : graph.Feeds source id)
    (hsource : run.states.get? source ≠ some .resolved) :
    run.states.get? id = some .pending ∨ run.states.get? id = some .failed := by
  have hid : id ∈ order := (orders.mem_iff id).mpr (wellFormed.contains_of_feeds hfeeds).2
  obtain ⟨state, hstate⟩ := (tracks.state id).mpr hid
  have hopen : source ∈ unresolved graph run.states id := mem_unresolved_iff.mpr ⟨hfeeds, hsource⟩
  cases state with
  | pending => exact Or.inl hstate
  | failed => exact Or.inr hstate
  | resolving => exact absurd (tracks.started id (Or.inl hstate)) (List.ne_nil_of_mem hopen)
  | resolved => exact absurd (tracks.started id (Or.inr hstate)) (List.ne_nil_of_mem hopen)

/-! ### Completing a node -/

section Complete

variable {task : Task}

/-- Who is running when a task is done. -/
theorem Tracks.mem_finish_iff (tracks : run.Tracks graph order) (task : Task) (id : NodeId) :
    id ∈ ((run.finish task).running.map Task.node) ↔
      id ≠ task.node ∧ run.states.get? id = some .resolving := by
  rw [finish, map_node_eraseP, tracks.running_nodup.mem_erase_iff, tracks.running]

theorem Tracks.nodup_finish (tracks : run.Tracks graph order) (task : Task) :
    ((run.finish task).running.map Task.node).Nodup := by
  rw [finish, map_node_eraseP]
  exact tracks.running_nodup.erase _

variable (tracks : run.Tracks graph order) (running : task ∈ run.running)

include tracks running

/-- A running node is resolving, and what it reads from has resolved. -/
theorem Tracks.of_running :
    run.states.get? task.node = some .resolving ∧ unresolved graph run.states task.node = [] := by
  have hstate := (tracks.running task.node).mp (List.mem_map_of_mem running)
  exact ⟨hstate, tracks.started task.node (Or.inl hstate)⟩

theorem Tracks.mem_of_running : task.node ∈ order :=
  (tracks.state task.node).mp ⟨_, (tracks.of_running running).1⟩

theorem Tracks.ne_of_running {state : NodeState} (hstate : state ≠ .resolving) {id : NodeId}
    (h : run.states.get? id = some state) : id ≠ task.node := by
  intro hid
  rw [hid, (tracks.of_running running).1] at h
  exact hstate (Option.some.inj h).symm

/-- Until a running node has resolved, its dependents wait on it. -/
theorem Tracks.mem_unresolved_of_running {other : NodeId} (hfeeds : graph.Feeds task.node other) :
    task.node ∈ unresolved graph run.states other := by
  have hresolving := (tracks.of_running running).1
  exact mem_unresolved_iff.mpr ⟨hfeeds, by simp [hresolving]⟩

theorem Tracks.get?_waitingOn_resolve (outputs : Boxes) (event : Event) {other : NodeId}
    (hother : other ∈ order) :
    (resolve graph ((run.finish task).emit event) task.node outputs).waitingOn.get? other =
      some (unresolved graph (run.states.insert task.node .resolved) other).length := by
  have hwaiting : ((run.finish task).emit event).waitingOn.get? other =
      some (unresolved graph run.states other).length := tracks.waiting other hother
  rw [Run.get?_waitingOn_resolve, unresolved_insert_resolved, hwaiting]
  by_cases hfeeds : graph.Feeds task.node other
  · rw [if_pos (Graph.mem_dependents.mpr hfeeds), Option.map_some,
      List.length_erase_of_mem (tracks.mem_unresolved_of_running running hfeeds)]
  · rw [if_neg fun h ↦ hfeeds (Graph.mem_dependents.mp h),
      List.erase_of_not_mem fun h ↦ hfeeds (mem_unresolved_iff.mp h).1]

theorem Tracks.get?_ready_resolve (outputs : Boxes) (event : Event) (place : Nat)
    (other : NodeId) :
    (resolve graph ((run.finish task).emit event) task.node outputs).ready.get? place =
        some other ↔
      order[place]? = some other ∧ run.states.get? other = some .pending ∧
        unresolved graph (run.states.insert task.node .resolved) other = [] := by
  have hplaced : ((run.finish task).emit event).Placed :=
    ⟨tracks.placed.ready, tracks.placed.injective⟩
  have hpending : ∀ other, (run.states.insert task.node .resolved).get? other = some .pending ↔
      run.states.get? other = some .pending :=
    OrderedMap.get?_insert_eq_some_iff_of_ne (tracks.of_running running).1 (by simp) (by simp)
  rw [Run.get?_ready_resolve hplaced, unresolved_insert_resolved]
  change run.ready.get? place = some other ∨ graph.Feeds task.node other ∧
    run.position.get? other = some place ∧
    (run.states.insert task.node .resolved).get? other = some .pending ∧
    (run.waitingOn.get? other).map _ = some 0 ↔ _
  rw [tracks.ready, tracks.position, hpending]
  by_cases hfeeds : graph.Feeds task.node other
  · -- the dependent was not ready, since it has waited on the completed node
    have hopen := tracks.mem_unresolved_of_running running hfeeds
    have hbusy : unresolved graph run.states other ≠ [] := List.ne_nil_of_mem hopen
    have hcount : order[place]? = some other →
        ((run.waitingOn.get? other).map (· - 1) = some 0 ↔
          (unresolved graph run.states other).erase task.node = []) := by
      intro hplace
      rw [tracks.waiting other (List.mem_of_getElem? hplace), Option.map_some, Option.some.injEq,
        ← List.length_erase_of_mem hopen, List.length_eq_zero_iff]
    simp only [hbusy, and_false, false_or, hfeeds, true_and]
    exact and_congr_right fun hplace ↦ and_congr_right fun _ ↦ hcount hplace
  · have hsame : (unresolved graph run.states other).erase task.node =
        unresolved graph run.states other :=
      List.erase_of_not_mem fun h ↦ hfeeds (mem_unresolved_iff.mp h).1
    simp only [hfeeds, false_and, or_false, hsame]

theorem Tracks.complete_ok (outputs : Boxes) (event : Event) :
    (resolve graph ((run.finish task).emit event) task.node outputs).Tracks graph order := by
  obtain ⟨hresolving, hnil⟩ := tracks.of_running running
  have hstates : ∀ other, (run.states.insert task.node .resolved).get? other =
      if other = task.node then some .resolved else run.states.get? other :=
    fun other ↦ OrderedMap.get?_insert _ _ _ _
  have hpending : ∀ other, (run.states.insert task.node .resolved).get? other = some .pending ↔
      run.states.get? other = some .pending :=
    OrderedMap.get?_insert_eq_some_iff_of_ne hresolving (by simp) (by simp)
  have hfailed : ∀ other, (run.states.insert task.node .resolved).get? other = some .failed ↔
      run.states.get? other = some .failed :=
    OrderedMap.get?_insert_eq_some_iff_of_ne hresolving (by simp) (by simp)
  rw [resolve_frame]
  refine ⟨tracks.toBlames.congr rfl rfl hfailed, tracks.order_eq, tracks.position,
    fun other ↦ ?_, fun other hother ↦ ?_, fun place other ↦ ?_, tracks.nodup_finish task,
    fun other ↦ ?_, fun other h ↦ ?_, fun other ↦ ?_⟩
  · change (∃ state, (run.states.insert task.node .resolved).get? other = some state) ↔ _
    rw [hstates]
    split_ifs with hother
    · simp [hother, tracks.mem_of_running running]
    · exact tracks.state other
  · exact tracks.get?_waitingOn_resolve running outputs event hother
  · refine (tracks.get?_ready_resolve running outputs event place other).trans ?_
    rw [← hpending]
    rfl
  · refine (tracks.mem_finish_iff task other).trans ?_
    change _ ↔ (run.states.insert task.node .resolved).get? other = _
    rw [hstates]
    split_ifs with hother <;> simp [hother]
  · change (run.states.insert task.node .resolved).get? other = _ ∨
      (run.states.insert task.node .resolved).get? other = _ at h
    change unresolved graph (run.states.insert task.node .resolved) other = []
    rw [unresolved_insert_resolved]
    rw [hstates] at h
    split_ifs at h with hother
    · rw [hother, hnil, List.erase_nil]
    · rw [tracks.started other h, List.erase_nil]
  · change (∃ found, (run.outputs.insert task.node outputs).get? other = some found) ↔
      (run.states.insert task.node .resolved).get? other = _
    rw [hstates, OrderedMap.get?_insert]
    split_ifs with hother
    · simp
    · exact tracks.outputs other

/-! ### Failing a node -/

theorem Tracks.mem_skippedBy_iff (other : NodeId) :
    other ∈ skippedBy graph run task.node ↔
      run.states.get? other = some .pending ∧
        ∃ source, graph.Feeds source other ∧
          (source = task.node ∨ source ∈ skippedBy graph run task.node) := by
  rw [Run.mem_skippedBy_iff]
  exact ⟨fun h ↦ h.2, fun h ↦ ⟨tracks.ne_of_running running (by simp) h.1, h⟩⟩

/-- Only pending nodes are skipped. -/
theorem Tracks.notMem_skippedBy {state : NodeState} (hstate : state ≠ .pending) {id : NodeId}
    (h : run.states.get? id = some state) : id ∉ skippedBy graph run task.node := by
  intro hmem
  rw [((tracks.mem_skippedBy_iff running id).mp hmem).1] at h
  exact hstate (Option.some.inj h).symm

/-- A node that is ready is not skipped, since nothing that it reads from can fail any more. -/
theorem Tracks.notMem_skippedBy_of_ready {other : NodeId}
    (hnil : unresolved graph run.states other = []) :
    other ∉ skippedBy graph run task.node := by
  intro hmem
  obtain ⟨-, source, hfeeds, hsource⟩ := (tracks.mem_skippedBy_iff running other).mp hmem
  have hstate := unresolved_eq_nil_iff.mp hnil source hfeeds
  rcases hsource with hnode | hskip
  · exact tracks.ne_of_running running (by simp) hstate hnode
  · exact tracks.notMem_skippedBy running (by simp) hstate hskip

variable (error : GraphError) (event : Event)

/-- What fails was running or pending, so that nothing resolved is lost. -/
theorem Tracks.resolved_fail_iff (other : NodeId) :
    (fail graph ((run.finish task).emit event) task.node error).states.get? other =
      some .resolved ↔ run.states.get? other = some .resolved := by
  rw [get?_states_fail_eq_some_iff (by simp)]
  constructor
  · intro h
    exact h.2.2
  · intro h
    exact ⟨tracks.ne_of_running running (by simp) h,
      tracks.notMem_skippedBy running (by simp) h, h⟩

theorem Tracks.unresolved_fail (other : NodeId) :
    unresolved graph (fail graph ((run.finish task).emit event) task.node error).states other =
      unresolved graph run.states other :=
  unresolved_congr (tracks.resolved_fail_iff running error event)

variable (orders : graph.Orders order)

include orders

theorem Tracks.downstream_fail (wellFormed : graph.WellFormed) {source id : NodeId}
    (hfeeds : graph.Feeds source id)
    (hsource : source = task.node ∨ source ∈ skippedBy graph run task.node ∨
      run.states.get? source = some .failed) :
    id = task.node ∨ id ∈ skippedBy graph run task.node ∨ run.states.get? id = some .failed := by
  have hskipped := tracks.mem_skippedBy_iff running
  rw [← or_assoc] at hsource
  rcases hsource with hnew | hold
  · have hunresolved : run.states.get? source ≠ some .resolved := by
      rcases hnew with hnode | hskip
      · rw [hnode, (tracks.of_running running).1]
        simp
      · rw [((hskipped source).mp hskip).1]
        simp
    rcases tracks.pending_or_failed orders wellFormed hfeeds hunresolved with hpending | hfailed
    · exact Or.inr (Or.inl ((hskipped id).mpr ⟨hpending, source, hfeeds, hnew⟩))
    · exact Or.inr (Or.inr hfailed)
  · exact Or.inr (Or.inr (tracks.downstream source id hfeeds hold))

theorem Tracks.blames_fail (wellFormed : graph.WellFormed) :
    (fail graph ((run.finish task).emit event) task.node error).Blames graph order := by
  obtain ⟨position, hplace⟩ := List.mem_iff_getElem?.mp (tracks.mem_of_running running)
  have hposition : ((run.finish task).emit event).position.get? task.node = some position :=
    (tracks.position task.node position).mpr hplace
  have hskipped := tracks.mem_skippedBy_iff running
  have hfailed : ∀ other,
      (fail graph ((run.finish task).emit event) task.node error).states.get? other =
          some .failed ↔ other = task.node ∨ other ∈ skippedBy graph run task.node ∨
        run.states.get? other = some .failed :=
    fun other ↦ get?_states_fail_eq_failed_iff _ task.node other error
  have hfailures : ∀ other,
      (fail graph ((run.finish task).emit event) task.node error).failures.get? other =
        if other ∈ skippedBy graph run task.node then some (inherited task.node)
        else if other = task.node then some ⟨task.node, error.rootCause.message⟩
        else run.failures.get? other :=
    fun other ↦ get?_failures_fail _ task.node other error
  have hown : ∀ place,
      (fail graph ((run.finish task).emit event) task.node error).ownFailures.get? place =
        if place = position then some (task.node, error) else run.ownFailures.get? place := by
    intro place
    rw [get?_ownFailures_fail, hposition, Option.getD_some]
    rfl
  refine ⟨fun source other hfeeds h ↦ ?_, fun other ↦ ?_, fun place other failure h ↦ ?_,
    fun other h ↦ ?_⟩
  · rw [hfailed] at h ⊢
    exact tracks.downstream_fail running orders wellFormed hfeeds h
  · rw [hfailed, hfailures]
    split_ifs with hskip hother
    · simp [hskip]
    · simp [hother]
    · simp [hskip, hother, tracks.failures]
  · rw [hown] at h
    rw [hfailed, hfailures]
    split_ifs at h with hother
    · obtain ⟨rfl, rfl⟩ := Prod.mk.inj (Option.some.inj h)
      have hnode := tracks.notMem_skippedBy running (by simp)
        (tracks.of_running running).1
      simp [hother, hplace, hnode]
    · obtain ⟨hat, hold, hcause⟩ := tracks.ownFailures place other failure h
      have hskip := tracks.notMem_skippedBy running (by simp) hold
      have hne := tracks.ne_of_running running (by simp) hold
      exact ⟨hat, Or.inr (Or.inr hold), by rw [if_neg hskip, if_neg hne, hcause]⟩
  · simp only [hfailed, hown]
    rcases (hfailed other).mp h with hnode | hskip | hold
    · exact Or.inl ⟨position, error, by rw [if_pos rfl, hnode]⟩
    · obtain ⟨-, source, hfeeds, hsource⟩ := (hskipped other).mp hskip
      exact Or.inr ⟨source, hfeeds, or_assoc.mp (Or.inl hsource)⟩
    · rcases tracks.upstream other hold with ⟨place, failure, hpast⟩ | ⟨source, hfeeds, hsource⟩
      · have hne : place ≠ position := by
          intro heq
          have hat := (tracks.ownFailures place other failure hpast).1
          rw [heq, hplace] at hat
          exact tracks.ne_of_running running (by simp) hold (Option.some.inj hat).symm
        exact Or.inl ⟨place, failure, by rw [if_neg hne, hpast]⟩
      · exact Or.inr ⟨source, hfeeds, Or.inr (Or.inr hsource)⟩

theorem Tracks.complete_error (wellFormed : graph.WellFormed) :
    (fail graph ((run.finish task).emit event) task.node error).Tracks graph order := by
  have blames := tracks.blames_fail running error event orders wellFormed
  have hskipped := tracks.mem_skippedBy_iff running
  have hresolved := tracks.resolved_fail_iff running error event
  have hunresolved := tracks.unresolved_fail running error event
  have hkept : ∀ state, state ≠ .failed → ∀ other,
      (fail graph ((run.finish task).emit event) task.node error).states.get? other =
          some state ↔ other ≠ task.node ∧ other ∉ skippedBy graph run task.node ∧
        run.states.get? other = some state :=
    fun state hstate other ↦ get?_states_fail_eq_some_iff hstate _ task.node other error
  rw [fail_frame] at blames ⊢
  refine ⟨blames, tracks.order_eq, tracks.position, fun other ↦ ?_, fun other hother ↦ ?_,
    fun place other ↦ ?_, tracks.nodup_finish task, fun other ↦ ?_, fun other h ↦ ?_,
    fun other ↦ (tracks.outputs other).trans (hresolved other).symm⟩
  · rw [get?_states_fail]
    change (∃ state, (if other = task.node ∨ other ∈ skippedBy graph run task.node then some .failed
      else run.states.get? other) = some state) ↔ _
    split_ifs with hother
    · have hmem : other ∈ order := by
        rcases hother with hnode | hskip
        · exact hnode ▸ tracks.mem_of_running running
        · exact (tracks.state other).mp ⟨_, ((hskipped other).mp hskip).1⟩
      simp [hmem]
    · exact tracks.state other
  · exact (tracks.waiting other hother).trans (by rw [hunresolved])
  · refine (tracks.ready place other).trans ?_
    rw [hunresolved, hkept .pending (by simp)]
    constructor
    · rintro ⟨hat, hpending, hnil⟩
      exact ⟨hat, ⟨tracks.ne_of_running running (by simp) hpending,
        tracks.notMem_skippedBy_of_ready running hnil, hpending⟩, hnil⟩
    · rintro ⟨hat, ⟨-, -, hpending⟩, hnil⟩
      exact ⟨hat, hpending, hnil⟩
  · refine (tracks.mem_finish_iff task other).trans ?_
    rw [hkept .resolving (by simp)]
    constructor
    · intro h
      exact ⟨h.1, tracks.notMem_skippedBy running (by simp) h.2, h.2⟩
    · intro h
      exact ⟨h.1, h.2.2⟩
  · rw [hresolved, hkept .resolving (by simp)] at h
    rw [hunresolved]
    exact tracks.started other (h.imp_left fun h ↦ h.2.2)

end Complete

/-! ### All steps -/

variable {limit : Option Nat}

theorem Tracks.step (tracks : run.Tracks graph order) (orders : graph.Orders order)
    (wellFormed : graph.WellFormed) (step : Step graph limit run next) :
    next.Tracks graph order := by
  cases step with
  | start starts => exact tracks.startNode orders starts
  | @complete task _ running =>
    cases hresult : task.result with
    | ok outputs =>
      rw [complete_of_ok hresult]
      exact tracks.complete_ok running outputs _
    | error error =>
      rw [complete_of_error hresult]
      exact tracks.complete_error running error _ orders wellFormed

theorem Tracks.steps (tracks : run.Tracks graph order) (orders : graph.Orders order)
    (wellFormed : graph.WellFormed) (steps : Steps graph limit run next) :
    next.Tracks graph order := by
  induction steps with
  | refl => exact tracks
  | tail _ step ih => exact ih.step orders wellFormed step

end Run

end FlowGraph.Evaluation
