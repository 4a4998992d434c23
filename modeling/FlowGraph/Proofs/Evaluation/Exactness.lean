import FlowGraph.Proofs.Evaluation.Propagation

/-!
The books of a run are exact. In every state that a run can reach, the counts, the ready nodes, the
outputs and the failures on its books are those that the graph and the states of its nodes give
(`ExactBooks`). So a discrepancy that an operation of the run would pass over never occurs: carried
out with every count, place and free entry checked, a completion comes to the same
(`Tracks.completeChecked_eq`), and a run is over only when every node has come to its end.
-/

set_option autoImplicit false
set_option relaxedAutoImplicit false

namespace FlowGraph

open Evaluation

namespace Evaluation.Run

variable {graph : Graph} {order : List NodeId} {limit : Option Nat} {run : Run} {id : NodeId}

/-! ### Checked operations -/

/-- Counts a resolved dependency down, if there is one left to count and the node has a place. -/
def releaseChecked (run : Run) (dependent : NodeId) : Option Run :=
  match run.waitingOn.get? dependent, run.position.get? dependent with
  | some (_ + 1), some _ => some (run.release dependent)
  | _, _ => none

/-- Resolves a node, if nothing has been put out by it and each node that reads from it can be
released. -/
def resolveChecked (graph : Graph) (run : Run) (node : NodeId) (outputs : Boxes) : Option Run :=
  if run.outputs.contains node then none
  else
    (graph.dependents node).toList.foldlM releaseChecked
      { run with
        states := run.states.insert node .resolved
        outputs := run.outputs.insert node outputs }

/-- Fails a node that cannot be started any more, if no failure of it is on record. -/
def skipChecked (origin : NodeId) (run : Run) (node : NodeId) : Option Run :=
  if run.failures.contains node then none else some (skip origin run node)

/-- Skips the pending nodes downstream of a failed one, if each of them can be skipped and the
frontier is empty before the fuel has run out. -/
def skipDownstreamChecked (graph : Graph) (origin : NodeId) :
    Nat → List NodeId → List NodeId → Run → Option (List NodeId × Run)
  | _, [], skipped, run => some (skipped, run)
  | 0, _ :: _, _, _ => none
  | fuel + 1, node :: frontier, skipped, run =>
    if run.isPending node then do
      let next ← skipChecked origin run node
      skipDownstreamChecked graph origin fuel ((graph.dependents node).toList.reverse ++ frontier)
        (skipped ++ [node]) next
    else skipDownstreamChecked graph origin fuel frontier skipped run

/-- Fails a node, if it has a place at which no failure is on record, none is on record of the node,
and everything downstream of it can be skipped. -/
def failChecked (graph : Graph) (run : Run) (node : NodeId) (error : GraphError) : Option Run :=
  match run.position.get? node with
  | none => none
  | some place =>
    if run.ownFailures.contains place ∨ run.failures.contains node then none
    else
      (skipDownstreamChecked graph node graph.connections.length
        (graph.dependents node).toList.reverse [] (run.record node error)).map
          fun (skipped, failed) ↦
            (OrderedSet.ofList skipped).toList.foldl (reportSkipped node) failed

/-- Completes a started node and gives up where something does not fit the books. -/
def completeChecked (graph : Graph) (run : Run) (task : Task) : Option Run :=
  match task.result with
  | .ok outputs =>
    resolveChecked graph
      ((run.finish task).emit (.nodeResolved run.executionId task.node.text outputs.toJson))
      task.node outputs
  | .error error =>
    failChecked graph
      ((run.finish task).emit (.nodeFailed run.executionId task.node.text error.message))
      task.node error

/-! ### Checking changes nothing -/

theorem foldlM_releaseChecked {targets : List NodeId} (hnodup : targets.Nodup)
    (h : ∀ target ∈ targets, (∃ waiting, run.waitingOn.get? target = some (waiting + 1)) ∧
      ∃ place, run.position.get? target = some place) :
    targets.foldlM releaseChecked run = some (targets.foldl release run) := by
  refine foldlM_eq_some_foldl
    (fun run target ↦ (∃ waiting, run.waitingOn.get? target = some (waiting + 1)) ∧
      ∃ place, run.position.get? target = some place) ?_ ?_ hnodup h
  · rintro run target ⟨⟨waiting, hwaiting⟩, place, hplace⟩
    rw [releaseChecked, hwaiting, hplace]
  · intro run target other hne
    rw [get?_waitingOn_release, if_neg hne, position_release]
    exact fun h ↦ h

/-- While there is fuel for all that remains and nothing is on record of a pending node, every
check on the way downstream passes. -/
theorem skipDownstreamChecked_eq (origin : NodeId) {fuel : Nat} {frontier : List NodeId}
    (skipped : List NodeId) (hfuel : looksLeft graph frontier run ≤ fuel)
    (hfree : ∀ id, run.states.get? id = some .pending → run.failures.get? id = none) :
    skipDownstreamChecked graph origin fuel frontier skipped run =
      some (skipDownstream graph origin fuel frontier skipped run) := by
  induction fuel generalizing frontier skipped run with
  | zero =>
    have hnil : frontier = [] := by
      rw [looksLeft] at hfuel
      exact List.length_eq_zero_iff.mp (by omega)
    rw [hnil]
    rfl
  | succ fuel ih =>
    cases frontier with
    | nil => rfl
    | cons node frontier =>
      unfold skipDownstreamChecked skipDownstream
      by_cases hpending : run.isPending node = true
      · have hlt := looksLeft_skip_lt graph origin hpending frontier
        have hnode : run.failures.contains node = false :=
          (OrderedMap.contains_eq_false_iff _ _).mpr (hfree node ((isPending_iff _ _).mp hpending))
        rw [if_pos hpending, if_pos hpending, skipChecked, hnode]
        refine ih _ (by omega) fun id hid ↦ ?_
        rw [get?_states_skip] at hid
        by_cases h : id = node
        · rw [if_pos h] at hid
          cases hid
        · rw [if_neg h] at hid
          exact (OrderedMap.get?_insert _ _ _ _).trans ((if_neg h).trans (hfree id hid))
      · rw [if_neg hpending, if_neg hpending]
        refine ih _ ?_ hfree
        rw [looksLeft, List.length_cons] at hfuel
        rw [looksLeft]
        omega

/-- Nothing is on record of a node that has not failed. -/
theorem Tracks.contains_failures_eq_false (tracks : run.Tracks graph order) {state : NodeState}
    (hstate : state ≠ .failed) (h : run.states.get? id = some state) :
    run.failures.contains id = false := by
  refine (OrderedMap.contains_eq_false_iff _ _).mpr (Option.eq_none_iff_forall_ne_some.mpr ?_)
  intro failure hfailure
  have hfailed := (tracks.failures id).mp ⟨failure, hfailure⟩
  exact hstate (Option.some.inj (h.symm.trans hfailed))

section Complete

variable {task : Task} (tracks : run.Tracks graph order) (running : task ∈ run.running)

include tracks running

theorem Tracks.resolveChecked_eq (orders : graph.Orders order) (wellFormed : graph.WellFormed)
    (outputs : Boxes) (event : Event) :
    resolveChecked graph ((run.finish task).emit event) task.node outputs =
      some (resolve graph ((run.finish task).emit event) task.node outputs) := by
  have hfree : run.outputs.contains task.node = false :=
    (OrderedMap.contains_eq_false_iff _ _).mpr (tracks.outputs_of_running running)
  refine (if_neg (ne_true_of_eq_false hfree)).trans
    (foldlM_releaseChecked (OrderedSet.nodup_toList _) fun target htarget ↦ ?_)
  have hfeeds := Graph.mem_dependents.mp htarget
  have hmem : target ∈ order := (orders.mem_iff target).mpr (wellFormed.contains_of_feeds hfeeds).2
  -- the completed node is one of those that the target still waits on
  have hopen := List.length_pos_of_mem (tracks.mem_unresolved_of_running running hfeeds)
  have hcount : run.waitingOn.get? target =
      some ((unresolved graph run.states target).length - 1 + 1) := by
    rw [tracks.waiting target hmem, Nat.sub_add_cancel hopen]
  obtain ⟨place, hplace⟩ := List.mem_iff_getElem?.mp hmem
  exact ⟨⟨_, hcount⟩, place, (tracks.position target place).mpr hplace⟩

theorem Tracks.failChecked_eq (error : GraphError) (event : Event) :
    failChecked graph ((run.finish task).emit event) task.node error =
      some (fail graph ((run.finish task).emit event) task.node error) := by
  obtain ⟨place, hplace⟩ := List.mem_iff_getElem?.mp (tracks.mem_of_running running)
  have hposition : ((run.finish task).emit event).position.get? task.node = some place :=
    (tracks.position task.node place).mpr hplace
  have hown : ((run.finish task).emit event).ownFailures.contains place = false := by
    have hfree := tracks.ownFailures_of_running running
    rw [(tracks.position task.node place).mpr hplace, Option.getD_some] at hfree
    exact (OrderedMap.contains_eq_false_iff _ _).mpr hfree
  have hfailures : ((run.finish task).emit event).failures.contains task.node = false :=
    tracks.contains_failures_eq_false (by simp) (tracks.of_running running).1
  have hfailed : (((run.finish task).emit event).record task.node error).states.get? task.node =
      some .failed := OrderedMap.get?_insert_self _ _ _
  simp only [failChecked, hposition, hown, hfailures, Bool.false_eq_true, or_self, if_false]
  rw [skipDownstreamChecked_eq task.node [] (looksLeft_failed_le hfailed) fun id hpending ↦ ?_]
  · rfl
  · have hne : id ≠ task.node := by
      rintro rfl
      rw [hfailed] at hpending
      cases hpending
    have hold : run.states.get? id = some .pending :=
      (if_neg hne).symm.trans ((OrderedMap.get?_insert _ _ _ _).symm.trans hpending)
    have hfree := tracks.contains_failures_eq_false (by simp) hold
    rw [OrderedMap.contains_eq_false_iff] at hfree
    exact (OrderedMap.get?_insert _ _ _ _).trans ((if_neg hne).trans hfree)

/-- With everything checked, a completion comes to the same: no count falls below zero, no place is
missing, and nothing on record is overwritten. -/
theorem Tracks.completeChecked_eq (orders : graph.Orders order) (wellFormed : graph.WellFormed) :
    completeChecked graph run task = some (complete graph run task) := by
  unfold completeChecked
  cases hresult : task.result with
  | ok outputs =>
    rw [complete_of_ok hresult]
    exact tracks.resolveChecked_eq running orders wellFormed outputs _
  | error error =>
    rw [complete_of_error hresult]
    exact tracks.failChecked_eq running error _

end Complete

/-! ### What is on the books -/

/-- The books of a run are exact. Exactly the nodes of the graph have a state, and a place, which is
that in the order. A node waits on as many nodes as it reads from and have not resolved; it is
ready, at its place, when it is pending and waits on none; it has outputs when it has resolved. For
every announced failure one is on record, at one place, and what is on record are the failures of
the own computations of nodes that have failed, each at the place of its node. -/
structure ExactBooks (graph : Graph) (order : List NodeId) (run : Run) : Prop where
  state : ∀ id, graph.contains id = true ↔ ∃ state, run.states.get? id = some state
  placed : ∀ id, graph.contains id = true ↔ ∃ place, run.position.get? id = some place
  position : ∀ id place, run.position.get? id = some place ↔ order[place]? = some id
  waitingOn : ∀ id, graph.contains id = true → run.waitingOn.get? id =
    some {source | graph.Feeds source id ∧ run.states.get? source ≠ some .resolved}.ncard
  ready : ∀ id, (∃ place, run.ready.get? place = some id) ↔
    run.states.get? id = some .pending ∧ run.waitingOn.get? id = some 0
  ready_place : ∀ place id, run.ready.get? place = some id → run.position.get? id = some place
  outputs : ∀ id, (∃ outputs, run.outputs.get? id = some outputs) ↔
    run.states.get? id = some .resolved
  announced : ∀ id, (∃ text, .nodeFailed run.executionId id.text text ∈ run.events) ↔
    ∃! place, ∃ error, run.ownFailures.get? place = some (id, error)
  ownFailures : ∀ place id error, run.ownFailures.get? place = some (id, error) ↔
    run.position.get? id = some place ∧ run.states.get? id = some .failed ∧
      (graph.walk order).compute? graph id = some (.error error)

theorem Tracks.get?_waitingOn_eq_some_ncard (tracks : run.Tracks graph order) (hid : id ∈ order) :
    run.waitingOn.get? id =
      some {source | graph.Feeds source id ∧ run.states.get? source ≠ some .resolved}.ncard := by
  have hnodup : (unresolved graph run.states id).Nodup := (OrderedSet.nodup_toList _).filter _
  rw [tracks.waiting id hid]
  exact congrArg some (ncard_eq_length hnodup fun source ↦ mem_unresolved_iff.symm).symm

theorem Tracks.exists_ready_iff (tracks : run.Tracks graph order) :
    (∃ place, run.ready.get? place = some id) ↔
      run.states.get? id = some .pending ∧ run.waitingOn.get? id = some 0 := by
  simp only [tracks.ready, exists_and_right, ← List.mem_iff_getElem?]
  constructor
  · rintro ⟨hid, hpending, hnil⟩
    exact ⟨hpending, by rw [tracks.waiting id hid, hnil]; rfl⟩
  · rintro ⟨hpending, hzero⟩
    have hid := (tracks.state id).mp ⟨_, hpending⟩
    rw [tracks.waiting id hid, Option.some.injEq, List.length_eq_zero_iff] at hzero
    exact ⟨hid, hpending, hzero⟩

theorem Sound.exactBooks (sound : run.Sound graph order) (announces : run.Announces) :
    run.ExactBooks graph order where
  state id := by rw [← sound.orders.mem_iff, sound.tracks.state]
  placed id := by
    rw [← sound.orders.mem_iff, List.mem_iff_getElem?]
    exact exists_congr fun place ↦ (sound.tracks.position id place).symm
  position := sound.tracks.position
  waitingOn id hid := sound.tracks.get?_waitingOn_eq_some_ncard ((sound.orders.mem_iff id).mpr hid)
  ready id := sound.tracks.exists_ready_iff
  ready_place := sound.tracks.placed.ready
  outputs := sound.tracks.outputs
  announced id := by
    simp only [announces.failed]
    constructor
    · rintro ⟨text, place, error, hown, -⟩
      refine ⟨place, ⟨error, hown⟩, fun other hother ↦ ?_⟩
      obtain ⟨found, hfound⟩ := hother
      exact place_unique sound.orders.nodup (sound.tracks.ownFailures other id found hfound).1
        (sound.tracks.ownFailures place id error hown).1
    · rintro ⟨place, ⟨error, hown⟩, -⟩
      exact ⟨error.message, place, error, hown, rfl⟩
  ownFailures place id error := by
    rw [sound.get?_ownFailures_iff, sound.tracks.position]

/-- Nothing is hidden at a run. Whichever running node completes, checking everything changes
nothing; every ready node is one of the graph; and when the loop ends, the run can go no further and
every node has come to its end. -/
structure HidesNothing (graph : Graph) (limit : Option Nat) (run : Run) : Prop where
  completes : ∀ task ∈ run.running,
    completeChecked graph run task = some (complete graph run task)
  known : ∀ place id, run.ready.get? place = some id → ∃ node, graph.node? id = some node
  stops : run.step graph limit = none → run.IsOver graph limit
  ended : run.IsOver graph limit →
    ∀ id, run.states.get? id ≠ some .pending ∧ run.states.get? id ≠ some .resolving

theorem Tracks.hidesNothing (tracks : run.Tracks graph order) (orders : graph.Orders order)
    (wellFormed : graph.WellFormed) (hlimit : limit ≠ some 0) : run.HidesNothing graph limit where
  completes _ running := tracks.completeChecked_eq running orders wellFormed
  known place id hready := by
    have hplace := ((tracks.ready place id).mp hready).1
    exact (Graph.contains_iff graph id).mp
      ((orders.mem_iff id).mp (List.mem_of_getElem? hplace))
  stops := tracks.isOver_of_step_eq_none orders wellFormed
  ended ended id := by
    have hsettled : ∀ state, run.states.get? id = some state →
        state = .resolved ∨ state = .failed := by
      intro state h
      have hid := (tracks.state id).mp ⟨state, h⟩
      have hend := tracks.settled_of_isOver orders wellFormed hlimit ended id hid
      rwa [IsSettled, h, Option.some.injEq, Option.some.injEq] at hend
    exact ⟨fun h ↦ by simpa using hsettled _ h, fun h ↦ by simpa using hsettled _ h⟩

end Evaluation.Run

namespace Graph

/-- The bookkeeping of a run is exact. In every state that a run of a graph without cycles passes
through, whatever the bound on running nodes and whichever of them complete first, the books are
exact and nothing is hidden; the states between the rounds of an evaluation are among these. -/
theorem bookkeeping_exact (graph : Graph) (reachable : graph.Reachable)
    (acyclic : graph.Acyclic) :
    ∃ order, graph.topologicalOrder = .ok order ∧ ∀ config freshId,
      (∀ rounds, graph.PassesThrough config freshId
        ((Run.start (config.executionId.getD freshId) graph order).advance graph config.bound
          rounds)) ∧
      ∀ run, graph.PassesThrough config freshId run →
        run.ExactBooks graph order ∧ run.HidesNothing graph config.bound := by
  have wellFormed := reachable.wellFormed
  obtain ⟨order, horder⟩ := exists_order_of_acyclic wellFormed acyclic
  have orders := orders_of_order wellFormed horder
  refine ⟨order, topologicalOrder_eq_ok_iff.mpr horder, fun config freshId ↦
    ⟨fun rounds ↦ ?_, fun run through ↦ ?_⟩⟩
  · have tracks := Run.tracks_start (config.executionId.getD freshId) orders
    exact ⟨order, horder, Run.steps_of_dueSteps
      (tracks.dueSteps_advance orders wellFormed config.bound rounds)⟩
  · obtain ⟨other, hother, steps⟩ := through
    obtain rfl : order = other := Except.ok.inj (horder.symm.trans hother)
    have sound := (Run.sound_start _ orders wellFormed).steps wellFormed steps
    have tracks := Run.tracks_start (config.executionId.getD freshId) orders
    have announces := (Run.announces_start _).steps tracks orders wellFormed steps
    exact ⟨sound.exactBooks announces,
      sound.tracks.hidesNothing orders wellFormed config.bound_ne_zero⟩

/-- The run in which the first output has failed while the second and the input are under way. -/
def cascadeUnderWay : Run :=
  (Run.start "run" cascade [.ofNat 1, .ofNat 2, .ofNat 3, .ofNat 4, .ofNat 5]).advance cascade none 1

theorem cascadeUnderWay_books :
    cascadeUnderWay.running.map Task.node = [.ofNat 2, .ofNat 5] ∧
      cascadeUnderWay.states.get? (.ofNat 1) = some .failed ∧
      cascadeUnderWay.waitingOn.get? (.ofNat 3) = some 2 := ⟨rfl, rfl, rfl⟩

theorem bookkeeping_exact_cascade :
    cascade.Reachable ∧ cascade.Acyclic ∧ ∃ order, cascade.topologicalOrder = .ok order ∧
      cascadeUnderWay.running.map Task.node = [.ofNat 2, .ofNat 5] ∧
      cascadeUnderWay.states.get? (.ofNat 1) = some .failed ∧
      cascadeUnderWay.waitingOn.get? (.ofNat 3) = some 2 ∧
      cascadeUnderWay.ExactBooks cascade order ∧ cascadeUnderWay.HidesNothing cascade none := by
  obtain ⟨order, horder, hall⟩ := bookkeeping_exact cascade reachable_cascade acyclic_cascade
  obtain ⟨hthrough, hexact⟩ := hall ⟨none, none⟩ "run"
  obtain rfl := Except.ok.inj ((topologicalOrder_eq_ok_iff.mp horder).symm.trans order_cascade)
  obtain ⟨hrunning, hfailed, hwaiting⟩ := cascadeUnderWay_books
  exact ⟨reachable_cascade, acyclic_cascade, _, horder, hrunning, hfailed, hwaiting,
    hexact cascadeUnderWay (hthrough 1)⟩

end Graph

end FlowGraph
