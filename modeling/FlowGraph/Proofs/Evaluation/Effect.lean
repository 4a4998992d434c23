import FlowGraph.Proofs.Evaluation.Spread

/-!
What the operations of a run change. Resolving a node counts down the nodes that read from it;
failing a node puts its failure on record, skips the pending nodes downstream of it and reports
them in ascending order.
-/

set_option autoImplicit false
set_option relaxedAutoImplicit false

namespace FlowGraph.Evaluation.Run

variable {graph : Graph} {run : Run}

/-! ### Resolving -/

/-- Releasing changes counts and ready nodes only. -/
theorem release_frame (run : Run) (target : NodeId) :
    run.release target =
      { run with
        waitingOn := (run.release target).waitingOn
        ready := (run.release target).ready } := by
  unfold release
  split
  · rfl
  · dsimp only
    split
    · split <;> rfl
    · rfl

theorem position_release (run : Run) (target : NodeId) :
    (run.release target).position = run.position := by
  rw [release_frame]

theorem foldl_release_frame (targets : List NodeId) (run : Run) :
    targets.foldl release run =
      { run with
        waitingOn := (targets.foldl release run).waitingOn
        ready := (targets.foldl release run).ready } := by
  induction targets generalizing run with
  | nil => rfl
  | cons target rest ih => rw [List.foldl_cons, ih, release_frame]

theorem get?_waitingOn_release (run : Run) (target id : NodeId) :
    (run.release target).waitingOn.get? id =
      if id = target then (run.waitingOn.get? id).map (· - 1) else run.waitingOn.get? id := by
  have hcounted : ∀ waiting, run.waitingOn.get? target = some waiting →
      (run.waitingOn.insert target (waiting - 1)).get? id =
        if id = target then (run.waitingOn.get? id).map (· - 1) else run.waitingOn.get? id := by
    intro waiting h
    rw [OrderedMap.get?_insert]
    split_ifs with hid
    · rw [hid, h]
      rfl
    · rfl
  unfold release
  split
  · next h =>
    split_ifs with hid
    · rw [hid, h]
      rfl
    · rfl
  · next waiting h =>
    dsimp only
    split
    · split <;> exact hcounted waiting h
    · exact hcounted waiting h

theorem get?_waitingOn_foldl_release {targets : List NodeId} (hnodup : targets.Nodup) (run : Run)
    (id : NodeId) :
    (targets.foldl release run).waitingOn.get? id =
      if id ∈ targets then (run.waitingOn.get? id).map (· - 1) else run.waitingOn.get? id := by
  induction targets generalizing run with
  | nil => simp
  | cons target rest ih =>
    rw [List.nodup_cons] at hnodup
    rw [List.foldl_cons, ih hnodup.2, get?_waitingOn_release]
    by_cases hid : id = target
    · subst hid
      simp [hnodup.1]
    · simp [hid]

/-- Ready nodes stand at their own positions, and no two nodes have one position. -/
structure Placed (run : Run) : Prop where
  ready : ∀ place id, run.ready.get? place = some id → run.position.get? id = some place
  injective : ∀ place first second, run.position.get? first = some place →
    run.position.get? second = some place → first = second

/-- A pending node whose count comes down to zero becomes ready. -/
theorem ready_release_of_freed {target : NodeId} {place : Nat}
    (hplace : run.position.get? target = some place)
    (hpending : run.states.get? target = some .pending)
    (hzero : (run.waitingOn.get? target).map (· - 1) = some 0) :
    (run.release target).ready = run.ready.insert place target := by
  obtain ⟨waiting, hwaiting, hnone⟩ := Option.map_eq_some_iff.mp hzero
  have hfree : waiting - 1 = 0 ∧ run.isPending target = true :=
    ⟨hnone, (isPending_iff run target).mpr hpending⟩
  simp only [release, hwaiting, hplace]
  rw [if_pos hfree]

theorem ready_release_of_not_freed {target : NodeId}
    (h : ∀ place, run.position.get? target = some place →
      run.states.get? target = some .pending →
        (run.waitingOn.get? target).map (· - 1) ≠ some 0) :
    (run.release target).ready = run.ready := by
  unfold release
  split
  · rfl
  · next waiting hwaiting =>
    dsimp only
    split
    · next place hplace =>
      have hbusy : ¬ (waiting - 1 = 0 ∧ run.isPending target = true) := by
        intro hfree
        apply h place hplace ((isPending_iff run target).mp hfree.2)
        rw [hwaiting, Option.map_some, hfree.1]
      rw [if_neg hbusy]
    · rfl

theorem get?_ready_release (placed : run.Placed) (target : NodeId) (place : Nat) (id : NodeId) :
    (run.release target).ready.get? place = some id ↔
      run.ready.get? place = some id ∨
        id = target ∧ run.position.get? id = some place ∧ run.states.get? id = some .pending ∧
          (run.waitingOn.get? id).map (· - 1) = some 0 := by
  by_cases freed : ∃ position, run.position.get? target = some position ∧
      run.states.get? target = some .pending ∧
        (run.waitingOn.get? target).map (· - 1) = some 0
  · obtain ⟨position, hposition, hpending, hzero⟩ := freed
    rw [ready_release_of_freed hposition hpending hzero, OrderedMap.get?_insert]
    by_cases hplace : place = position
    · rw [if_pos hplace, Option.some.injEq, hplace]
      constructor
      · intro hid
        rw [← hid]
        exact Or.inr ⟨rfl, hposition, hpending, hzero⟩
      · rintro (hready | ⟨hid, -⟩)
        · exact placed.injective position _ _ hposition (placed.ready position id hready)
        · exact hid.symm
    · rw [if_neg hplace]
      refine ⟨Or.inl, ?_⟩
      rintro (hready | ⟨hid, hother, -⟩)
      · exact hready
      · rw [hid, hposition] at hother
        exact absurd (Option.some.inj hother).symm hplace
  · rw [ready_release_of_not_freed fun position hposition hpending hzero ↦
      freed ⟨position, hposition, hpending, hzero⟩]
    refine ⟨Or.inl, ?_⟩
    rintro (hready | ⟨hid, hplace, hpending, hzero⟩)
    · exact hready
    · rw [hid] at hplace hpending hzero
      exact absurd ⟨place, hplace, hpending, hzero⟩ freed

theorem Placed.release (placed : run.Placed) (target : NodeId) : (run.release target).Placed := by
  refine ⟨fun place id h ↦ ?_, by rw [position_release]; exact placed.injective⟩
  rw [position_release]
  rcases (get?_ready_release placed target place id).mp h with hready | ⟨-, hplace, -⟩
  · exact placed.ready place id hready
  · exact hplace

/-- After the release of several nodes those are ready that were, and the released pending ones
whose count has come down to zero. -/
theorem get?_ready_foldl_release {targets : List NodeId} (hnodup : targets.Nodup)
    (placed : run.Placed) (place : Nat) (id : NodeId) :
    (targets.foldl release run).ready.get? place = some id ↔
      run.ready.get? place = some id ∨
        id ∈ targets ∧ run.position.get? id = some place ∧
          run.states.get? id = some .pending ∧ (run.waitingOn.get? id).map (· - 1) = some 0 := by
  induction targets generalizing run with
  | nil => simp
  | cons target rest ih =>
    rw [List.nodup_cons] at hnodup
    have hstates : (run.release target).states = run.states := by rw [release_frame]
    rw [List.foldl_cons, ih hnodup.2 (placed.release target), get?_ready_release placed,
      get?_waitingOn_release, position_release, hstates]
    by_cases hid : id = target
    · subst hid
      simp [hnodup.1]
    · simp [hid]

/-- Resolving a node changes its state and outputs, and what its dependents wait on. -/
theorem resolve_frame (graph : Graph) (run : Run) (id : NodeId) (outputs : Boxes) :
    resolve graph run id outputs =
      { run with
        states := run.states.insert id .resolved
        outputs := run.outputs.insert id outputs
        waitingOn := (resolve graph run id outputs).waitingOn
        ready := (resolve graph run id outputs).ready } := by
  unfold resolve
  rw [foldl_release_frame]

theorem get?_waitingOn_resolve (run : Run) (id other : NodeId) (outputs : Boxes) :
    (resolve graph run id outputs).waitingOn.get? other =
      if other ∈ (graph.dependents id).toList then (run.waitingOn.get? other).map (· - 1)
      else run.waitingOn.get? other :=
  get?_waitingOn_foldl_release (OrderedSet.nodup_toList _) _ other

theorem get?_ready_resolve (placed : run.Placed) (id : NodeId) (outputs : Boxes) (place : Nat)
    (other : NodeId) :
    (resolve graph run id outputs).ready.get? place = some other ↔
      run.ready.get? place = some other ∨
        graph.Feeds id other ∧ run.position.get? other = some place ∧
          (run.states.insert id .resolved).get? other = some .pending ∧
          (run.waitingOn.get? other).map (· - 1) = some 0 := by
  let resolved : Run :=
    { run with states := run.states.insert id .resolved, outputs := run.outputs.insert id outputs }
  have hplaced : resolved.Placed := ⟨placed.ready, placed.injective⟩
  rw [← Graph.mem_dependents]
  exact get?_ready_foldl_release (OrderedSet.nodup_toList _) hplaced place other

/-! ### Failing -/

/-- Skipping several nodes changes their states and puts their failures on record. -/
theorem foldl_skip_frame (origin : NodeId) (skipped : List NodeId) (run : Run) :
    skipped.foldl (skip origin) run =
      { run with
        states := (skipped.foldl (skip origin) run).states
        failures := (skipped.foldl (skip origin) run).failures } := by
  induction skipped generalizing run with
  | nil => rfl
  | cons id rest ih =>
    rw [List.foldl_cons, ih]
    rfl

/-- The failure that a skipped node inherits. -/
def inherited (origin : NodeId) : Failure :=
  ⟨origin, "upstream node " ++ origin.text ++ " failed"⟩

theorem get?_failures_foldl_skip (origin : NodeId) (skipped : List NodeId) (run : Run)
    (id : NodeId) :
    (skipped.foldl (skip origin) run).failures.get? id =
      if id ∈ skipped then some (inherited origin) else run.failures.get? id := by
  induction skipped generalizing run with
  | nil => simp
  | cons first rest ih =>
    rw [List.foldl_cons, ih, skip, OrderedMap.get?_insert]
    by_cases hid : id = first <;> simp [hid, inherited]

theorem foldl_reportSkipped (origin : NodeId) (skipped : List NodeId) (run : Run) :
    skipped.foldl (reportSkipped origin) run =
      { run with
        events := run.events ++
          skipped.map fun id ↦ .nodeSkipped run.executionId id.text origin.text } := by
  induction skipped generalizing run with
  | nil => simp
  | cons id rest ih =>
    rw [List.foldl_cons, ih]
    simp [reportSkipped, emit]

/-- A failed node with its failure on record, before anything is skipped. -/
def record (run : Run) (id : NodeId) (error : GraphError) : Run :=
  { run with
    states := run.states.insert id .failed
    failures := run.failures.insert id ⟨id, error.rootCause.message⟩
    ownFailures :=
      run.ownFailures.insert ((run.position.get? id).getD run.order.length) (id, error) }

/-- Failing a node puts its failure on record, skips what fails with it in the order in which it is
found, each node once, and reports it in ascending order. -/
theorem fail_eq (graph : Graph) (run : Run) (id : NodeId) (error : GraphError) :
    ∃ found : List NodeId, found.Perm (skippedBy graph run id) ∧
      fail graph run id error =
        (skippedBy graph run id).foldl (reportSkipped id)
          (found.foldl (skip id) (run.record id error)) := by
  have hfailed : (run.record id error).states.get? id = some .failed :=
    OrderedMap.get?_insert_self _ _ _
  obtain ⟨found, hfound, spread⟩ := exists_skipDownstream_of_failed graph hfailed
  -- what is found depends on the states alone
  have hmem : ∀ other, other ∈ found ↔ other ∈ skippedBy graph run id := by
    intro other
    rw [spread.mem_iff, mem_skippedBy_iff_transGen]
    rfl
  have hsorted : (OrderedSet.ofList found).toList = skippedBy graph run id := by
    refine congrArg OrderedSet.toList (OrderedSet.eq_of_mem_toList_iff fun other ↦ ?_)
    rw [OrderedSet.mem_toList_ofList, hmem]
    exact Iff.rfl
  refine ⟨found, ?_, ?_⟩
  · exact (List.perm_ext_iff_of_nodup spread.nodup
      ((pairwise_skippedBy graph run id).imp Std.ne_of_lt)).mpr hmem
  · rw [← hsorted]
    exact congrArg (fun result ↦ (OrderedSet.ofList result.1).toList.foldl (reportSkipped id)
      result.2) hfound

/-- Failing a node fails it and what is skipped with it, and changes nothing that runs. -/
theorem fail_frame (graph : Graph) (run : Run) (id : NodeId) (error : GraphError) :
    fail graph run id error =
      { run.record id error with
        states := (fail graph run id error).states
        failures := (fail graph run id error).failures
        events := run.events ++ (skippedBy graph run id).map fun other ↦
          .nodeSkipped run.executionId other.text id.text } := by
  obtain ⟨found, -, h⟩ := fail_eq graph run id error
  rw [h, foldl_reportSkipped, foldl_skip_frame]
  rfl

theorem get?_states_fail (run : Run) (id other : NodeId) (error : GraphError) :
    (fail graph run id error).states.get? other =
      if other = id ∨ other ∈ skippedBy graph run id then some .failed
      else run.states.get? other := by
  obtain ⟨found, hperm, h⟩ := fail_eq graph run id error
  rw [h, foldl_reportSkipped]
  change (found.foldl (skip id) (run.record id error)).states.get? other = _
  rw [get?_states_foldl_skip, record, OrderedMap.get?_insert]
  simp only [hperm.mem_iff]
  by_cases hother : other = id <;> simp [hother]

theorem get?_failures_fail (run : Run) (id other : NodeId) (error : GraphError) :
    (fail graph run id error).failures.get? other =
      if other ∈ skippedBy graph run id then some (inherited id)
      else if other = id then some ⟨id, error.rootCause.message⟩
      else run.failures.get? other := by
  obtain ⟨found, hperm, h⟩ := fail_eq graph run id error
  rw [h, foldl_reportSkipped]
  change (found.foldl (skip id) (run.record id error)).failures.get? other = _
  rw [get?_failures_foldl_skip, record, OrderedMap.get?_insert]
  simp only [hperm.mem_iff]

theorem get?_states_fail_eq_failed_iff (run : Run) (id other : NodeId) (error : GraphError) :
    (fail graph run id error).states.get? other = some .failed ↔
      other = id ∨ other ∈ skippedBy graph run id ∨ run.states.get? other = some .failed := by
  rw [get?_states_fail]
  split_ifs with hother
  · exact iff_of_true rfl (or_assoc.mp (Or.inl hother))
  · rw [← or_assoc, or_iff_right hother]

theorem get?_states_fail_eq_some_iff {state : NodeState} (hstate : state ≠ .failed) (run : Run)
    (id other : NodeId) (error : GraphError) :
    (fail graph run id error).states.get? other = some state ↔
      other ≠ id ∧ other ∉ skippedBy graph run id ∧ run.states.get? other = some state := by
  rw [get?_states_fail]
  split_ifs with hother
  · refine iff_of_false (fun h ↦ hstate (Option.some.inj h).symm) fun h ↦ ?_
    exact hother.elim h.1 h.2.1
  · obtain ⟨hne, hnot⟩ := not_or.mp hother
    exact ⟨fun h ↦ ⟨hne, hnot, h⟩, fun h ↦ h.2.2⟩

theorem get?_ownFailures_fail (run : Run) (id : NodeId) (error : GraphError) (place : Nat) :
    (fail graph run id error).ownFailures.get? place =
      if place = (run.position.get? id).getD run.order.length then some (id, error)
      else run.ownFailures.get? place := by
  rw [fail_frame]
  exact OrderedMap.get?_insert _ _ _ _

/-- The name of a run never changes. -/
theorem Step.executionId_eq {limit : Option Nat} {next : Run} (step : Step graph limit run next) :
    next.executionId = run.executionId := by
  cases step with
  | start _ => rfl
  | @complete task _ _ =>
    cases hresult : task.result with
    | ok outputs =>
      rw [complete_of_ok hresult, resolve_frame]
      rfl
    | error error =>
      rw [complete_of_error hresult, fail_frame]
      rfl

theorem executionId_of_steps {limit : Option Nat} {next : Run}
    (steps : Steps graph limit run next) : next.executionId = run.executionId := by
  induction steps with
  | refl => rfl
  | tail _ step ih => exact step.executionId_eq.trans ih

end FlowGraph.Evaluation.Run
