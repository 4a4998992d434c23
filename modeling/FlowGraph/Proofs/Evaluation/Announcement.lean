import FlowGraph.Proofs.Evaluation.Trace

/-!
What the events of a run say of computations. Every event that a node has resolved carries the
outputs that the run has on record of this node, and every event that a node has failed the message
of its failure on record; and what is on record has been announced.
-/

set_option autoImplicit false
set_option relaxedAutoImplicit false

namespace FlowGraph.Evaluation.Run

open Event

variable {graph : Graph} {order : List NodeId} {limit : Option Nat} {run next : Run}

/-- The events of a run announce exactly the outputs and failures that it has on record. -/
structure Announces (run : Run) : Prop where
  resolved : ∀ id document, .nodeResolved run.executionId id.text document ∈ run.events ↔
    ∃ outputs, run.outputs.get? id = some outputs ∧ document = outputs.toJson
  failed : ∀ id text, .nodeFailed run.executionId id.text text ∈ run.events ↔
    ∃ place error, run.ownFailures.get? place = some (id, error) ∧ text = error.message

theorem announces_start (executionId : String) : (start executionId graph order).Announces where
  resolved id document := by simp [start]
  failed id text := by simp [start]

theorem Announces.startNode (announces : run.Announces) (position : Nat) (node : Node) :
    (startNode graph { run with ready := run.ready.erase position } node).Announces where
  resolved id document := by
    refine Iff.trans ?_ (announces.resolved id document)
    simp [Run.startNode]
  failed id text := by
    refine Iff.trans ?_ (announces.failed id text)
    simp [Run.startNode]

/-- A running node has not put out anything. -/
theorem Tracks.outputs_of_running (tracks : run.Tracks graph order) {task : Task}
    (running : task ∈ run.running) : run.outputs.get? task.node = none := by
  refine Option.eq_none_iff_forall_ne_some.mpr fun found h ↦ ?_
  have hresolved := (tracks.outputs task.node).mp ⟨found, h⟩
  exact tracks.ne_of_running running (by simp) hresolved rfl

theorem Announces.complete_ok (announces : run.Announces) (tracks : run.Tracks graph order)
    {task : Task} (running : task ∈ run.running) (outputs : Boxes) :
    (resolve graph
      ((run.finish task).emit (.nodeResolved run.executionId task.node.text outputs.toJson))
      task.node outputs).Announces := by
  have hnone := tracks.outputs_of_running running
  rw [resolve_frame]
  refine ⟨fun id document ↦ ?_, fun id text ↦ ?_⟩
  · show .nodeResolved run.executionId id.text document ∈ run.events ++ [_] ↔
      ∃ found, (run.outputs.insert task.node outputs).get? id = some found ∧
        document = found.toJson
    rw [List.mem_append, announces.resolved, OrderedMap.get?_insert]
    by_cases hid : id = task.node
    · simp [hid, hnone]
    · simp [hid, NodeId.text_inj]
  · refine Iff.trans ?_ (announces.failed id text)
    simp [Run.finish, emit]

/-- The place of a running node is free, so that its failure overwrites no other on record. -/
theorem Tracks.ownFailures_of_running (tracks : run.Tracks graph order) {task : Task}
    (running : task ∈ run.running) :
    run.ownFailures.get? ((run.position.get? task.node).getD run.order.length) = none := by
  obtain ⟨place, hplace⟩ := List.getElem?_of_mem (tracks.mem_of_running running)
  rw [(tracks.position task.node place).mpr hplace, Option.getD_some]
  refine Option.eq_none_iff_forall_ne_some.mpr fun found h ↦ ?_
  obtain ⟨hfound, hfailed, -⟩ := tracks.ownFailures place found.1 found.2 h
  exact tracks.ne_of_running running (by simp) hfailed
    (Option.some.inj (hfound.symm.trans hplace))

theorem Announces.complete_error (announces : run.Announces) (tracks : run.Tracks graph order)
    {task : Task} (running : task ∈ run.running) (error : GraphError) :
    (fail graph
      ((run.finish task).emit (.nodeFailed run.executionId task.node.text error.message))
      task.node error).Announces := by
  let failure : Event := .nodeFailed run.executionId task.node.text error.message
  let own := (run.position.get? task.node).getD run.order.length
  have hfree : run.ownFailures.get? own = none := tracks.ownFailures_of_running running
  have hid : (fail graph ((run.finish task).emit failure) task.node error).executionId =
      run.executionId := by rw [fail_frame]; rfl
  have houtputs : (fail graph ((run.finish task).emit failure) task.node error).outputs =
      run.outputs := by rw [fail_frame]; rfl
  have hfailures : ∀ place,
      (fail graph ((run.finish task).emit failure) task.node error).ownFailures.get? place =
        if place = own then some (task.node, error) else run.ownFailures.get? place :=
    fun place ↦ get?_ownFailures_fail _ _ _ _
  refine ⟨fun id document ↦ ?_, fun id text ↦ ?_⟩
  · rw [events_fail, hid, houtputs, ← announces.resolved id document, List.mem_append,
      mem_failureReport_iff]
    simp
  · rw [events_fail, hid, List.mem_append, announces.failed, mem_failureReport_iff]
    show _ ↔ ∃ place found, (fail graph ((run.finish task).emit failure) task.node
      error).ownFailures.get? place = some (id, found) ∧ text = found.message
    simp only [hfailures]
    constructor
    · rintro (⟨place, found, hfound, htext⟩ | hnew | ⟨other, -, hother⟩)
      · refine ⟨place, found, ?_, htext⟩
        rw [if_neg, hfound]
        rintro rfl
        rw [hfree] at hfound
        cases hfound
      · obtain ⟨-, hnode, rfl⟩ := Event.nodeFailed.inj hnew
        exact ⟨own, error, by rw [if_pos rfl, NodeId.text_inj.mp hnode], rfl⟩
      · cases hother
    · rintro ⟨place, found, hfound, rfl⟩
      split_ifs at hfound with hplace
      · obtain ⟨rfl, rfl⟩ := Prod.mk.inj (Option.some.inj hfound)
        exact Or.inr (Or.inl rfl)
      · exact Or.inl ⟨place, found, hfound, rfl⟩

theorem Announces.step (announces : run.Announces) (tracks : run.Tracks graph order)
    (step : Step graph limit run next) : next.Announces := by
  cases step with
  | start starts => exact announces.startNode _ _
  | @complete task _ running =>
    cases hresult : task.result with
    | ok outputs =>
      rw [complete_of_ok hresult]
      exact announces.complete_ok tracks running outputs
    | error error =>
      rw [complete_of_error hresult]
      exact announces.complete_error tracks running error

theorem Announces.steps (announces : run.Announces) (tracks : run.Tracks graph order)
    (orders : graph.Orders order) (wellFormed : graph.WellFormed)
    (steps : Steps graph limit run next) : next.Announces := by
  induction steps with
  | refl => exact announces
  | tail steps step ih => exact ih.step (tracks.steps orders wellFormed steps) step

end FlowGraph.Evaluation.Run
