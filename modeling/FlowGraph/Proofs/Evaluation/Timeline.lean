import FlowGraph.Proofs.Evaluation.Trace
import Mathlib.Algebra.GroupWithZero.Nat

/-!
Runs with their times. Beside the run a timeline notes of every node that is started when it is
started and how long it takes on the inputs that it is given; nothing else takes time, and of the
running nodes one that is due first completes. Every evaluation has a timeline
(`exists_evaluatesOnTime`). For a completion, the lemmas here say what it does to the clock, to the
running tasks and to what is ready.
-/

set_option autoImplicit false
set_option relaxedAutoImplicit false

namespace FlowGraph

namespace Evaluation

/-- When a node was started, and how long it takes. -/
structure Span where
  node : NodeId
  begun : Nat
  duration : Nat

namespace Span

/-- When the node completes. -/
def ended (span : Span) : Nat := span.begun + span.duration

/-- The span of a node that is started now on what its dependencies have put out. A computation
that fails at once takes no time. -/
def ofStart (graph : Graph) (run : Run) (node : Node) : Span :=
  ⟨node.id, run.clock, (node.run (node.assembleInputs graph run.outputs)).duration⟩

/-- The durations of all spans together. -/
def work (spans : List Span) : Nat := (spans.map Span.duration).sum

end Span

/-- A run with the spans of the nodes that have been started. -/
structure Timeline where
  run : Run
  spans : List Span

namespace Run

/-- One step at its time. A start notes the span of the node; when no node can be started, a running
one that is due first completes. -/
inductive TimedStep (graph : Graph) (limit : Option Nat) : Timeline → Timeline → Prop where
  | start {run : Run} {spans : List Span} {position : Nat} {node : Node}
      (starts : run.Starts graph limit position node) :
      TimedStep graph limit ⟨run, spans⟩
        ⟨startNode graph { run with ready := run.ready.erase position } node,
          spans ++ [.ofStart graph run node]⟩
  | complete {run : Run} {spans : List Span} {task : Task}
      (waits : run.IsFull limit ∨ run.ready.entries = []) (due : run.IsDue task) :
      TimedStep graph limit ⟨run, spans⟩ ⟨complete graph run task, spans⟩

/-- What can be reached in any number of steps, each at its time. -/
abbrev TimedSteps (graph : Graph) (limit : Option Nat) : Timeline → Timeline → Prop :=
  Relation.ReflTransGen (TimedStep graph limit)

variable {graph : Graph} {order : List NodeId} {run next : Run} {limit : Option Nat}

theorem TimedStep.step {timeline later : Timeline} (h : TimedStep graph limit timeline later) :
    Step graph limit timeline.run later.run := by
  cases h with
  | start starts => exact .start starts
  | complete waits due => exact .complete waits due.running

theorem steps_of_timedSteps {timeline later : Timeline}
    (h : TimedSteps graph limit timeline later) : Steps graph limit timeline.run later.run :=
  Relation.ReflTransGen.lift Timeline.run (fun _ _ ↦ TimedStep.step) _ _ h

/-- Steps by deadlines have their times. -/
theorem exists_timedSteps (steps : DueSteps graph limit run next) (spans : List Span) :
    ∃ later, TimedSteps graph limit ⟨run, spans⟩ ⟨next, later⟩ := by
  induction steps with
  | refl => exact ⟨spans, .refl⟩
  | tail _ step ih =>
    obtain ⟨middle, hmiddle⟩ := ih
    cases step with
    | start starts => exact ⟨_, hmiddle.tail (.start starts)⟩
    | complete waits due => exact ⟨_, hmiddle.tail (.complete waits due)⟩

/-! ### Completions -/

section Complete

variable {task : Task}

/-- A completion ends the task at its deadline and leaves the name and the places of a run alone. -/
theorem complete_frame (graph : Graph) (run : Run) (task : Task) :
    complete graph run task =
      { run.finish task with
        waitingOn := (complete graph run task).waitingOn
        ready := (complete graph run task).ready
        states := (complete graph run task).states
        outputs := (complete graph run task).outputs
        failures := (complete graph run task).failures
        ownFailures := (complete graph run task).ownFailures
        events := (complete graph run task).events } := by
  cases hresult : task.result with
  | ok outputs =>
    rw [complete_of_ok hresult, resolve_frame]
    rfl
  | error error =>
    rw [complete_of_error hresult, fail_frame]
    rfl

/-- A completion starts nothing. -/
theorem starts_complete (graph : Graph) (run : Run) (task : Task) :
    (complete graph run task).events.filter Event.isStart = run.events.filter Event.isStart := by
  cases hresult : task.result with
  | ok outputs =>
    rw [complete_of_ok hresult, resolve_frame]
    change (run.events ++ [_]).filter Event.isStart = _
    rw [List.filter_append]
    exact List.append_nil _
  | error error =>
    rw [complete_of_error hresult, events_fail, List.filter_append]
    have hnone : (Event.failureReport run.executionId task.node error.message
        (skippedBy graph run task.node)).filter Event.isStart = [] := by
      refine List.filter_eq_nil_iff.mpr fun event hevent ↦ ?_
      rw [Event.isStart_of_mem_failureReport hevent]
      exact Bool.false_ne_true
    rw [hnone, List.append_nil]

/-- Nor does the end of a run. -/
theorem starts_conclude (run : Run) :
    run.conclude.events.filter Event.isStart = run.events.filter Event.isStart := by
  have hlast : (run.conclude.outcome.event run.executionId).isStart = false := by
    cases run.conclude.outcome <;> rfl
  rw [events_conclude, List.filter_append]
  simp [hlast]

theorem not_pending_complete (graph : Graph) (task : Task) {id : NodeId}
    (h : run.states.get? id ≠ some .pending) :
    (complete graph run task).states.get? id ≠ some .pending := by
  rcases isSettled_complete graph run task id with (hstate | hstate) | ⟨-, hsame⟩
  · simp [hstate]
  · simp [hstate]
  · rwa [hsame]

/-- What is ready after a completion was ready before or reads from the completed node. -/
theorem Tracks.ready_complete (tracks : run.Tracks graph order) {place : Nat} {id : NodeId}
    (h : (complete graph run task).ready.get? place = some id) :
    run.ready.get? place = some id ∨ graph.Feeds task.node id := by
  cases hresult : task.result with
  | ok outputs =>
    rw [complete_of_ok hresult] at h
    have placed : ((run.finish task).emit
        (.nodeResolved run.executionId task.node.text outputs.toJson)).Placed :=
      ⟨tracks.placed.ready, tracks.placed.injective⟩
    exact ((Run.get?_ready_resolve placed _ outputs place id).mp h).imp_right fun h ↦ h.1
  | error error =>
    rw [complete_of_error hresult, fail_frame] at h
    exact Or.inl h

/-- One of the running tasks is the completed one, and the others keep running. -/
theorem Tracks.running_split (tracks : run.Tracks graph order) (running : task ∈ run.running) :
    ∃ before after, run.running = before ++ task :: after ∧
      (complete graph run task).running = before ++ after := by
  rw [complete_frame]
  obtain ⟨other, before, after, -, hnode, hsplit, hrest⟩ :=
    List.exists_of_eraseP running (p := fun other ↦ other.node = task.node) (by simp)
  have hother : other ∈ run.running := by
    rw [hsplit]
    exact List.mem_append_right before List.mem_cons_self
  obtain rfl : other = task :=
    List.inj_on_of_nodup_map tracks.running_nodup hother running (of_decide_eq_true hnode)
  exact ⟨before, after, hsplit, hrest⟩

/-- What has resolved stays resolved. -/
theorem Tracks.resolved_complete (tracks : run.Tracks graph order)
    (running : task ∈ run.running) {id : NodeId} (h : run.states.get? id = some .resolved) :
    (complete graph run task).states.get? id = some .resolved := by
  cases hresult : task.result with
  | ok outputs =>
    rw [complete_of_ok hresult, resolve_frame]
    change (run.states.insert task.node .resolved).get? id = some .resolved
    rw [OrderedMap.get?_insert_of_ne _ (tracks.ne_of_running running (by simp) h), h]
  | error error =>
    rw [complete_of_error hresult]
    exact (tracks.resolved_fail_iff running error _ id).mpr h

end Complete

end Run

end Evaluation

namespace Graph

open Evaluation

/-- What an evaluation comes to, and the spans of the nodes that it starts, when every step is taken
at its time. -/
def EvaluatesOnTime (graph : Graph) (config : Config) (freshId : String) (trace : Trace)
    (spans : List Span) : Prop :=
  ∃ order final, graph.order = .ok order ∧
    Run.TimedSteps graph config.bound
      ⟨Run.start (config.executionId.getD freshId) graph order, []⟩ ⟨final, spans⟩ ∧
    final.IsOver graph config.bound ∧ trace = final.conclude

variable {graph : Graph} {order : List NodeId}

theorem WellFormed.exists_evaluatesOnTime (wellFormed : graph.WellFormed)
    (horder : graph.order = .ok order) (config : Config) (freshId : String) :
    ∃ spans, graph.EvaluatesOnTime config freshId (graph.evaluate config freshId) spans := by
  have orders := orders_of_order wellFormed horder
  have tracks := Run.tracks_start (config.executionId.getD freshId) orders
  obtain ⟨hsteps, hover⟩ := tracks.advance orders wellFormed config.bound
    (Run.effort_le_length _ order)
  obtain ⟨spans, htimed⟩ := Run.exists_timedSteps hsteps []
  refine ⟨spans, order, _, horder, htimed, hover, ?_⟩
  rw [evaluate, horder]
  rfl

/-- What is evaluated on time is evaluated. -/
theorem EvaluatesOnTime.evaluates {config : Config} {freshId : String} {trace : Trace}
    {spans : List Span} (h : graph.EvaluatesOnTime config freshId trace spans) :
    graph.Evaluates config freshId trace := by
  obtain ⟨order, final, horder, steps, ended, htrace⟩ := h
  rw [Evaluates, horder]
  exact ⟨final, ⟨order, horder, Run.steps_of_timedSteps steps⟩, ended, htrace⟩

end Graph

end FlowGraph
