import FlowGraph.Proofs.Evaluation.Progress

/-!
The schedule by deadlines. An evaluation fills the room with ready nodes and then completes the
running node with the earliest deadline, until nothing runs. It is one of the runs in which any
running node may complete, and the number of nodes is fuel enough for it to come to its end
(`evaluates_evaluate`). What holds of everything that a graph `Evaluates` to holds whatever order
the nodes complete in.
-/

set_option autoImplicit false
set_option relaxedAutoImplicit false

namespace FlowGraph

namespace Evaluation

/-- How many nodes may run at once. A bound of zero counts as one. -/
def Config.bound (config : Config) : Option Nat := config.maxConcurrency.map (max 1)

theorem Config.bound_ne_zero (config : Config) : config.bound ≠ some 0 := by
  unfold bound
  cases config.maxConcurrency with
  | none => simp
  | some most =>
    rw [Option.map_some, ne_eq, Option.some.injEq]
    exact Nat.ne_of_gt (Nat.le_max_left 1 most)

theorem Config.bound_eq_one {config : Config}
    (h : config.maxConcurrency = some 0 ∨ config.maxConcurrency = some 1) :
    config.bound = some 1 := by
  rcases h with h | h <;> rw [bound, h] <;> rfl

namespace Run

/-- A running task with the earliest deadline. -/
structure IsDue (run : Run) (task : Task) : Prop where
  running : task ∈ run.running
  earliest : ∀ other ∈ run.running, task.deadline ≤ other.deadline

/-- One step of a run by deadlines: of the running nodes one that is due first completes. -/
inductive DueStep (graph : Graph) (limit : Option Nat) (run : Run) : Run → Prop where
  | start {position : Nat} {node : Node} (starts : run.Starts graph limit position node) :
      DueStep graph limit run (startNode graph { run with ready := run.ready.erase position } node)
  | complete {task : Task} (waits : run.IsFull limit ∨ run.ready.entries = [])
      (due : run.IsDue task) : DueStep graph limit run (complete graph run task)

/-- What can be reached in any number of steps by deadlines. -/
abbrev DueSteps (graph : Graph) (limit : Option Nat) : Run → Run → Prop :=
  Relation.ReflTransGen (DueStep graph limit)

variable {graph : Graph} {order : List NodeId} {run next : Run} {limit : Option Nat}

theorem DueStep.step (h : DueStep graph limit run next) : Step graph limit run next := by
  cases h with
  | start starts => exact .start starts
  | complete waits due => exact .complete waits due.running

theorem steps_of_dueSteps (h : DueSteps graph limit run next) : Steps graph limit run next :=
  Relation.ReflTransGen.mono (fun _ _ ↦ DueStep.step) _ _ h

/-! ### Starting what can be started -/

/-- A run that is left when ready nodes have been started until no more can be. -/
structure Fills (graph : Graph) (limit : Option Nat) (order : List NodeId)
    (run filled : Run) : Prop where
  steps : DueSteps graph limit run filled
  effort : effort 0 filled.states order = effort 0 run.states order
  grows : run.running <+: filled.running
  same : filled.running = [] → filled = run
  waits : filled.IsFull limit ∨ filled.ready.entries = []

theorem Fills.refl (waits : run.IsFull limit ∨ run.ready.entries = []) :
    run.Fills graph limit order run :=
  ⟨.refl, rfl, List.prefix_rfl, fun _ ↦ rfl, waits⟩

theorem Fills.cons {filled : Run} {node : Node} {popped : Run}
    (step : DueStep graph limit run (startNode graph popped node))
    (hrunning : popped.running = run.running)
    (heffort : Run.effort 0 (startNode graph popped node).states order =
      Run.effort 0 run.states order)
    (fills : (startNode graph popped node).Fills graph limit order filled) :
    run.Fills graph limit order filled where
  steps := .head step fills.steps
  effort := fills.effort.trans heffort
  grows := by
    refine List.IsPrefix.trans ?_ fills.grows
    rw [startNode, hrunning]
    exact List.prefix_append _ _
  same h := by
    have hgrows := fills.grows
    rw [h, List.prefix_nil, startNode] at hgrows
    simp at hgrows
  waits := fills.waits

theorem Tracks.fills_startReady (tracks : run.Tracks graph order) (orders : graph.Orders order)
    (wellFormed : graph.WellFormed) (limit : Option Nat) {fuel : Nat}
    (hfuel : run.ready.size ≤ fuel) :
    run.Fills graph limit order (startReady graph limit fuel run) := by
  induction fuel generalizing run with
  | zero =>
    exact .refl (Or.inr (List.length_eq_zero_iff.mp (Nat.le_zero.mp hfuel)))
  | succ fuel ih =>
    unfold startReady
    split_ifs with hfull
    · exact .refl (Or.inl hfull)
    · split
      · next hnone => exact .refl (Or.inr hnone)
      · next position id rest first =>
        obtain ⟨node, rfl, starts⟩ := tracks.starts_of_entries_cons orders wellFormed hfull first
        obtain ⟨-, hpending, -⟩ := tracks.of_starts starts
        have step := DueStep.start starts
        simp only [starts.found]
        refine .cons step rfl (effort_insert_resolving_eq hpending order)
          (ih (tracks.step orders wellFormed step.step) ?_)
        change (run.ready.erase position).size ≤ fuel
        rw [OrderedMap.size] at hfuel ⊢
        rw [OrderedMap.entries_erase_of_cons first]
        rw [first, List.length_cons] at hfuel
        exact Nat.le_of_succ_le_succ hfuel

/-! ### Completing one node after the other -/

theorem mem_of_nextTask?_eq_some {tasks : List Task} {task : Task}
    (h : nextTask? tasks = some task) : task ∈ tasks := by
  induction tasks generalizing task with
  | nil => cases h
  | cons first rest ih =>
    unfold nextTask? at h
    split at h
    · rw [← Option.some.inj h]
      exact List.mem_cons_self
    · next other hother =>
      rw [← Option.some.inj h]
      split_ifs with hdeadline
      · exact List.mem_cons_of_mem first (ih hother)
      · exact List.mem_cons_self

theorem nextTask?_eq_none_iff {tasks : List Task} : nextTask? tasks = none ↔ tasks = [] := by
  cases tasks with
  | nil => exact iff_of_true rfl rfl
  | cons task rest =>
    refine iff_of_false ?_ (List.cons_ne_nil task rest)
    unfold nextTask?
    split <;> simp

/-- The next task to complete has the earliest deadline. -/
theorem le_of_nextTask?_eq_some {tasks : List Task} {task : Task}
    (h : nextTask? tasks = some task) : ∀ other ∈ tasks, task.deadline ≤ other.deadline := by
  induction tasks generalizing task with
  | nil => cases h
  | cons first rest ih =>
    intro other hother
    unfold nextTask? at h
    split at h
    · next hnone =>
      rw [nextTask?_eq_none_iff.mp hnone, List.mem_singleton] at hother
      rw [hother, ← Option.some.inj h]
    · next found hfound =>
      rw [← Option.some.inj h]
      rcases List.mem_cons.mp hother with rfl | hrest
      · split_ifs <;> omega
      · have hle := ih hfound other hrest
        split_ifs <;> omega

/-- A run that cannot be stepped is over. -/
theorem Tracks.isOver_of_step_eq_none (tracks : run.Tracks graph order)
    (orders : graph.Orders order) (wellFormed : graph.WellFormed)
    (h : run.step graph limit = none) : run.IsOver graph limit := by
  have fills := tracks.fills_startReady orders wellFormed limit (Nat.le_refl _)
  rw [Run.step, Option.map_eq_none_iff, nextTask?_eq_none_iff] at h
  have hsame := fills.same h
  have hwaits := fills.waits
  rw [hsame] at h hwaits
  intro next step
  cases step with
  | start starts =>
    obtain ⟨rest, first⟩ := starts.first
    rcases hwaits with hfull | hnone
    · exact starts.room hfull
    · rw [hnone] at first
      cases first
  | complete _ running =>
    rw [h] at running
    cases running

theorem Tracks.of_step_eq_some (tracks : run.Tracks graph order) (orders : graph.Orders order)
    (wellFormed : graph.WellFormed) (h : run.step graph limit = some next) :
    DueSteps graph limit run next ∧ effort 0 next.states order < effort 0 run.states order := by
  have fills := tracks.fills_startReady orders wellFormed limit (Nat.le_refl _)
  obtain ⟨task, htask, rfl⟩ := Option.map_eq_some_iff.mp h
  have due : IsDue _ task := ⟨mem_of_nextTask?_eq_some htask, le_of_nextTask?_eq_some htask⟩
  refine ⟨fills.steps.tail (.complete fills.waits due), ?_⟩
  rw [← fills.effort]
  have filled := tracks.steps orders wellFormed (steps_of_dueSteps fills.steps)
  exact filled.effort_complete_lt due.running 0

theorem Tracks.dueSteps_advance (tracks : run.Tracks graph order) (orders : graph.Orders order)
    (wellFormed : graph.WellFormed) (limit : Option Nat) (fuel : Nat) :
    DueSteps graph limit run (advance graph limit fuel run) := by
  induction fuel generalizing run with
  | zero => exact .refl
  | succ fuel ih =>
    unfold Run.advance
    split
    · exact .refl
    · next next h =>
      have steps := (tracks.of_step_eq_some orders wellFormed h).1
      exact steps.trans (ih (tracks.steps orders wellFormed (steps_of_dueSteps steps)))

theorem Tracks.advance (tracks : run.Tracks graph order) (orders : graph.Orders order)
    (wellFormed : graph.WellFormed) (limit : Option Nat) {fuel : Nat}
    (hfuel : effort 0 run.states order ≤ fuel) :
    DueSteps graph limit run (advance graph limit fuel run) ∧
      (advance graph limit fuel run).IsOver graph limit := by
  refine ⟨tracks.dueSteps_advance orders wellFormed limit fuel, ?_⟩
  induction fuel generalizing run with
  | zero =>
    refine tracks.isOver_of_step_eq_none orders wellFormed ?_
    refine Option.eq_none_iff_forall_ne_some.mpr fun next h ↦ ?_
    exact Nat.not_lt_zero _ (hfuel.trans_lt' (tracks.of_step_eq_some orders wellFormed h).2)
  | succ fuel ih =>
    unfold Run.advance
    split
    · next h => exact tracks.isOver_of_step_eq_none orders wellFormed h
    · next next h =>
      obtain ⟨steps, hlt⟩ := tracks.of_step_eq_some orders wellFormed h
      exact ih (tracks.steps orders wellFormed (steps_of_dueSteps steps))
        (Nat.le_of_lt_succ (hlt.trans_le hfuel))

end Run

end Evaluation

namespace Graph

open Evaluation

variable {graph : Graph} {config : Config} {freshId : String} {trace : Trace}

/-- A run that an evaluation can pass through when any running node may complete next. -/
def PassesThrough (graph : Graph) (config : Config) (freshId : String) (run : Run) : Prop :=
  ∃ order, graph.order = .ok order ∧
    Run.Steps graph config.bound (Run.start (config.executionId.getD freshId) graph order) run

/-- What an evaluation can come to when any running node may complete next. -/
def Evaluates (graph : Graph) (config : Config) (freshId : String) (trace : Trace) : Prop :=
  match graph.order with
  | .error _ => trace = graph.evaluate config freshId
  | .ok _ =>
    ∃ final, graph.PassesThrough config freshId final ∧ final.IsOver graph config.bound ∧
      trace = final.conclude

theorem WellFormed.evaluates_evaluate (wellFormed : graph.WellFormed) (config : Config)
    (freshId : String) : graph.Evaluates config freshId (graph.evaluate config freshId) := by
  unfold Evaluates
  split
  · rfl
  · next order horder =>
    have orders := orders_of_order wellFormed horder
    have tracks := Run.tracks_start (config.executionId.getD freshId) orders
    obtain ⟨hsteps, hover⟩ := tracks.advance orders wellFormed config.bound
      (Run.effort_le_length _ order)
    refine ⟨_, ⟨order, horder, Run.steps_of_dueSteps hsteps⟩, hover, ?_⟩
    rw [evaluate, horder]
    rfl

end Graph

end FlowGraph
