import FlowGraph.Proofs.Evaluation.Events

/-!
The events of an evaluation. A run reports what it does: of each node its events say what its state
says (`Tells`), every event is allowed by the events before it, and the nodes that have been started
and have not completed are the running ones, of which there are no more than may be. At the end one
event says how the evaluation ended.
-/

set_option autoImplicit false
set_option relaxedAutoImplicit false

namespace FlowGraph.Evaluation

open Event

/-- What the events about a node are when this is its state. -/
def Tells (executionId : String) (id : NodeId) (events : List Event) : NodeState → Prop
  | .pending => events = []
  | .resolving => events = [.nodeStarted executionId id.text]
  | .resolved => ∃ outputs,
    events = [.nodeStarted executionId id.text, .nodeResolved executionId id.text outputs]
  | .failed =>
    (∃ error, events = [.nodeStarted executionId id.text, .nodeFailed executionId id.text error]) ∨
      ∃ origin, events = [.nodeSkipped executionId id.text origin]

namespace Run

variable {graph : Graph} {order : List NodeId} {limit : Option Nat} {run next : Run}

/-- What the events of a run keep from step to step. -/
structure Reports (graph : Graph) (limit : Option Nat) (run : Run) : Prop where
  opened : ∃ inner, run.events = .evaluationStarted run.executionId graph.size :: inner ∧
    ∀ event ∈ inner, event.executionId = run.executionId ∧
      ∃ id, graph.contains id = true ∧ event.node? = some id.text
  tells : ∀ id state, run.states.get? id = some state →
    Tells run.executionId id (about id run.events) state
  allowed : Each (Allowed graph run.executionId) run.events
  running : run.events.countP isStart = run.events.countP isCompletion + run.running.length
  room : ∀ most, limit = some most → run.running.length ≤ most
  bounded : ∀ most, limit = some most → Bounded most run.events

theorem reports_start (executionId : String) (orders : graph.Orders order) :
    (start executionId graph order).Reports graph limit where
  opened := ⟨[], rfl, fun event h ↦ absurd h List.not_mem_nil⟩
  tells id state h := by
    obtain ⟨-, rfl⟩ := (get?_states_start graph executionId orders.nodup id state).mp h
    rfl
  allowed := each_concat_iff.mpr ⟨each_nil _, trivial⟩
  running := rfl
  room most _ := Nat.zero_le most
  bounded most _ := by
    intro before hbefore
    have hnone : before.countP isStart = 0 :=
      List.countP_eq_zero.mpr fun event hevent ↦ by
        rw [List.mem_singleton.mp (hbefore.subset hevent)]
        exact Bool.false_ne_true
    rw [hnone]
    exact Nat.zero_le _

/-- Further events about nodes leave the first event as it is. -/
theorem Reports.opened_append (reports : run.Reports graph limit) {more : List Event}
    (hmore : ∀ event ∈ more, event.executionId = run.executionId ∧
      ∃ id, graph.contains id = true ∧ event.node? = some id.text) :
    ∃ inner, run.events ++ more = .evaluationStarted run.executionId graph.size :: inner ∧
      ∀ event ∈ inner, event.executionId = run.executionId ∧
        ∃ id, graph.contains id = true ∧ event.node? = some id.text := by
  obtain ⟨inner, hevents, hinner⟩ := reports.opened
  refine ⟨inner ++ more, by rw [hevents, List.cons_append], fun event hevent ↦ ?_⟩
  rcases List.mem_append.mp hevent with hold | hnew
  · exact hinner event hold
  · exact hmore event hnew

theorem Reports.mem_resolved (reports : run.Reports graph limit) {id : NodeId}
    (h : run.states.get? id = some .resolved) :
    ∃ outputs, .nodeResolved run.executionId id.text outputs ∈ run.events := by
  obtain ⟨outputs, habout⟩ := reports.tells id .resolved h
  refine ⟨outputs, (List.mem_filter.mp (?_ : _ ∈ about id run.events)).1⟩
  rw [habout]
  exact List.mem_cons_of_mem _ List.mem_cons_self

theorem Reports.startNode (reports : run.Reports graph limit) (tracks : run.Tracks graph order)
    {position : Nat} {node : Node} (starts : run.Starts graph limit position node) :
    (startNode graph { run with ready := run.ready.erase position } node).Reports graph limit := by
  obtain ⟨-, hpending, hnil⟩ := tracks.of_starts starts
  have hroom : ∀ most, limit = some most → run.running.length < most := by
    rintro most rfl
    have hfull := starts.room
    rw [IsFull, Option.any_some, decide_eq_true_eq] at hfull
    exact Nat.lt_of_not_le hfull
  have hcontains : graph.contains node.id = true :=
    (Graph.contains_iff graph node.id).mpr ⟨node, starts.found⟩
  refine ⟨reports.opened_append ?_, fun id state h ↦ ?_, each_concat_iff.mpr
    ⟨reports.allowed, node.id, rfl, fun source hfeeds ↦ ?_⟩, ?_, fun most hlimit ↦ ?_,
    fun most hlimit ↦ ?_⟩
  · intro event hevent
    rw [List.mem_singleton.mp hevent]
    exact ⟨rfl, node.id, hcontains, rfl⟩
  · change (run.states.insert node.id .resolving).get? id = some state at h
    change Tells run.executionId id (about id (run.events ++ [_])) state
    rw [OrderedMap.get?_insert] at h
    rw [about_append]
    split_ifs at h with hid
    · obtain rfl := Option.some.inj h
      have hnone : about id run.events = [] := reports.tells id .pending (hid ▸ hpending)
      rw [hnone, hid, about_of_node? rfl]
      rfl
    · rw [about_of_ne rfl hid, List.append_nil]
      exact reports.tells id state h
  · exact reports.mem_resolved (unresolved_eq_nil_iff.mp hnil source hfeeds)
  · change (run.events ++ [_]).countP isStart =
      (run.events ++ [_]).countP isCompletion + (run.running ++ [_]).length
    rw [List.countP_append, List.countP_append, reports.running, List.length_append]
    simp [isStart, isCompletion, Nat.add_assoc]
  · change (run.running ++ [_]).length ≤ most
    rw [List.length_append]
    exact hroom most hlimit
  · change Bounded most (run.events ++ [.nodeStarted run.executionId node.id.text])
    refine bounded_append (reports.bounded most hlimit) fun begun hbegun ↦ ?_
    have hone : begun.countP isStart ≤ 1 := List.Sublist.countP_le hbegun.sublist
    have hrunning := reports.running
    have hless := hroom most hlimit
    rw [List.countP_append, List.countP_append]
    omega

theorem length_finish {task : Task} (running : task ∈ run.running) :
    (run.finish task).running.length + 1 = run.running.length := by
  have hpos := List.length_pos_of_mem running
  rw [finish, List.length_eraseP_of_mem running (by simp)]
  omega

/-- When a node completes, the count of running nodes goes down by one and no bound is passed. -/
theorem Reports.counts_append (reports : run.Reports graph limit) {task : Task}
    (running : task ∈ run.running) (more : List Event)
    (hstart : ∀ event ∈ more, event.isStart = false) (hone : more.countP isCompletion = 1) :
    (run.events ++ more).countP isStart =
        (run.events ++ more).countP isCompletion + (run.finish task).running.length ∧
      (∀ most, limit = some most → (run.finish task).running.length ≤ most) ∧
      ∀ most, limit = some most → Bounded most (run.events ++ more) := by
  have hlength := length_finish running
  have hrunning := reports.running
  have hnone : more.countP isStart = 0 :=
    List.countP_eq_zero.mpr fun event hevent ↦ by simp [hstart event hevent]
  refine ⟨?_, fun most hlimit ↦ ?_, fun most hlimit ↦ ?_⟩
  · rw [List.countP_append, List.countP_append]
    omega
  · have hroom := reports.room most hlimit
    omega
  · exact bounded_append_of_no_start (reports.bounded most hlimit) hrunning
      (reports.room most hlimit) hstart

theorem Reports.complete_ok (reports : run.Reports graph limit) (tracks : run.Tracks graph order)
    (orders : graph.Orders order) {task : Task} (running : task ∈ run.running)
    (outputs : Boxes) :
    (resolve graph
      ((run.finish task).emit (.nodeResolved run.executionId task.node.text outputs.toJson))
      task.node outputs).Reports graph limit := by
  have hresolving := (tracks.of_running running).1
  have hcontains := (orders.mem_iff task.node).mp ((tracks.state task.node).mp ⟨_, hresolving⟩)
  obtain ⟨hcount, hroom, hbounded⟩ := reports.counts_append running
    [.nodeResolved run.executionId task.node.text outputs.toJson] (by simp [isStart]) rfl
  rw [resolve_frame]
  refine ⟨reports.opened_append ?_, fun id state h ↦ ?_,
    each_concat_iff.mpr ⟨reports.allowed, trivial⟩, hcount, hroom, hbounded⟩
  · intro event hevent
    rw [List.mem_singleton.mp hevent]
    exact ⟨rfl, task.node, hcontains, rfl⟩
  · change (run.states.insert task.node .resolved).get? id = some state at h
    change Tells run.executionId id (about id (run.events ++ [_])) state
    rw [OrderedMap.get?_insert] at h
    rw [about_append]
    split_ifs at h with hid
    · obtain rfl := Option.some.inj h
      have hstarted : about id run.events = [.nodeStarted run.executionId id.text] :=
        reports.tells id .resolving (hid ▸ hresolving)
      rw [hstarted, ← hid, about_of_node? rfl]
      exact ⟨outputs.toJson, rfl⟩
    · rw [about_of_ne rfl hid, List.append_nil]
      exact reports.tells id state h

theorem events_fail (graph : Graph) (run : Run) (task : Task) (error : GraphError) :
    (fail graph
      ((run.finish task).emit (.nodeFailed run.executionId task.node.text error.message))
      task.node error).events =
      run.events ++ failureReport run.executionId task.node error.message
        (skippedBy graph run task.node) := by
  rw [fail_frame, failureReport, List.append_cons]
  rfl

/-- When a node fails, one event about it says so, and one about each node skipped with it. -/
theorem Reports.tells_fail (reports : run.Reports graph limit) (tracks : run.Tracks graph order)
    {task : Task} (running : task ∈ run.running) (error : GraphError) (event : Event)
    {id : NodeId} {state : NodeState}
    (h : (fail graph ((run.finish task).emit event) task.node error).states.get? id =
      some state) :
    Tells run.executionId id (about id (run.events ++ failureReport run.executionId task.node
      error.message (skippedBy graph run task.node))) state := by
  have hresolving := (tracks.of_running running).1
  have hnodup := (pairwise_skippedBy graph run task.node).imp Std.ne_of_lt
  have hself := tracks.notMem_skippedBy running (by simp) hresolving
  have hstate : (if id = task.node ∨ id ∈ skippedBy graph run task.node then some .failed
      else run.states.get? id) = some state := by
    rw [← h, get?_states_fail]
    rfl
  rw [about_append, about_failureReport _ _ hnodup hself]
  by_cases hnode : id = task.node
  · rw [if_pos (Or.inl hnode)] at hstate
    obtain rfl := Option.some.inj hstate
    have hstarted : about id run.events = [.nodeStarted run.executionId id.text] :=
      reports.tells id .resolving (hnode ▸ hresolving)
    rw [hstarted, if_pos hnode]
    exact Or.inl ⟨error.message, rfl⟩
  · rw [if_neg hnode]
    by_cases hskip : id ∈ skippedBy graph run task.node
    · rw [if_pos (Or.inr hskip)] at hstate
      obtain rfl := Option.some.inj hstate
      have hpending := ((tracks.mem_skippedBy_iff running id).mp hskip).1
      have hnone : about id run.events = [] := reports.tells id .pending hpending
      rw [hnone, if_pos hskip]
      exact Or.inr ⟨task.node.text, rfl⟩
    · rw [if_neg (not_or.mpr ⟨hnode, hskip⟩)] at hstate
      rw [if_neg hskip, List.append_nil]
      exact reports.tells id state hstate

theorem Reports.complete_error (reports : run.Reports graph limit)
    (tracks : run.Tracks graph order) (orders : graph.Orders order) {task : Task}
    (running : task ∈ run.running) (error : GraphError) :
    (fail graph
      ((run.finish task).emit (.nodeFailed run.executionId task.node.text error.message))
      task.node error).Reports graph limit := by
  let failure : Event := .nodeFailed run.executionId task.node.text error.message
  have hresolving := (tracks.of_running running).1
  have hcontains : ∀ id state, run.states.get? id = some state → graph.contains id = true :=
    fun id state h ↦ (orders.mem_iff id).mp ((tracks.state id).mp ⟨state, h⟩)
  have hevents := events_fail graph run task error
  have hid : (fail graph ((run.finish task).emit failure) task.node error).executionId =
      run.executionId := by rw [fail_frame]; rfl
  have hrunning : (fail graph ((run.finish task).emit failure) task.node error).running =
      (run.finish task).running := by rw [fail_frame]; rfl
  obtain ⟨hcount, hroom, hbounded⟩ := reports.counts_append running
    (failureReport run.executionId task.node error.message (skippedBy graph run task.node))
    (fun event hevent ↦ isStart_of_mem_failureReport hevent)
    (countP_isCompletion_failureReport _ _ _ _)
  refine ⟨?_, fun id state h ↦ ?_, ?_, ?_, ?_, ?_⟩
  · rw [hevents, hid]
    refine reports.opened_append fun event hevent ↦ ?_
    rcases mem_failureReport_iff.mp hevent with rfl | ⟨id, hskip, rfl⟩
    · exact ⟨rfl, task.node, hcontains _ _ hresolving, rfl⟩
    · have hpending := ((tracks.mem_skippedBy_iff running id).mp hskip).1
      exact ⟨rfl, id, hcontains _ _ hpending, rfl⟩
  · rw [hevents, hid]
    exact reports.tells_fail tracks running error failure h
  · rw [hevents, hid]
    exact each_allowed_append_failureReport reports.allowed task.node error.message
      (pairwise_skippedBy graph run task.node)
  · rw [hevents, hrunning]
    exact hcount
  · rw [hrunning]
    exact hroom
  · rw [hevents]
    exact hbounded

theorem Reports.step (reports : run.Reports graph limit) (tracks : run.Tracks graph order)
    (orders : graph.Orders order) (step : Step graph limit run next) :
    next.Reports graph limit := by
  cases step with
  | start starts => exact reports.startNode tracks starts
  | @complete task _ running =>
    cases hresult : task.result with
    | ok outputs =>
      rw [complete_of_ok hresult]
      exact reports.complete_ok tracks orders running outputs
    | error error =>
      rw [complete_of_error hresult]
      exact reports.complete_error tracks orders running error

theorem Reports.steps (reports : run.Reports graph limit) (tracks : run.Tracks graph order)
    (orders : graph.Orders order) (wellFormed : graph.WellFormed)
    (steps : Steps graph limit run next) : next.Reports graph limit := by
  induction steps with
  | refl => exact reports
  | tail steps step ih => exact ih.step (tracks.steps orders wellFormed steps) orders step

end Run

/-! ### The whole trace -/

/-- The event that ends an evaluation with this outcome. -/
def Outcome.event (executionId : String) : Outcome → Event
  | .resolved _ => .evaluationCompleted executionId
  | .failed report => .evaluationFailed executionId report.error.message

/-- The events of an evaluation as they have to be. Between the first event, which counts the nodes
of the graph, and the last, which says how the evaluation ended, are events about nodes of the graph
only, and none if the graph has a cycle; otherwise each node is started and resolves, or is started
and fails, or is skipped. Every event is allowed by those before it, and the bound on running nodes
holds at every time. -/
structure Trace.Orderly (graph : Graph) (config : Config) (executionId : String)
    (trace : Trace) : Prop where
  brackets : ∃ inner,
    trace.events =
      .evaluationStarted executionId graph.size :: inner ++ [trace.outcome.event executionId] ∧
    (∀ event ∈ inner, ∃ id, graph.contains id = true ∧ event.node? = some id.text) ∧
    (¬ graph.Acyclic → inner = [])
  named : ∀ event ∈ trace.events, event.executionId = executionId
  ways : graph.Acyclic → ∀ id, graph.contains id = true →
    (∃ outputs, about id trace.events =
      [.nodeStarted executionId id.text, .nodeResolved executionId id.text outputs]) ∨
    (∃ error, about id trace.events =
      [.nodeStarted executionId id.text, .nodeFailed executionId id.text error]) ∨
    ∃ origin, about id trace.events = [.nodeSkipped executionId id.text origin]
  allowed : Each (Allowed graph executionId) trace.events
  bounded : ∀ most, config.maxConcurrency = some most → Bounded (max 1 most) trace.events

theorem Outcome.node?_event (outcome : Outcome) (executionId : String) :
    (outcome.event executionId).node? = none := by
  cases outcome <;> rfl

theorem Outcome.executionId_event (outcome : Outcome) (executionId : String) :
    (outcome.event executionId).executionId = executionId := by
  cases outcome <;> rfl

theorem Outcome.allowed_event (outcome : Outcome) (graph : Graph) (executionId : String)
    (before : List Event) : Allowed graph executionId before (outcome.event executionId) := by
  cases outcome <;> exact trivial

theorem Run.events_conclude (run : Run) :
    run.conclude.events = run.events ++ [run.conclude.outcome.event run.executionId] := by
  unfold Run.conclude
  split <;> rfl

/-- The event that ends an evaluation is about no node. -/
theorem Run.about_conclude (run : Run) (id : NodeId) :
    about id run.conclude.events = about id run.events := by
  rw [events_conclude, about_append, about_of_none (Outcome.node?_event _ _), List.append_nil]

/-- A run in which every node has come to its end concludes with orderly events. -/
theorem Run.Reports.orderly {graph : Graph} {order : List NodeId} {config : Config} {run : Run}
    (reports : run.Reports graph config.bound) (orders : graph.Orders order)
    (wellFormed : graph.WellFormed) (settled : ∀ id ∈ order, run.IsSettled id) :
    run.conclude.Orderly graph config run.executionId := by
  obtain ⟨inner, hevents, hinner⟩ := reports.opened
  refine ⟨⟨inner, ?_, fun event hevent ↦ (hinner event hevent).2, fun cyclic ↦ ?_⟩, ?_, ?_, ?_, ?_⟩
  · rw [events_conclude, hevents]
  · exact absurd (orders.acyclic wellFormed) cyclic
  · intro event hevent
    rw [events_conclude, hevents, List.mem_append, List.mem_cons, List.mem_singleton] at hevent
    rcases hevent with (rfl | hmem) | rfl
    · rfl
    · exact (hinner event hmem).1
    · exact Outcome.executionId_event _ _
  · intro _ id hid
    rw [about_conclude]
    rcases settled id ((orders.mem_iff id).mpr hid) with hstate | hstate
    · exact Or.inl (reports.tells id .resolved hstate)
    · exact Or.inr (reports.tells id .failed hstate)
  · rw [events_conclude]
    exact each_concat_iff.mpr ⟨reports.allowed, Outcome.allowed_event _ _ _ _⟩
  · intro most hmost
    have hbound : config.bound = some (max 1 most) := by rw [Config.bound, hmost, Option.map_some]
    rw [events_conclude]
    refine bounded_append_of_no_start (reports.bounded _ hbound) reports.running
      (reports.room _ hbound) fun event hevent ↦ ?_
    rw [List.mem_singleton.mp hevent]
    cases run.conclude.outcome <;> rfl

/-- The refusal of a graph with a cycle is an orderly trace, with nothing between its two events. -/
theorem orderly_of_error {graph : Graph} (wellFormed : graph.WellFormed) (config : Config)
    (freshId : String) {node : NodeId} (horder : graph.order = .error node) :
    (graph.evaluate config freshId).Orderly graph config (config.executionId.getD freshId) := by
  have cyclic : ¬ graph.Acyclic := by
    intro acyclic
    obtain ⟨order, h⟩ := Graph.exists_order_of_acyclic wellFormed acyclic
    rw [horder] at h
    cases h
  rw [Graph.evaluate, horder]
  refine ⟨⟨[], rfl, fun _ h ↦ absurd h List.not_mem_nil, fun _ ↦ rfl⟩, ?_,
    fun acyclic ↦ absurd acyclic cyclic, ?_, fun most _ ↦ ?_⟩
  · intro event hevent
    rcases List.mem_pair.mp hevent with rfl | rfl <;> rfl
  · exact each_concat_iff.mpr ⟨each_concat_iff.mpr ⟨each_nil _, trivial⟩, trivial⟩
  · intro before hbefore
    have hnone : before.countP isStart = 0 := by
      refine List.countP_eq_zero.mpr fun event hevent ↦ ?_
      rcases List.mem_pair.mp (hbefore.subset hevent) with rfl | rfl <;> exact Bool.false_ne_true
    rw [hnone]
    exact Nat.zero_le _

end FlowGraph.Evaluation

namespace FlowGraph.Graph

open Evaluation

/-- The events of every evaluation are orderly, whatever the graph, the bound on running nodes and
the order in which they complete. -/
theorem evaluation_trace_orderly (graph : Graph) (reachable : graph.Reachable) (config : Config)
    (freshId : String) :
    graph.Evaluates config freshId (graph.evaluate config freshId) ∧
      ∀ trace, graph.Evaluates config freshId trace →
        trace.Orderly graph config (config.executionId.getD freshId) := by
  have wellFormed := reachable.wellFormed
  refine ⟨wellFormed.evaluates_evaluate config freshId, fun trace h ↦ ?_⟩
  cases horder : graph.order with
  | error node =>
    rw [Evaluates, horder] at h
    rw [h]
    exact orderly_of_error wellFormed config freshId horder
  | ok order =>
    obtain ⟨final, ⟨other, hother, steps⟩, sound, settled, rfl⟩ := h.of_order wellFormed horder
    obtain rfl : order = other := Except.ok.inj (horder.symm.trans hother)
    have tracks := Run.tracks_start (config.executionId.getD freshId) sound.orders
    have reports := (Run.reports_start _ sound.orders).steps tracks sound.orders wellFormed steps
    have hid : final.executionId = config.executionId.getD freshId := Run.executionId_of_steps steps
    rw [← hid]
    exact reports.orderly sound.orders wellFormed settled

/-- Between its start and its end the evaluation of the relay tells of the first node and then of
the second, although two nodes may run at once. -/
theorem evaluation_trace_orderly_relay :
    relay.Reachable ∧ ∃ outputs,
      (relay.evaluate ⟨some 2, some "run"⟩ "fresh").events =
        [ .evaluationStarted "run" 2,
          .nodeStarted "run" (NodeId.ofNat 1).text,
          .nodeResolved "run" (NodeId.ofNat 1).text outputs,
          .nodeStarted "run" (NodeId.ofNat 2).text,
          .nodeResolved "run" (NodeId.ofNat 2).text outputs,
          .evaluationCompleted "run" ] ∧
      (relay.evaluate ⟨some 2, some "run"⟩ "fresh").Orderly relay ⟨some 2, some "run"⟩ "run" := by
  obtain ⟨hevaluates, horderly⟩ :=
    evaluation_trace_orderly relay reachable_relay ⟨some 2, some "run"⟩ "fresh"
  exact ⟨reachable_relay, _, rfl, horderly _ hevaluates⟩

end FlowGraph.Graph
