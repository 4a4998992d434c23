import FlowGraph.Proofs.Evaluation.Schedule
import FlowGraph.Proofs.Evaluation.Walk

/-!
Evaluation refines the reference walk. Whatever a run has found at some point, the walk finds too
(`Agrees.steps`): a node is started when all it reads from has resolved, so that its inputs are the
ones that the walk gives it. A run that is over has settled every node, so it has found everything
that the walk finds, and its outcome is the one that the walk predicts, whichever running nodes
completed first.
-/

set_option autoImplicit false
set_option relaxedAutoImplicit false

namespace FlowGraph

open Evaluation

namespace Evaluation.Run

variable {graph : Graph} {order : List NodeId} {walk : Walk} {run next : Run} {limit : Option Nat}

/-- What a run has found, a walk finds. -/
structure Agrees (graph : Graph) (walk : Walk) (run : Run) : Prop where
  outputs : ∀ id outputs, run.outputs.get? id = some outputs →
    walk.compute? graph id = some (.ok outputs)
  running : ∀ task ∈ run.running, walk.compute? graph task.node = some task.result
  ownFailures : ∀ place id error, run.ownFailures.get? place = some (id, error) →
    walk.compute? graph id = some (.error error)

theorem agrees_start (walk : Walk) (executionId : String) :
    (start executionId graph order).Agrees graph walk where
  outputs id outputs h := by simp [start] at h
  running task h := by simp [start] at h
  ownFailures place id error h := by simp [start] at h

/-- A node that waits on nothing is given the inputs that the walk gives it. -/
theorem Agrees.compute?_eq (agrees : run.Agrees graph walk) (tracks : run.Tracks graph order)
    (wellFormed : graph.WellFormed) (follows : walk.Follows graph order) {id : NodeId}
    (hnil : unresolved graph run.states id = []) :
    walk.compute? graph id =
      (graph.node? id).map fun node ↦
        (node.run (node.assembleInputs graph run.outputs)).result := by
  have hfound : ∀ source, graph.Feeds source id →
      walk.states.get? source = some .resolved ∧
        walk.outputs.get? source = run.outputs.get? source := by
    intro source hfeeds
    have hstate := unresolved_eq_nil_iff.mp hnil source hfeeds
    have hsource := (tracks.state source).mp ⟨_, hstate⟩
    obtain ⟨outputs, houtputs⟩ := (tracks.outputs source).mpr hstate
    have hcompute := agrees.outputs source outputs houtputs
    constructor
    · rw [follows.state_of_compute? hsource, hcompute]
      rfl
    · rw [houtputs]
      exact (follows.outputs source outputs).mpr ⟨hsource, hcompute⟩
  unfold Walk.compute?
  rw [if_pos fun source hsource ↦ (hfound source (Graph.mem_dependencies.mp hsource)).1]
  refine Option.map_congr fun node hnode ↦ ?_
  have hid := wellFormed.own_id id node hnode
  rw [node.assembleInputs_congr fun source hfeeds ↦ (hfound source (hid ▸ hfeeds)).2]

theorem Agrees.step (agrees : run.Agrees graph walk) (tracks : run.Tracks graph order)
    (wellFormed : graph.WellFormed) (follows : walk.Follows graph order)
    (step : Step graph limit run next) : next.Agrees graph walk := by
  cases step with
  | @start position node starts =>
    refine ⟨agrees.outputs, fun task htask ↦ ?_, agrees.ownFailures⟩
    rcases List.mem_append.mp htask with hold | hnew
    · exact agrees.running task hold
    · have hcompute := agrees.compute?_eq tracks wellFormed follows (tracks.of_starts starts).2.2
      rw [List.mem_singleton.mp hnew, hcompute, starts.found]
      rfl
  | @complete task _ running =>
    have hcompute := agrees.running task running
    have hrunning : ∀ other ∈ (run.finish task).running,
        walk.compute? graph other.node = some other.result :=
      fun other hother ↦ agrees.running other (List.mem_of_mem_eraseP hother)
    cases hresult : task.result with
    | ok outputs =>
      rw [hresult] at hcompute
      rw [complete_of_ok hresult, resolve_frame]
      refine ⟨fun id found h ↦ ?_, hrunning, agrees.ownFailures⟩
      change (run.outputs.insert task.node outputs).get? id = some found at h
      rw [OrderedMap.get?_insert] at h
      split_ifs at h with hid
      · rw [hid, hcompute, Option.some.inj h]
      · exact agrees.outputs id found h
    | error error =>
      rw [hresult] at hcompute
      rw [complete_of_error hresult, fail_frame]
      refine ⟨agrees.outputs, hrunning, fun place id found h ↦ ?_⟩
      change (run.ownFailures.insert _ (task.node, error)).get? place = some (id, found) at h
      rw [OrderedMap.get?_insert] at h
      split_ifs at h with hplace
      · obtain ⟨rfl, rfl⟩ := Prod.mk.inj (Option.some.inj h)
        exact hcompute
      · exact agrees.ownFailures place id found h

/-- A run along an order of the nodes that keeps its books and agrees with the walk. -/
structure Sound (graph : Graph) (order : List NodeId) (run : Run) : Prop where
  orders : graph.Orders order
  follows : (graph.walk order).Follows graph order
  tracks : run.Tracks graph order
  agrees : run.Agrees graph (graph.walk order)

theorem sound_start (executionId : String) (orders : graph.Orders order)
    (wellFormed : graph.WellFormed) : (start executionId graph order).Sound graph order :=
  ⟨orders, Walk.follows_walk wellFormed orders, tracks_start executionId orders,
    agrees_start _ executionId⟩

theorem Sound.steps (sound : run.Sound graph order) (wellFormed : graph.WellFormed)
    (steps : Steps graph limit run next) : next.Sound graph order := by
  induction steps with
  | refl => exact sound
  | tail _ step ih =>
    exact ⟨ih.orders, ih.follows, ih.tracks.step ih.orders wellFormed step,
      ih.agrees.step ih.tracks wellFormed ih.follows step⟩

/-! ### A run that is over -/

theorem Sound.state_of_resolved (sound : run.Sound graph order) {id : NodeId}
    (h : run.states.get? id = some .resolved) :
    (graph.walk order).states.get? id = some .resolved := by
  obtain ⟨outputs, houtputs⟩ := (sound.tracks.outputs id).mpr h
  rw [sound.follows.state_of_compute? ((sound.tracks.state id).mp ⟨_, h⟩),
    sound.agrees.outputs id outputs houtputs]
  rfl

theorem Sound.state_of_failed (sound : run.Sound graph order) {id : NodeId}
    (h : run.states.get? id = some .failed) :
    (graph.walk order).states.get? id = some .failed := by
  have hall : ∀ id ∈ order, run.states.get? id = some .failed →
      (graph.walk order).states.get? id = some .failed := by
    refine sound.orders.induction fun id hid hsources hfailed ↦ ?_
    rw [sound.follows.state_of_compute? hid]
    rcases sound.tracks.upstream id hfailed with ⟨place, error, hown⟩ | ⟨source, hfeeds, hsource⟩
    · rw [sound.agrees.ownFailures place id error hown]
      rfl
    · have hnone := hsources source hfeeds hsource
      rw [Walk.compute?_eq_none_of_feeds hfeeds (by simp [hnone])]
      rfl
  exact hall id ((sound.tracks.state id).mp ⟨_, h⟩) h

/-- A failure is on record at a place when the node there has failed, and of its own computation the
walk finds this failure. -/
theorem Sound.get?_ownFailures_iff (sound : run.Sound graph order) {place : Nat} {id : NodeId}
    {error : GraphError} :
    run.ownFailures.get? place = some (id, error) ↔
      order[place]? = some id ∧ run.states.get? id = some .failed ∧
        (graph.walk order).compute? graph id = some (.error error) := by
  constructor
  · intro hown
    obtain ⟨hplace, hfailed, -⟩ := sound.tracks.ownFailures place id error hown
    exact ⟨hplace, hfailed, sound.agrees.ownFailures place id error hown⟩
  · rintro ⟨hplace, hfailed, hcompute⟩
    rcases sound.tracks.upstream id hfailed with ⟨index, found, hown⟩ | ⟨source, hfeeds, hsource⟩
    · have hsame := (sound.agrees.ownFailures index id found hown).symm.trans hcompute
      have hindex := (sound.tracks.ownFailures index id found hown).1
      rw [place_unique sound.orders.nodup hplace hindex, hown,
        Except.error.inj (Option.some.inj hsame)]
    · have hnone := sound.state_of_failed hsource
      rw [Walk.compute?_eq_none_of_feeds hfeeds (by simp [hnone])] at hcompute
      cases hcompute

section Settled

variable (sound : run.Sound graph order) (settled : ∀ id ∈ order, run.IsSettled id)

include sound settled

theorem Sound.states_eq : run.states = (graph.walk order).states := by
  refine OrderedMap.eq_of_get?_eq fun id ↦ ?_
  by_cases hid : id ∈ order
  · rcases settled id hid with h | h
    · rw [h, sound.state_of_resolved h]
    · rw [h, sound.state_of_failed h]
  · rw [sound.follows.state, if_neg hid]
    refine Option.eq_none_iff_forall_ne_some.mpr fun state h ↦ ?_
    exact hid ((sound.tracks.state id).mp ⟨state, h⟩)

theorem Sound.outputs_eq : run.outputs = (graph.walk order).outputs := by
  have hstates := sound.states_eq settled
  refine OrderedMap.eq_of_get?_eq fun id ↦ Option.ext fun outputs ↦ ?_
  rw [sound.follows.outputs]
  constructor
  · intro h
    have hstate := (sound.tracks.outputs id).mp ⟨outputs, h⟩
    exact ⟨(sound.tracks.state id).mp ⟨_, hstate⟩, sound.agrees.outputs id outputs h⟩
  · rintro ⟨hid, h⟩
    have hstate : run.states.get? id = some .resolved := by
      rw [hstates, sound.follows.state_of_compute? hid, h]
      rfl
    obtain ⟨found, hfound⟩ := (sound.tracks.outputs id).mpr hstate
    have hsame := (sound.agrees.outputs id found hfound).symm.trans h
    rw [hfound, Except.ok.inj (Option.some.inj hsame)]

/-- By position in the order, the own failures of a run are the failures of the walk. -/
theorem Sound.ownFailures_eq : run.ownFailures.values = (graph.walk order).failures := by
  rw [sound.follows.failures]
  refine OrderedMap.values_eq_filterMap fun place failure ↦ ?_
  obtain ⟨id, error⟩ := failure
  simp only [Walk.ownFailure?_eq_some_iff, sound.get?_ownFailures_iff]
  constructor
  · rintro ⟨hplace, -, hcompute⟩
    exact ⟨id, hplace, rfl, hcompute⟩
  · rintro ⟨other, hplace, rfl, hcompute⟩
    have hstate : run.states.get? other = some .failed := by
      rw [sound.states_eq settled,
        sound.follows.state_of_compute? (List.mem_of_getElem? hplace), hcompute]
      rfl
    exact ⟨hplace, hstate, hcompute⟩

/-- Without a failure of a node's own computation every node resolves. -/
theorem Sound.resolved_of_ownFailures_nil (h : run.ownFailures.entries = []) :
    ∀ id ∈ order, run.states.get? id = some .resolved := by
  refine sound.orders.induction fun id hid hsources ↦ ?_
  refine (settled id hid).resolve_right fun hfailed ↦ ?_
  rcases sound.tracks.upstream id hfailed with ⟨place, error, hown⟩ | ⟨source, hfeeds, hsource⟩
  · rw [(OrderedMap.entries_eq_nil_iff run.ownFailures).mp h place] at hown
    cases hown
  · rw [hsources source hfeeds] at hsource
    cases hsource

end Settled

end Evaluation.Run

/-! ### The outcome -/

/-- What a walk predicts of the report of a failed evaluation: it names the failure that comes first
in the walk, every node of the graph has the verdict of the walk, and exactly the failed nodes have
a failure on record, with the root cause where the node's own computation failed. -/
structure Walk.PredictsReport (graph : Graph) (walk : Walk) (report : Report) : Prop where
  first : walk.failures.head? = some (report.node, report.error)
  states : report.states = walk.states
  verdicts : ∀ id, graph.contains id = true ↔
    report.states.get? id = some .resolved ∨ report.states.get? id = some .failed
  settled : ∀ id state, report.states.get? id = some state → state = .resolved ∨ state = .failed
  failures : ∀ id, (∃ failure, report.failures.get? id = some failure) ↔
    walk.states.get? id = some .failed
  causes : ∀ id error, (id, error) ∈ walk.failures →
    report.failures.get? id = some ⟨id, error.rootCause.message⟩

/-- What a walk predicts of the outcome of an evaluation: it resolves exactly when every node does
in the walk, and then with the outputs of the walk. -/
structure Walk.Predicts (graph : Graph) (walk : Walk) (outcome : Outcome) : Prop where
  resolved_iff : (∃ outputs, outcome = .resolved outputs) ↔
    ∀ id, graph.contains id = true → walk.states.get? id = some .resolved
  outputs : ∀ outputs, outcome = .resolved outputs → outputs = walk.outputs
  report : ∀ report, outcome = .failed report → walk.PredictsReport graph report

namespace Evaluation.Run

variable {graph : Graph} {order : List NodeId} {walk : Walk} {run : Run}

theorem conclude_resolved_iff {outputs : OrderedMap NodeId Boxes} :
    run.conclude.outcome = .resolved outputs ↔
      run.ownFailures.entries = [] ∧ run.outputs = outputs := by
  unfold conclude
  split
  · next hnone => simp [hnone]
  · next hsome => simp [hsome]

theorem conclude_failed_iff {report : Report} :
    run.conclude.outcome = .failed report ↔
      run.ownFailures.values.head? = some (report.node, report.error) ∧
        run.states = report.states ∧ run.failures = report.failures := by
  obtain ⟨node, error, states, failures⟩ := report
  unfold conclude OrderedMap.values
  split
  · next hnone => simp [hnone]
  · next hsome => simp [hsome, and_assoc]

theorem Sound.predictsReport (sound : run.Sound graph order)
    (settled : ∀ id ∈ order, run.IsSettled id) {report : Report}
    (h : run.conclude.outcome = .failed report) :
    (graph.walk order).PredictsReport graph report := by
  obtain ⟨hfirst, hstates, hfailures⟩ := conclude_failed_iff.mp h
  rw [sound.ownFailures_eq settled] at hfirst
  rw [sound.states_eq settled] at hstates
  refine ⟨hfirst, hstates.symm, fun id ↦ ?_, fun id state hstate ↦ ?_, fun id ↦ ?_,
    fun id cause hcause ↦ ?_⟩
  · rw [← hstates, ← sound.states_eq settled, ← sound.orders.mem_iff]
    refine ⟨fun hid ↦ settled id hid, fun hstate ↦ (sound.tracks.state id).mp ?_⟩
    exact hstate.elim (fun h ↦ ⟨_, h⟩) fun h ↦ ⟨_, h⟩
  · rw [← hstates, ← sound.states_eq settled] at hstate
    have hsettled := settled id ((sound.tracks.state id).mp ⟨state, hstate⟩)
    exact hsettled.imp (fun h ↦ Option.some.inj (hstate.symm.trans h))
      fun h ↦ Option.some.inj (hstate.symm.trans h)
  · rw [← hfailures, ← sound.states_eq settled]
    exact sound.tracks.failures id
  · rw [← sound.ownFailures_eq settled] at hcause
    obtain ⟨index, hown⟩ := (OrderedMap.mem_values_iff run.ownFailures _).mp hcause
    rw [← hfailures]
    exact (sound.tracks.ownFailures index id cause hown).2.2

/-- The outcome of a run that is over is the one that the walk predicts. -/
theorem Sound.predicts (sound : run.Sound graph order)
    (settled : ∀ id ∈ order, run.IsSettled id) :
    (graph.walk order).Predicts graph run.conclude.outcome := by
  refine ⟨⟨?_, fun h ↦ ?_⟩, fun outputs h ↦ ?_, fun report ↦ sound.predictsReport settled⟩
  · rintro ⟨outputs, h⟩ id hid
    have hnil := (conclude_resolved_iff.mp h).1
    rw [← sound.states_eq settled]
    exact sound.resolved_of_ownFailures_nil settled hnil id ((sound.orders.mem_iff id).mpr hid)
  · have hnil : run.ownFailures.entries = [] := by
      refine (OrderedMap.entries_eq_nil_iff _).mpr fun place ↦ ?_
      refine Option.eq_none_iff_forall_ne_some.mpr fun failure hown ↦ ?_
      obtain ⟨hplace, hstate, -⟩ := sound.tracks.ownFailures place failure.1 failure.2 hown
      have hid := (sound.orders.mem_iff _).mp (List.mem_of_getElem? hplace)
      rw [sound.states_eq settled, h failure.1 hid] at hstate
      cases hstate
    exact ⟨run.outputs, conclude_resolved_iff.mpr ⟨hnil, rfl⟩⟩
  · rw [← (conclude_resolved_iff.mp h).2]
    exact sound.outputs_eq settled

end Evaluation.Run

namespace Graph

variable {graph : Graph} {order : List NodeId} {config : Config} {freshId : String}

/-- Every run that an evaluation passes through is sound along the order of the graph. -/
theorem PassesThrough.sound {run : Run} (through : graph.PassesThrough config freshId run)
    (wellFormed : graph.WellFormed) : ∃ order, graph.order = .ok order ∧ run.Sound graph order := by
  obtain ⟨order, horder, steps⟩ := through
  have orders := orders_of_order wellFormed horder
  exact ⟨order, horder, (Run.sound_start _ orders wellFormed).steps wellFormed steps⟩

/-- What a graph that has an order evaluates to concludes a sound run in which every node has come
to its end. -/
theorem Evaluates.of_order {trace : Trace} (h : graph.Evaluates config freshId trace)
    (wellFormed : graph.WellFormed) (horder : graph.order = .ok order) :
    ∃ final, graph.PassesThrough config freshId final ∧ final.Sound graph order ∧
      (∀ id ∈ order, final.IsSettled id) ∧ trace = final.conclude := by
  rw [Evaluates, horder] at h
  obtain ⟨final, through, ended, htrace⟩ := h
  obtain ⟨other, hother, sound⟩ := through.sound wellFormed
  obtain rfl : order = other := Except.ok.inj (horder.symm.trans hother)
  have settled := sound.tracks.settled_of_isOver sound.orders wellFormed config.bound_ne_zero ended
  exact ⟨final, through, sound, settled, htrace⟩

/-- Evaluation of a graph without cycles refines the reference walk along its order, for every bound
on the number of nodes that run at once. It is a run that is over, from its start there is no
endless sequence of steps, and whatever it can come to when any running node may complete next has
the outcome that the walk predicts. -/
theorem evaluation_refines_walk (graph : Graph) (reachable : graph.Reachable)
    (acyclic : graph.Acyclic) (config : Config) (freshId : String) :
    ∃ order, graph.topologicalOrder = .ok order ∧
      graph.Evaluates config freshId (graph.evaluate config freshId) ∧
      Acc (fun next run ↦ Run.Step graph config.bound run next)
        (Run.start (config.executionId.getD freshId) graph order) ∧
      ∀ trace, graph.Evaluates config freshId trace →
        (graph.walk order).Predicts graph trace.outcome := by
  have wellFormed := reachable.wellFormed
  obtain ⟨order, horder⟩ := exists_order_of_acyclic wellFormed acyclic
  have orders := orders_of_order wellFormed horder
  have hstart := Run.tracks_start (config.executionId.getD freshId) orders
  refine ⟨order, by rw [topologicalOrder, horder]; rfl,
    wellFormed.evaluates_evaluate config freshId, hstart.acc orders wellFormed, fun trace h ↦ ?_⟩
  obtain ⟨final, -, sound, settled, rfl⟩ := h.of_order wellFormed horder
  exact sound.predicts settled

/-- The text goes through the relay, as the walk predicts, one node at a time. -/
theorem evaluation_refines_walk_relay :
    relay.Reachable ∧ relay.Acyclic ∧
      relay.topologicalOrder = .ok [.ofNat 1, .ofNat 2] ∧ ∃ outputs,
        (relay.evaluate ⟨some 0, none⟩ "run").outcome = .resolved outputs ∧
          outputs.get? (.ofNat 2) = some (.ofList [("text", .string "")]) ∧
          (relay.walk [.ofNat 1, .ofNat 2]).Predicts relay (.resolved outputs) := by
  have hsorted : relay.topologicalOrder = .ok [.ofNat 1, .ofNat 2] := by rfl
  obtain ⟨order, horder, hevaluates, -, hpredicts⟩ :=
    evaluation_refines_walk relay reachable_relay acyclic_relay ⟨some 0, none⟩ "run"
  obtain rfl : [.ofNat 1, .ofNat 2] = order := Except.ok.inj (hsorted.symm.trans horder)
  obtain ⟨outputs, houtcome, htext⟩ : ∃ outputs,
      (relay.evaluate ⟨some 0, none⟩ "run").outcome = .resolved outputs ∧
        outputs.get? (.ofNat 2) = some (.ofList [("text", .string "")]) := ⟨_, rfl, rfl⟩
  have hwalk := hpredicts _ hevaluates
  rw [houtcome] at hwalk
  exact ⟨reachable_relay, acyclic_relay, hsorted, outputs, houtcome, htext, hwalk⟩

end Graph

end FlowGraph
