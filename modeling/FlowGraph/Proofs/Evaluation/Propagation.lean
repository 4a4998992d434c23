import FlowGraph.Proofs.Evaluation.Ancestry
import FlowGraph.Proofs.Graph.TopologicalSort

/-!
How failures spread. A node that has not failed by itself has failed because a failure came to it
from its origin along connections, and every node on the way was skipped for that same origin
(`Origins`). A later failure passes by what has failed already, so neither the origin on record nor
the way to it ever changes; and every skipped node is announced with the origin that is on record.
-/

set_option autoImplicit false
set_option relaxedAutoImplicit false

namespace FlowGraph

open Evaluation Relation

namespace Evaluation.Run

open Event

variable {graph : Graph} {order : List NodeId} {limit : Option Nat} {run next : Run}
  {task : Task} {origin source id : NodeId}

/-- The own computation of the node has failed. -/
def OwnFailed (run : Run) (id : NodeId) : Prop :=
  ∃ place error, run.ownFailures.get? place = some (id, error)

/-- The node was skipped, and its failure is inherited from the origin. -/
def SkippedFor (run : Run) (origin id : NodeId) : Prop :=
  ¬ run.OwnFailed id ∧ run.failures.get? id = some (inherited origin)

/-- A connection leads to a node that was skipped for the origin. -/
def Spreads (graph : Graph) (run : Run) (origin source target : NodeId) : Prop :=
  graph.Feeds source target ∧ run.SkippedFor origin target

/-- Where the failures on record come from, and which of them have been announced. -/
structure Origins (graph : Graph) (run : Run) : Prop where
  origin : ∀ id, run.states.get? id = some .failed →
    run.OwnFailed id ∨
      ∃ origin, run.OwnFailed origin ∧ TransGen (run.Spreads graph origin) origin id
  skipped : ∀ id origin, .nodeSkipped run.executionId id.text origin.text ∈ run.events ↔
    run.SkippedFor origin id

theorem inherited_inj {other : NodeId} (h : inherited origin = inherited other) :
    origin = other :=
  (Failure.mk.inj h).1

theorem origins_start (executionId : String) (orders : graph.Orders order) :
    (start executionId graph order).Origins graph where
  origin id h := by
    cases ((get?_states_start graph executionId orders.nodup id _).mp h).2
  skipped id origin := by simp [start, SkippedFor]

/-! ### Steps without a failure -/

/-- Where no more nodes have failed and none is announced as skipped, nothing changes. -/
theorem Origins.congr (origins : run.Origins graph) (hid : next.executionId = run.executionId)
    (hfailures : next.failures = run.failures) (hown : next.ownFailures = run.ownFailures)
    (hstates : ∀ id, next.states.get? id = some .failed → run.states.get? id = some .failed)
    (hevents : ∀ id origin, .nodeSkipped run.executionId id origin ∈ next.events ↔
      .nodeSkipped run.executionId id origin ∈ run.events) : next.Origins graph := by
  have howned : next.OwnFailed = run.OwnFailed := by
    unfold OwnFailed
    rw [hown]
  have hskipped : next.SkippedFor = run.SkippedFor := by
    unfold SkippedFor
    rw [howned, hfailures]
  refine ⟨fun id h ↦ ?_, fun id origin ↦ ?_⟩
  · unfold Spreads
    rw [howned, hskipped]
    exact origins.origin id (hstates id h)
  · rw [hid, hskipped, hevents]
    exact origins.skipped id origin

theorem Origins.startNode (origins : run.Origins graph) (tracks : run.Tracks graph order)
    {position : Nat} {node : Node} (starts : run.Starts graph limit position node) :
    (startNode graph { run with ready := run.ready.erase position } node).Origins graph := by
  obtain ⟨-, hpending, -⟩ := tracks.of_starts starts
  have hfailed : ∀ other, (run.states.insert node.id .resolving).get? other = some .failed ↔
      run.states.get? other = some .failed :=
    OrderedMap.get?_insert_eq_some_iff_of_ne hpending (by simp) (by simp)
  exact origins.congr rfl rfl rfl (fun id ↦ (hfailed id).mp) fun id origin ↦ by
    simp [Run.startNode]

theorem Origins.complete_ok (origins : run.Origins graph) (tracks : run.Tracks graph order)
    (running : task ∈ run.running) (outputs : Boxes) :
    (resolve graph
      ((run.finish task).emit (.nodeResolved run.executionId task.node.text outputs.toJson))
      task.node outputs).Origins graph := by
  have hfailed : ∀ other, (run.states.insert task.node .resolved).get? other = some .failed ↔
      run.states.get? other = some .failed :=
    OrderedMap.get?_insert_eq_some_iff_of_ne (tracks.of_running running).1 (by simp) (by simp)
  rw [resolve_frame]
  exact origins.congr rfl rfl rfl (fun id ↦ (hfailed id).mp) fun id origin ↦ by
    simp [Run.finish, emit]

/-! ### Failing a node -/

/-- A node whose own computation has failed has failed. -/
theorem Tracks.failed_of_ownFailed (tracks : run.Tracks graph order) (h : run.OwnFailed id) :
    run.states.get? id = some .failed := by
  obtain ⟨place, error, hown⟩ := h
  exact (tracks.ownFailures place id error hown).2.1

theorem Tracks.failed_of_skippedFor (tracks : run.Tracks graph order)
    (h : run.SkippedFor origin id) : run.states.get? id = some .failed :=
  (tracks.failures id).mp ⟨_, h.2⟩

section Fail

variable (tracks : run.Tracks graph order) (running : task ∈ run.running)
  (error : GraphError) (event : Event)

include tracks running

/-- The failure of a node is one more on record. -/
theorem Tracks.ownFailed_fail_iff :
    (fail graph ((run.finish task).emit event) task.node error).OwnFailed id ↔
      id = task.node ∨ run.OwnFailed id := by
  have hfree := tracks.ownFailures_of_running running
  have hown : ∀ place,
      (fail graph ((run.finish task).emit event) task.node error).ownFailures.get? place =
        if place = (run.position.get? task.node).getD run.order.length then some (task.node, error)
        else run.ownFailures.get? place :=
    fun place ↦ get?_ownFailures_fail _ _ _ _
  simp only [OwnFailed, hown]
  constructor
  · rintro ⟨place, found, hfound⟩
    split_ifs at hfound with hplace
    · exact Or.inl (Prod.mk.inj (Option.some.inj hfound)).1.symm
    · exact Or.inr ⟨place, found, hfound⟩
  · rintro (rfl | ⟨place, found, hfound⟩)
    · exact ⟨_, error, if_pos rfl⟩
    · refine ⟨place, found, ?_⟩
      rw [if_neg, hfound]
      rintro rfl
      rw [hfree] at hfound
      cases hfound

/-- The skipped nodes are those that have been and those that are skipped with the failing node. -/
theorem Tracks.skippedFor_fail_iff :
    (fail graph ((run.finish task).emit event) task.node error).SkippedFor origin id ↔
      run.SkippedFor origin id ∨ id ∈ skippedBy graph run task.node ∧ origin = task.node := by
  have hfailures : (fail graph ((run.finish task).emit event) task.node error).failures.get? id =
      if id ∈ skippedBy graph run task.node then some (inherited task.node)
      else if id = task.node then some ⟨task.node, error.rootCause.message⟩
      else run.failures.get? id :=
    get?_failures_fail _ task.node id error
  have hresolving := (tracks.of_running running).1
  have hold : run.states.get? id = some .failed →
      id ∉ skippedBy graph run task.node ∧ id ≠ task.node := fun h ↦
    ⟨tracks.notMem_skippedBy running (by simp) h, tracks.ne_of_running running (by simp) h⟩
  rw [SkippedFor, tracks.ownFailed_fail_iff running, hfailures, not_or]
  by_cases hskip : id ∈ skippedBy graph run task.node
  · -- a node that is skipped now was pending, and nothing was on record of it
    have hpending := ((tracks.mem_skippedBy_iff running id).mp hskip).1
    have hnew : ¬ run.SkippedFor origin id := fun h ↦ (hold (tracks.failed_of_skippedFor h)).1 hskip
    have howned : ¬ run.OwnFailed id := fun h ↦ (hold (tracks.failed_of_ownFailed h)).1 hskip
    have hne := tracks.ne_of_running running (by simp) hpending
    simp only [hskip, if_true, hne, not_false_eq_true, howned, and_self, true_and, hnew, false_or,
      Option.some.injEq]
    exact ⟨fun h ↦ (inherited_inj h).symm, fun h ↦ h ▸ rfl⟩
  · simp only [hskip, if_false, false_and, or_false]
    by_cases hnode : id = task.node
    · refine iff_of_false (fun h ↦ h.1.1 hnode) fun h ↦ ?_
      exact (hold (tracks.failed_of_skippedFor h)).2 hnode
    · simp only [hnode, not_false_eq_true, true_and, if_false, SkippedFor]

/-- A way along which a failure has spread stays as it is. -/
theorem Tracks.spreads_fail (h : run.Spreads graph origin source id) :
    (fail graph ((run.finish task).emit event) task.node error).Spreads graph origin source id :=
  ⟨h.1, (tracks.skippedFor_fail_iff running error event).mpr (Or.inl h.2)⟩

/-- To every node that is skipped with it, the failure of a node comes along skipped nodes. -/
theorem Tracks.spreads_of_mem_skippedBy (hskip : id ∈ skippedBy graph run task.node) :
    TransGen ((fail graph ((run.finish task).emit event) task.node error).Spreads graph task.node)
      task.node id := by
  have hlast : ∀ source id, TransGen ((run.withFailed task.node).Passes graph) task.node id →
      graph.Feeds source id →
        (fail graph ((run.finish task).emit event) task.node error).Spreads graph task.node
          source id := by
    intro source id way hfeeds
    have hid := (mem_skippedBy_iff_transGen graph run task.node id).mpr way
    exact ⟨hfeeds, (tracks.skippedFor_fail_iff running error event).mpr (Or.inr ⟨hid, rfl⟩)⟩
  rw [mem_skippedBy_iff_transGen] at hskip
  induction hskip with
  | single hpasses => exact .single (hlast _ _ (.single hpasses) hpasses.1)
  | tail way hpasses ih => exact .tail ih (hlast _ _ (.tail way hpasses) hpasses.1)

omit event in
theorem Origins.complete_error (origins : run.Origins graph) :
    (fail graph
      ((run.finish task).emit (.nodeFailed run.executionId task.node.text error.message))
      task.node error).Origins graph := by
  let failure : Event := .nodeFailed run.executionId task.node.text error.message
  have howned : ∀ {id : NodeId},
      (fail graph ((run.finish task).emit failure) task.node error).OwnFailed id ↔
        id = task.node ∨ run.OwnFailed id :=
    tracks.ownFailed_fail_iff running error failure
  refine ⟨fun id h ↦ ?_, fun id origin ↦ ?_⟩
  · rcases (get?_states_fail_eq_failed_iff _ task.node id error).mp h with rfl | hskip | hold
    · exact Or.inl (howned.mpr (Or.inl rfl))
    · exact Or.inr ⟨task.node, howned.mpr (Or.inl rfl),
        tracks.spreads_of_mem_skippedBy running error failure hskip⟩
    · rcases origins.origin id hold with hown | ⟨origin, hown, way⟩
      · exact Or.inl (howned.mpr (Or.inr hown))
      · refine Or.inr ⟨origin, howned.mpr (Or.inr hown), TransGen.mono ?_ _ _ way⟩
        exact fun _ _ ↦ tracks.spreads_fail running error failure
  · have hid : (fail graph ((run.finish task).emit failure) task.node error).executionId =
        run.executionId := by rw [fail_frame]; rfl
    rw [tracks.skippedFor_fail_iff running error failure, hid, events_fail, List.mem_append,
      origins.skipped, mem_failureReport_iff]
    simp [NodeId.text_inj, eq_comm]

end Fail

theorem Origins.step (origins : run.Origins graph) (tracks : run.Tracks graph order)
    (step : Step graph limit run next) : next.Origins graph := by
  cases step with
  | start starts => exact origins.startNode tracks starts
  | @complete task _ running =>
    cases hresult : task.result with
    | ok outputs =>
      rw [complete_of_ok hresult]
      exact origins.complete_ok tracks running outputs
    | error error =>
      rw [complete_of_error hresult]
      exact Origins.complete_error tracks running error origins

theorem Origins.steps (origins : run.Origins graph) (tracks : run.Tracks graph order)
    (orders : graph.Orders order) (wellFormed : graph.WellFormed)
    (steps : Steps graph limit run next) : next.Origins graph := by
  induction steps with
  | refl => exact origins
  | tail steps step ih => exact ih.step (tracks.steps orders wellFormed steps) step

end Evaluation.Run

/-! ### The report of a failed evaluation -/

/-- The node is computed, and its computation fails: what a walk along an order finds of it. -/
def Graph.FailsItself (graph : Graph) (order : List NodeId) (id : NodeId) : Prop :=
  ∃ error, (graph.walk order).compute? graph id = some (.error error)

namespace Evaluation

/-- The report has it that a connection led the failure of the origin on to a node that did not fail
itself. -/
structure Report.Passes (graph : Graph) (own : NodeId → Prop) (report : Report)
    (origin source target : NodeId) : Prop where
  feeds : graph.Feeds source target
  not_own : ¬ own target
  inherits : report.failures.get? target = some (Run.inherited origin)

/-- The account that a failed evaluation gives of its failures, given the nodes that failed
themselves: these are announced as failed and blamed for themselves; exactly they and what lies
downstream of them have failed, and all else has resolved. To every other failed node a way leads
from its origin, a node that failed itself, along nodes that did not and have this origin too; and
one event is about it, which says that it was skipped for its origin. -/
structure Report.Accounts (graph : Graph) (executionId : String) (own : NodeId → Prop)
    (events : List Event) (report : Report) : Prop where
  announced : ∀ id, own id ↔ ∃ text, .nodeFailed executionId id.text text ∈ events
  failed_iff : ∀ id, report.states.get? id = some .failed ↔
    ∃ origin, own origin ∧ ReflTransGen graph.Feeds origin id
  resolved_iff : ∀ id, report.states.get? id = some .resolved ↔
    graph.contains id = true ∧ report.states.get? id ≠ some .failed
  own_origin : ∀ id, own id → ∃ cause, report.failures.get? id = some ⟨id, cause⟩
  skipped_origin : ∀ id, report.states.get? id = some .failed → ¬ own id →
    ∃ origin, own origin ∧ TransGen (report.Passes graph own origin) origin id
  skipped_once : ∀ id failure, report.failures.get? id = some failure → ¬ own id →
    Event.about id events = [.nodeSkipped executionId id.text failure.origin.text]

end Evaluation

namespace Evaluation.Run

open Event

variable {graph : Graph} {order : List NodeId} {run : Run} {id : NodeId}

section Settled

variable (sound : run.Sound graph order) (settled : ∀ id ∈ order, run.IsSettled id)

include sound settled

/-- The nodes on record as failed by themselves are those that fail in the walk. -/
theorem Sound.ownFailed_iff : run.OwnFailed id ↔ graph.FailsItself order id := by
  rw [OwnFailed, exists_comm]
  constructor
  · rintro ⟨error, place, hown⟩
    have hfailed := sound.tracks.failed_of_ownFailed ⟨place, error, hown⟩
    have hid := (sound.tracks.state id).mp ⟨_, hfailed⟩
    exact ⟨error, (sound.exists_ownFailures_iff settled hid error).mp ⟨place, hown⟩⟩
  · rintro ⟨error, hcompute⟩
    obtain ⟨-, node, hnode, -⟩ := Walk.compute?_eq_some_iff.mp hcompute
    have hid := (sound.orders.mem_iff id).mpr ((Graph.contains_iff graph id).mpr ⟨node, hnode⟩)
    exact ⟨error, (sound.exists_ownFailures_iff settled hid error).mpr hcompute⟩

/-- The nodes that fail in the walk are those that are announced as failed. -/
theorem Sound.failsItself_iff (announces : run.Announces) :
    graph.FailsItself order id ↔
      ∃ text, .nodeFailed run.executionId id.text text ∈ run.conclude.events := by
  have hevent : ∀ text, .nodeFailed run.executionId id.text text ∈ run.conclude.events ↔
      ∃ place error, run.ownFailures.get? place = some (id, error) ∧ text = error.message := by
    intro text
    rw [mem_events_conclude_iff rfl, announces.failed]
  rw [← sound.ownFailed_iff settled]
  constructor
  · rintro ⟨place, error, hplace⟩
    exact ⟨error.message, (hevent _).mpr ⟨place, error, hplace, rfl⟩⟩
  · rintro ⟨text, htext⟩
    obtain ⟨place, error, hplace, -⟩ := (hevent text).mp htext
    exact ⟨place, error, hplace⟩

omit settled

/-- What lies downstream of a failed node has failed. -/
theorem Sound.failed_of_reaches {source : NodeId} (hsource : run.states.get? source = some .failed)
    (h : ReflTransGen graph.Feeds source id) : run.states.get? id = some .failed := by
  induction h with
  | refl => exact hsource
  | tail _ hfeeds ih => exact sound.tracks.downstream _ _ hfeeds ih

/-- A node that was skipped is announced by one event, which names its origin. -/
theorem Sound.about_of_skippedFor {limit : Option Nat} (reports : run.Reports graph limit)
    (origins : run.Origins graph) {origin : NodeId} (h : run.SkippedFor origin id) :
    about id run.events = [.nodeSkipped run.executionId id.text origin.text] := by
  have hevent := (origins.skipped id origin).mpr h
  have habout : Event.nodeSkipped run.executionId id.text origin.text ∈ about id run.events :=
    List.mem_filter.mpr ⟨hevent, by simp [node?]⟩
  rcases reports.tells id .failed (sound.tracks.failed_of_skippedFor h) with
    ⟨error, hown⟩ | ⟨other, hskip⟩
  · rw [hown] at habout
    simp at habout
  · rw [hskip] at habout ⊢
    rw [List.mem_singleton.mp habout]

end Settled

/-- A failed run in which every node has come to its end accounts for its failures. -/
theorem Sound.accounts {limit : Option Nat} (sound : run.Sound graph order)
    (settled : ∀ id ∈ order, run.IsSettled id) (reports : run.Reports graph limit)
    (origins : run.Origins graph) (announces : run.Announces) {report : Report}
    (h : run.conclude.outcome = .failed report) :
    report.Accounts graph run.executionId (graph.FailsItself order) run.conclude.events := by
  obtain ⟨-, hstates, hfailures⟩ := conclude_failed_iff.mp h
  have hown : ∀ {id}, run.OwnFailed id ↔ graph.FailsItself order id := sound.ownFailed_iff settled
  have hway : ∀ {origin id}, TransGen (run.Spreads graph origin) origin id →
      TransGen (report.Passes graph (graph.FailsItself order) origin) origin id := by
    refine TransGen.mono (fun source target hstep ↦ ?_) _ _
    exact ⟨hstep.1, mt hown.mpr hstep.2.1, hfailures ▸ hstep.2.2⟩
  refine ⟨fun id ↦ ?_, fun id ↦ ?_, fun id ↦ ?_, fun id hid ↦ ?_, fun id hfailed hid ↦ ?_,
    fun id failure hfailure hid ↦ ?_⟩
  · exact sound.failsItself_iff settled announces
  · rw [← hstates]
    constructor
    · intro hfailed
      rcases origins.origin id hfailed with hid | ⟨origin, horigin, way⟩
      · exact ⟨id, hown.mp hid, .refl⟩
      · exact ⟨origin, hown.mp horigin,
          (TransGen.mono (fun _ _ hstep ↦ hstep.1) _ _ way).to_reflTransGen⟩
    · rintro ⟨origin, horigin, way⟩
      exact sound.failed_of_reaches (sound.tracks.failed_of_ownFailed (hown.mpr horigin)) way
  · rw [← hstates, ← sound.orders.mem_iff]
    constructor
    · intro hresolved
      exact ⟨(sound.tracks.state id).mp ⟨_, hresolved⟩, by simp [hresolved]⟩
    · rintro ⟨hid, hfailed⟩
      exact (settled id hid).resolve_right hfailed
  · obtain ⟨place, error, hplace⟩ := hown.mpr hid
    exact ⟨_, hfailures ▸ (sound.tracks.ownFailures place id error hplace).2.2⟩
  · rw [← hstates] at hfailed
    obtain ⟨origin, horigin, way⟩ := (origins.origin id hfailed).resolve_left (mt hown.mp hid)
    exact ⟨origin, hown.mp horigin, hway way⟩
  · have hfailed := (sound.tracks.failures id).mp ⟨failure, hfailures.symm ▸ hfailure⟩
    obtain ⟨origin, -, way⟩ := (origins.origin id hfailed).resolve_left (mt hown.mp hid)
    obtain ⟨_, -, hlast⟩ := TransGen.tail'_iff.mp way
    have horigin := hlast.2.2
    rw [hfailures, hfailure, Option.some.injEq] at horigin
    rw [about_conclude, sound.about_of_skippedFor reports origins hlast.2, horigin]
    rfl

end Evaluation.Run

namespace Graph

/-- The propagation of failures is exact and their origins are genuine. Every failed evaluation of a
graph without cycles accounts for its failures, whatever the bound on running nodes and the order in
which they complete, and in all of them the same nodes fail themselves. -/
theorem failures_accounted (graph : Graph) (reachable : graph.Reachable)
    (acyclic : graph.Acyclic) :
    ∃ order, graph.topologicalOrder = .ok order ∧ ∀ config freshId,
      graph.Evaluates config freshId (graph.evaluate config freshId) ∧
        ∀ trace report, graph.Evaluates config freshId trace → trace.outcome = .failed report →
          report.Accounts graph (config.executionId.getD freshId) (graph.FailsItself order)
            trace.events := by
  have wellFormed := reachable.wellFormed
  obtain ⟨order, horder⟩ := exists_order_of_acyclic wellFormed acyclic
  refine ⟨order, topologicalOrder_eq_ok_iff.mpr horder, fun config freshId ↦
    ⟨wellFormed.evaluates_evaluate config freshId, fun trace report h hreport ↦ ?_⟩⟩
  obtain ⟨final, ⟨other, hother, steps⟩, sound, settled, rfl⟩ := h.of_order wellFormed horder
  obtain rfl : order = other := Except.ok.inj (horder.symm.trans hother)
  have tracks := Run.tracks_start (config.executionId.getD freshId) sound.orders
  have reports := (Run.reports_start _ sound.orders).steps tracks sound.orders wellFormed steps
  have announces := (Run.announces_start _).steps tracks sound.orders wellFormed steps
  have origins := (Run.origins_start _ sound.orders).steps tracks sound.orders wellFormed steps
  have hname : final.executionId = config.executionId.getD freshId :=
    Run.executionId_of_steps steps
  rw [← hname]
  exact sound.accounts settled reports origins announces hreport

/-- Two outputs that nothing feeds and that fail, a choice between what they put out, an output of
what is chosen, and a text apart. -/
def cascade : Graph :=
  afterEdits
    [ .createNode (.ofTypes [Builtin.textOutput]) (.ofNat 1) "text-output" .empty,
      .createNode (.ofTypes [Builtin.textOutput]) (.ofNat 2) "text-output" .empty,
      .createNode (.ofTypes [Builtin.conditional]) (.ofNat 3) "conditional" .empty,
      .createNode (.ofTypes [Builtin.textOutput]) (.ofNat 4) "text-output" .empty,
      .createNode (.ofTypes [Builtin.textInput]) (.ofNat 5) "text-input" .empty,
      .connect (.ofNat 1) "text" (.ofNat 3) "if_true" .string,
      .connect (.ofNat 2) "text" (.ofNat 3) "if_false" .string,
      .connect (.ofNat 3) "value" (.ofNat 4) "text" .string ]

theorem reachable_cascade : cascade.Reachable := ⟨_, rfl⟩

theorem order_cascade :
    cascade.order = .ok [.ofNat 1, .ofNat 2, .ofNat 3, .ofNat 4, .ofNat 5] := by
  decide +kernel

theorem acyclic_cascade : cascade.Acyclic :=
  (orders_of_order reachable_cascade.wellFormed order_cascade).acyclic
    reachable_cascade.wellFormed

theorem report_cascade : ∃ report,
    (cascade.evaluate ⟨none, none⟩ "run").outcome = .failed report ∧
      report.failures.get? (.ofNat 4) = some (Run.inherited (.ofNat 1)) :=
  ⟨_, rfl, rfl⟩

theorem failures_accounted_cascade :
    cascade.Reachable ∧ cascade.Acyclic ∧ ∃ order,
      cascade.topologicalOrder = .ok order ∧ ∃ report,
        (cascade.evaluate ⟨none, none⟩ "run").outcome = .failed report ∧
          report.failures.get? (.ofNat 4) = some (Run.inherited (.ofNat 1)) ∧
          report.Accounts cascade "run" (cascade.FailsItself order)
            (cascade.evaluate ⟨none, none⟩ "run").events := by
  obtain ⟨order, horder, hall⟩ := failures_accounted cascade reachable_cascade acyclic_cascade
  obtain ⟨report, houtcome, hfailure⟩ := report_cascade
  obtain ⟨hevaluates, haccounts⟩ := hall ⟨none, none⟩ "run"
  exact ⟨reachable_cascade, acyclic_cascade, order, horder, report, houtcome, hfailure,
    haccounts _ report hevaluates houtcome⟩

end Graph

end FlowGraph
