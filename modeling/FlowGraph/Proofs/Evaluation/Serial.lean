import FlowGraph.Proofs.Evaluation.Propagation
import FlowGraph.Proofs.Evaluation.Timeline

/-!
Evaluations that run one node at a time. Whatever the bound, a node is started exactly when it is
not downstream of a node that fails itself (`Sound.started_iff`). When nothing is running, no node
before the first ready one is pending (`Tracks.not_pending_before`). So with a bound of one a run
passes along the order: up to the node that was started last nothing is pending, and the nodes that
were started so far were started in their order (`Serial`).
-/

set_option autoImplicit false
set_option relaxedAutoImplicit false

namespace FlowGraph

open Evaluation Relation

/-- A part of a list of different items, in its order, is what is left of the list by a property
that tells the items of the part. -/
theorem eq_filter_of_sublist {α : Type} {part items : List α} {property : α → Bool}
    (hsublist : part.Sublist items) (hnodup : items.Nodup)
    (h : ∀ item ∈ items, item ∈ part ↔ property item = true) : part = items.filter property := by
  have hpart : part.filter property = part :=
    List.filter_eq_self.mpr fun item hitem ↦ (h item (hsublist.subset hitem)).mp hitem
  have hperm : part.Perm (items.filter property) := by
    refine (List.perm_ext_iff_of_nodup (hsublist.nodup hnodup) (hnodup.filter _)).mpr fun item ↦ ?_
    rw [List.mem_filter]
    constructor
    · intro hitem
      exact ⟨hsublist.subset hitem, (h item (hsublist.subset hitem)).mp hitem⟩
    · rintro ⟨hitem, hproperty⟩
      exact (h item hitem).mpr hproperty
  rw [← hpart]
  exact (hsublist.filter property).eq_of_length (hpart.symm ▸ hperm.length_eq)

namespace Graph

/-- The node is downstream of one that fails itself. -/
def Hindered (graph : Graph) (order : List NodeId) (id : NodeId) : Prop :=
  ∃ failed, graph.FailsItself order failed ∧ TransGen graph.Feeds failed id

open Classical in
/-- The nodes of an order without those downstream of a node that fails itself. -/
noncomputable def unhindered (graph : Graph) (order : List NodeId) : List NodeId :=
  order.filter fun id ↦ ¬ graph.Hindered order id

end Graph

namespace Evaluation.Run

open Event

variable {graph : Graph} {order : List NodeId} {limit : Option Nat} {run next : Run}
  {id : NodeId}

/-! ### Which nodes are started -/

/-- A node that has been started does not read from one that has failed. -/
theorem Reports.not_failed_of_started (reports : run.Reports graph limit)
    (h : .nodeStarted run.executionId id.text ∈ run.events) {source : NodeId}
    (hfeeds : graph.Feeds source id) : run.states.get? source ≠ some .failed := by
  intro hfailed
  obtain ⟨before, after, hsplit⟩ := List.append_of_mem h
  obtain ⟨other, htext, hsources⟩ := reports.allowed before _ after hsplit
  obtain rfl := NodeId.text_inj.mp htext
  obtain ⟨outputs, hbefore⟩ := hsources source hfeeds
  have hresolved : .nodeResolved run.executionId source.text outputs ∈ about source run.events := by
    refine List.mem_filter.mpr ⟨?_, by simp [node?]⟩
    rw [hsplit]
    exact List.mem_append_left _ hbefore
  rcases reports.tells source .failed hfailed with ⟨error, habout⟩ | ⟨origin, habout⟩
  · rw [habout] at hresolved
    simp at hresolved
  · rw [habout] at hresolved
    simp at hresolved

section Settled

variable (sound : run.Sound graph order) (settled : ∀ id ∈ order, run.IsSettled id)
  (reports : run.Reports graph limit) (origins : run.Origins graph) (announces : run.Announces)

omit settled origins in
include sound reports announces in
/-- A node whose own computation has failed has been started. -/
theorem Sound.started_of_ownFailed (h : run.OwnFailed id) :
    .nodeStarted run.executionId id.text ∈ about id run.events := by
  have hfailed := sound.tracks.failed_of_ownFailed h
  obtain ⟨place, error, hown⟩ := h
  have hevent : .nodeFailed run.executionId id.text error.message ∈ about id run.events :=
    List.mem_filter.mpr ⟨(announces.failed id _).mpr ⟨place, error, hown, rfl⟩, by simp [node?]⟩
  rcases reports.tells id .failed hfailed with ⟨text, habout⟩ | ⟨origin, habout⟩
  · rw [habout]
    exact List.mem_cons_self
  · rw [habout] at hevent
    simp at hevent

include sound settled reports origins announces

/-- The started nodes are those that are not downstream of a node that fails itself. -/
theorem Sound.started_iff (hid : id ∈ order) :
    .nodeStarted run.executionId id.text ∈ run.events ↔ ¬ graph.Hindered order id := by
  constructor
  · rintro hstarted ⟨failed, hown, way⟩
    obtain ⟨source, hsource, hfeeds⟩ := TransGen.tail'_iff.mp way
    have hfailed := sound.tracks.failed_of_ownFailed ((sound.ownFailed_iff settled).mpr hown)
    exact reports.not_failed_of_started hstarted hfeeds (sound.failed_of_reaches hfailed hsource)
  · intro hfree
    refine (List.mem_filter.mp (?_ : _ ∈ about id run.events)).1
    rcases settled id hid with hresolved | hfailed
    · obtain ⟨outputs, habout⟩ := reports.tells id .resolved hresolved
      rw [habout]
      exact List.mem_cons_self
    · rcases origins.origin id hfailed with hown | ⟨origin, hown, way⟩
      · exact sound.started_of_ownFailed reports announces hown
      · exact absurd ⟨origin, (sound.ownFailed_iff settled).mp hown,
          TransGen.mono (fun _ _ hstep ↦ hstep.1) _ _ way⟩ hfree

end Settled

/-! ### One node at a time -/

/-- When nothing is running, a pending node that reads from no pending node waits on nothing. -/
theorem Tracks.unresolved_eq_nil_of_idle (tracks : run.Tracks graph order)
    (idle : run.running = []) (hpending : run.states.get? id = some .pending)
    (h : ∀ source, graph.Feeds source id →
      source ∈ order ∧ run.states.get? source ≠ some .pending) :
    unresolved graph run.states id = [] := by
  refine unresolved_eq_nil_iff.mpr fun source hfeeds ↦ ?_
  obtain ⟨hsource, hpassed⟩ := h source hfeeds
  obtain ⟨state, hstate⟩ := (tracks.state source).mpr hsource
  cases state with
  | resolved => exact hstate
  | pending => exact absurd hstate hpassed
  | resolving =>
    have hrunning := (tracks.running source).mpr hstate
    rw [idle] at hrunning
    cases hrunning
  | failed =>
    have hfailed := tracks.downstream source id hfeeds hstate
    rw [hpending] at hfailed
    cases hfailed

/-- When nothing is running, no node before the first ready one is pending. -/
theorem Tracks.not_pending_before (tracks : run.Tracks graph order) (orders : graph.Orders order)
    (idle : run.running = []) {position : Nat} {node : Node}
    (starts : run.Starts graph limit position node) {before rest : List NodeId}
    (hsplit : order = before ++ node.id :: rest) :
    ∀ id ∈ before, run.states.get? id ≠ some .pending := by
  have hposition : position = before.length := by
    refine place_unique orders.nodup (tracks.of_starts starts).1 ?_
    rw [hsplit, List.getElem?_append_right (Nat.le_refl _), Nat.sub_self]
    rfl
  have hmem : ∀ id ∈ before, id ∈ order := by
    intro id hid
    rw [hsplit]
    exact List.mem_append_left _ hid
  -- a pending one among them would be ready if nothing before it is pending, at a lesser place
  have hall : ∀ id ∈ order, id ∈ before → run.states.get? id ≠ some .pending := by
    refine orders.induction fun id _ ih hbefore hpending ↦ ?_
    have hnil := tracks.unresolved_eq_nil_of_idle idle hpending fun source hfeeds ↦
      have hsource := orders.mem_before hsplit (List.mem_append_left _ hbefore) hfeeds
      ⟨hmem source hsource, ih source hfeeds hsource⟩
    obtain ⟨place, hplace⟩ := List.mem_iff_getElem?.mp hbefore
    have hlt : place < before.length := (List.getElem?_eq_some_iff.mp hplace).1
    have hready : run.ready.get? place = some id := by
      refine (tracks.ready place id).mpr ⟨?_, hpending, hnil⟩
      rw [hsplit, List.getElem?_append_left hlt, hplace]
    obtain ⟨later, first⟩ := starts.first
    have hleast := (OrderedMap.get?_of_entries_cons first).2 place id hready
    omega
  exact fun id hid ↦ hall id (hmem id hid) hid

/-- With room for one node, a node is started only when nothing is running. -/
theorem Starts.idle {position : Nat} {node : Node}
    (starts : run.Starts graph (some 1) position node) : run.running = [] := by
  have room := starts.room
  rw [IsFull, Option.any_some, decide_eq_true_eq, Nat.not_le, Nat.lt_one_iff] at room
  exact List.length_eq_zero_iff.mp room

/-- The order has been passed up to some place: no node before it is pending, and the nodes that
have been started are some of them, started in their order. -/
structure Serial (order : List NodeId) (run : Run) (started : List NodeId) : Prop where
  starts : run.events.filter isStart =
    started.map fun id ↦ .nodeStarted run.executionId id.text
  passed : ∃ passed rest, order = passed ++ rest ∧ started.Sublist passed ∧
    ∀ id ∈ passed, run.states.get? id ≠ some .pending

theorem serial_start (graph : Graph) (executionId : String) (order : List NodeId) :
    (start executionId graph order).Serial order [] where
  starts := rfl
  passed := ⟨[], order, rfl, .slnil, fun _ h ↦ by cases h⟩

variable {started : List NodeId}

theorem Serial.startNode (serial : run.Serial order started) (tracks : run.Tracks graph order)
    (orders : graph.Orders order) {position : Nat} {node : Node}
    (starts : run.Starts graph (some 1) position node) :
    (startNode graph { run with ready := run.ready.erase position } node).Serial order
      (started ++ [node.id]) := by
  obtain ⟨passed, rest, hsplit, hsublist, hpassed⟩ := serial.passed
  obtain ⟨hplace, hpending, -⟩ := tracks.of_starts starts
  have hrest : node.id ∈ rest := by
    have hmem := List.mem_of_getElem? hplace
    rw [hsplit, List.mem_append] at hmem
    exact hmem.resolve_left fun h ↦ hpassed node.id h hpending
  obtain ⟨skipped, later, rfl⟩ := List.append_of_mem hrest
  have hbefore : order = (passed ++ skipped) ++ node.id :: later := by
    rw [hsplit, List.append_assoc]
  refine ⟨?_, passed ++ skipped ++ [node.id], later, ?_, ?_, fun id hid ↦ ?_⟩
  · change (run.events ++ [_]).filter isStart = _
    rw [List.filter_append, serial.starts, List.map_append]
    rfl
  · rw [hbefore, List.append_cons]
  · exact (hsublist.trans (List.sublist_append_left passed skipped)).append_right _
  · change (run.states.insert node.id .resolving).get? id ≠ some .pending
    rw [OrderedMap.get?_insert]
    split_ifs with hnode
    · simp
    · rw [List.mem_append, List.mem_singleton] at hid
      exact tracks.not_pending_before orders starts.idle starts hbefore id
        (hid.resolve_right hnode)

theorem Serial.complete (serial : run.Serial order started) (graph : Graph) (task : Task) :
    (complete graph run task).Serial order started := by
  obtain ⟨passed, rest, hsplit, hsublist, hpassed⟩ := serial.passed
  refine ⟨?_, passed, rest, hsplit, hsublist, fun id hid ↦
    not_pending_complete graph task (hpassed id hid)⟩
  rw [starts_complete, serial.starts, complete_frame]
  rfl

theorem Serial.step (serial : run.Serial order started) (tracks : run.Tracks graph order)
    (orders : graph.Orders order) (step : Step graph (some 1) run next) :
    ∃ later, next.Serial order later := by
  cases step with
  | start starts => exact ⟨_, serial.startNode tracks orders starts⟩
  | complete _ _ => exact ⟨started, serial.complete graph _⟩

theorem Serial.steps (serial : run.Serial order started) (tracks : run.Tracks graph order)
    (orders : graph.Orders order) (wellFormed : graph.WellFormed)
    (steps : Steps graph (some 1) run next) : ∃ later, next.Serial order later := by
  induction steps with
  | refl => exact ⟨started, serial⟩
  | tail steps step ih =>
    obtain ⟨later, hlater⟩ := ih
    exact hlater.step (tracks.steps orders wellFormed steps) orders step

theorem Serial.mem_started_iff (serial : run.Serial order started) :
    id ∈ started ↔ .nodeStarted run.executionId id.text ∈ run.events := by
  have hfilter : .nodeStarted run.executionId id.text ∈ run.events.filter isStart ↔
      .nodeStarted run.executionId id.text ∈ run.events :=
    List.mem_filter.trans (and_iff_left rfl)
  rw [← hfilter, serial.starts, List.mem_map]
  constructor
  · intro h
    exact ⟨id, h, rfl⟩
  · rintro ⟨other, hother, heq⟩
    rwa [← NodeId.text_inj.mp (Event.nodeStarted.inj heq).2]

/-- At the end all nodes that nothing hinders have been started, in their order. -/
theorem Serial.started_eq (serial : run.Serial order started) (orders : graph.Orders order)
    (h : ∀ id ∈ order, .nodeStarted run.executionId id.text ∈ run.events ↔
      ¬ graph.Hindered order id) : started = graph.unhindered order := by
  obtain ⟨passed, rest, hsplit, hpassed, -⟩ := serial.passed
  have hsublist : started.Sublist order := by
    rw [hsplit]
    exact hpassed.trans (List.sublist_append_left passed rest)
  refine eq_filter_of_sublist hsublist orders.nodup fun id hid ↦ ?_
  rw [serial.mem_started_iff, h id hid]
  simp only [decide_eq_true_eq]

end Evaluation.Run

namespace Graph

variable {graph : Graph} {order : List NodeId} {config : Config} {freshId : String} {trace : Trace}

/-- An evaluation of one node at a time starts the nodes in their order. -/
theorem Evaluates.starts_in_order (h : graph.Evaluates config freshId trace)
    (wellFormed : graph.WellFormed) (horder : graph.order = .ok order)
    (hbound : config.bound = some 1) :
    (∀ id, graph.FailsItself order id ↔ ∃ text,
      .nodeFailed (config.executionId.getD freshId) id.text text ∈ trace.events) ∧
    trace.events.filter Event.isStart = (graph.unhindered order).map fun id ↦
      .nodeStarted (config.executionId.getD freshId) id.text := by
  obtain ⟨final, ⟨other, hother, steps⟩, sound, settled, rfl⟩ := h.of_order wellFormed horder
  obtain rfl : order = other := Except.ok.inj (horder.symm.trans hother)
  have tracks := Run.tracks_start (config.executionId.getD freshId) sound.orders
  have reports := (Run.reports_start _ sound.orders).steps tracks sound.orders wellFormed steps
  have announces := (Run.announces_start _).steps tracks sound.orders wellFormed steps
  have origins := (Run.origins_start _ sound.orders).steps tracks sound.orders wellFormed steps
  have hname : final.executionId = config.executionId.getD freshId :=
    Run.executionId_of_steps steps
  rw [hbound] at steps
  obtain ⟨started, serial⟩ :=
    (Run.serial_start graph _ order).steps tracks sound.orders wellFormed steps
  have hstarted := serial.started_eq sound.orders fun id hid ↦
    sound.started_iff settled reports origins announces hid
  rw [← hname]
  refine ⟨fun id ↦ sound.failsItself_iff settled announces, ?_⟩
  rw [Run.starts_conclude, serial.starts, hstarted]

/-- Serial evaluation starts the nodes in the order of evaluation. With room for one node at a time
every evaluation of a graph without cycles starts the nodes in exactly this order, without those
that are downstream of a node whose own computation fails, whatever the nodes take and whichever of
them fail. -/
theorem serial_starts_in_order (graph : Graph) (reachable : graph.Reachable)
    (acyclic : graph.Acyclic) :
    ∃ order, graph.topologicalOrder = .ok order ∧ ∀ config freshId,
      config.maxConcurrency = some 0 ∨ config.maxConcurrency = some 1 →
        graph.Evaluates config freshId (graph.evaluate config freshId) ∧
          ∀ trace, graph.Evaluates config freshId trace →
            (∀ id, graph.FailsItself order id ↔ ∃ text,
              .nodeFailed (config.executionId.getD freshId) id.text text ∈ trace.events) ∧
            trace.events.filter Event.isStart = (graph.unhindered order).map fun id ↦
              .nodeStarted (config.executionId.getD freshId) id.text := by
  have wellFormed := reachable.wellFormed
  obtain ⟨order, horder⟩ := exists_order_of_acyclic wellFormed acyclic
  refine ⟨order, topologicalOrder_eq_ok_iff.mpr horder, fun config freshId hone ↦
    ⟨wellFormed.evaluates_evaluate config freshId, fun trace h ↦ ?_⟩⟩
  exact h.starts_in_order wellFormed horder (Config.bound_eq_one hone)

theorem starts_cascade :
    (cascade.evaluate ⟨some 0, none⟩ "run").events.filter Event.isStart =
      [ .nodeStarted "run" (NodeId.ofNat 1).text, .nodeStarted "run" (NodeId.ofNat 2).text,
        .nodeStarted "run" (NodeId.ofNat 5).text ] := rfl

theorem serial_starts_in_order_cascade :
    cascade.Reachable ∧ cascade.Acyclic ∧ ∃ order, cascade.topologicalOrder = .ok order ∧
      ((cascade.unhindered order).map fun id ↦ Event.nodeStarted "run" id.text) =
        [ .nodeStarted "run" (NodeId.ofNat 1).text, .nodeStarted "run" (NodeId.ofNat 2).text,
          .nodeStarted "run" (NodeId.ofNat 5).text ] := by
  obtain ⟨order, horder, hall⟩ := serial_starts_in_order cascade reachable_cascade acyclic_cascade
  obtain ⟨hevaluates, hstarts⟩ := hall ⟨some 0, none⟩ "run" (.inl rfl)
  refine ⟨reachable_cascade, acyclic_cascade, order, horder, ?_⟩
  exact (hstarts _ hevaluates).2.symm.trans starts_cascade

end Graph

end FlowGraph
