import FlowGraph.Proofs.Evaluation.Announcement

/-!
What a node comes to depends on the nodes upstream of it only. Walks along two graphs find the same
of every node upstream of which the graphs are the same (`SharesUpstream.compute?_eq`): this holds
of a node once it holds of the nodes that it reads from. Whatever an evaluation shows of a node is
what the walk has found of it (`Sound.shows`), so the rest of the graph, the bound on running nodes
and the order of completions leave no trace in it.
-/

set_option autoImplicit false
set_option relaxedAutoImplicit false

namespace FlowGraph

open Evaluation Relation

/-! ### Graphs that are the same upstream of a node -/

/-- The node is in the graph, and it and all the nodes that it can be reached from are equal in both
graphs and have the same connections into them, so that these nodes are the same in both. -/
structure Graph.SharesUpstream (graph other : Graph) (last : NodeId) : Prop where
  contains : graph.contains last = true
  node : ∀ id, ReflTransGen graph.Feeds id last → graph.node? id = other.node? id
  connections : ∀ connection, ReflTransGen graph.Feeds connection.target.node last →
    (connection ∈ graph.connections ↔ connection ∈ other.connections)

namespace Graph.SharesUpstream

variable {graph other : Graph} {last id : NodeId} {order otherOrder : List NodeId}
  (shares : graph.SharesUpstream other last) (upstream : ReflTransGen graph.Feeds id last)

include shares upstream

theorem contains_other (contains : graph.contains id = true) : other.contains id = true := by
  obtain ⟨node, hnode⟩ := (contains_iff graph id).mp contains
  exact (contains_iff other id).mpr ⟨node, shares.node id upstream ▸ hnode⟩

theorem feeds_iff (source : NodeId) : graph.Feeds source id ↔ other.Feeds source id := by
  unfold Feeds
  refine exists_congr fun connection ↦ and_congr_left fun ends ↦ ?_
  exact shares.connections connection (ends.2 ▸ upstream)

theorem dependencies_eq : graph.dependencies id = other.dependencies id := by
  apply dependencies_congr
  exact shares.feeds_iff upstream

variable (wellFormed : graph.WellFormed) (otherWellFormed : other.WellFormed)

include wellFormed otherWellFormed

theorem connectionInto?_eq (name : String) :
    graph.connectionInto? id name = other.connectionInto? id name := by
  refine wellFormed.connectionInto?_congr otherWellFormed (fun connection htarget ↦ ?_) name
  exact shares.connections connection (htarget ▸ upstream)

/-- Given what one walk has found, the computation of a node is the same in both graphs. -/
theorem compute?_eq_of_walk (walk : Walk) : walk.compute? graph id = walk.compute? other id := by
  have hcomputed : ((graph.node? id).map fun node ↦
        (node.run (node.assembleInputs graph walk.outputs)).result) =
      (graph.node? id).map fun node ↦
        (node.run (node.assembleInputs other walk.outputs)).result := by
    refine Option.map_congr fun node hnode ↦ ?_
    unfold Node.assembleInputs
    rw [wellFormed.own_id id node hnode]
    simp only [shares.connectionInto?_eq upstream wellFormed otherWellFormed]
  unfold Walk.compute?
  rw [hcomputed, shares.dependencies_eq upstream, shares.node id upstream]

omit upstream in
/-- Walks along the two graphs find the same of every node upstream. -/
theorem compute?_eq (orders : graph.Orders order) (otherOrders : other.Orders otherOrder) :
    ∀ id ∈ order, ReflTransGen graph.Feeds id last →
      (graph.walk order).compute? graph id = (other.walk otherOrder).compute? other id := by
  have follows := Walk.follows_walk wellFormed orders
  have otherFollows := Walk.follows_walk otherWellFormed otherOrders
  refine orders.induction fun id hid ih upstream ↦ ?_
  have hfound : ∀ source, other.Feeds source id →
      source ∈ order ∧ source ∈ otherOrder ∧
        (graph.walk order).compute? graph source =
          (other.walk otherOrder).compute? other source := by
    intro source hfeeds
    have hfeeds := (shares.feeds_iff upstream source).mpr hfeeds
    have hsource : ReflTransGen graph.Feeds source last := .head hfeeds upstream
    have hcontains := (wellFormed.contains_of_feeds hfeeds).1
    exact ⟨(orders.mem_iff source).mpr hcontains,
      (otherOrders.mem_iff source).mpr (shares.contains_other hsource hcontains),
      ih source hfeeds hsource⟩
  rw [shares.compute?_eq_of_walk upstream wellFormed otherWellFormed]
  refine Walk.compute?_congr otherWellFormed (fun source hfeeds ↦ ?_) fun source hfeeds ↦ ?_
  · obtain ⟨hsource, hother, hsame⟩ := hfound source hfeeds
    rw [follows.state_of_compute? hsource, otherFollows.state_of_compute? hother, hsame]
  · obtain ⟨hsource, hother, hsame⟩ := hfound source hfeeds
    ext outputs
    rw [follows.outputs, otherFollows.outputs, hsame]
    exact and_congr_left fun _ ↦ iff_of_true hsource hother

end Graph.SharesUpstream

/-! ### What an evaluation shows of a node -/

namespace Evaluation

/-- The node has resolved in an evaluation with this outcome. -/
def Outcome.Resolves (id : NodeId) : Outcome → Prop
  | .resolved all => ∃ outputs, all.get? id = some outputs
  | .failed report => report.states.get? id = some .resolved

/-- All that an evaluation shows of a node is what its computation has come to, if it has been
computed: whether it resolves, with which outputs in its event and in the result, and whether its
own computation fails, with which error in its event and in the report. -/
structure Trace.Shows (trace : Trace) (executionId : String) (id : NodeId)
    (computed : Option (Except GraphError Boxes)) : Prop where
  resolves_iff : trace.outcome.Resolves id ↔ ∃ outputs, computed = some (.ok outputs)
  resolved_event : ∀ document, .nodeResolved executionId id.text document ∈ trace.events ↔
    ∃ outputs, computed = some (.ok outputs) ∧ document = outputs.toJson
  result : ∀ all outputs, trace.outcome = .resolved all →
    (all.get? id = some outputs ↔ computed = some (.ok outputs))
  failed_event : ∀ text, .nodeFailed executionId id.text text ∈ trace.events ↔
    ∃ error, computed = some (.error error) ∧ text = error.message
  failed : ∀ error, computed = some (.error error) → ∃ report, trace.outcome = .failed report ∧
    report.states.get? id = some .failed ∧
    report.failures.get? id = some ⟨id, error.rootCause.message⟩
  reported : ∀ report, trace.outcome = .failed report → report.node = id →
    computed = some (.error report.error)

end Evaluation

namespace Evaluation.Run

variable {graph : Graph} {order : List NodeId} {run : Run} {id : NodeId}

/-- The last event of an evaluation is about no node. -/
theorem mem_events_conclude_iff {event : Event} {node : String} (h : event.node? = some node) :
    event ∈ run.conclude.events ↔ event ∈ run.events := by
  rw [events_conclude, List.mem_append, List.mem_singleton]
  refine or_iff_left ?_
  rintro rfl
  rw [Outcome.node?_event] at h
  cases h

variable (sound : run.Sound graph order) (settled : ∀ id ∈ order, run.IsSettled id)
  (hid : id ∈ order)

include sound settled hid

theorem Sound.get?_outputs_iff (outputs : Boxes) :
    run.outputs.get? id = some outputs ↔
      (graph.walk order).compute? graph id = some (.ok outputs) := by
  rw [sound.outputs_eq settled, sound.follows.outputs]
  exact and_iff_right hid

theorem Sound.exists_ownFailures_iff (error : GraphError) :
    (∃ place, run.ownFailures.get? place = some (id, error)) ↔
      (graph.walk order).compute? graph id = some (.error error) := by
  rw [← OrderedMap.mem_values_iff, sound.ownFailures_eq settled, sound.follows.mem_failures_iff]
  exact and_iff_right hid

theorem Sound.resolves_iff :
    run.conclude.outcome.Resolves id ↔
      ∃ outputs, (graph.walk order).compute? graph id = some (.ok outputs) := by
  rw [← exists_congr (sound.get?_outputs_iff settled hid)]
  cases houtcome : run.conclude.outcome with
  | resolved all =>
    rw [(conclude_resolved_iff.mp houtcome).2]
    rfl
  | failed report =>
    rw [sound.tracks.outputs, (conclude_failed_iff.mp houtcome).2.1]
    rfl

/-- A failure on record shows in the report of the evaluation. -/
theorem Sound.exists_report {error : GraphError}
    (h : (graph.walk order).compute? graph id = some (.error error)) :
    ∃ report, run.conclude.outcome = .failed report ∧
      report.states.get? id = some .failed ∧
      report.failures.get? id = some ⟨id, error.rootCause.message⟩ := by
  obtain ⟨place, hplace⟩ := (sound.exists_ownFailures_iff settled hid error).mpr h
  obtain ⟨-, hstate, hcause⟩ := sound.tracks.ownFailures place id error hplace
  cases houtcome : run.conclude.outcome with
  | resolved all =>
    have hnone := (OrderedMap.entries_eq_nil_iff _).mp (conclude_resolved_iff.mp houtcome).1 place
    rw [hnone] at hplace
    cases hplace
  | failed report =>
    obtain ⟨-, hstates, hfailures⟩ := conclude_failed_iff.mp houtcome
    exact ⟨report, rfl, hstates ▸ hstate, hfailures ▸ hcause⟩

/-- A run in which every node has come to its end shows of each what the walk has found of it. -/
theorem Sound.shows (announces : run.Announces) :
    run.conclude.Shows run.executionId id ((graph.walk order).compute? graph id) where
  resolves_iff := sound.resolves_iff settled hid
  resolved_event document := by
    rw [mem_events_conclude_iff rfl, announces.resolved]
    simp only [sound.get?_outputs_iff settled hid]
  result all outputs houtcome := by
    rw [← (conclude_resolved_iff.mp houtcome).2]
    exact sound.get?_outputs_iff settled hid outputs
  failed_event text := by
    rw [mem_events_conclude_iff rfl, announces.failed, exists_comm]
    simp only [exists_and_right, sound.exists_ownFailures_iff settled hid]
  failed error h := sound.exists_report settled hid h
  reported report houtcome hnode := by
    have hfirst := List.mem_of_head? (conclude_failed_iff.mp houtcome).1
    rw [OrderedMap.mem_values_iff, hnode] at hfirst
    exact (sound.exists_ownFailures_iff settled hid report.error).mp hfirst

end Evaluation.Run

namespace Graph

/-- What an evaluation shows of a node is what the walk along the order has found of it. -/
theorem Evaluates.shows {graph : Graph} {order : List NodeId} {config : Config} {freshId : String}
    {trace : Trace} (h : graph.Evaluates config freshId trace) (wellFormed : graph.WellFormed)
    (horder : graph.order = .ok order) {id : NodeId} (hid : id ∈ order) :
    trace.Shows (config.executionId.getD freshId) id
      ((graph.walk order).compute? graph id) := by
  obtain ⟨final, ⟨other, hother, steps⟩, sound, settled, rfl⟩ := h.of_order wellFormed horder
  obtain rfl : order = other := Except.ok.inj (horder.symm.trans hother)
  have tracks := Run.tracks_start (config.executionId.getD freshId) sound.orders
  have announces := (Run.announces_start _).steps tracks sound.orders wellFormed steps
  have hname : final.executionId = config.executionId.getD freshId :=
    Run.executionId_of_steps steps
  rw [← hname]
  exact sound.shows settled hid announces

/-- What becomes of a node depends on its ancestors only. Where two graphs without cycles are the
same upstream of a node, it has one and the same fate in every evaluation of either of them: it is
computed with the same result or is not computed at all, and this is all that any evaluation shows
of it, whatever else the graphs contain, for all bounds on the number of nodes that run at once and
in whatever order nodes complete. -/
theorem fate_depends_on_ancestors (graph other : Graph) (reachable : graph.Reachable)
    (otherReachable : other.Reachable) (acyclic : graph.Acyclic) (otherAcyclic : other.Acyclic)
    (id : NodeId) (shares : graph.SharesUpstream other id) :
    ∃ computed, ∀ config freshId,
      (graph.Evaluates config freshId (graph.evaluate config freshId) ∧
        ∀ trace, graph.Evaluates config freshId trace →
          trace.Shows (config.executionId.getD freshId) id computed) ∧
      (other.Evaluates config freshId (other.evaluate config freshId) ∧
        ∀ trace, other.Evaluates config freshId trace →
          trace.Shows (config.executionId.getD freshId) id computed) := by
  have wellFormed := reachable.wellFormed
  have otherWellFormed := otherReachable.wellFormed
  obtain ⟨order, horder⟩ := exists_order_of_acyclic wellFormed acyclic
  obtain ⟨otherOrder, hotherOrder⟩ := exists_order_of_acyclic otherWellFormed otherAcyclic
  have orders := orders_of_order wellFormed horder
  have otherOrders := orders_of_order otherWellFormed hotherOrder
  have hid := (orders.mem_iff id).mpr shares.contains
  have hother := (otherOrders.mem_iff id).mpr (shares.contains_other .refl shares.contains)
  have hsame := shares.compute?_eq wellFormed otherWellFormed orders otherOrders id hid .refl
  refine ⟨(graph.walk order).compute? graph id, fun config freshId ↦
    ⟨⟨wellFormed.evaluates_evaluate config freshId, fun trace h ↦ ?_⟩,
      otherWellFormed.evaluates_evaluate config freshId, fun trace h ↦ ?_⟩⟩
  · exact h.shows wellFormed horder hid
  · rw [hsame]
    exact h.shows otherWellFormed hotherOrder hother

/-- The relay among other nodes: an output that nothing feeds and so fails, and one downstream. -/
def crowd : Graph :=
  afterEdits
    [ .createNode (.ofTypes [Builtin.textOutput]) (.ofNat 0) "text-output" .empty,
      .createNode (.ofTypes [Builtin.textInput]) (.ofNat 1) "text-input" .empty,
      .createNode (.ofTypes [Builtin.textOutput]) (.ofNat 2) "text-output" .empty,
      .createNode (.ofTypes [Builtin.textOutput]) (.ofNat 3) "text-output" .empty,
      .connect (.ofNat 2) "text" (.ofNat 3) "text" .string,
      .connect (.ofNat 1) "text" (.ofNat 2) "text" .string ]

theorem reachable_crowd : crowd.Reachable := ⟨_, rfl⟩

theorem order_crowd : crowd.order = .ok [.ofNat 0, .ofNat 1, .ofNat 2, .ofNat 3] := by
  decide

theorem acyclic_crowd : crowd.Acyclic :=
  (orders_of_order reachable_crowd.wellFormed order_crowd).acyclic reachable_crowd.wellFormed

theorem ends_relay : ∀ connection ∈ relay.connections,
    connection.source.node = .ofNat 1 ∧ connection ∈ crowd.connections := by
  decide

theorem ends_crowd : ∀ connection ∈ crowd.connections,
    connection.target.node = .ofNat 3 ∨ connection ∈ relay.connections := by
  decide

theorem upstream_relay {id : NodeId} (h : ReflTransGen relay.Feeds id (.ofNat 2)) :
    id = .ofNat 2 ∨ id = .ofNat 1 := by
  rcases h.cases_head with heq | ⟨next, ⟨connection, hmem, hsource, -⟩, -⟩
  · exact .inl heq
  · exact .inr (hsource.symm.trans (ends_relay connection hmem).1)

theorem sharesUpstream_relay : relay.SharesUpstream crowd (.ofNat 2) where
  contains := by decide
  node id h := by
    rcases upstream_relay h with heq | heq
    · rw [heq]
      rfl
    · rw [heq]
      rfl
  connections connection h := by
    refine ⟨fun hmem ↦ (ends_relay connection hmem).2, fun hmem ↦ ?_⟩
    refine (ends_crowd connection hmem).resolve_left fun heq ↦ ?_
    rw [heq] at h
    rcases upstream_relay h with hid | hid
    · exact absurd hid (by decide)
    · exact absurd hid (by decide)

theorem fate_depends_on_ancestors_relay :
    relay.Reachable ∧ crowd.Reachable ∧ relay.Acyclic ∧ crowd.Acyclic ∧
      relay.SharesUpstream crowd (.ofNat 2) ∧
      ∃ computed, ∀ config freshId,
        (relay.Evaluates config freshId (relay.evaluate config freshId) ∧
          ∀ trace, relay.Evaluates config freshId trace →
            trace.Shows (config.executionId.getD freshId) (.ofNat 2) computed) ∧
        (crowd.Evaluates config freshId (crowd.evaluate config freshId) ∧
          ∀ trace, crowd.Evaluates config freshId trace →
            trace.Shows (config.executionId.getD freshId) (.ofNat 2) computed) :=
  ⟨reachable_relay, reachable_crowd, acyclic_relay, acyclic_crowd, sharesUpstream_relay,
    fate_depends_on_ancestors relay crowd reachable_relay reachable_crowd acyclic_relay
      acyclic_crowd (.ofNat 2) sharesUpstream_relay⟩

end Graph

end FlowGraph
