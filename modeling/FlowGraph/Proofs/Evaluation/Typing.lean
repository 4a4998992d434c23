import FlowGraph.Proofs.Evaluation.Agreement

/-!
Type soundness of evaluation. Connections join connectors of one kind, a node is started when all it
reads from has resolved, and what has resolved has the declared outputs; so every connected input of
a started node is there, and every input that is there has the declared kind.
-/

set_option autoImplicit false
set_option relaxedAutoImplicit false

namespace FlowGraph

open Evaluation

variable {graph : Graph} {node : Node} {upstream : OrderedMap NodeId Boxes}

/-- Inputs that a node may be given when the nodes before it have put out `upstream`: every box is
that of a declared input of its kind, and what comes along a connection is there. -/
structure Node.FitsInputs (graph : Graph) (node : Node) (upstream : OrderedMap NodeId Boxes)
    (inputs : Boxes) : Prop where
  declared : ∀ name box, inputs.get? name = some box →
    ∃ input, node.input? name = some input ∧ box.kind = input.kind
  connected : ∀ connection ∈ graph.connections, connection.target.node = node.id →
    ∃ boxes box, upstream.get? connection.source.node = some boxes ∧
      boxes.get? connection.source.name = some box ∧
      inputs.get? connection.target.name = some box

/-- A node has put out what it declares. -/
def Graph.HasPutOut (graph : Graph) (upstream : OrderedMap NodeId Boxes) (id : NodeId) : Prop :=
  ∃ node outputs, graph.node? id = some node ∧ upstream.get? id = some outputs ∧
    node.FitsOutputs outputs

/-- What comes along a connection has the kind of the connection. -/
theorem Graph.HasPutOut.carries {connection : Connection}
    (h : graph.HasPutOut upstream connection.source.node) (wellFormed : graph.WellFormed)
    (hmem : connection ∈ graph.connections) :
    ∃ boxes box, upstream.get? connection.source.node = some boxes ∧
      boxes.get? connection.source.name = some box ∧ box.kind = connection.target.kind := by
  obtain ⟨source, boxes, hsource, hboxes, hfits⟩ := h
  obtain ⟨other, hother, houtput⟩ := (wellFormed.joins connection hmem).source
  obtain rfl : source = other := Option.some.inj (hsource.symm.trans hother)
  have hkind := hfits connection.source.name
  rw [houtput, Option.map_some] at hkind
  obtain ⟨box, hbox, hboxKind⟩ := Option.map_eq_some_iff.mp hkind
  exact ⟨boxes, box, hboxes, hbox, hboxKind.trans (wellFormed.joins connection hmem).kind⟩

/-- Where all that a node reads from has put out what it declares, the node is given fitting
inputs. -/
theorem Node.fitsInputs_assembleInputs (wellFormed : graph.WellFormed)
    (found : graph.node? node.id = some node)
    (h : ∀ source, graph.Feeds source node.id → graph.HasPutOut upstream source) :
    node.FitsInputs graph upstream (node.assembleInputs graph upstream) := by
  have coherent := wellFormed.coherent node.id node found
  have htarget : ∀ connection ∈ graph.connections, connection.target.node = node.id →
      node.input? connection.target.name = some connection.target := by
    intro connection hmem hnode
    obtain ⟨other, hother, hinput⟩ := (wellFormed.joins connection hmem).target
    rw [hnode, found] at hother
    rwa [Option.some.inj hother]
  constructor
  · intro name box hbox
    obtain ⟨input, hinput, hvalue⟩ :=
      (Node.get?_assembleInputs_iff coherent upstream name box).mp hbox
    refine ⟨input, hinput, ?_⟩
    unfold Node.inputBox? at hvalue
    split at hvalue
    · next connection hinto =>
      obtain ⟨hmem, hnode, hname⟩ := wellFormed.connectionInto?_eq_some_iff.mp hinto
      obtain ⟨boxes, carried, hboxes, hcarried, hkind⟩ :=
        (h connection.source.node ⟨connection, hmem, rfl, hnode⟩).carries wellFormed hmem
      have hsame : input = connection.target := by
        have hdeclared := htarget connection hmem hnode
        rw [hname, (coherent.input_named hinput).1] at hdeclared
        exact Option.some.inj (hinput.symm.trans hdeclared)
      rw [hboxes, Option.bind_some, hcarried, Option.some.injEq] at hvalue
      rw [hsame, ← hkind, hvalue]
    · unfold Graph.standIn? at hvalue
      split_ifs at hvalue with hsettable
      simpa using (Option.filter_eq_some_iff.mp hvalue).2
  · intro connection hmem hnode
    obtain ⟨boxes, box, hboxes, hbox, -⟩ :=
      (h connection.source.node ⟨connection, hmem, rfl, hnode⟩).carries wellFormed hmem
    refine ⟨boxes, box, hboxes, hbox, ?_⟩
    rw [Node.get?_assembleInputs_iff coherent]
    refine ⟨connection.target, htarget connection hmem hnode, ?_⟩
    have hinto := wellFormed.connectionInto?_eq_some_iff.mpr ⟨hmem, hnode, rfl⟩
    simp only [Node.inputBox?, hinto, hboxes, Option.bind_some, hbox]

/-- Fitting inputs have a box for exactly those declared inputs that are supplied. -/
theorem Node.FitsInputs.exists_box_iff
    (fits : node.FitsInputs graph upstream (node.assembleInputs graph upstream))
    (wellFormed : graph.WellFormed) (coherent : node.Coherent) {name : String} {input : Input}
    (hinput : node.input? name = some input) :
    (∃ box, (node.assembleInputs graph upstream).get? name = some box) ↔
      graph.isSupplied node input = true := by
  obtain rfl := (coherent.input_named hinput).1
  simp only [Node.get?_assembleInputs_iff coherent, hinput, Option.some.injEq]
  rw [Graph.isSupplied]
  cases hinto : graph.connectionInto? node.id input.name with
  | some connection =>
    obtain ⟨hmem, hnode, hname⟩ := wellFormed.connectionInto?_eq_some_iff.mp hinto
    obtain ⟨boxes, box, -, -, hbox⟩ := fits.connected connection hmem hnode
    rw [hname, Node.get?_assembleInputs_iff coherent] at hbox
    simp only [hinput, Option.some.injEq] at hbox
    exact iff_of_true ⟨box, hbox⟩ rfl
  | none =>
    simp [Node.inputBox?, hinto, Option.isSome_iff_exists]

/-- A supplied input of fitting inputs has the declared kind. -/
theorem Node.FitsInputs.kind_of_isSupplied
    (fits : node.FitsInputs graph upstream (node.assembleInputs graph upstream))
    (wellFormed : graph.WellFormed) (coherent : node.Coherent) {name : String} {input : Input}
    (hinput : node.input? name = some input) (hsupplied : graph.isSupplied node input = true) :
    ((node.assembleInputs graph upstream).get? name).map Box.kind = some input.kind := by
  obtain ⟨box, hbox⟩ := (fits.exists_box_iff wellFormed coherent hinput).mpr hsupplied
  obtain ⟨other, hother, hkind⟩ := fits.declared name box hbox
  obtain rfl : input = other := Option.some.inj (hinput.symm.trans hother)
  rw [hbox, Option.map_some, hkind]

namespace Walk

variable {walk : Walk} {passed : List NodeId}

/-- A node that resolves in a walk has put out what it declares. -/
theorem Follows.hasPutOut (follows : walk.Follows graph passed) (wellFormed : graph.WellFormed)
    {id : NodeId} (h : walk.states.get? id = some .resolved) :
    graph.HasPutOut walk.outputs id := by
  rw [follows.state] at h
  split_ifs at h with hid
  cases hcompute : walk.compute? graph id with
  | none => simp [hcompute, verdict] at h
  | some result =>
    cases result with
    | error error => simp [hcompute, verdict] at h
    | ok outputs =>
      obtain ⟨-, node, hnode, hresult⟩ := compute?_eq_some_iff.mp hcompute
      exact ⟨node, outputs, hnode, (follows.outputs id outputs).mpr ⟨hid, hcompute⟩,
        Node.fits_of_run (wellFormed.coherent id node hnode) hresult⟩

/-- A node that is computed in a walk is given fitting inputs. -/
theorem Follows.fitsInputs_of_compute? (follows : walk.Follows graph passed)
    (wellFormed : graph.WellFormed) {id : NodeId} {result : Except GraphError Boxes}
    (h : walk.compute? graph id = some result) :
    ∃ node, graph.node? id = some node ∧
      (node.run (node.assembleInputs graph walk.outputs)).result = result ∧
      node.FitsInputs graph walk.outputs (node.assembleInputs graph walk.outputs) := by
  obtain ⟨hresolved, node, hnode, hresult⟩ := compute?_eq_some_iff.mp h
  obtain rfl := wellFormed.own_id id node hnode
  refine ⟨node, hnode, hresult, Node.fitsInputs_assembleInputs wellFormed hnode fun source h ↦ ?_⟩
  exact follows.hasPutOut wellFormed (hresolved source h)

end Walk

namespace Evaluation.Run

variable {order : List NodeId} {run : Run}

/-- A resolved node has put out what it declares. -/
theorem Sound.hasPutOut (sound : run.Sound graph order) (wellFormed : graph.WellFormed)
    {id : NodeId} (h : run.states.get? id = some .resolved) : graph.HasPutOut run.outputs id := by
  obtain ⟨outputs, houtputs⟩ := (sound.tracks.outputs id).mpr h
  have hcompute := sound.agrees.outputs id outputs houtputs
  unfold Walk.compute? at hcompute
  split_ifs at hcompute
  obtain ⟨node, hnode, hresult⟩ := Option.map_eq_some_iff.mp hcompute
  have coherent := wellFormed.coherent id node hnode
  exact ⟨node, outputs, hnode, houtputs, Node.fits_of_run coherent hresult⟩

theorem Sound.fitsInputs_of_starts {limit : Option Nat} {position : Nat} {node : Node}
    (sound : run.Sound graph order) (wellFormed : graph.WellFormed)
    (starts : run.Starts graph limit position node) :
    node.FitsInputs graph run.outputs (node.assembleInputs graph run.outputs) := by
  have hnil := (sound.tracks.of_starts starts).2.2
  refine Node.fitsInputs_assembleInputs wellFormed starts.found fun source hfeeds ↦ ?_
  exact sound.hasPutOut wellFormed (unresolved_eq_nil_iff.mp hnil source hfeeds)

end Evaluation.Run

namespace Graph

/-- Evaluation is type sound. Whenever a node is started, it is given boxes for declared inputs
only, each of the declared kind, and the box that comes along every connection into it. Every
resolved node has put out exactly the declared outputs, each of the declared kind; an evaluation
that resolves has such outputs for every node of the graph and for nothing else. -/
theorem evaluation_type_sound (graph : Graph) (reachable : graph.Reachable) (config : Config)
    (freshId : String) :
    graph.Evaluates config freshId (graph.evaluate config freshId) ∧
      (∀ run, graph.PassesThrough config freshId run →
        (∀ position node, run.Starts graph config.bound position node →
          node.FitsInputs graph run.outputs (node.assembleInputs graph run.outputs)) ∧
        ∀ id, run.states.get? id = some .resolved → graph.HasPutOut run.outputs id) ∧
      ∀ trace outputs, graph.Evaluates config freshId trace → trace.outcome = .resolved outputs →
        ∀ id, (graph.contains id = true → graph.HasPutOut outputs id) ∧
          (graph.contains id = false → outputs.get? id = none) := by
  have wellFormed := reachable.wellFormed
  refine ⟨wellFormed.evaluates_evaluate config freshId, fun run through ↦ ?_,
    fun trace outputs h houtcome id ↦ ?_⟩
  · obtain ⟨order, -, sound⟩ := through.sound wellFormed
    exact ⟨fun position node starts ↦ sound.fitsInputs_of_starts wellFormed starts,
      fun id hresolved ↦ sound.hasPutOut wellFormed hresolved⟩
  · cases horder : graph.order with
    | error node =>
      rw [Evaluates, horder] at h
      rw [h, evaluate, horder] at houtcome
      cases houtcome
    | ok order =>
      obtain ⟨final, -, sound, settled, rfl⟩ := h.of_order wellFormed horder
      obtain ⟨hnil, rfl⟩ := Run.conclude_resolved_iff.mp houtcome
      constructor
      · intro hid
        have hmem := (sound.orders.mem_iff id).mpr hid
        exact sound.hasPutOut wellFormed (sound.resolved_of_ownFailures_nil settled hnil id hmem)
      · intro hid
        refine Option.eq_none_iff_forall_ne_some.mpr fun found hfound ↦ ?_
        have hstate := (sound.tracks.outputs id).mp ⟨found, hfound⟩
        have hcontains := (sound.orders.mem_iff id).mp ((sound.tracks.state id).mp ⟨_, hstate⟩)
        rw [hid] at hcontains
        cases hcontains

/-- Both nodes of the relay put out the text that they declare, and there is nothing else. -/
theorem evaluation_type_sound_relay :
    relay.Reachable ∧ ∃ outputs,
      (relay.evaluate ⟨none, none⟩ "run").outcome = .resolved outputs ∧
        outputs.get? (.ofNat 2) = some (.ofList [("text", .string "")]) ∧
        relay.HasPutOut outputs (.ofNat 1) ∧ relay.HasPutOut outputs (.ofNat 2) ∧
        outputs.get? (.ofNat 3) = none := by
  obtain ⟨hevaluates, -, hresolved⟩ :=
    evaluation_type_sound relay reachable_relay ⟨none, none⟩ "run"
  obtain ⟨outputs, houtcome, htext⟩ : ∃ outputs,
      (relay.evaluate ⟨none, none⟩ "run").outcome = .resolved outputs ∧
        outputs.get? (.ofNat 2) = some (.ofList [("text", .string "")]) := ⟨_, rfl, rfl⟩
  have hall := hresolved _ outputs hevaluates houtcome
  exact ⟨reachable_relay, outputs, houtcome, htext, (hall _).1 rfl, (hall _).1 rfl, (hall _).2 rfl⟩

end Graph

end FlowGraph
