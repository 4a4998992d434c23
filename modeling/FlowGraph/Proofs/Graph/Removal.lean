import FlowGraph.Proofs.Graph.Staleness

/-!
Edits around a node and its removal. A node that is added to a graph can be connected, disconnected
and changed in any way: all that comes to the graph touches the node, and nothing that was there
before is lost or moved (`Surrounds`). So removing the node, which takes away what touches it, gives
back the graph as it was.
-/

set_option autoImplicit false
set_option relaxedAutoImplicit false

namespace FlowGraph

/-- An edit around a node, as the graph is now: it makes a connection with the node at an end,
whether or not that succeeds, removes no other connection than one of these, or changes a setting of
the node. -/
inductive Edit.IsAround (graph : Graph) (id : NodeId) : Edit → Prop where
  | connectFrom (sourceName : String) (target : NodeId) (targetName : String) (expected : Kind) :
      IsAround graph id (.connect id sourceName target targetName expected)
  | connectTo (source : NodeId) (sourceName targetName : String) (expected : Kind) :
      IsAround graph id (.connect source sourceName id targetName expected)
  | addConnection {connection : Connection} (touches : connection.touches id = true) :
      IsAround graph id (.addConnection connection)
  | disconnect {target : NodeId} {name : String}
      (touches : ∀ connection, graph.connectionInto? target name = some connection →
        connection.touches id = true) :
      IsAround graph id (.disconnect target name)
  | updateSetting (name : String) (value : Box) : IsAround graph id (.updateSetting id name value)

namespace Graph

/-- Edits one after another, each of them around the node as the graph is by then. -/
inductive EditsAround (id : NodeId) : Graph → List Edit → Prop where
  | nil (graph : Graph) : EditsAround id graph []
  | cons {graph : Graph} {edit : Edit} {later : List Edit} (first : edit.IsAround graph id)
      (rest : EditsAround id (graph.edit edit) later) : EditsAround id graph (edit :: later)

/-- A graph is another one with a node and connections that touch it besides. -/
structure Surrounds (current : Graph) (id : NodeId) (graph : Graph) : Prop where
  wellFormed : current.WellFormed
  present : current.contains id = true
  nodes : current.nodes.erase id = graph.nodes
  connections : (current.connections.filter fun connection ↦ !connection.touches id) =
    graph.connections

variable {graph current next : Graph} {id : NodeId}

/-- An edit that fails leaves the graph as it is. -/
theorem edit_eq (graph : Graph) (edit : Edit) :
    graph.edit edit = graph ∨ edit.apply graph = .ok (graph.edit edit) := by
  unfold Graph.edit
  cases h : edit.apply graph with
  | error error => exact Or.inl rfl
  | ok next => exact Or.inr rfl

theorem Surrounds.removeNode_eq (surrounds : current.Surrounds id graph) :
    current.removeNode id = graph := by
  rw [removeNode, if_pos surrounds.present, surrounds.nodes, surrounds.connections]

/-- A new node is added to a graph without anything that touches it. -/
theorem surrounds_addNode {node : Node} (wellFormed : graph.WellFormed) (made : node.Made)
    (h : graph.addNode node = .ok next) : next.Surrounds node.id graph := by
  have hnext := wellFormed.addNode made.coherent h
  obtain ⟨hnew, rfl⟩ := addNode_eq_ok_iff.mp h
  have hfree : graph.contains node.id = false :=
    (OrderedMap.contains_eq_false_iff graph.nodes node.id).mpr hnew
  refine ⟨hnext, ?_, OrderedMap.erase_insert_of_new hnew node, ?_⟩
  · exact (contains_iff _ _).mpr ⟨node, OrderedMap.get?_insert_self graph.nodes node.id node⟩
  · refine List.filter_eq_self.mpr fun connection hmem ↦ ?_
    rw [Bool.not_eq_true', ← Bool.not_eq_true, touches_iff]
    rintro (hsource | htarget)
    · have hcontains := wellFormed.contains_source hmem
      rw [hsource, hfree] at hcontains
      cases hcontains
    · have hcontains := wellFormed.contains_target hmem
      rw [htarget, hfree] at hcontains
      cases hcontains

theorem Surrounds.addConnection (surrounds : current.Surrounds id graph) {connection : Connection}
    (touches : connection.touches id = true)
    (h : current.addConnection connection = .ok next) : next.Surrounds id graph := by
  have hnext := surrounds.wellFormed.addConnection h
  obtain ⟨-, ⟨-, rfl⟩ | ⟨-, rfl⟩⟩ := addConnection_eq_ok_iff.mp h
  · exact surrounds
  · refine ⟨hnext, surrounds.present, surrounds.nodes, ?_⟩
    rw [List.filter_append, surrounds.connections]
    simp [touches]

theorem Surrounds.connect (surrounds : current.Surrounds id graph) {source target : NodeId}
    {sourceName targetName : String} {expected : Kind} (hend : source = id ∨ target = id)
    (h : current.connect source sourceName target targetName expected = .ok next) :
    next.Surrounds id graph := by
  obtain ⟨sourceNode, hsource, targetNode, htarget, connection, hcreate, hadd⟩ :=
    connect_eq_ok_iff.mp h
  obtain ⟨hfrom, hto⟩ := surrounds.wellFormed.ends_of_create hsource htarget hcreate
  refine surrounds.addConnection ((touches_iff connection id).mpr ?_) hadd
  rw [hfrom, hto]
  exact hend

/-- Removing a connection that touches the node changes nothing of the others. -/
theorem Surrounds.disconnect (surrounds : current.Surrounds id graph) {target : NodeId}
    {name : String}
    (touches : ∀ connection, current.connectionInto? target name = some connection →
      connection.touches id = true) : (current.disconnect target name).Surrounds id graph := by
  refine ⟨surrounds.wellFormed.disconnect target name, surrounds.present, surrounds.nodes, ?_⟩
  rw [← surrounds.connections]
  rcases List.exists_or_eq_self_of_eraseP (fun connection ↦ connection.feeds target name)
    current.connections with hnone | ⟨removed, before, after, hbefore, hfeeds, hsplit, herased⟩
  · rw [Graph.disconnect, hnone]
  · have hfound : current.connectionInto? target name = some removed :=
      List.find?_eq_some_iff_append.mpr ⟨hfeeds, before, after, hsplit,
        fun connection hmem ↦ by simpa using hbefore connection hmem⟩
    rw [Graph.disconnect, herased, hsplit]
    simp [touches removed hfound]

/-- A change of the node drops only connections that touch it. -/
theorem Surrounds.updateSetting (surrounds : current.Surrounds id graph) {name : String}
    {value : Box} {dropped : List Connection}
    (h : current.updateSetting id name value = .ok (next, dropped)) : next.Surrounds id graph := by
  have hnext := surrounds.wellFormed.updateSetting h
  obtain ⟨node, -, changed, -, hnodes, hsplit⟩ := updateSetting_eq_ok_iff.mp h
  rw [List.partition_eq_filter_filter, Prod.mk.injEq] at hsplit
  refine ⟨hnext, ?_, ?_, ?_⟩
  · rw [contains_iff, node?, hnodes]
    exact ⟨changed, OrderedMap.get?_insert_self current.nodes id changed⟩
  · rw [hnodes, OrderedMap.erase_insert, surrounds.nodes]
  · rw [hsplit.2, List.filter_filter, ← surrounds.connections]
    refine List.filter_congr fun connection _ ↦ ?_
    cases htouches : connection.touches id with
    | true => rfl
    | false => simp [isStale, htouches]

/-- Whatever an edit around the node does, it does to the node and what touches it. -/
theorem Surrounds.edit (surrounds : current.Surrounds id graph) {edit : Edit}
    (around : edit.IsAround current id) : (current.edit edit).Surrounds id graph := by
  rcases edit_eq current edit with hsame | happly
  · rwa [hsame]
  · cases around with
    | connectFrom sourceName target targetName expected =>
      exact surrounds.connect (Or.inl rfl) happly
    | connectTo source sourceName targetName expected =>
      exact surrounds.connect (Or.inr rfl) happly
    | addConnection touches => exact surrounds.addConnection touches happly
    | disconnect touches => exact surrounds.disconnect touches
    | updateSetting name value =>
      rw [Edit.apply] at happly
      cases hupdate : current.updateSetting id name value with
      | error error => rw [hupdate] at happly; cases happly
      | ok result =>
        rw [hupdate] at happly
        rw [← Except.ok.inj happly]
        exact surrounds.updateSetting hupdate

theorem Surrounds.edits (surrounds : current.Surrounds id graph) {edits : List Edit}
    (around : EditsAround id current edits) :
    (edits.foldl Graph.edit current).Surrounds id graph := by
  induction around with
  | nil => exact surrounds
  | cons first _ ih => exact ih (surrounds.edit first)

/-- Removing a node undoes all edits around it. When a node that a graph does not have is added to
it, and then any edits follow that make connections with the node at an end, remove such
connections or change settings of the node, each of them with success or without, removing the
node gives back the very graph: its nodes with their settings and connectors, and its connections
in their order. -/
theorem removeNode_undoes_edits (graph : Graph) (reachable : graph.Reachable) (node : Node)
    (made : node.Made) (new : graph.contains node.id = false) (edits : List Edit)
    (around : EditsAround node.id (graph.edit (.addNode node made)) edits) :
    (edits.foldl Graph.edit (graph.edit (.addNode node made))).removeNode node.id = graph := by
  have hnew : graph.node? node.id = none :=
    (OrderedMap.contains_eq_false_iff graph.nodes node.id).mp new
  have hadd : graph.addNode node =
      .ok { graph with nodes := graph.nodes.insert node.id node } :=
    addNode_eq_ok_iff.mpr ⟨hnew, rfl⟩
  have hedit : graph.edit (.addNode node made) =
      { graph with nodes := graph.nodes.insert node.id node } := by
    rw [Graph.edit, Edit.apply, hadd]
  rw [hedit] at around ⊢
  exact ((surrounds_addNode reachable.wellFormed made hadd).edits around).removeNode_eq

/-- A choice that is not part of the relay yet. -/
def chooser : Node :=
  (Node.create (.ofNat 3) "conditional" Builtin.conditional .empty).toOption.get rfl

theorem made_chooser : chooser.Made :=
  .created (rfl : Node.create (.ofNat 3) "conditional" Builtin.conditional .empty = .ok chooser)

/-- Edits around the choice: it is connected to the text and to itself, in vain to the output, which
is taken; then it chooses between numbers, and its input is connected anew and disconnected. -/
def trials : List Edit :=
  [ .connect (.ofNat 1) "text" (.ofNat 3) "if_true" .string,
    .connect (.ofNat 3) "value" (.ofNat 3) "if_false" .string,
    .connect (.ofNat 3) "value" (.ofNat 2) "text" .string,
    .updateSetting (.ofNat 3) "kind" (.string "number"),
    .connect (.ofNat 3) "value" (.ofNat 3) "if_true" .number,
    .connect (.ofNat 3) "value" (.ofNat 3) "if_false" .number,
    .disconnect (.ofNat 3) "if_true" ]

theorem editsAround_trials :
    EditsAround chooser.id (relay.edit (.addNode chooser made_chooser)) trials := by
  refine .cons (.connectTo _ _ _ _) (.cons (.connectFrom _ _ _ _) (.cons (.connectFrom _ _ _ _) ?_))
  refine .cons (.updateSetting _ _) (.cons (.connectFrom _ _ _ _) (.cons (.connectFrom _ _ _ _) ?_))
  refine .cons (.disconnect fun connection hfound ↦ ?_) (.nil _)
  exact (touches_iff connection _).mpr (Or.inr (feeds_of_connectionInto? hfound).1)

theorem removeNode_undoes_edits_relay :
    relay.Reachable ∧ relay.contains chooser.id = false ∧
      EditsAround chooser.id (relay.edit (.addNode chooser made_chooser)) trials ∧
      (trials.foldl Graph.edit (relay.edit (.addNode chooser made_chooser))).connections.length =
        2 ∧
      (trials.foldl Graph.edit (relay.edit (.addNode chooser made_chooser))).removeNode
        chooser.id = relay :=
  ⟨reachable_relay, rfl, editsAround_trials, rfl,
    removeNode_undoes_edits relay reachable_relay chooser made_chooser rfl trials
      editsAround_trials⟩

end Graph

end FlowGraph
