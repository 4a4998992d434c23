import FlowGraph.Proofs.Graph.Edit
import Mathlib.Data.List.Nodup

/-!
What every graph keeps over its whole history of edits: nodes stand under their own identifiers and
are as their types say, connections join the connectors of the graph as they are now, and no input
takes two connections. Each operation restores the three parts, so every reachable graph has them
(`Reachable.wellFormed`).
-/

set_option autoImplicit false
set_option relaxedAutoImplicit false

namespace FlowGraph.Graph

/-- Nodes stand under their own identifiers and are as their types say, connections join current
connectors, and no two connections end at one input. -/
structure WellFormed (graph : Graph) : Prop where
  own_id : ∀ id node, graph.node? id = some node → node.id = id
  coherent : ∀ id node, graph.node? id = some node → node.Coherent
  joins : ∀ connection ∈ graph.connections, graph.Joins connection
  one_per_input : (graph.connections.map fun connection ↦
    (connection.target.node, connection.target.name)).Nodup

variable {graph next : Graph}

theorem wellFormed_empty : empty.WellFormed where
  own_id _ _ h := by cases h
  coherent _ _ h := by cases h
  joins _ h := by cases h
  one_per_input := List.nodup_nil

theorem node?_insert (nodes : OrderedMap NodeId Node) (connections : List Connection)
    (id other : NodeId) (node : Node) :
    (⟨nodes.insert id node, connections⟩ : Graph).node? other =
      if other = id then some node else nodes.get? other :=
  OrderedMap.get?_insert nodes id other node

theorem feeds_iff (connection : Connection) (node : NodeId) (name : String) :
    connection.feeds node name = true ↔
      connection.target.node = node ∧ connection.target.name = name := by
  simp [Connection.feeds]

theorem touches_iff (connection : Connection) (node : NodeId) :
    connection.touches node = true ↔
      connection.source.node = node ∨ connection.target.node = node := by
  simp [Connection.touches]

theorem connectionInto?_eq_none_iff {target : NodeId} {name : String} :
    graph.connectionInto? target name = none ↔
      (target, name) ∉ graph.connections.map fun connection ↦
        (connection.target.node, connection.target.name) := by
  simp only [connectionInto?, List.find?_eq_none, feeds_iff, List.mem_map, Prod.mk.injEq,
    not_exists, not_and]

theorem feeds_of_connectionInto? {target : NodeId} {name : String} {connection : Connection}
    (h : graph.connectionInto? target name = some connection) :
    connection.target.node = target ∧ connection.target.name = name := by
  rw [connectionInto?] at h
  exact (feeds_iff connection target name).mp (by simpa only using List.find?_some h)

/-- With one connection per input, the connection found at an input is the one that ends there. -/
theorem WellFormed.connectionInto?_eq_some_iff (wellFormed : graph.WellFormed) {target : NodeId}
    {name : String} {connection : Connection} :
    graph.connectionInto? target name = some connection ↔
      connection ∈ graph.connections ∧ connection.target.node = target ∧
        connection.target.name = name := by
  constructor
  · intro h
    exact ⟨List.mem_of_find?_eq_some h, feeds_of_connectionInto? h⟩
  · rintro ⟨hmem, rfl, rfl⟩
    cases hfound : graph.connectionInto? connection.target.node connection.target.name with
    | none => exact absurd (List.mem_map_of_mem hmem) (connectionInto?_eq_none_iff.mp hfound)
    | some found =>
      have hfeeds := feeds_of_connectionInto? hfound
      exact congrArg some (List.inj_on_of_nodup_map wellFormed.one_per_input
        (List.mem_of_find?_eq_some hfound) hmem (Prod.ext hfeeds.1 hfeeds.2))

/-- Where the same connections end at a node, the same one is found at each of its inputs. -/
theorem WellFormed.connectionInto?_congr (wellFormed : graph.WellFormed) {other : Graph}
    (otherWellFormed : other.WellFormed) {target : NodeId}
    (h : ∀ connection, connection.target.node = target →
      (connection ∈ graph.connections ↔ connection ∈ other.connections)) (name : String) :
    graph.connectionInto? target name = other.connectionInto? target name := by
  ext connection
  rw [wellFormed.connectionInto?_eq_some_iff, otherWellFormed.connectionInto?_eq_some_iff]
  exact and_congr_left fun ends ↦ h connection ends.1

/-- Ends of connections are nodes of the graph. -/
theorem WellFormed.contains_source (wellFormed : graph.WellFormed) {connection : Connection}
    (h : connection ∈ graph.connections) : graph.contains connection.source.node = true := by
  obtain ⟨node, hnode, -⟩ := (wellFormed.joins connection h).source
  exact (contains_iff graph _).mpr ⟨node, hnode⟩

theorem WellFormed.contains_target (wellFormed : graph.WellFormed) {connection : Connection}
    (h : connection ∈ graph.connections) : graph.contains connection.target.node = true := by
  obtain ⟨node, hnode, -⟩ := (wellFormed.joins connection h).target
  exact (contains_iff graph _).mpr ⟨node, hnode⟩

/-- The nodes of a graph carry the identifiers that they stand under. -/
theorem WellFormed.map_id_values (wellFormed : graph.WellFormed) :
    graph.nodes.values.map Node.id = graph.nodes.keys := by
  refine OrderedMap.map_values_eq_keys fun entry hentry ↦ ?_
  exact wellFormed.own_id _ _ ((OrderedMap.get?_eq_some_iff graph.nodes _ _).mpr hentry)

/-! ### Nodes -/

theorem WellFormed.addNode (wellFormed : graph.WellFormed) {node : Node}
    (coherent : node.Coherent) (h : graph.addNode node = .ok next) : next.WellFormed := by
  obtain ⟨hfree, rfl⟩ := addNode_eq_ok_iff.mp h
  have hother : ∀ id, graph.contains id = true →
      (⟨graph.nodes.insert node.id node, graph.connections⟩ : Graph).node? id =
        graph.node? id := by
    intro id hid
    obtain ⟨old, hold⟩ := (contains_iff graph id).mp hid
    have hne : id ≠ node.id := fun heq ↦ by simp [heq, hfree] at hold
    rw [node?_insert, if_neg hne]
    rfl
  refine ⟨fun id other hnode ↦ ?_, fun id other hnode ↦ ?_, fun connection hmem ↦ ?_,
    wellFormed.one_per_input⟩
  · rw [node?_insert] at hnode
    split_ifs at hnode with heq
    · cases hnode
      exact heq.symm
    · exact wellFormed.own_id id other hnode
  · rw [node?_insert] at hnode
    split_ifs at hnode
    · cases hnode
      exact coherent
    · exact wellFormed.coherent id other hnode
  · exact (wellFormed.joins connection hmem).congr
      (hother _ (wellFormed.contains_source hmem)) (hother _ (wellFormed.contains_target hmem))

theorem WellFormed.createNode (wellFormed : graph.WellFormed) {registry : Registry} {id : NodeId}
    {identifier : String} {overrides : Boxes}
    (h : graph.createNode registry id identifier overrides = .ok next) : next.WellFormed := by
  obtain ⟨type, -, node, hnode, hadd⟩ := createNode_eq_ok_iff.mp h
  exact wellFormed.addNode (Node.coherent_of_create hnode) hadd

theorem WellFormed.removeNode (wellFormed : graph.WellFormed) (id : NodeId) :
    (graph.removeNode id).WellFormed := by
  unfold Graph.removeNode
  split_ifs with hid
  · have hnode : ∀ other,
        (⟨graph.nodes.erase id, graph.connections.filter fun connection ↦
          !connection.touches id⟩ : Graph).node? other =
          if other = id then none else graph.node? other := OrderedMap.get?_erase graph.nodes id
    refine ⟨fun other node h ↦ ?_, fun other node h ↦ ?_, fun connection hmem ↦ ?_,
      (List.filter_sublist.map _).nodup wellFormed.one_per_input⟩
    · rw [hnode] at h
      split_ifs at h
      exact wellFormed.own_id other node h
    · rw [hnode] at h
      split_ifs at h
      exact wellFormed.coherent other node h
    · rw [List.mem_filter, Bool.not_eq_true', ← Bool.not_eq_true, touches_iff, not_or] at hmem
      exact (wellFormed.joins connection hmem.1).congr ((hnode _).trans (if_neg hmem.2.1))
        ((hnode _).trans (if_neg hmem.2.2))
  · exact wellFormed

/-! ### Connections -/

theorem WellFormed.addConnection (wellFormed : graph.WellFormed) {connection : Connection}
    (h : graph.addConnection connection = .ok next) : next.WellFormed := by
  obtain ⟨hjoins, ⟨-, rfl⟩ | ⟨hfree, rfl⟩⟩ := addConnection_eq_ok_iff.mp h
  · exact wellFormed
  · refine ⟨wellFormed.own_id, wellFormed.coherent, fun other hmem ↦ ?_, ?_⟩
    · have hother : graph.Joins other := by
        rcases List.mem_append.mp hmem with hold | hnew
        · exact wellFormed.joins other hold
        · rwa [List.mem_singleton.mp hnew]
      exact hother.congr rfl rfl
    · rw [List.map_append, List.map_singleton, ← List.concat_eq_append]
      exact List.Nodup.concat (connectionInto?_eq_none_iff.mp hfree) wellFormed.one_per_input

theorem WellFormed.connect (wellFormed : graph.WellFormed) {source target : NodeId}
    {sourceName targetName : String} {expected : Kind}
    (h : graph.connect source sourceName target targetName expected = .ok next) :
    next.WellFormed := by
  obtain ⟨-, -, -, -, connection, -, hadd⟩ := connect_eq_ok_iff.mp h
  exact wellFormed.addConnection hadd

/-- Giving up connections changes nothing else. -/
theorem WellFormed.sublist (wellFormed : graph.WellFormed) {connections : List Connection}
    (h : connections.Sublist graph.connections) :
    ({ graph with connections } : Graph).WellFormed where
  own_id := wellFormed.own_id
  coherent := wellFormed.coherent
  joins connection hmem := (wellFormed.joins connection (h.subset hmem)).congr rfl rfl
  one_per_input := (h.map _).nodup wellFormed.one_per_input

theorem WellFormed.disconnect (wellFormed : graph.WellFormed) (target : NodeId) (name : String) :
    (graph.disconnect target name).WellFormed :=
  wellFormed.sublist List.eraseP_sublist

/-! ### Settings -/

theorem WellFormed.updateSetting (wellFormed : graph.WellFormed) {id : NodeId} {name : String}
    {value : Box} {dropped : List Connection}
    (h : graph.updateSetting id name value = .ok (next, dropped)) : next.WellFormed := by
  obtain ⟨node, hnode, changed, hchanged, hnodes, hsplit⟩ := updateSetting_eq_ok_iff.mp h
  rw [List.partition_eq_filter_filter, Prod.mk.injEq] at hsplit
  have hlookup : ∀ other, next.node? other = if other = id then some changed
      else graph.node? other := by
    intro other
    rw [node?, hnodes]
    exact OrderedMap.get?_insert graph.nodes id other changed
  have hid : changed.id = id := (Node.id_of_applySetting hchanged).trans
    (wellFormed.own_id id node hnode)
  refine ⟨fun other found hfound ↦ ?_, fun other found hfound ↦ ?_,
    fun connection hmem ↦ ?_, ?_⟩
  · rw [hlookup] at hfound
    split_ifs at hfound with heq
    · cases hfound
      exact hid.trans heq.symm
    · exact wellFormed.own_id other found hfound
  · rw [hlookup] at hfound
    split_ifs at hfound
    · cases hfound
      exact (wellFormed.coherent id node hnode).applySetting hchanged
    · exact wellFormed.coherent other found hfound
  · rw [hsplit.2, List.mem_filter, Function.comp_apply, Bool.not_eq_true',
      isStale_eq_false_iff] at hmem
    by_cases htouches : connection.touches id = true
    -- a connection at the changed node has been checked against its new connectors
    · exact (hmem.2 htouches).congr (by rw [node?, hnodes]; rfl) (by rw [node?, hnodes]; rfl)
    · rw [touches_iff, not_or] at htouches
      exact (wellFormed.joins connection hmem.1).congr
        ((hlookup _).trans (if_neg htouches.1)) ((hlookup _).trans (if_neg htouches.2))
  · rw [hsplit.2]
    exact (List.filter_sublist.map _).nodup wellFormed.one_per_input

/-! ### Stored graphs -/

theorem wellFormed_of_load {stored : StoredGraph} {registry : Registry}
    (h : stored.load registry = .ok next) : next.WellFormed := by
  obtain ⟨nodes, hnodes, hconnections⟩ := bind_eq_ok_iff.mp h
  have hfirst : nodes.WellFormed :=
    foldlM_keeps WellFormed (fun _ _ _ wellFormed hstep ↦ wellFormed.createNode hstep) stored.nodes
      wellFormed_empty hnodes
  refine foldlM_keeps WellFormed (fun graph connection next wellFormed hstep ↦ ?_)
    stored.connections hfirst hconnections
  obtain ⟨kind, -, hconnect⟩ := bind_eq_ok_iff.mp hstep
  exact wellFormed.connect hconnect

/-! ### Histories -/

theorem WellFormed.edit (wellFormed : graph.WellFormed) (edit : Edit) :
    (graph.edit edit).WellFormed := by
  unfold Graph.edit
  split
  · next next h =>
    cases edit with
    | addNode node made => exact wellFormed.addNode made.coherent h
    | createNode registry id identifier overrides => exact wellFormed.createNode h
    | removeNode id =>
      cases h
      exact wellFormed.removeNode id
    | connect source sourceName target targetName expected => exact wellFormed.connect h
    | addConnection connection => exact wellFormed.addConnection h
    | disconnect target name =>
      cases h
      exact wellFormed.disconnect target name
    | updateSetting id name value =>
      rw [Edit.apply] at h
      cases hupdate : graph.updateSetting id name value with
      | error error => rw [hupdate] at h; cases h
      | ok result =>
        rw [hupdate] at h
        cases h
        exact wellFormed.updateSetting hupdate
    | load stored registry => exact wellFormed_of_load h
    | reload registry => exact wellFormed_of_load h
  · exact wellFormed

theorem WellFormed.foldl_edit (wellFormed : graph.WellFormed) (edits : List Edit) :
    (edits.foldl Graph.edit graph).WellFormed := by
  induction edits generalizing graph with
  | nil => exact wellFormed
  | cons edit rest ih => exact ih (wellFormed.edit edit)

theorem Reachable.wellFormed (reachable : graph.Reachable) : graph.WellFormed := by
  obtain ⟨edits, rfl⟩ := reachable
  exact wellFormed_empty.foldl_edit edits

/-- Every history of edits, whichever of them fail, ends with a graph in which every node stands
under its own identifier, has exactly the settings of its type's defaults, each of the default's
kind, and the connectors that its type derives from its settings; in which every connection joins
an output and an input of nodes of the graph as they are now, both of one kind; and in which no two
connections end at one input. -/
theorem wellFormed_afterEdits (edits : List Edit) : (afterEdits edits).WellFormed :=
  wellFormed_empty.foldl_edit edits

end FlowGraph.Graph
