import FlowGraph.Proofs.Graph.Invariant

/-!
Loading what has been stored. The settings of a coherent node can be laid over the defaults of its
type again and give the same node (`Node.Coherent.create_eq`); and a connection that joins current
connectors is made again from the names of its ends, as long as nothing else feeds its input. So a
well-formed graph is rebuilt node by node and connection by connection (`WellFormed.load_store`).
-/

set_option autoImplicit false
set_option relaxedAutoImplicit false

namespace FlowGraph

namespace Node

/-- Values of known names and kinds can be laid over settings. -/
theorem overlay_eq_foldl {values : List (String × Box)} {settings : Boxes}
    (h : ∀ value ∈ values, (settings.get? value.1).map Box.kind = some value.2.kind) :
    overlay values settings =
      .ok (values.foldl (fun settings value ↦ settings.insert value.1 value.2) settings) := by
  induction values generalizing settings with
  | nil => rfl
  | cons value rest ih =>
    have hcheck : checkSetting settings value.1 value.2 = .ok () :=
      checkSetting_eq_ok_iff.mpr (h value List.mem_cons_self)
    rw [overlay, hcheck]
    refine ih fun other hother ↦ ?_
    rw [kind_insert_of_checkSetting hcheck]
    exact h other (List.mem_cons_of_mem value hother)

/-- A coherent node is made anew from its settings. -/
theorem Coherent.create_eq {node : Node} (coherent : node.Coherent) :
    create node.id node.typeIdentifier node.type node.settings = .ok node := by
  have hknown : ∀ value ∈ node.settings.entries,
      (node.type.defaults.get? value.1).map Box.kind = some value.2.kind := by
    intro value hvalue
    rw [← coherent.settings, (OrderedMap.get?_eq_some_iff _ _ _).mpr hvalue, Option.map_some]
  have hdefaults : ∀ name, node.settings.get? name = none →
      node.type.defaults.get? name = none := by
    intro name hname
    rw [← Option.map_eq_none_iff (f := Box.kind), ← coherent.settings, hname, Option.map_none]
  refine create_eq_ok_iff.mpr ⟨?_, coherent.connectors, rfl, rfl, rfl⟩
  rw [overlay_eq_foldl hknown, OrderedMap.foldl_insert_entries hdefaults]

/-- The stored form of a node. -/
def store (node : Node) : StoredNode := ⟨node.id, node.typeIdentifier, node.settings⟩

end Node

/-- The stored form of a connection. -/
def Connection.store (connection : Connection) : StoredConnection :=
  ⟨connection.source.node, connection.source.name, connection.target.node, connection.target.name⟩

namespace Graph

variable {graph : Graph} {registry : Registry}

theorem store_eq (graph : Graph) :
    graph.store = ⟨graph.nodes.values.map Node.store, graph.connections.map Connection.store⟩ := rfl

/-- Every node has the type that the registry has under the identifier that the node carries. -/
def RegisteredIn (graph : Graph) (registry : Registry) : Prop :=
  ∀ id node, graph.node? id = some node → registry.get? node.typeIdentifier = some node.type

/-! ### Nodes -/

theorem loadNode_store {node : Node} (coherent : node.Coherent)
    (registered : registry.get? node.typeIdentifier = some node.type)
    (hfree : graph.node? node.id = none) :
    StoredGraph.loadNode registry graph node.store =
      .ok { graph with nodes := graph.nodes.insert node.id node } := by
  have hrequire : registry.require node.typeIdentifier = .ok node.type := by
    rw [Registry.require, registered]
  exact createNode_eq_ok_iff.mpr
    ⟨node.type, hrequire, node, coherent.create_eq, addNode_eq_ok_iff.mpr ⟨hfree, rfl⟩⟩

/-- Nodes under different identifiers are loaded one after the other. -/
theorem foldlM_loadNode {entries : List (NodeId × Node)} (hnodup : (entries.map Prod.fst).Nodup)
    (hentries : ∀ entry ∈ entries, entry.2.id = entry.1 ∧ entry.2.Coherent ∧
      registry.get? entry.2.typeIdentifier = some entry.2.type)
    (hfree : ∀ entry ∈ entries, graph.node? entry.1 = none) :
    (entries.map fun entry ↦ entry.2.store).foldlM (StoredGraph.loadNode registry) graph =
      .ok { graph with
        nodes := entries.foldl (fun nodes entry ↦ nodes.insert entry.1 entry.2) graph.nodes } := by
  induction entries generalizing graph with
  | nil => rfl
  | cons entry rest ih =>
    obtain ⟨hid, coherent, registered⟩ := hentries entry List.mem_cons_self
    rw [List.map_cons, List.nodup_cons] at hnodup
    have hload := loadNode_store coherent registered (hid ▸ hfree entry List.mem_cons_self)
    rw [List.map_cons, List.foldlM_cons, hload, hid]
    refine ih hnodup.2 (fun other hother ↦ hentries other (List.mem_cons_of_mem entry hother))
      fun other hother ↦ ?_
    have hne : other.1 ≠ entry.1 := fun heq ↦
      hnodup.1 (heq ▸ List.mem_map_of_mem hother)
    rw [node?_insert, if_neg hne]
    exact hfree other (List.mem_cons_of_mem entry hother)

/-! ### Connections -/

theorem outputKind_eq_ok_iff {id : NodeId} {name : String} {kind : Kind} :
    graph.outputKind id name = .ok kind ↔
      ∃ node, graph.node? id = some node ∧
        ∃ output, node.output? name = some output ∧ output.kind = kind := by
  simp only [outputKind, bind_eq_ok_iff, require_eq_ok_iff]
  refine exists_congr fun node ↦ and_congr_right fun _ ↦ ?_
  cases node.output? name with
  | none => simp
  | some output => simp [pure, Except.pure]

/-- A connection that joins current connectors is made again at a free input. -/
theorem Joins.loadConnection_store {connection : Connection} (joins : graph.Joins connection)
    (hfree : graph.connectionInto? connection.target.node connection.target.name = none) :
    StoredGraph.loadConnection graph connection.store =
      .ok { graph with connections := graph.connections ++ [connection] } := by
  obtain ⟨sourceNode, hsource, houtput⟩ := joins.source
  obtain ⟨targetNode, htarget, hinput⟩ := joins.target
  have hkind : graph.outputKind connection.source.node connection.source.name =
      .ok connection.source.kind :=
    outputKind_eq_ok_iff.mpr ⟨sourceNode, hsource, connection.source, houtput, rfl⟩
  have hcreate : Connection.create sourceNode connection.source.name targetNode
      connection.target.name connection.source.kind = .ok connection :=
    Connection.create_eq_ok_iff.mpr ⟨houtput, hinput, rfl, joins.kind.symm⟩
  refine bind_eq_ok_iff.mpr ⟨connection.source.kind, hkind, connect_eq_ok_iff.mpr ?_⟩
  exact ⟨sourceNode, hsource, targetNode, htarget, connection, hcreate,
    addConnection_eq_ok_iff.mpr ⟨joins, Or.inr ⟨hfree, rfl⟩⟩⟩

/-- Connections are loaded one after the other behind those that are there already. -/
theorem WellFormed.foldlM_loadConnection (wellFormed : graph.WellFormed)
    {done rest : List Connection} (hsplit : graph.connections = done ++ rest) :
    (rest.map Connection.store).foldlM StoredGraph.loadConnection
      { graph with connections := done } = .ok graph := by
  induction rest generalizing done with
  | nil =>
    rw [List.append_nil] at hsplit
    subst hsplit
    rfl
  | cons connection rest ih =>
    have hmem : connection ∈ graph.connections := by
      rw [hsplit]
      exact List.mem_append_right done List.mem_cons_self
    have joins : ({ graph with connections := done } : Graph).Joins connection :=
      (wellFormed.joins connection hmem).congr rfl rfl
    have hfree : ({ graph with connections := done } : Graph).connectionInto?
        connection.target.node connection.target.name = none := by
      have hnodup := wellFormed.one_per_input
      rw [hsplit, List.map_append, List.map_cons] at hnodup
      refine connectionInto?_eq_none_iff.mpr fun hdone ↦ ?_
      exact List.disjoint_of_nodup_append hnodup hdone List.mem_cons_self
    rw [List.map_cons, List.foldlM_cons, joins.loadConnection_store hfree]
    exact ih (by rw [hsplit, List.append_cons])

/-! ### The whole graph -/

theorem WellFormed.load_store (wellFormed : graph.WellFormed)
    (registered : graph.RegisteredIn registry) : graph.store.load registry = .ok graph := by
  have hentries : ∀ entry ∈ graph.nodes.entries, entry.2.id = entry.1 ∧ entry.2.Coherent ∧
      registry.get? entry.2.typeIdentifier = some entry.2.type := by
    rintro ⟨id, node⟩ hentry
    have hnode : graph.node? id = some node :=
      (OrderedMap.get?_eq_some_iff graph.nodes id node).mpr hentry
    exact ⟨wellFormed.own_id id node hnode, wellFormed.coherent id node hnode,
      registered id node hnode⟩
  have hnodes : (graph.nodes.values.map Node.store).foldlM (StoredGraph.loadNode registry) empty =
      .ok { graph with connections := [] } := by
    rw [OrderedMap.values, List.map_map]
    refine (foldlM_loadNode (OrderedMap.nodup_keys graph.nodes) hentries fun _ _ ↦ rfl).trans ?_
    rw [OrderedMap.foldl_insert_entries fun _ _ ↦ rfl]
    rfl
  rw [store_eq]
  exact bind_eq_ok_iff.mpr ⟨_, hnodes, wellFormed.foldlM_loadConnection rfl⟩

/-- A graph whose nodes have the types that a registry has under their identifiers is loaded from
its stored form as it was: the same nodes with the same identifiers, settings and connectors, and
the same connections in the same order, whether or not they form cycles. -/
theorem load_store_eq_self (registry : Registry) (graph : Graph) (reachable : graph.Reachable)
    (registered : graph.RegisteredIn registry) : graph.store.load registry = .ok graph :=
  reachable.wellFormed.load_store registered

set_option maxRecDepth 20000 in
theorem types_echo : echo.nodes.values.map (fun node ↦ (node.typeIdentifier, node.type)) =
    [("echo", Builtin.merge)] := rfl

theorem registeredIn_echo : echo.RegisteredIn (Registry.empty.register "echo" Builtin.merge) := by
  intro id node hnode
  have htype : (node.typeIdentifier, node.type) ∈ [("echo", Builtin.merge)] :=
    types_echo ▸ OrderedMap.mem_map_values _ hnode
  obtain ⟨hname, htype⟩ := Prod.mk.inj (List.mem_singleton.mp htype)
  rw [hname, htype]
  exact OrderedMap.get?_insert_self _ _ _

theorem load_store_eq_self_echo :
    echo.Reachable ∧ echo.RegisteredIn (Registry.empty.register "echo" Builtin.merge) ∧
      echo.store.load (Registry.empty.register "echo" Builtin.merge) = .ok echo :=
  ⟨reachable_echo, registeredIn_echo,
    load_store_eq_self _ echo reachable_echo registeredIn_echo⟩

end Graph

end FlowGraph
