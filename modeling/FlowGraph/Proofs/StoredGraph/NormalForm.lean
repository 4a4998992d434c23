import FlowGraph.Builtin
import FlowGraph.Proofs.Graph.Connecting
import FlowGraph.Proofs.Registry
import FlowGraph.Proofs.StoredGraph
import FlowGraph.Regex

/-!
What loading does to a stored graph. Nodes may be stored in any order and with some of their settings
only, and connections may be repeated. Storing what has been loaded gives the normal form: the nodes
in the order of their identifiers, each with all its settings, and the connections in their order,
each where it occurs first. Nothing else differs, and the normal form is loaded and stored as it is
(`load_normalizes`).
-/

set_option autoImplicit false
set_option relaxedAutoImplicit false

namespace FlowGraph

/-- The default settings of the type that is registered under an identifier. -/
def Registry.defaults (registry : Registry) (identifier : String) : Boxes :=
  (registry.get? identifier).elim .empty NodeType.defaults

/-- The stored node with all its settings: its own laid over the defaults of its type. -/
def StoredNode.complete (registry : Registry) (node : StoredNode) : StoredNode :=
  { node with settings := (registry.defaults node.typeIdentifier).union node.settings }

/-- The stored graph with its nodes sorted and complete and without repeated connections. -/
def StoredGraph.normalForm (registry : Registry) (stored : StoredGraph) : StoredGraph where
  nodes := (stored.nodes.mergeSort fun first second ↦ first.id ≤ second.id).map
    (.complete registry)
  connections := stored.connections.eraseDups

/-- What is behind a list has no place of its own when it occurs in the list. -/
theorem eraseDups_concat {α : Type} [DecidableEq α] (items : List α) (item : α) :
    (items ++ [item]).eraseDups =
      if item ∈ items then items.eraseDups else items.eraseDups ++ [item] := by
  rw [List.eraseDups_append, List.cons_removeAll]
  by_cases hmem : item ∈ items
  · simp [hmem, List.removeAll]
  · simp [hmem, List.removeAll, List.eraseDups_cons]

namespace Node

/-- Values that can be laid over settings are entered one after the other. -/
theorem eq_foldl_of_overlay {values : List (String × Box)} {settings result : Boxes}
    (h : overlay values settings = .ok result) :
    result = values.foldl (fun settings value ↦ settings.insert value.1 value.2) settings := by
  induction values generalizing settings with
  | nil =>
    cases h
    rfl
  | cons value rest ih =>
    obtain ⟨⟨⟩, -, hrest⟩ := bind_eq_ok_iff.mp h
    exact ih hrest

/-- A node is stored with the values it was made with and the defaults of its type. -/
theorem store_of_create {registry : Registry} {stored : StoredNode} {type : NodeType} {node : Node}
    (htype : registry.get? stored.typeIdentifier = some type)
    (h : create stored.id stored.typeIdentifier type stored.settings = .ok node) :
    node.store = stored.complete registry := by
  obtain ⟨hsettings, -, hid, hidentifier, -⟩ := create_eq_ok_iff.mp h
  have hunion : node.settings = type.defaults.union stored.settings := eq_foldl_of_overlay hsettings
  rw [store, StoredNode.complete, Registry.defaults, htype, hid, hidentifier, hunion]
  rfl

end Node

namespace StoredGraph

variable {registry : Registry} {stored : StoredGraph} {graph next : Graph}

/-! ### Nodes -/

/-- The nodes of a graph are some stored nodes, completed, and there are no connections yet. -/
structure Holds (registry : Registry) (nodes : List StoredNode) (graph : Graph) : Prop where
  wellFormed : graph.WellFormed
  registered : graph.RegisteredIn registry
  connections : graph.connections = []
  nodes : (graph.nodes.values.map Node.store).Perm (nodes.map (.complete registry))

theorem holds_empty (registry : Registry) : Holds registry [] .empty where
  wellFormed := Graph.wellFormed_empty
  registered _ _ h := by cases h
  connections := rfl
  nodes := .nil

theorem Holds.loadNode {nodes : List StoredNode} {node : StoredNode}
    (holds : Holds registry nodes graph) (h : loadNode registry graph node = .ok next) :
    Holds registry (nodes ++ [node]) next := by
  have hnext := holds.wellFormed.createNode h
  obtain ⟨type, htype, made, hmade, hadd⟩ := Graph.createNode_eq_ok_iff.mp h
  rw [Registry.require_eq_ok_iff] at htype
  obtain ⟨hfree, rfl⟩ := Graph.addNode_eq_ok_iff.mp hadd
  have hstore : made.store = node.complete registry := Node.store_of_create htype hmade
  refine ⟨hnext, fun id found hfound ↦ ?_, holds.connections, ?_⟩
  · rw [Graph.node?_insert] at hfound
    split_ifs at hfound
    · obtain ⟨-, -, -, hidentifier, htypeEq⟩ := Node.create_eq_ok_iff.mp hmade
      cases hfound
      rw [hidentifier, htypeEq, htype]
    · exact holds.registered id found hfound
  · have hentries := (OrderedMap.perm_entries_insert hfree made).map fun entry ↦ entry.2.store
    have hvalues : ∀ map : OrderedMap NodeId Node,
        map.values.map Node.store = map.entries.map fun entry ↦ entry.2.store :=
      fun map ↦ List.map_map
    rw [hvalues, List.map_append, List.map_singleton, ← hstore]
    refine hentries.trans ?_
    rw [List.map_cons, ← hvalues]
    exact (holds.nodes.cons _).trans (List.perm_append_singleton _ _).symm

/-! ### Connections -/

/-- The connections of a graph are some stored connections, each once, and the nodes are as they
were. -/
structure Joined (nodes : OrderedMap NodeId Node) (connections : List StoredConnection)
    (graph : Graph) : Prop where
  wellFormed : graph.WellFormed
  nodes : graph.nodes = nodes
  connections : graph.connections.map Connection.store = connections.eraseDups

/-- A connection that is made where there is room is new to the graph exactly when its stored form
is. -/
theorem store_mem_iff {connection : Connection}
    (hroom : graph.HasRoom connection.target.node connection.target.name connection) :
    connection.store ∈ graph.connections.map Connection.store ↔
      connection ∈ graph.connections := by
  refine ⟨fun h ↦ ?_, List.mem_map_of_mem⟩
  obtain ⟨other, hother, hstore⟩ := List.mem_map.mp h
  rcases hroom with hfree | hfed
  · have hends := congrArg (fun stored ↦ (stored.target, stored.targetName)) hstore
    have hmem := List.mem_map_of_mem (f := fun connection : Connection ↦
      (connection.target.node, connection.target.name)) hother
    exact absurd (hends ▸ hmem) (Graph.connectionInto?_eq_none_iff.mp hfree)
  · exact List.mem_of_find?_eq_some hfed

theorem Joined.loadConnection {nodes : OrderedMap NodeId Node}
    {connections : List StoredConnection} {connection : StoredConnection}
    (joined : Joined nodes connections graph) (h : loadConnection graph connection = .ok next) :
    Joined nodes (connections ++ [connection]) next := by
  obtain ⟨kind, -, hconnect⟩ := bind_eq_ok_iff.mp h
  have hnext := joined.wellFormed.connect hconnect
  obtain ⟨made, hprobe, hroom, rfl⟩ := joined.wellFormed.connect_eq_ok_iff_probe.mp hconnect
  obtain ⟨-, hsource, htarget, hname⟩ := joined.wellFormed.of_probe_eq_some hprobe
  have hstore : made.store = connection := by
    rw [Connection.store, hsource, htarget, hname]
  rw [← htarget, ← hname] at hroom
  have hmem : connection ∈ connections ↔ made ∈ graph.connections := by
    rw [← List.mem_eraseDups, ← joined.connections, ← hstore]
    exact store_mem_iff hroom
  refine ⟨hnext, ?_, ?_⟩
  · rw [← joined.nodes, Graph.withConnection]
    split_ifs
    · rfl
    · rfl
  · rw [eraseDups_concat, ← joined.connections, Graph.withConnection]
    by_cases hmade : made ∈ graph.connections
    · rw [if_pos hmade, if_pos (hmem.mpr hmade)]
    · rw [if_neg hmade, if_neg (mt hmem.mp hmade), List.map_append, List.map_singleton, hstore]

/-! ### The whole graph -/

theorem holds_of_foldlM (h : stored.nodes.foldlM (loadNode registry) .empty = .ok graph) :
    Holds registry stored.nodes graph :=
  foldlM_extends (Holds registry) (fun _ _ _ _ ↦ Holds.loadNode) [] stored.nodes
    (holds_empty registry) h

theorem Holds.joined {nodes : List StoredNode} (holds : Holds registry nodes graph) :
    Joined graph.nodes [] graph where
  wellFormed := holds.wellFormed
  nodes := rfl
  connections := by rw [holds.connections]; rfl

/-- A stored graph that is loaded gives its nodes first, and then its connections between them. -/
theorem exists_of_load (h : stored.load registry = .ok graph) :
    ∃ unconnected, Holds registry stored.nodes unconnected ∧
      Joined unconnected.nodes stored.connections graph := by
  obtain ⟨unconnected, hnodes, hconnections⟩ := bind_eq_ok_iff.mp h
  have holds := holds_of_foldlM hnodes
  exact ⟨unconnected, holds, foldlM_extends (Joined unconnected.nodes)
    (fun _ _ _ _ ↦ Joined.loadConnection) [] stored.connections holds.joined hconnections⟩

/-- The identifiers of the stored nodes of a graph are in ascending order. -/
theorem ascending_store (wellFormed : graph.WellFormed) :
    (graph.nodes.values.map Node.store).Pairwise fun first second ↦ first.id < second.id := by
  have hascending := OrderedMap.pairwise_keys graph.nodes
  rw [← wellFormed.map_id_values, List.pairwise_map] at hascending
  exact List.pairwise_map.mpr hascending

theorem store_eq_normalForm (h : stored.load registry = .ok graph) :
    graph.store = stored.normalForm registry := by
  obtain ⟨unconnected, holds, joined⟩ := exists_of_load h
  have hascending := ascending_store joined.wellFormed
  have hnodes := holds.nodes
  rw [← joined.nodes] at hnodes
  -- completing a node keeps its identifier, so it does not matter which is done first
  have hsort : (stored.nodes.mergeSort fun first second ↦ first.id ≤ second.id).map
        (StoredNode.complete registry) =
      (stored.nodes.map (StoredNode.complete registry)).mergeSort
        fun first second ↦ first.id ≤ second.id :=
    List.map_mergeSort fun _ _ _ _ ↦ rfl
  rw [Graph.store_eq, normalForm, joined.connections, hsort,
    eq_mergeSort_of_ascending StoredNode.id hascending hnodes]

/-- Loading a stored graph and storing it again brings it to its normal form and changes nothing
else: the nodes are sorted and complete, repeated connections are left out. The normal form is loaded
to the same graph, so it is stored as it is. -/
theorem load_normalizes (registry : Registry) (stored : StoredGraph) {graph : Graph}
    (h : stored.load registry = .ok graph) :
    graph.store = stored.normalForm registry ∧
      (stored.normalForm registry).load registry = .ok graph := by
  obtain ⟨unconnected, holds, joined⟩ := exists_of_load h
  have hstore := store_eq_normalForm h
  refine ⟨hstore, ?_⟩
  have registered : graph.RegisteredIn registry := by
    intro id node hnode
    rw [Graph.node?, joined.nodes] at hnode
    exact holds.registered id node hnode
  rw [← hstore]
  exact joined.wellFormed.load_store registered

/-- An output stored before the input it shows, both without their settings, and connected twice. -/
def untidy : StoredGraph where
  nodes := [⟨.ofNat 2, "text-output", .empty⟩, ⟨.ofNat 1, "text-input", .empty⟩]
  connections := [⟨.ofNat 1, "text", .ofNat 2, "text"⟩, ⟨.ofNat 1, "text", .ofNat 2, "text"⟩]

theorem load_normalizes_untidy :
    ∃ graph, untidy.load (Builtin.registry Regex.plainEngine) = .ok graph ∧
      graph.store = untidy.normalForm (Builtin.registry Regex.plainEngine) ∧
      (untidy.normalForm (Builtin.registry Regex.plainEngine)).load
        (Builtin.registry Regex.plainEngine) = .ok graph :=
  ⟨_, rfl, load_normalizes (Builtin.registry Regex.plainEngine) untidy rfl⟩

end StoredGraph

end FlowGraph
