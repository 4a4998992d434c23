import FlowGraph.Proofs.StoredGraph.NormalForm

/-!
The problems of a stored graph and its loading. A stored graph has no problems when its nodes have
different identifiers and registered types and its connections have their ends among them
(`problems_eq_nil_iff`). A graph that has been loaded shows all this, so what has problems is not
loaded; and where there are none, a step of loading finds the type, the free identifier and the two
nodes that it asks for, so it fails for other reasons only (`problems_agree_with_load`).
-/

set_option autoImplicit false
set_option relaxedAutoImplicit false

namespace FlowGraph

namespace GraphError

/-- The errors of loading that the problems of a stored graph tell in advance. -/
def IsForeseen : GraphError → Prop
  | .unknownNodeType _ => True
  | .unknownNode _ => True
  | .duplicateNode _ => True
  | _ => False

theorem RefusesNode.not_isForeseen {error : GraphError} (h : error.RefusesNode) :
    ¬ error.IsForeseen := by
  intro hforeseen
  cases error <;> first | exact h | exact hforeseen

theorem RefusesConnectors.not_isForeseen {source target : NodeId} {sourceName targetName : String}
    {expected : Kind} {error : GraphError}
    (h : error.RefusesConnectors source sourceName target targetName expected) :
    ¬ error.IsForeseen := by
  intro hforeseen
  cases error <;> first | exact h | exact hforeseen

end GraphError

theorem Registry.raisesOnly_require_of_contains {registry : Registry} {identifier : String}
    {allowed : GraphError → Prop} (h : registry.contains identifier = true) :
    RaisesOnly allowed (registry.require identifier) := by
  obtain ⟨type, htype⟩ := contains_iff.mp h
  rw [require_eq_ok_iff.mpr htype]
  exact raisesOnly_ok type

theorem Graph.raisesOnly_require_of_contains {graph : Graph} {id : NodeId}
    {allowed : GraphError → Prop} (h : graph.contains id = true) :
    RaisesOnly allowed (graph.require id) := by
  obtain ⟨node, hnode⟩ := (contains_iff graph id).mp h
  rw [require_eq_ok_iff.mpr hnode]
  exact raisesOnly_ok node

namespace StoredGraph

variable {registry : Registry} {stored : StoredGraph} {graph : Graph}

/-! ### Without problems -/

/-- The stored nodes have different identifiers and registered types, and connections are between
stored nodes. -/
structure Sound (registry : Registry) (stored : StoredGraph) : Prop where
  distinct : (stored.nodes.map StoredNode.id).Nodup
  registered : ∀ node ∈ stored.nodes, registry.contains node.typeIdentifier = true
  source_mem : ∀ connection ∈ stored.connections,
    connection.source ∈ stored.nodes.map StoredNode.id
  target_mem : ∀ connection ∈ stored.connections,
    connection.target ∈ stored.nodes.map StoredNode.id

theorem nodeProblems_eq_nil_iff {seen : List NodeId} {node : StoredNode} :
    nodeProblems registry seen node = [] ↔
      node.id ∉ seen ∧ registry.contains node.typeIdentifier = true := by
  simp [nodeProblems]

theorem allNodeProblems_eq_nil_iff {seen : List NodeId} {nodes : List StoredNode} :
    allNodeProblems registry seen nodes = [] ↔
      (nodes.map StoredNode.id).Nodup ∧ (∀ node ∈ nodes, node.id ∉ seen) ∧
        ∀ node ∈ nodes, registry.contains node.typeIdentifier = true := by
  induction nodes generalizing seen with
  | nil => simp [allNodeProblems]
  | cons node rest ih =>
    rw [allNodeProblems, List.append_eq_nil_iff, nodeProblems_eq_nil_iff, ih, List.map_cons,
      List.nodup_cons, List.forall_mem_cons, List.forall_mem_cons]
    -- that the rest does not repeat the node is asked of the node here and of the rest there
    have hrest : (∀ other ∈ rest, other.id ∉ node.id :: seen) ↔
        node.id ∉ rest.map StoredNode.id ∧ ∀ other ∈ rest, other.id ∉ seen := by
      simp only [List.mem_cons, not_or, List.mem_map, not_exists, not_and, forall_and]
    rw [hrest]
    tauto

theorem problems_eq_nil_iff : stored.problems registry = [] ↔ stored.Sound registry := by
  have hends : (stored.connections.flatMap fun connection ↦
      ([connection.source, connection.target].filter fun id ↦
        !(stored.nodes.map StoredNode.id).contains id).map Problem.unknownNode) = [] ↔
      ∀ connection ∈ stored.connections, connection.source ∈ stored.nodes.map StoredNode.id ∧
        connection.target ∈ stored.nodes.map StoredNode.id := by
    simp [List.flatMap_eq_nil_iff, List.filter_eq_nil_iff]
  rw [problems, List.append_eq_nil_iff, allNodeProblems_eq_nil_iff, hends]
  constructor
  · rintro ⟨⟨distinct, -, registered⟩, ends⟩
    exact ⟨distinct, registered, fun connection h ↦ (ends connection h).1,
      fun connection h ↦ (ends connection h).2⟩
  · rintro ⟨distinct, registered, source_mem, target_mem⟩
    exact ⟨⟨distinct, fun _ _ ↦ List.not_mem_nil, registered⟩,
      fun connection h ↦ ⟨source_mem connection h, target_mem connection h⟩⟩

/-- No node is stored again behind itself. -/
theorem Sound.id_notMem_before (sound : stored.Sound registry) {before after : List StoredNode}
    {node : StoredNode} (hsplit : stored.nodes = before ++ node :: after) :
    node.id ∉ before.map StoredNode.id := by
  have hdistinct := sound.distinct
  rw [hsplit, List.map_append, List.map_cons] at hdistinct
  exact fun hbefore ↦ List.disjoint_of_nodup_append hdistinct hbefore List.mem_cons_self

/-! ### What has been loaded -/

theorem Holds.perm_ids {nodes : List StoredNode} (holds : Holds registry nodes graph) :
    graph.nodes.keys.Perm (nodes.map StoredNode.id) := by
  have hperm := holds.nodes.map StoredNode.id
  rw [List.map_map, List.map_map] at hperm
  rw [← holds.wellFormed.map_id_values]
  exact hperm

theorem Holds.contains_iff {nodes : List StoredNode} (holds : Holds registry nodes graph)
    {id : NodeId} : graph.contains id = true ↔ id ∈ nodes.map StoredNode.id := by
  rw [Graph.contains_iff, ← holds.perm_ids.mem_iff, OrderedMap.mem_keys_iff]
  rfl

/-- The nodes of a graph have their types from the registry, so what they were stored as has. -/
theorem Holds.contains_type {nodes : List StoredNode} (holds : Holds registry nodes graph)
    {node : StoredNode} (h : node ∈ nodes) : registry.contains node.typeIdentifier = true := by
  obtain ⟨made, hmade, hstore⟩ :=
    List.mem_map.mp (holds.nodes.mem_iff.mpr (List.mem_map_of_mem h))
  obtain ⟨id, hnode⟩ := (OrderedMap.mem_values_iff graph.nodes made).mp hmade
  have hidentifier : made.typeIdentifier = node.typeIdentifier :=
    congrArg StoredNode.typeIdentifier hstore
  rw [← hidentifier]
  exact Registry.contains_iff.mpr ⟨made.type, holds.registered id made hnode⟩

/-- The ends of a stored connection that has been made are nodes of the graph. -/
theorem Joined.contains_ends {nodes : OrderedMap NodeId Node} {connections : List StoredConnection}
    (joined : Joined nodes connections graph) {connection : StoredConnection}
    (h : connection ∈ connections) :
    graph.contains connection.source = true ∧ graph.contains connection.target = true := by
  rw [← List.mem_eraseDups, ← joined.connections] at h
  obtain ⟨made, hmade, rfl⟩ := List.mem_map.mp h
  exact ⟨joined.wellFormed.contains_source hmade, joined.wellFormed.contains_target hmade⟩

theorem Joined.contains_eq {unconnected : Graph} {connections : List StoredConnection}
    (joined : Joined unconnected.nodes connections graph) (id : NodeId) :
    graph.contains id = unconnected.contains id := by
  rw [Graph.contains, joined.nodes]
  rfl

theorem sound_of_load (h : stored.load registry = .ok graph) : stored.Sound registry := by
  obtain ⟨unconnected, holds, joined⟩ := exists_of_load h
  have hmem : ∀ id, graph.contains id = true → id ∈ stored.nodes.map StoredNode.id := by
    intro id hid
    rw [joined.contains_eq] at hid
    exact holds.contains_iff.mp hid
  exact
    { distinct := holds.perm_ids.nodup_iff.mp (OrderedMap.nodup_keys unconnected.nodes)
      registered := fun _ ↦ holds.contains_type
      source_mem := fun _ hconnection ↦ hmem _ (joined.contains_ends hconnection).1
      target_mem := fun _ hconnection ↦ hmem _ (joined.contains_ends hconnection).2 }

/-! ### Why loading fails -/

/-- A node of a registered type under a free identifier can only be refused for its settings or
connectors. -/
theorem raisesOnly_loadNode {node : StoredNode}
    (registered : registry.contains node.typeIdentifier = true)
    (hfree : graph.contains node.id = false) :
    RaisesOnly (fun error ↦ ¬ error.IsForeseen) (loadNode registry graph node) := by
  refine (Registry.raisesOnly_require_of_contains registered).bind fun type _ ↦ ?_
  refine ((Node.refusesNode_create _ _ _ _).imp fun _ ↦
    GraphError.RefusesNode.not_isForeseen).bind fun made hmade ↦ ?_
  obtain ⟨-, -, hid, -, -⟩ := Node.create_eq_ok_iff.mp hmade
  rw [Graph.addNode, hid, hfree]
  exact raisesOnly_ok _

/-- A connection between nodes of the graph can only be refused for their connectors, or because its
input has a connection. -/
theorem raisesOnly_loadConnection (wellFormed : graph.WellFormed) {connection : StoredConnection}
    (hsource : graph.contains connection.source = true)
    (htarget : graph.contains connection.target = true) :
    RaisesOnly (fun error ↦ ¬ error.IsForeseen) (loadConnection graph connection) := by
  have hkind : RaisesOnly (fun error ↦ ¬ error.IsForeseen)
      (graph.outputKind connection.source connection.sourceName) := by
    refine (Graph.raisesOnly_require_of_contains hsource).bind fun node _ ↦ ?_
    split
    · exact raisesOnly_ok _
    · exact raisesOnly_error_iff.mpr not_false
  refine hkind.bind fun kind _ ↦ ?_
  refine (Graph.raisesOnly_require_of_contains hsource).bind fun sourceNode hsourceNode ↦ ?_
  refine (Graph.raisesOnly_require_of_contains htarget).bind fun targetNode htargetNode ↦ ?_
  refine ((Connection.refusesConnectors_create _ _ _ _ _).imp fun _ ↦
    GraphError.RefusesConnectors.not_isForeseen).bind fun made hmade ↦ ?_
  have joins := wellFormed.joins_of_create (Graph.require_eq_ok_iff.mp hsourceNode)
    (Graph.require_eq_ok_iff.mp htargetNode) hmade
  rw [joins.addConnection_eq]
  split
  · split_ifs
    · exact raisesOnly_ok graph
    · exact raisesOnly_error_iff.mpr not_false
  · exact raisesOnly_ok _

theorem Sound.raisesOnly_load (sound : stored.Sound registry) :
    RaisesOnly (fun error ↦ ¬ error.IsForeseen) (stored.load registry) := by
  refine RaisesOnly.bind ?_ fun unconnected hunconnected ↦ ?_
  · refine raisesOnly_foldlM_extends (Holds registry) (fun _ _ _ _ ↦ Holds.loadNode) [] _
      (fun before node after graph hsplit holds ↦ ?_) (holds_empty registry)
    have hmem : node ∈ stored.nodes := by
      rw [hsplit]
      exact List.mem_append_right before List.mem_cons_self
    refine raisesOnly_loadNode (sound.registered node hmem) ?_
    rw [← Bool.not_eq_true, holds.contains_iff]
    exact sound.id_notMem_before hsplit
  · have holds := holds_of_foldlM hunconnected
    refine raisesOnly_foldlM_extends (Joined unconnected.nodes)
      (fun _ _ _ _ ↦ Joined.loadConnection) [] _
      (fun before connection after graph hsplit joined ↦ ?_) holds.joined
    have hmem : connection ∈ stored.connections := by
      rw [hsplit]
      exact List.mem_append_right before List.mem_cons_self
    refine raisesOnly_loadConnection joined.wellFormed ?_ ?_
    · rw [joined.contains_eq, holds.contains_iff]
      exact sound.source_mem connection hmem
    · rw [joined.contains_eq, holds.contains_iff]
      exact sound.target_mem connection hmem

/-- A stored graph with problems is not loaded. Without problems it is loaded, or refused for a
reason of another sort: no type is unknown, no node is missing and none is there twice. -/
theorem problems_agree_with_load (registry : Registry) (stored : StoredGraph) :
    (stored.problems registry ≠ [] → ∃ error, stored.load registry = .error error) ∧
      (stored.problems registry = [] →
        ∀ error, stored.load registry = .error error → ¬ error.IsForeseen) := by
  refine ⟨fun hproblems ↦ ?_, fun hnone ↦ ?_⟩
  · cases hload : stored.load registry with
    | error error => exact ⟨error, rfl⟩
    | ok graph => exact absurd (problems_eq_nil_iff.mpr (sound_of_load hload)) hproblems
  · exact (problems_eq_nil_iff.mp hnone).raisesOnly_load

/-- A node that is stored twice, once with an unknown type, and connected to a node that is not
stored. -/
def tangled : StoredGraph where
  nodes := [⟨.ofNat 1, "text-input", .empty⟩, ⟨.ofNat 1, "missing", .empty⟩]
  connections := [⟨.ofNat 1, "text", .ofNat 2, "text"⟩]

/-- Two nodes that are connected by a name that is not that of an output. -/
def misnamed : StoredGraph where
  nodes := [⟨.ofNat 1, "text-input", .empty⟩, ⟨.ofNat 2, "text-output", .empty⟩]
  connections := [⟨.ofNat 1, "value", .ofNat 2, "text"⟩]

theorem problems_agree_with_load_tangled :
    (tangled.problems (Builtin.registry Regex.plainEngine) =
        [.duplicateNode (.ofNat 1), .unknownNodeType (.ofNat 1) "missing",
          .unknownNode (.ofNat 2)] ∧
      ∃ error, tangled.load (Builtin.registry Regex.plainEngine) = .error error) ∧
    misnamed.problems (Builtin.registry Regex.plainEngine) = [] ∧
      misnamed.load (Builtin.registry Regex.plainEngine) =
        .error (.connectorNotFound (.ofNat 1) "value") ∧
      ¬ (GraphError.connectorNotFound (.ofNat 1) "value").IsForeseen :=
  ⟨⟨rfl, (problems_agree_with_load (Builtin.registry Regex.plainEngine) tangled).1 (by decide)⟩,
    rfl, rfl,
    (problems_agree_with_load (Builtin.registry Regex.plainEngine) misnamed).2 rfl _ rfl⟩

end StoredGraph

end FlowGraph
