import FlowGraph.Proofs.Blueprint
import FlowGraph.Proofs.Encoding.Box
import FlowGraph.Proofs.Graph.Staleness

/-!
Mismatches of kinds that the operations of a graph report. Every operation but one reports a
mismatch only where there is one. Adding a connection compares connectors as a whole and reports
whatever differs as a mismatch of kinds: a connection that differs from the current connectors only
in whether its input takes its setting is refused with two kinds that are the same
(`reported_mismatch_contrasts`).
-/

set_option autoImplicit false
set_option relaxedAutoImplicit false

namespace FlowGraph

theorem Registry.raisesOnly_require (registry : Registry) (identifier : String) :
    RaisesOnly GraphError.Contrasts (registry.require identifier) := by
  unfold require
  split
  · exact raisesOnly_ok _
  · exact GraphError.raisesOnly_of_ne (by simp)

namespace GraphError

/-- The errors that tell why two connectors of nodes cannot be joined: there is none of a name, or
one of another kind. -/
def RefusesConnectors (source : NodeId) (sourceName : String) (target : NodeId)
    (targetName : String) (expected : Kind) : GraphError → Prop
  | .connectorNotFound node name =>
    node = source ∧ name = sourceName ∨ node = target ∧ name = targetName
  | .typeMismatch kind found => kind = expected ∧ found ≠ expected.name
  | _ => False

theorem RefusesConnectors.contrasts {source target : NodeId} {sourceName targetName : String}
    {expected : Kind} {error : GraphError}
    (h : error.RefusesConnectors source sourceName target targetName expected) :
    error.Contrasts := by
  rintro kind found rfl
  obtain ⟨rfl, hfound⟩ := h
  exact hfound

end GraphError

namespace Connection

theorem refusesConnectors_create (sourceNode targetNode : Node) (sourceName targetName : String)
    (expected : Kind) :
    RaisesOnly
      (GraphError.RefusesConnectors sourceNode.id sourceName targetNode.id targetName expected)
      (create sourceNode sourceName targetNode targetName expected) := by
  have hmismatch : ∀ found : Kind, found ≠ expected →
      GraphError.RefusesConnectors sourceNode.id sourceName targetNode.id targetName expected
        (.typeMismatch expected found.name) :=
    fun found hfound ↦ ⟨rfl, fun hname ↦ hfound (Kind.name_injective hname)⟩
  unfold create
  split
  · exact raisesOnly_error_iff.mpr (Or.inl ⟨rfl, rfl⟩)
  · split
    · exact raisesOnly_error_iff.mpr (Or.inr ⟨rfl, rfl⟩)
    · split_ifs with hsource htarget
      · exact raisesOnly_error_iff.mpr (hmismatch _ hsource)
      · exact raisesOnly_error_iff.mpr (hmismatch _ htarget)
      · exact raisesOnly_ok _

theorem raisesOnly_create (sourceNode targetNode : Node) (sourceName targetName : String)
    (expected : Kind) :
    RaisesOnly GraphError.Contrasts
      (create sourceNode sourceName targetNode targetName expected) :=
  (refusesConnectors_create sourceNode targetNode sourceName targetName expected).imp fun _ ↦
    GraphError.RefusesConnectors.contrasts

end Connection

namespace Graph

variable {graph : Graph} {connection : Connection}

theorem raisesOnly_require (graph : Graph) (id : NodeId) :
    RaisesOnly GraphError.Contrasts (graph.require id) := by
  unfold require
  split
  · exact raisesOnly_ok _
  · exact GraphError.raisesOnly_of_ne (by simp)

/-! ### Nodes and settings -/

theorem raisesOnly_addNode (graph : Graph) (node : Node) :
    RaisesOnly GraphError.Contrasts (graph.addNode node) := by
  unfold addNode
  split_ifs
  · exact GraphError.raisesOnly_of_ne (by simp)
  · exact raisesOnly_ok _

theorem raisesOnly_createNode (graph : Graph) (registry : Registry) (id : NodeId)
    (identifier : String) (overrides : Boxes) :
    RaisesOnly GraphError.Contrasts (graph.createNode registry id identifier overrides) := by
  refine (registry.raisesOnly_require identifier).bind fun type _ ↦ ?_
  refine (Node.raisesOnly_create id identifier type overrides).bind fun node _ ↦ ?_
  exact graph.raisesOnly_addNode node

theorem raisesOnly_updateSetting (graph : Graph) (id : NodeId) (name : String) (value : Box) :
    RaisesOnly GraphError.Contrasts (graph.updateSetting id name value) := by
  refine (graph.raisesOnly_require id).bind fun node _ ↦ ?_
  exact (node.raisesOnly_applySetting name value).bind fun _ _ ↦ raisesOnly_ok _

/-! ### Connections -/

theorem retuned_ne (connection : Connection) : connection.retuned ≠ connection := by
  intro heq
  have hsettable := congrArg (fun connection : Connection ↦ connection.target.settable) heq
  simp [Connection.retuned] at hsettable

/-- A connection that nearly joins is refused, although its kind is the one that was found. -/
theorem NearlyJoins.checkConnection_eq (nearly : graph.NearlyJoins connection) :
    graph.checkConnection connection =
      .error (.typeMismatch connection.kind connection.kind.name) := by
  obtain ⟨sourceNode, hsource, houtput⟩ := nearly.source
  obtain ⟨targetNode, htarget, hinput⟩ := nearly.target
  have hcreate : Connection.create sourceNode connection.source.name targetNode
      connection.target.name connection.kind = .ok connection.retuned :=
    Connection.create_eq_ok_iff.mpr ⟨houtput, hinput, rfl, nearly.kind.symm⟩
  refine bind_eq_error_iff.mpr (Or.inr ⟨sourceNode, require_eq_ok_iff.mpr hsource, ?_⟩)
  refine bind_eq_error_iff.mpr (Or.inr ⟨targetNode, require_eq_ok_iff.mpr htarget, ?_⟩)
  exact bind_eq_error_iff.mpr (Or.inr ⟨connection.retuned, hcreate, if_neg (retuned_ne connection)⟩)

/-- Unless a connection nearly joins, a mismatch that its check reports is one. -/
theorem WellFormed.raisesOnly_checkConnection (wellFormed : graph.WellFormed)
    (hkind : connection.source.kind = connection.target.kind)
    (hnearly : ¬ graph.NearlyJoins connection) :
    RaisesOnly GraphError.Contrasts (graph.checkConnection connection) := by
  refine (graph.raisesOnly_require _).bind fun sourceNode hsource ↦ ?_
  refine (graph.raisesOnly_require _).bind fun targetNode htarget ↦ ?_
  refine (Connection.raisesOnly_create _ _ _ _ _).bind fun current hcurrent ↦ ?_
  have hprobe : graph.probeAgain connection = some current :=
    probe_eq_some_iff.mpr ⟨sourceNode, require_eq_ok_iff.mp hsource, targetNode,
      require_eq_ok_iff.mp htarget, hcurrent⟩
  obtain ⟨joins, rfl | rfl⟩ := wellFormed.of_probeAgain_eq_some hkind hprobe
  · rw [if_pos rfl]
    exact raisesOnly_ok ()
  · exact absurd joins hnearly

theorem WellFormed.raisesOnly_addConnection_iff (wellFormed : graph.WellFormed)
    (hkind : connection.source.kind = connection.target.kind) :
    RaisesOnly GraphError.Contrasts (graph.addConnection connection) ↔
      ¬ graph.NearlyJoins connection := by
  constructor
  · intro h nearly
    obtain ⟨sourceNode, hsource, -⟩ := nearly.source
    obtain ⟨targetNode, htarget, -⟩ := nearly.target
    have herror : graph.addConnection connection =
        .error (.typeMismatch connection.kind connection.kind.name) := by
      refine bind_eq_error_iff.mpr (Or.inr ⟨sourceNode, require_eq_ok_iff.mpr hsource, ?_⟩)
      refine bind_eq_error_iff.mpr (Or.inr ⟨targetNode, require_eq_ok_iff.mpr htarget, ?_⟩)
      exact bind_eq_error_iff.mpr (Or.inl nearly.checkConnection_eq)
    exact h _ herror _ _ rfl rfl
  · intro hnearly
    refine (graph.raisesOnly_require _).bind fun _ _ ↦ ?_
    refine (graph.raisesOnly_require _).bind fun _ _ ↦ ?_
    refine (wellFormed.raisesOnly_checkConnection hkind hnearly).bind fun _ _ ↦ ?_
    split
    · split_ifs
      · exact raisesOnly_ok _
      · exact GraphError.raisesOnly_of_ne (by simp)
    · exact raisesOnly_ok _

/-- A connection that joins does not nearly join: the input that its target is has one setting. -/
theorem Joins.not_nearlyJoins (joins : graph.Joins connection) :
    ¬ graph.NearlyJoins connection := by
  intro nearly
  have hprobe := joins.probeAgain_eq
  rw [nearly.probeAgain_eq] at hprobe
  exact retuned_ne connection (Option.some.inj hprobe)

theorem WellFormed.raisesOnly_connect (wellFormed : graph.WellFormed) (source : NodeId)
    (sourceName : String) (target : NodeId) (targetName : String) (expected : Kind) :
    RaisesOnly GraphError.Contrasts
      (graph.connect source sourceName target targetName expected) := by
  refine (graph.raisesOnly_require _).bind fun sourceNode hsource ↦ ?_
  refine (graph.raisesOnly_require _).bind fun targetNode htarget ↦ ?_
  refine (Connection.raisesOnly_create _ _ _ _ _).bind fun connection hcreate ↦ ?_
  have joins := wellFormed.joins_of_create (require_eq_ok_iff.mp hsource)
    (require_eq_ok_iff.mp htarget) hcreate
  exact (wellFormed.raisesOnly_addConnection_iff joins.kind).mpr joins.not_nearlyJoins

theorem raisesOnly_outputKind (graph : Graph) (id : NodeId) (name : String) :
    RaisesOnly GraphError.Contrasts (graph.outputKind id name) := by
  refine (graph.raisesOnly_require id).bind fun node _ ↦ ?_
  split
  · exact raisesOnly_ok _
  · exact GraphError.raisesOnly_of_ne (by simp)

end Graph

/-! ### Stored graphs and blueprints -/

namespace StoredGraph

theorem raisesOnly_load (stored : StoredGraph) (registry : Registry) :
    RaisesOnly GraphError.Contrasts (stored.load registry) := by
  refine RaisesOnly.bind ?_ fun graph hgraph ↦ ?_
  · exact raisesOnly_foldlM Graph.WellFormed
      (fun graph node _ ↦ graph.raisesOnly_createNode registry _ _ _)
      (fun _ _ _ wellFormed hstep ↦ wellFormed.createNode hstep) _ Graph.wellFormed_empty
  · have wellFormed : graph.WellFormed :=
      foldlM_keeps Graph.WellFormed (fun _ _ _ wellFormed hstep ↦ wellFormed.createNode hstep)
        stored.nodes Graph.wellFormed_empty hgraph
    refine raisesOnly_foldlM Graph.WellFormed (fun graph connection wellFormed ↦ ?_)
      (fun graph connection next wellFormed hstep ↦ ?_) _ wellFormed
    · refine (graph.raisesOnly_outputKind _ _).bind fun kind _ ↦ ?_
      exact wellFormed.raisesOnly_connect _ _ _ _ kind
    · obtain ⟨kind, -, hconnect⟩ := bind_eq_ok_iff.mp hstep
      exact wellFormed.connect hconnect

end StoredGraph

namespace Blueprint

theorem raisesOnly_resolveAlias (aliases : OrderedMap String NodeId) (name : String) :
    RaisesOnly GraphError.Contrasts (resolveAlias aliases name) := by
  unfold resolveAlias
  split
  · exact raisesOnly_ok _
  · exact GraphError.raisesOnly_of_ne (by simp)

theorem raisesOnly_buildNode (registry : Registry) (built : BuiltGraph)
    (planned : PlannedNode × NodeId) :
    RaisesOnly GraphError.Contrasts (buildNode registry built planned) := by
  unfold buildNode
  split_ifs
  · exact GraphError.raisesOnly_of_ne (by simp)
  · exact (built.graph.raisesOnly_createNode registry _ _ _).bind fun _ _ ↦ raisesOnly_ok _

theorem wellFormed_of_buildNode {registry : Registry} {built next : BuiltGraph}
    {planned : PlannedNode × NodeId} (wellFormed : built.graph.WellFormed)
    (h : buildNode registry built planned = .ok next) : next.graph.WellFormed := by
  obtain ⟨-, hcreate, -⟩ := exists_of_buildNode h
  exact wellFormed.createNode hcreate

theorem raisesOnly_buildConnection {built : BuiltGraph} (wellFormed : built.graph.WellFormed)
    (planned : PlannedConnection) :
    RaisesOnly GraphError.Contrasts (buildConnection built planned) := by
  refine (raisesOnly_resolveAlias _ _).bind fun source _ ↦ ?_
  refine (raisesOnly_resolveAlias _ _).bind fun target _ ↦ ?_
  dsimp only
  split
  · exact (wellFormed.raisesOnly_connect _ _ _ _ _).bind fun _ _ ↦ raisesOnly_ok _
  · exact GraphError.raisesOnly_of_ne (by simp)

theorem wellFormed_of_buildConnection {built next : BuiltGraph} {planned : PlannedConnection}
    (wellFormed : built.graph.WellFormed) (h : buildConnection built planned = .ok next) :
    next.graph.WellFormed := by
  obtain ⟨source, target, kind, -, -, hconnect, -⟩ := exists_of_buildConnection h
  exact wellFormed.connect hconnect

theorem raisesOnly_build (blueprint : Blueprint) (registry : Registry) (fresh : Nat → NodeId) :
    RaisesOnly GraphError.Contrasts (blueprint.build registry fresh) := by
  let good (built : BuiltGraph) : Prop := built.graph.WellFormed
  have hempty : good ⟨.empty, .empty⟩ := Graph.wellFormed_empty
  refine RaisesOnly.bind ?_ fun built hbuilt ↦ ?_
  · exact raisesOnly_foldlM good (fun built planned _ ↦ raisesOnly_buildNode registry built planned)
      (fun _ _ _ ↦ wellFormed_of_buildNode) _ hempty
  · have wellFormed : good built :=
      foldlM_keeps good (fun _ _ _ ↦ wellFormed_of_buildNode) _ hempty hbuilt
    exact raisesOnly_foldlM good
      (fun _ planned wellFormed ↦ raisesOnly_buildConnection wellFormed planned)
      (fun _ _ _ ↦ wellFormed_of_buildConnection) _ wellFormed

end Blueprint

namespace Graph

/-- What is reported as a mismatch of kinds is one: where a payload is boxed, where a box is read
from a text or a document, where a setting is read, where a node is made, and in every operation of
the graph. Adding a connection is the exception, and only for connections that nearly join. -/
structure ReportsMismatches (graph : Graph) : Prop where
  boxed : ∀ kind payload, RaisesOnly GraphError.Contrasts (Box.create kind payload)
  reboxed : ∀ (box : Box) payload, RaisesOnly GraphError.Contrasts (box.withPayload payload)
  boxText : ∀ text, RaisesOnly Json.ReadError.Contrasts (Json.readWhole Box.read text)
  boxDocument : ∀ outline, RaisesOnly Json.ReadError.Contrasts (Box.read .document outline)
  setting : ∀ (settings : Boxes) kind name,
    RaisesOnly GraphError.Contrasts (settings.setting kind name)
  node : ∀ id typeIdentifier type overrides,
    RaisesOnly GraphError.Contrasts (Node.create id typeIdentifier type overrides)
  createNode : ∀ registry id identifier overrides,
    RaisesOnly GraphError.Contrasts (graph.createNode registry id identifier overrides)
  connect : ∀ source sourceName target targetName expected,
    RaisesOnly GraphError.Contrasts (graph.connect source sourceName target targetName expected)
  addConnection : ∀ connection : Connection, connection.Made →
    (RaisesOnly GraphError.Contrasts (graph.addConnection connection) ↔
      ¬ graph.NearlyJoins connection)
  updateSetting : ∀ id name value,
    RaisesOnly GraphError.Contrasts (graph.updateSetting id name value)
  load : ∀ (stored : StoredGraph) registry,
    RaisesOnly GraphError.Contrasts (stored.load registry)
  build : ∀ (blueprint : Blueprint) registry fresh,
    RaisesOnly GraphError.Contrasts (blueprint.build registry fresh)

/-- Whatever is reported as a mismatch of kinds is one, except where a connection is added whose
input differs from the current one just in whether it takes its setting. -/
theorem reported_mismatch_contrasts (graph : Graph) (reachable : graph.Reachable) :
    graph.ReportsMismatches where
  boxed := Box.raisesOnly_create
  reboxed box := Box.raisesOnly_create box.kind
  boxText := Json.raisesOnly_readWhole (Box.raisesOnly_read Json.ReadError.contrasts_malformed)
  boxDocument := Box.raisesOnly_read Json.ReadError.contrasts_unfit
  setting := Boxes.raisesOnly_setting
  node := Node.raisesOnly_create
  createNode := graph.raisesOnly_createNode
  connect := reachable.wellFormed.raisesOnly_connect
  addConnection _ made := reachable.wellFormed.raisesOnly_addConnection_iff made.kind_eq
  updateSetting := graph.raisesOnly_updateSetting
  load := StoredGraph.raisesOnly_load
  build := Blueprint.raisesOnly_build

/-- The graph after the change to the other variant, without its connection. -/
def retuning : Graph := tuning.edit (.updateSetting (.ofNat 2) "variant" (.string "settable"))

theorem reachable_retuning : retuning.Reachable := reachable_tuning.edit _

theorem made_tuned : tuned.Made :=
  ⟨_, _, "text", "in", .string,
    .created (rfl : Node.create (.ofNat 1) "text-input" Builtin.textInput .empty = .ok _),
    .created (rfl : Node.create (.ofNat 2) "tunable" tunable .empty = .ok _), rfl⟩

theorem reported_mismatch_contrasts_retuning : retuning.Reachable ∧ retuning.ReportsMismatches :=
  ⟨reachable_retuning, reported_mismatch_contrasts retuning reachable_retuning⟩

/-- Adding the connection that was dropped is refused with one kind as both the expected and the
found one. -/
theorem addConnection_retuning :
    retuning.addConnection tuned = .error (.typeMismatch .string "string") := rfl

theorem not_reported_mismatch_contrasts :
    ¬ ∀ graph : Graph, graph.Reachable → ∀ connection : Connection, connection.Made →
      RaisesOnly GraphError.Contrasts (graph.addConnection connection) := by
  intro h
  have hcontrasts := h retuning reachable_retuning tuned made_tuned _ addConnection_retuning
  exact hcontrasts _ _ rfl rfl

end Graph

end FlowGraph
