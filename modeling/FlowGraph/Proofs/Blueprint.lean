import FlowGraph.Blueprint
import FlowGraph.Builtin
import FlowGraph.Proofs.Graph.Invariant
import FlowGraph.Regex
import Mathlib.Data.Set.Function

/-!
Blueprints and stored graphs. A blueprint comes about by calls in any order, and what the calls ask
for can be read off them without any blueprint: the nodes with the settings given before the next
node, and the connections (`ofCalls_eq`). With an identifier for each name this is a stored graph.
Building resolves the names and loading does not have to, but as long as the names are distinct and
declared they take the same steps (`graph_buildNode`, `graph_buildConnection`) and end alike
(`build_agrees_with_load`).
-/

set_option autoImplicit false
set_option relaxedAutoImplicit false

namespace FlowGraph

/-- Steps in a row go with other steps in a row, up to what is shown of the state, when each step
does from where those before it have led. -/
theorem map_foldlM_extends {ε σ τ α : Type} (holds : List α → σ → Prop) (shows : σ → τ)
    {step : σ → α → Except ε σ} {shown : τ → α → Except ε τ}
    (hstep : ∀ done state item next, holds done state → step state item = .ok next →
      holds (done ++ [item]) next)
    (done items : List α)
    (hshows : ∀ before item after state, items = before ++ item :: after →
      holds (done ++ before) state → shows <$> step state item = shown (shows state) item)
    {state : σ} (hstate : holds done state) :
    shows <$> items.foldlM step state = items.foldlM shown (shows state) := by
  induction items generalizing done state with
  | nil => rfl
  | cons item rest ih =>
    have hfirst : shows <$> step state item = shown (shows state) item :=
      hshows [] item rest state rfl (by rwa [List.append_nil])
    rw [List.foldlM_cons, List.foldlM_cons, ← hfirst]
    cases hnext : step state item with
    | error error => rfl
    | ok next =>
      refine ih (done ++ [item]) (fun before other after later hsplit hbefore ↦ ?_)
        (hstep done state item next hstate hnext)
      rw [← List.append_cons] at hbefore
      exact hshows (item :: before) other after later (congrArg (item :: ·) hsplit) hbefore

theorem Graph.contains_of_createNode {graph next : Graph} {registry : Registry} {id : NodeId}
    {identifier : String} {overrides : Boxes}
    (h : graph.createNode registry id identifier overrides = .ok next) :
    graph.contains id = false ∧
      ∀ other, next.contains other = true ↔ other = id ∨ graph.contains other = true := by
  obtain ⟨type, -, node, hnode, hadd⟩ := createNode_eq_ok_iff.mp h
  obtain ⟨-, -, rfl, -, -⟩ := Node.create_eq_ok_iff.mp hnode
  obtain ⟨hfree, rfl⟩ := addNode_eq_ok_iff.mp hadd
  refine ⟨(OrderedMap.contains_eq_false_iff graph.nodes node.id).mpr hfree, fun other ↦ ?_⟩
  rw [contains_iff, contains_iff, node?_insert]
  by_cases hother : other = node.id
  · simp [hother]
  · simp [hother, node?]

namespace Blueprint

/-! ### What calls ask for -/

/-- A call of the writer of a blueprint. -/
inductive Call where
  | node (name typeIdentifier : String)
  | setting (name : String) (value : Box)
  | connect (source sourceName target targetName : String)

def Call.apply (blueprint : Blueprint) : Call → Blueprint
  | node name typeIdentifier => blueprint.addNode name typeIdentifier
  | setting name value => blueprint.setting name value
  | connect source sourceName target targetName =>
    blueprint.connect source sourceName target targetName

/-- The blueprint at the end of the calls. -/
def ofCalls (calls : List Call) : Blueprint := calls.foldl Call.apply empty

/-- The settings that are given before the next node. -/
def settingsAhead : List Call → List (String × Box)
  | [] => []
  | .node _ _ :: _ => []
  | .setting name value :: rest => (name, value) :: settingsAhead rest
  | .connect _ _ _ _ :: rest => settingsAhead rest

/-- The nodes that are called for, each with the settings that follow it; of settings with one name
the last counts. -/
def nodesOf : List Call → List PlannedNode
  | [] => []
  | .node name typeIdentifier :: rest =>
    ⟨name, typeIdentifier, .ofList (settingsAhead rest)⟩ :: nodesOf rest
  | .setting _ _ :: rest => nodesOf rest
  | .connect _ _ _ _ :: rest => nodesOf rest

def connectionsOf : List Call → List PlannedConnection
  | [] => []
  | .node _ _ :: rest => connectionsOf rest
  | .setting _ _ :: rest => connectionsOf rest
  | .connect source sourceName target targetName :: rest =>
    ⟨source, sourceName, target, targetName⟩ :: connectionsOf rest

/-- The names that are given to nodes. -/
def namesOf (calls : List Call) : List String := (nodesOf calls).map PlannedNode.name

/-- The connections that are called for have their ends among the names that are given, before the
call or after it. -/
def Declared (calls : List Call) : Prop :=
  ∀ connection ∈ connectionsOf calls,
    connection.source ∈ namesOf calls ∧ connection.target ∈ namesOf calls

instance (calls : List Call) : Decidable (Declared calls) :=
  inferInstanceAs (Decidable (∀ connection ∈ connectionsOf calls,
    connection.source ∈ namesOf calls ∧ connection.target ∈ namesOf calls))

/-- The identifier that a name stands for, when the nodes get fresh ones in their order. -/
def identify (calls : List Call) (fresh : Nat → NodeId) (name : String) : NodeId :=
  fresh ((namesOf calls).idxOf name)

/-- What is called for as a stored graph. -/
def stored (calls : List Call) (fresh : Nat → NodeId) : StoredGraph where
  nodes := (nodesOf calls).map fun node ↦
    ⟨identify calls fresh node.name, node.typeIdentifier, node.settings⟩
  connections := (connectionsOf calls).map fun connection ↦
    ⟨identify calls fresh connection.source, connection.sourceName,
      identify calls fresh connection.target, connection.targetName⟩

/-- Enters settings in a node, one after the other. -/
def give (settings : List (String × Box)) (node : PlannedNode) : PlannedNode :=
  { node with settings :=
      settings.foldl (fun entered entry ↦ entered.insert entry.1 entry.2) node.settings }

theorem changeLast_concat (change : PlannedNode → PlannedNode) (nodes : List PlannedNode)
    (node : PlannedNode) : changeLast change (nodes ++ [node]) = nodes ++ [change node] := by
  induction nodes with
  | nil => rfl
  | cons first rest ih =>
    cases rest with
    | nil => rfl
    | cons second rest => exact congrArg (first :: ·) ih

theorem changeLast_give_nil (nodes : List PlannedNode) : changeLast (give []) nodes = nodes := by
  rcases List.eq_nil_or_concat nodes with rfl | ⟨before, node, rfl⟩
  · rfl
  · rw [List.concat_eq_append, changeLast_concat]
    rfl

/-- Settings are given one by one. -/
theorem changeLast_give_cons (name : String) (value : Box) (settings : List (String × Box))
    (nodes : List PlannedNode) :
    changeLast (give settings) (changeLast (give [(name, value)]) nodes) =
      changeLast (give ((name, value) :: settings)) nodes := by
  rcases List.eq_nil_or_concat nodes with rfl | ⟨before, node, rfl⟩
  · rfl
  · rw [List.concat_eq_append, changeLast_concat, changeLast_concat, changeLast_concat]
    rfl

/-- Calls give settings to the last node there is, and put nodes and connections behind those that
there are. -/
theorem foldl_apply (calls : List Call) (blueprint : Blueprint) :
    calls.foldl Call.apply blueprint =
      ⟨changeLast (give (settingsAhead calls)) blueprint.nodes ++ nodesOf calls,
        blueprint.connections ++ connectionsOf calls⟩ := by
  induction calls generalizing blueprint with
  | nil =>
    rw [settingsAhead, nodesOf, connectionsOf, changeLast_give_nil, List.append_nil,
      List.append_nil]
    rfl
  | cons call rest ih =>
    rw [List.foldl_cons, ih]
    cases call with
    | node name typeIdentifier =>
      -- the settings ahead go to the new node, which has none yet, and not to the one before it
      rw [settingsAhead, nodesOf, connectionsOf, Call.apply, addNode, changeLast_concat,
        changeLast_give_nil, List.append_assoc]
      rfl
    | setting name value =>
      rw [settingsAhead, nodesOf, connectionsOf, ← changeLast_give_cons]
      rfl
    | connect source sourceName target targetName =>
      rw [settingsAhead, nodesOf, connectionsOf, Call.apply, connect, List.append_assoc]
      rfl

/-- The calls ask for nodes and connections, and the blueprint has these. Settings that are given
before any node are lost. -/
theorem ofCalls_eq (calls : List Call) : ofCalls calls = ⟨nodesOf calls, connectionsOf calls⟩ :=
  foldl_apply calls empty

variable {registry : Registry} {calls : List Call} {fresh : Nat → NodeId}
  {built next : BuiltGraph}

/-! ### Nodes -/

/-- A node with the identifier it gets, in the stored form. -/
def storedNode (planned : PlannedNode × NodeId) : StoredNode :=
  ⟨planned.2, planned.1.typeIdentifier, planned.1.settings⟩

/-- A node of a new name is built as it is loaded. -/
theorem graph_buildNode {planned : PlannedNode × NodeId}
    (h : built.aliases.get? planned.1.name = none) :
    BuiltGraph.graph <$> buildNode registry built planned =
      StoredGraph.loadNode registry built.graph (storedNode planned) := by
  have hnew : built.aliases.contains planned.1.name = false :=
    (OrderedMap.contains_eq_false_iff built.aliases planned.1.name).mpr h
  rw [buildNode, hnew, if_neg Bool.false_ne_true, StoredGraph.loadNode, storedNode]
  cases built.graph.createNode registry planned.2 planned.1.typeIdentifier planned.1.settings with
  | error error => rfl
  | ok graph => rfl

theorem exists_of_buildNode {planned : PlannedNode × NodeId}
    (h : buildNode registry built planned = .ok next) :
    built.aliases.get? planned.1.name = none ∧
      built.graph.createNode registry planned.2 planned.1.typeIdentifier planned.1.settings =
        .ok next.graph ∧
      next.aliases = built.aliases.insert planned.1.name planned.2 := by
  unfold buildNode at h
  split_ifs at h with hnew
  obtain ⟨graph, hgraph, hnext⟩ := bind_eq_ok_iff.mp h
  cases hnext
  rw [Bool.not_eq_true] at hnew
  exact ⟨(OrderedMap.contains_eq_false_iff built.aliases planned.1.name).mp hnew, hgraph, rfl⟩

/-- The names are those of some planned nodes, each once, and stand for the nodes of the graph. -/
structure Aliased (planned : List (PlannedNode × NodeId)) (built : BuiltGraph) : Prop where
  get? : ∀ name id, built.aliases.get? name = some id ↔
    ∃ node ∈ planned, node.1.name = name ∧ node.2 = id
  contains : ∀ id, built.graph.contains id = true ↔ ∃ node ∈ planned, node.2 = id
  names : (planned.map fun node ↦ node.1.name).Nodup
  ids : (planned.map Prod.snd).Nodup

theorem aliased_empty : Aliased [] ⟨.empty, .empty⟩ where
  get? name id := by simp
  contains id := by simp [Graph.contains, Graph.empty, OrderedMap.contains]
  names := .nil
  ids := .nil

theorem Aliased.get?_eq_none_iff {planned : List (PlannedNode × NodeId)}
    (aliased : Aliased planned built) {name : String} :
    built.aliases.get? name = none ↔ name ∉ planned.map fun node ↦ node.1.name := by
  rw [Option.eq_none_iff_forall_ne_some, List.mem_map]
  constructor
  · rintro h ⟨node, hnode, hname⟩
    exact h node.2 ((aliased.get? name node.2).mpr ⟨node, hnode, hname, rfl⟩)
  · intro h id hid
    obtain ⟨node, hnode, hname, -⟩ := (aliased.get? name id).mp hid
    exact h ⟨node, hnode, hname⟩

theorem Aliased.buildNode {done : List (PlannedNode × NodeId)} {planned : PlannedNode × NodeId}
    (aliased : Aliased done built) (h : buildNode registry built planned = .ok next) :
    Aliased (done ++ [planned]) next := by
  obtain ⟨hname, hcreate, haliases⟩ := exists_of_buildNode h
  obtain ⟨hfree, hcontains⟩ := Graph.contains_of_createNode hcreate
  have hid : planned.2 ∉ done.map Prod.snd := by
    intro hmem
    obtain ⟨node, hnode, hnodeId⟩ := List.mem_map.mp hmem
    rw [(aliased.contains planned.2).mpr ⟨node, hnode, hnodeId⟩] at hfree
    cases hfree
  have hexists : ∀ property : PlannedNode × NodeId → Prop,
      (∃ node ∈ done ++ [planned], property node) ↔
        (∃ node ∈ done, property node) ∨ property planned := by
    intro property
    simp only [List.mem_append, List.mem_singleton, or_and_right, exists_or, exists_eq_left]
  refine ⟨fun name id ↦ ?_, fun id ↦ ?_, ?_, ?_⟩
  · rw [haliases, OrderedMap.get?_insert, hexists, ← aliased.get?]
    by_cases hsame : name = planned.1.name
    · rw [hsame, if_pos rfl, hname]
      simp
    · rw [if_neg hsame]
      simp [Ne.symm hsame]
  · rw [hcontains, hexists, aliased.contains]
    exact or_comm.trans (or_congr_right eq_comm)
  · rw [List.map_append, List.map_singleton, List.nodup_append_comm]
    exact List.nodup_cons.mpr ⟨aliased.get?_eq_none_iff.mp hname, aliased.names⟩
  · rw [List.map_append, List.map_singleton, List.nodup_append_comm]
    exact List.nodup_cons.mpr ⟨hid, aliased.ids⟩

/-! ### Connections -/

theorem resolveAlias_eq_ok_iff {aliases : OrderedMap String NodeId} {name : String} {id : NodeId} :
    resolveAlias aliases name = .ok id ↔ aliases.get? name = some id := by
  unfold resolveAlias
  cases aliases.get? name <;> simp

/-- The kind of a named output. Unlike `Graph.outputKind` it does not tell a node that is not there
from one without that output. -/
def sourceKind (graph : Graph) (id : NodeId) (name : String) : Except GraphError Kind :=
  match (graph.node? id).bind fun node ↦ node.output? name with
  | some output => .ok output.kind
  | none => .error (.connectorNotFound id name)

theorem sourceKind_eq_outputKind {graph : Graph} {id : NodeId} (h : graph.contains id = true)
    (name : String) : sourceKind graph id name = graph.outputKind id name := by
  obtain ⟨node, hnode⟩ := (Graph.contains_iff graph id).mp h
  rw [sourceKind, Graph.outputKind, Graph.require_eq_ok_iff.mpr hnode, hnode, Option.bind_some]
  rfl

theorem buildConnection_eq (built : BuiltGraph) (planned : PlannedConnection) :
    buildConnection built planned = do
      let source ← resolveAlias built.aliases planned.source
      let target ← resolveAlias built.aliases planned.target
      let kind ← sourceKind built.graph source planned.sourceName
      let graph ← built.graph.connect source planned.sourceName target planned.targetName kind
      return { built with graph } := by
  refine bind_congr fun source ↦ bind_congr fun target ↦ ?_
  rw [sourceKind]
  cases (built.graph.node? source).bind fun node ↦ node.output? planned.sourceName <;> rfl

/-- A connection between names of nodes that are there is built as it is loaded. -/
theorem graph_buildConnection {planned : PlannedConnection} {source target : NodeId}
    (hsource : built.aliases.get? planned.source = some source)
    (htarget : built.aliases.get? planned.target = some target)
    (hcontains : built.graph.contains source = true) :
    BuiltGraph.graph <$> buildConnection built planned =
      StoredGraph.loadConnection built.graph
        ⟨source, planned.sourceName, target, planned.targetName⟩ := by
  have hbuild : buildConnection built planned =
      sourceKind built.graph source planned.sourceName >>= fun kind ↦
        built.graph.connect source planned.sourceName target planned.targetName kind >>=
          fun graph ↦ .ok { built with graph } := by
    rw [buildConnection_eq, resolveAlias_eq_ok_iff.mpr hsource,
      resolveAlias_eq_ok_iff.mpr htarget]
    rfl
  rw [hbuild, sourceKind_eq_outputKind hcontains, map_bind]
  refine bind_congr fun kind ↦ ?_
  rw [map_bind]
  exact bind_pure _

theorem exists_of_buildConnection {planned : PlannedConnection}
    (h : buildConnection built planned = .ok next) :
    ∃ source target kind, built.aliases.get? planned.source = some source ∧
      built.aliases.get? planned.target = some target ∧
      built.graph.connect source planned.sourceName target planned.targetName kind =
        .ok next.graph ∧
      next.aliases = built.aliases := by
  simp only [buildConnection_eq, bind_eq_ok_iff, resolveAlias_eq_ok_iff] at h
  obtain ⟨source, hsource, target, htarget, kind, -, graph, hgraph, hnext⟩ := h
  cases hnext
  exact ⟨source, target, kind, hsource, htarget, hgraph, rfl⟩

/-- Some planned connections have been made: their ends are names, and names and nodes are as they
were. -/
structure Connects (unconnected : BuiltGraph) (planned : List PlannedConnection)
    (built : BuiltGraph) : Prop where
  aliases : built.aliases = unconnected.aliases
  nodes : built.graph.nodes = unconnected.graph.nodes
  source : ∀ connection ∈ planned, built.aliases.contains connection.source = true
  target : ∀ connection ∈ planned, built.aliases.contains connection.target = true

theorem connects_nil (built : BuiltGraph) : Connects built [] built where
  aliases := rfl
  nodes := rfl
  source _ h := by cases h
  target _ h := by cases h

theorem Connects.buildConnection {unconnected : BuiltGraph} {done : List PlannedConnection}
    {planned : PlannedConnection} (connects : Connects unconnected done built)
    (h : buildConnection built planned = .ok next) :
    Connects unconnected (done ++ [planned]) next := by
  obtain ⟨source, target, kind, hsource, htarget, hconnect, haliases⟩ :=
    exists_of_buildConnection h
  refine ⟨haliases.trans connects.aliases,
    (Graph.nodes_of_connect hconnect).trans connects.nodes, ?_, ?_⟩
  · rw [haliases, List.forall_mem_append]
    exact ⟨connects.source, by simp [OrderedMap.contains, hsource]⟩
  · rw [haliases, List.forall_mem_append]
    exact ⟨connects.target, by simp [OrderedMap.contains, htarget]⟩

theorem Connects.contains_eq {unconnected : BuiltGraph} {planned : List PlannedConnection}
    (connects : Connects unconnected planned built) (id : NodeId) :
    built.graph.contains id = unconnected.graph.contains id := by
  rw [Graph.contains, connects.nodes, Graph.contains]

/-! ### The whole graph -/

/-- The nodes that are called for, with the identifiers that they get. -/
def plannedNodes (calls : List Call) (fresh : Nat → NodeId) : List (PlannedNode × NodeId) :=
  (nodesOf calls).zipIdx.map fun entry ↦ (entry.1, fresh entry.2)

theorem build_ofCalls (registry : Registry) (calls : List Call) (fresh : Nat → NodeId) :
    (ofCalls calls).build registry fresh =
      (plannedNodes calls fresh).foldlM (buildNode registry) ⟨.empty, .empty⟩ >>=
        fun built ↦ (connectionsOf calls).foldlM buildConnection built := by
  rw [ofCalls_eq]
  rfl

theorem names_plannedNodes (calls : List Call) (fresh : Nat → NodeId) :
    ((plannedNodes calls fresh).map fun node ↦ node.1.name) = namesOf calls := by
  rw [plannedNodes, List.map_map, namesOf]
  conv_rhs => rw [← List.zipIdx_map_fst 0 (nodesOf calls), List.map_map]
  rfl

/-- Distinct names have distinct places, so each node gets the identifier that its name stands
for. -/
theorem plannedNodes_eq (h : (namesOf calls).Nodup) (fresh : Nat → NodeId) :
    plannedNodes calls fresh =
      (nodesOf calls).map fun node ↦ (node, identify calls fresh node.name) := by
  refine List.ext_getElem (by simp [plannedNodes]) fun place hplace _ ↦ ?_
  have hlength : place < (nodesOf calls).length := by simpa [plannedNodes] using hplace
  have hplaceOf : (namesOf calls).idxOf (nodesOf calls)[place].name = place := by
    have hnames : place < (namesOf calls).length := by rwa [namesOf, List.length_map]
    have hname : (namesOf calls)[place] = (nodesOf calls)[place].name := List.getElem_map _
    rw [← hname, h.idxOf_getElem place hnames]
  simp [plannedNodes, identify, hplaceOf]

theorem aliased_of_foldlM
    (h : (plannedNodes calls fresh).foldlM (buildNode registry) ⟨.empty, .empty⟩ = .ok built) :
    Aliased (plannedNodes calls fresh) built :=
  foldlM_extends Aliased (fun _ _ _ _ ↦ Aliased.buildNode) [] _ aliased_empty h

/-- Nodes of distinct names are built as they are loaded. -/
theorem graph_foldlM_buildNode (h : (namesOf calls).Nodup) (registry : Registry)
    (fresh : Nat → NodeId) :
    BuiltGraph.graph <$>
        (plannedNodes calls fresh).foldlM (buildNode registry) ⟨.empty, .empty⟩ =
      (stored calls fresh).nodes.foldlM (StoredGraph.loadNode registry) .empty := by
  have hstored : (stored calls fresh).nodes = (plannedNodes calls fresh).map storedNode := by
    rw [plannedNodes_eq h, List.map_map]
    rfl
  rw [hstored, List.foldlM_map]
  refine map_foldlM_extends Aliased BuiltGraph.graph (fun _ _ _ _ ↦ Aliased.buildNode) [] _
    (fun before planned after state hsplit aliased ↦ graph_buildNode ?_) aliased_empty
  rw [List.nil_append] at aliased
  rw [aliased.get?_eq_none_iff]
  rw [← names_plannedNodes calls fresh, hsplit, List.map_append, List.map_cons] at h
  exact fun hbefore ↦ List.disjoint_of_nodup_append h hbefore List.mem_cons_self

theorem Aliased.get?_eq_identify (aliased : Aliased (plannedNodes calls fresh) built)
    {name : String} (h : name ∈ namesOf calls) :
    built.aliases.get? name = some (identify calls fresh name) := by
  have hnames := aliased.names
  rw [names_plannedNodes] at hnames
  obtain ⟨node, hnode, rfl⟩ := List.mem_map.mp h
  rw [aliased.get?, plannedNodes_eq hnames]
  exact ⟨_, List.mem_map_of_mem hnode, rfl, rfl⟩

/-- Connections between declared names are built as they are loaded. -/
theorem Aliased.graph_foldlM_buildConnection (aliased : Aliased (plannedNodes calls fresh) built)
    (declared : Declared calls) :
    BuiltGraph.graph <$> (connectionsOf calls).foldlM buildConnection built =
      (stored calls fresh).connections.foldlM StoredGraph.loadConnection built.graph := by
  rw [stored, List.foldlM_map]
  refine map_foldlM_extends (Connects built) BuiltGraph.graph
    (fun _ _ _ _ ↦ Connects.buildConnection) [] _
    (fun before planned after state hsplit connects ↦ ?_) (connects_nil built)
  have hmem : planned ∈ connectionsOf calls := by
    rw [hsplit]
    exact List.mem_append_right before List.mem_cons_self
  obtain ⟨hsource, htarget⟩ := declared planned hmem
  have hget := aliased.get?_eq_identify hsource
  refine graph_buildConnection (connects.aliases ▸ hget)
    (connects.aliases ▸ aliased.get?_eq_identify htarget) ?_
  obtain ⟨node, hnode, -, hid⟩ := (aliased.get? _ _).mp hget
  rw [connects.contains_eq, aliased.contains]
  exact ⟨node, hnode, hid⟩

/-- The names of a built graph are those that the calls give, and each stands for a node of its
own. -/
structure NamesNodes (calls : List Call) (fresh : Nat → NodeId) (built : BuiltGraph) : Prop where
  named : ∀ name, built.aliases.get? name =
    if name ∈ namesOf calls then some (identify calls fresh name) else none
  bijective : Set.BijOn (identify calls fresh) {name | name ∈ namesOf calls}
    {id | built.graph.contains id = true}

theorem Aliased.namesNodes (aliased : Aliased (plannedNodes calls fresh) built) :
    NamesNodes calls fresh built := by
  have hget : ∀ name ∈ namesOf calls, ∃ node ∈ plannedNodes calls fresh,
      node.1.name = name ∧ node.2 = identify calls fresh name :=
    fun name h ↦ (aliased.get? name _).mp (aliased.get?_eq_identify h)
  refine ⟨fun name ↦ ?_, fun name h ↦ ?_, fun name h other hother hsame ↦ ?_, fun id h ↦ ?_⟩
  · split_ifs with h
    · exact aliased.get?_eq_identify h
    · rw [aliased.get?_eq_none_iff, names_plannedNodes]
      exact h
  · obtain ⟨node, hnode, -, hid⟩ := hget name h
    exact (aliased.contains _).mpr ⟨node, hnode, hid⟩
  · obtain ⟨node, hnode, rfl, hid⟩ := hget name h
    obtain ⟨otherNode, hotherNode, rfl, hotherId⟩ := hget other hother
    have hids : node.2 = otherNode.2 := by rw [hid, hsame, hotherId]
    rw [List.inj_on_of_nodup_map aliased.ids hnode hotherNode hids]
  · obtain ⟨node, hnode, rfl⟩ := (aliased.contains id).mp h
    have hname : node.1.name ∈ namesOf calls := by
      rw [← names_plannedNodes calls fresh]
      exact List.mem_map_of_mem (f := fun node : PlannedNode × NodeId ↦ node.1.name) hnode
    have hid := (aliased.get? node.1.name node.2).mpr ⟨node, hnode, rfl, rfl⟩
    rw [aliased.get?_eq_identify hname] at hid
    exact ⟨node.1.name, hname, Option.some.inj hid⟩

theorem Connects.namesNodes {unconnected : BuiltGraph} {planned : List PlannedConnection}
    (connects : Connects unconnected planned built) (h : NamesNodes calls fresh unconnected) :
    NamesNodes calls fresh built := by
  refine ⟨connects.aliases ▸ h.named, ?_⟩
  simp only [connects.contains_eq]
  exact h.bijective

/-- A graph that has been built has its nodes under the names of the calls, and its connections
between them. -/
theorem exists_of_build (h : (ofCalls calls).build registry fresh = .ok built) :
    ∃ unconnected, Aliased (plannedNodes calls fresh) unconnected ∧
      Connects unconnected (connectionsOf calls) built := by
  rw [build_ofCalls] at h
  obtain ⟨unconnected, hnodes, hconnections⟩ := bind_eq_ok_iff.mp h
  exact ⟨unconnected, aliased_of_foldlM hnodes, foldlM_extends (Connects unconnected)
    (fun _ _ _ _ ↦ Connects.buildConnection) [] _ (connects_nil unconnected) hconnections⟩

theorem nodup_and_declared_of_build (h : (ofCalls calls).build registry fresh = .ok built) :
    (namesOf calls).Nodup ∧ Declared calls := by
  obtain ⟨unconnected, aliased, connects⟩ := exists_of_build h
  have hnames : ∀ name, built.aliases.contains name = true → name ∈ namesOf calls := by
    intro name hname
    rw [OrderedMap.contains, connects.aliases, aliased.namesNodes.named] at hname
    split_ifs at hname with hmem
    · exact hmem
    · cases hname
  refine ⟨?_, fun connection hconnection ↦
    ⟨hnames _ (connects.source connection hconnection),
      hnames _ (connects.target connection hconnection)⟩⟩
  rw [← names_plannedNodes calls fresh]
  exact aliased.names

/-- What calls ask for can be built or stored and loaded. When the names are distinct and every
connection is between names that are given, both ways lead to the same graph or fail with the same
error, for whatever identifiers the nodes get. A graph that is built has as many names as nodes:
each name stands for a node of its own, and every node has one. With a name given twice, or one that
no node is given, nothing is built. -/
theorem build_agrees_with_load (registry : Registry) (calls : List Call) (fresh : Nat → NodeId) :
    ((namesOf calls).Nodup → Declared calls →
        BuiltGraph.graph <$> (ofCalls calls).build registry fresh =
          (stored calls fresh).load registry) ∧
      (∀ built, (ofCalls calls).build registry fresh = .ok built → NamesNodes calls fresh built) ∧
      (¬ (namesOf calls).Nodup ∨ ¬ Declared calls →
        ∃ error, (ofCalls calls).build registry fresh = .error error) := by
  refine ⟨fun hnames declared ↦ ?_, fun built hbuilt ↦ ?_, fun hill ↦ ?_⟩
  · rw [build_ofCalls, map_bind, StoredGraph.load, ← graph_foldlM_buildNode hnames]
    cases hunconnected :
        (plannedNodes calls fresh).foldlM (buildNode registry) ⟨.empty, .empty⟩ with
    | error error => rfl
    | ok unconnected =>
      exact (aliased_of_foldlM hunconnected).graph_foldlM_buildConnection declared
  · obtain ⟨unconnected, aliased, connects⟩ := exists_of_build hbuilt
    exact connects.namesNodes aliased.namesNodes
  · cases hbuilt : (ofCalls calls).build registry fresh with
    | error error => exact ⟨error, rfl⟩
    | ok built =>
      obtain ⟨hnames, declared⟩ := nodup_and_declared_of_build hbuilt
      exact absurd hill (by simp [hnames, declared])

/-- A setting before any node, a connection before its ends, a setting given twice and the
connection once more. -/
def scattered : List Call :=
  [ .setting "text" (.string "lost"), .connect "word" "text" "shown" "text",
    .node "word" "text-input", .setting "text" (.string "a"), .setting "text" (.string "b"),
    .node "shown" "text-output", .connect "word" "text" "shown" "text" ]

/-- A name given twice, and a connection to a name that no node has. -/
def confused : List Call :=
  [ .node "word" "text-input", .node "word" "text-output",
    .connect "word" "text" "shown" "text" ]

theorem build_agrees_with_load_scattered :
    ((namesOf scattered).Nodup ∧ Declared scattered ∧
      ∃ built, (ofCalls scattered).build (Builtin.registry Regex.plainEngine) .ofNat = .ok built ∧
        (stored scattered .ofNat).load (Builtin.registry Regex.plainEngine) = .ok built.graph ∧
        NamesNodes scattered .ofNat built) ∧
    ¬ (namesOf confused).Nodup ∧
      ∃ error, (ofCalls confused).build (Builtin.registry Regex.plainEngine) .ofNat =
        .error error := by
  have hnames : (namesOf scattered).Nodup := by decide
  have declared : Declared scattered := by decide
  have hconfused : ¬ (namesOf confused).Nodup := by decide
  obtain ⟨hgraph, hnodes, -⟩ :=
    build_agrees_with_load (Builtin.registry Regex.plainEngine) scattered .ofNat
  obtain ⟨-, -, hfails⟩ :=
    build_agrees_with_load (Builtin.registry Regex.plainEngine) confused .ofNat
  exact ⟨⟨hnames, declared, _, rfl, (hgraph hnames declared).symm, hnodes _ rfl⟩,
    hconfused, hfails (.inl hconfused)⟩

end Blueprint

end FlowGraph
