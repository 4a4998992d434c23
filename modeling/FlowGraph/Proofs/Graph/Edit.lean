import FlowGraph.Builtin.Control
import FlowGraph.Builtin.Input
import FlowGraph.Builtin.Output
import FlowGraph.Proofs.Node
import FlowGraph.StoredGraph

/-!
Histories of edits. An edit that fails leaves the graph as it was; a graph is reachable when some
finite history leads to it from the empty graph. For each operation of a graph one lemma says when
it succeeds and what the graph is then.
-/

set_option autoImplicit false
set_option relaxedAutoImplicit false

namespace FlowGraph

/-- One operation on a graph. A node that is added may be any that can be made, and a connection
any at all: made before, in another state of the graph or between nodes outside it. -/
inductive Edit where
  | addNode (node : Node) (made : node.Made)
  | createNode (registry : Registry) (id : NodeId) (identifier : String) (overrides : Boxes)
  | removeNode (id : NodeId)
  | connect (source : NodeId) (sourceName : String) (target : NodeId) (targetName : String)
      (expected : Kind)
  | addConnection (connection : Connection)
  | disconnect (target : NodeId) (name : String)
  | updateSetting (id : NodeId) (name : String) (value : Box)
  /-- Replaces the graph by what a stored graph loads to. -/
  | load (stored : StoredGraph) (registry : Registry)
  /-- Replaces the graph by what its own stored form loads to. -/
  | reload (registry : Registry)

namespace Edit

def apply (graph : Graph) : Edit → Except GraphError Graph
  | addNode node _ => graph.addNode node
  | createNode registry id identifier overrides => graph.createNode registry id identifier overrides
  | removeNode id => .ok (graph.removeNode id)
  | connect source sourceName target targetName expected =>
    graph.connect source sourceName target targetName expected
  | addConnection connection => graph.addConnection connection
  | disconnect target name => .ok (graph.disconnect target name)
  | updateSetting id name value => (graph.updateSetting id name value).map Prod.fst
  | load stored registry => stored.load registry
  | reload registry => graph.store.load registry

end Edit

namespace Graph

/-- The graph after an edit, which is the graph before it when the edit fails. -/
def edit (graph : Graph) (edit : Edit) : Graph :=
  match edit.apply graph with
  | .ok next => next
  | .error _ => graph

/-- The graph at the end of a history. -/
def afterEdits (edits : List Edit) : Graph := edits.foldl edit empty

def Reachable (graph : Graph) : Prop := ∃ edits, graph = afterEdits edits

theorem Reachable.edit {graph : Graph} (reachable : graph.Reachable) (edit : Edit) :
    (graph.edit edit).Reachable := by
  obtain ⟨edits, rfl⟩ := reachable
  exact ⟨edits ++ [edit], by simp [afterEdits]⟩

/-- A text that goes to an output: the smallest graph with a connection. -/
def relay : Graph :=
  afterEdits
    [ .createNode (.ofTypes [Builtin.textInput]) (.ofNat 1) "text-input" .empty,
      .createNode (.ofTypes [Builtin.textOutput]) (.ofNat 2) "text-output" .empty,
      .connect (.ofNat 1) "text" (.ofNat 2) "text" .string ]

theorem reachable_relay : relay.Reachable := ⟨_, rfl⟩

/-- A merge node under another name whose two inputs read what it puts out itself. -/
def echo : Graph :=
  afterEdits
    [ .createNode (Registry.empty.register "echo" Builtin.merge) (.ofNat 1) "echo"
        (.ofList [("separator", .string " ")]),
      .connect (.ofNat 1) "merged" (.ofNat 1) "input_0" .string,
      .connect (.ofNat 1) "merged" (.ofNat 1) "input_1" .string ]

theorem reachable_echo : echo.Reachable := ⟨_, rfl⟩

/-- A connection joins the connectors that the graph has now: its source is an output of a node and
its target an input of a node, as they are, and both have one kind. -/
structure Joins (graph : Graph) (connection : Connection) : Prop where
  source : ∃ node, graph.node? connection.source.node = some node ∧
    node.output? connection.source.name = some connection.source
  target : ∃ node, graph.node? connection.target.node = some node ∧
    node.input? connection.target.name = some connection.target
  kind : connection.source.kind = connection.target.kind

theorem contains_iff (graph : Graph) (id : NodeId) :
    graph.contains id = true ↔ ∃ node, graph.node? id = some node :=
  OrderedMap.contains_iff graph.nodes id

theorem require_eq_ok_iff {graph : Graph} {id : NodeId} {node : Node} :
    graph.require id = .ok node ↔ graph.node? id = some node := by
  unfold require
  cases graph.node? id <;> simp

theorem addNode_eq_ok_iff {graph next : Graph} {node : Node} :
    graph.addNode node = .ok next ↔
      graph.node? node.id = none ∧
        next = { graph with nodes := graph.nodes.insert node.id node } := by
  unfold addNode
  split_ifs with h
  · obtain ⟨old, hold⟩ := (contains_iff graph node.id).mp h
    simp [hold]
  · have hfree : graph.node? node.id = none :=
      (OrderedMap.contains_eq_false_iff graph.nodes node.id).mp (Bool.eq_false_iff.mpr h)
    simp [hfree, eq_comm]

theorem createNode_eq_ok_iff {graph next : Graph} {registry : Registry} {id : NodeId}
    {identifier : String} {overrides : Boxes} :
    graph.createNode registry id identifier overrides = .ok next ↔
      ∃ type, registry.require identifier = .ok type ∧
        ∃ node, Node.create id identifier type overrides = .ok node ∧
          graph.addNode node = .ok next := by
  simp only [createNode, bind_eq_ok_iff]

end Graph

theorem Connection.create_eq_ok_iff {sourceNode targetNode : Node}
    {sourceName targetName : String} {expected : Kind} {connection : Connection} :
    create sourceNode sourceName targetNode targetName expected = .ok connection ↔
      sourceNode.output? sourceName = some connection.source ∧
        targetNode.input? targetName = some connection.target ∧
        connection.source.kind = expected ∧ connection.target.kind = expected := by
  unfold create
  split
  · next h => simp [h]
  · next source hsource =>
    split
    · next h => simp [h]
    · next target htarget =>
      rw [hsource, htarget]
      split_ifs with hs ht
      · simp only [Option.some.injEq, false_iff, not_and]
        rintro rfl - hkind
        exact absurd hkind hs
      · simp only [Option.some.injEq, false_iff, not_and]
        rintro - rfl -
        exact ht
      · rw [ne_eq, Decidable.not_not] at hs ht
        constructor
        · rintro ⟨⟩
          exact ⟨rfl, rfl, hs, ht⟩
        · rintro ⟨h, h', -⟩
          cases h; cases h'
          rfl

namespace Graph

/-- The check of a connection succeeds exactly when it joins current connectors. -/
theorem checkConnection_eq_ok_iff {graph : Graph} {connection : Connection} :
    graph.checkConnection connection = .ok () ↔ graph.Joins connection := by
  simp only [checkConnection, bind_eq_ok_iff, require_eq_ok_iff, Connection.create_eq_ok_iff]
  constructor
  · rintro ⟨sourceNode, hsource, targetNode, htarget, current, ⟨houtput, hinput, hs, ht⟩, h⟩
    split_ifs at h with heq
    subst heq
    exact ⟨⟨sourceNode, hsource, houtput⟩, ⟨targetNode, htarget, hinput⟩, hs.trans ht.symm⟩
  · rintro ⟨⟨sourceNode, hsource, houtput⟩, ⟨targetNode, htarget, hinput⟩, hkind⟩
    exact ⟨sourceNode, hsource, targetNode, htarget, connection,
      ⟨houtput, hinput, rfl, hkind.symm⟩, if_pos rfl⟩

/-- Joining depends only on the nodes at the two ends. -/
theorem Joins.congr {graph next : Graph} {connection : Connection} (h : graph.Joins connection)
    (hsource : next.node? connection.source.node = graph.node? connection.source.node)
    (htarget : next.node? connection.target.node = graph.node? connection.target.node) :
    next.Joins connection :=
  ⟨by rw [hsource]; exact h.source, by rw [htarget]; exact h.target, h.kind⟩

theorem addConnection_eq_ok_iff {graph next : Graph} {connection : Connection} :
    graph.addConnection connection = .ok next ↔
      graph.Joins connection ∧
        (graph.connectionInto? connection.target.node connection.target.name = some connection ∧
            next = graph ∨
          graph.connectionInto? connection.target.node connection.target.name = none ∧
            next = { graph with connections := graph.connections ++ [connection] }) := by
  simp only [addConnection, bind_eq_ok_iff, require_eq_ok_iff]
  constructor
  · rintro ⟨-, -, -, -, ⟨⟩, hcheck, h⟩
    refine ⟨checkConnection_eq_ok_iff.mp hcheck, ?_⟩
    split at h
    · next existing hexisting =>
      split_ifs at h with heq
      cases h
      exact Or.inl ⟨heq ▸ hexisting, rfl⟩
    · next hfree =>
      cases h
      exact Or.inr ⟨hfree, rfl⟩
  · rintro ⟨hjoins, h⟩
    obtain ⟨sourceNode, hsource, -⟩ := hjoins.source
    obtain ⟨targetNode, htarget, -⟩ := hjoins.target
    refine ⟨sourceNode, hsource, targetNode, htarget, (), checkConnection_eq_ok_iff.mpr hjoins, ?_⟩
    rcases h with ⟨hinto, rfl⟩ | ⟨hinto, rfl⟩
    · rw [hinto]
      exact if_pos rfl
    · rw [hinto]
      rfl

theorem connect_eq_ok_iff {graph next : Graph} {source target : NodeId}
    {sourceName targetName : String} {expected : Kind} :
    graph.connect source sourceName target targetName expected = .ok next ↔
      ∃ sourceNode, graph.node? source = some sourceNode ∧
        ∃ targetNode, graph.node? target = some targetNode ∧
          ∃ connection,
            Connection.create sourceNode sourceName targetNode targetName expected =
                .ok connection ∧
              graph.addConnection connection = .ok next := by
  simp only [connect, bind_eq_ok_iff, require_eq_ok_iff]

/-- Connecting leaves the nodes as they are. -/
theorem nodes_of_connect {graph next : Graph} {source target : NodeId}
    {sourceName targetName : String} {expected : Kind}
    (h : graph.connect source sourceName target targetName expected = .ok next) :
    next.nodes = graph.nodes := by
  obtain ⟨-, -, -, -, connection, -, hadd⟩ := connect_eq_ok_iff.mp h
  obtain ⟨-, ⟨-, rfl⟩ | ⟨-, rfl⟩⟩ := addConnection_eq_ok_iff.mp hadd
  · rfl
  · rfl

theorem nodes_edit_connect (graph : Graph) (source : NodeId) (sourceName : String)
    (target : NodeId) (targetName : String) (expected : Kind) :
    (graph.edit (.connect source sourceName target targetName expected)).nodes = graph.nodes := by
  unfold edit
  split
  · next next h => exact nodes_of_connect h
  · rfl

theorem updateSetting_eq_ok_iff {graph next : Graph} {id : NodeId} {name : String} {value : Box}
    {dropped : List Connection} :
    graph.updateSetting id name value = .ok (next, dropped) ↔
      ∃ node, graph.node? id = some node ∧ ∃ changed, node.applySetting name value = .ok changed ∧
        next.nodes = graph.nodes.insert id changed ∧
        (dropped, next.connections) = graph.connections.partition
          (Graph.isStale { graph with nodes := graph.nodes.insert id changed } id) := by
  simp only [updateSetting, bind_eq_ok_iff, require_eq_ok_iff]
  constructor
  · rintro ⟨node, hnode, changed, hchanged, h⟩
    cases h
    exact ⟨node, hnode, changed, hchanged, rfl, rfl⟩
  · rintro ⟨node, hnode, changed, hchanged, hnodes, hconnections⟩
    refine ⟨node, hnode, changed, hchanged, ?_⟩
    obtain ⟨nodes, connections⟩ := next
    obtain rfl : nodes = graph.nodes.insert id changed := hnodes
    rw [← hconnections]
    rfl

/-- The kept connections of a changed node are those that do not touch it or still join. -/
theorem isStale_eq_false_iff {graph : Graph} {id : NodeId} {connection : Connection} :
    graph.isStale id connection = false ↔
      (connection.touches id = true → graph.Joins connection) := by
  rw [← checkConnection_eq_ok_iff]
  unfold isStale
  cases connection.touches id with
  | false => simp
  | true =>
    cases h : graph.checkConnection connection with
    | error error => simp [Except.isOk, Except.toBool]
    | ok value => simp [Except.isOk, Except.toBool]

end Graph

end FlowGraph
