import FlowGraph.Proofs.Graph.InPlace
import FlowGraph.Proofs.Graph.Mismatch

/-!
The three ways to a connection: to probe for it, to make it, and to add one that was made before.
Probing and making look up the same two connectors (`join`), and what they find joins; adding asks
whether a connection joins. So all three accept the same connections, and what remains is whether
the input has room (`connecting_agrees_with_probe`).
-/

set_option autoImplicit false
set_option relaxedAutoImplicit false

namespace FlowGraph

namespace Graph

variable {graph next : Graph} {connection : Connection} {source target : NodeId}
  {sourceName targetName : String} {expected : Kind}

/-- The connection that could be made between two connectors, or why there is none. -/
def join (graph : Graph) (source : NodeId) (sourceName : String) (target : NodeId)
    (targetName : String) (expected : Kind) : Except GraphError Connection := do
  let sourceNode ← graph.require source
  let targetNode ← graph.require target
  Connection.create sourceNode sourceName targetNode targetName expected

/-- An input has room for a connection: nothing feeds it, or that connection does already. -/
def HasRoom (graph : Graph) (target : NodeId) (name : String) (connection : Connection) : Prop :=
  graph.connectionInto? target name = none ∨ graph.connectionInto? target name = some connection

/-- The graph with a connection behind the others, unless it is there already. -/
def withConnection (graph : Graph) (connection : Connection) : Graph :=
  if connection ∈ graph.connections then graph
  else { graph with connections := graph.connections ++ [connection] }

/-! ### Probing -/

theorem join_eq_ok_iff :
    graph.join source sourceName target targetName expected = .ok connection ↔
      graph.probe source sourceName target targetName expected = some connection := by
  rw [probe_eq_some_iff]
  simp only [join, bind_eq_ok_iff, require_eq_ok_iff]

theorem unknownNode_require (graph : Graph) (id : NodeId) :
    RaisesOnly (· = .unknownNode id) (graph.require id) := by
  unfold require
  split
  · exact raisesOnly_ok _
  · exact raisesOnly_error_iff.mpr rfl

theorem connect_eq_join_bind (graph : Graph) (source : NodeId) (sourceName : String)
    (target : NodeId) (targetName : String) (expected : Kind) :
    graph.connect source sourceName target targetName expected =
      graph.join source sourceName target targetName expected >>= graph.addConnection := by
  simp only [connect, join, bind_assoc]

theorem exists_join_eq_error
    (h : graph.probe source sourceName target targetName expected = none) :
    ∃ error, graph.join source sourceName target targetName expected = .error error := by
  cases hjoin : graph.join source sourceName target targetName expected with
  | error error => exact ⟨error, rfl⟩
  | ok connection =>
    rw [join_eq_ok_iff.mp hjoin] at h
    cases h

/-- What cannot be joined has an end that is no node, or connectors that refuse it. -/
theorem WellFormed.raisesOnly_join (wellFormed : graph.WellFormed) (source : NodeId)
    (sourceName : String) (target : NodeId) (targetName : String) (expected : Kind) :
    RaisesOnly
      (fun error ↦ error = .unknownNode source ∨ error = .unknownNode target ∨
        error.RefusesConnectors source sourceName target targetName expected)
      (graph.join source sourceName target targetName expected) := by
  refine ((graph.unknownNode_require source).imp fun _ ↦ Or.inl).bind fun sourceNode hsource ↦ ?_
  refine RaisesOnly.imp ?_ fun _ ↦ Or.inr
  refine ((graph.unknownNode_require target).imp fun _ ↦ Or.inl).bind fun targetNode htarget ↦ ?_
  refine RaisesOnly.imp ?_ fun _ ↦ Or.inr
  rw [← wellFormed.own_id source sourceNode (require_eq_ok_iff.mp hsource),
    ← wellFormed.own_id target targetNode (require_eq_ok_iff.mp htarget)]
  exact Connection.refusesConnectors_create sourceNode targetNode sourceName targetName expected

/-- What is found where a connection joins is the connection itself, and only there. -/
theorem probeAgain_eq_some_self_iff :
    graph.probeAgain connection = some connection ↔ graph.Joins connection := by
  refine ⟨fun h ↦ ?_, Joins.probeAgain_eq⟩
  obtain ⟨sourceNode, hsource, targetNode, htarget, hcreate⟩ := probe_eq_some_iff.mp h
  obtain ⟨houtput, hinput, -, hkind⟩ := Connection.create_eq_ok_iff.mp hcreate
  exact ⟨⟨sourceNode, hsource, houtput⟩, ⟨targetNode, htarget, hinput⟩, hkind.symm⟩

/-! ### Adding -/

/-- Of a connection that joins, adding asks no more than whether its input is free. -/
theorem Joins.addConnection_eq (joins : graph.Joins connection) :
    graph.addConnection connection =
      match graph.connectionInto? connection.target.node connection.target.name with
      | some existing =>
        if existing = connection then .ok graph
        else .error (.inputAlreadyConnected connection.target.node connection.target.name)
      | none => .ok { graph with connections := graph.connections ++ [connection] } := by
  obtain ⟨sourceNode, hsource, -⟩ := joins.source
  obtain ⟨targetNode, htarget, -⟩ := joins.target
  rw [addConnection, require_eq_ok_iff.mpr hsource, require_eq_ok_iff.mpr htarget,
    checkConnection_eq_ok_iff.mpr joins]
  rfl

theorem withConnection_of_fed
    (h : graph.connectionInto? connection.target.node connection.target.name = some connection) :
    graph.withConnection connection = graph :=
  if_pos (List.mem_of_find?_eq_some h)

theorem withConnection_of_free
    (h : graph.connectionInto? connection.target.node connection.target.name = none) :
    graph.withConnection connection =
      { graph with connections := graph.connections ++ [connection] } :=
  if_neg fun hmem ↦ connectionInto?_eq_none_iff.mp h (List.mem_map_of_mem hmem)

theorem addConnection_eq_ok_iff_room :
    graph.addConnection connection = .ok next ↔
      graph.Joins connection ∧
        graph.HasRoom connection.target.node connection.target.name connection ∧
          next = graph.withConnection connection := by
  rw [addConnection_eq_ok_iff]
  refine and_congr_right fun _ ↦ ⟨?_, ?_⟩
  · rintro (⟨hfed, rfl⟩ | ⟨hfree, rfl⟩)
    · exact ⟨Or.inr hfed, (withConnection_of_fed hfed).symm⟩
    · exact ⟨Or.inl hfree, (withConnection_of_free hfree).symm⟩
  · rintro ⟨hfree | hfed, rfl⟩
    · exact Or.inr ⟨hfree, withConnection_of_free hfree⟩
    · exact Or.inl ⟨hfed, withConnection_of_fed hfed⟩

/-- What is found joins, and has its ends where it was asked for. -/
theorem WellFormed.of_probe_eq_some (wellFormed : graph.WellFormed)
    (h : graph.probe source sourceName target targetName expected = some connection) :
    graph.Joins connection ∧ connection.source = ⟨source, sourceName, expected⟩ ∧
      connection.target.node = target ∧ connection.target.name = targetName := by
  obtain ⟨sourceNode, hsource, targetNode, htarget, hcreate⟩ := probe_eq_some_iff.mp h
  obtain ⟨hsourceEq, htargetEq⟩ := wellFormed.ends_of_create hsource htarget hcreate
  refine ⟨wellFormed.joins_of_create hsource htarget hcreate, hsourceEq, ?_, ?_⟩
  · rw [htargetEq]
  · rw [htargetEq]

theorem WellFormed.connect_eq_ok_iff_probe (wellFormed : graph.WellFormed) :
    graph.connect source sourceName target targetName expected = .ok next ↔
      ∃ connection, graph.probe source sourceName target targetName expected = some connection ∧
        graph.HasRoom target targetName connection ∧ next = graph.withConnection connection := by
  rw [connect_eq_join_bind, bind_eq_ok_iff]
  refine exists_congr fun connection ↦ ?_
  rw [join_eq_ok_iff]
  refine and_congr_right fun hprobe ↦ ?_
  obtain ⟨joins, -, rfl, rfl⟩ := wellFormed.of_probe_eq_some hprobe
  rw [addConnection_eq_ok_iff_room]
  exact and_iff_right joins

/-- An input that another connection feeds is the only reason to refuse what is found. -/
theorem WellFormed.connect_eq_error_of_fed (wellFormed : graph.WellFormed) {existing : Connection}
    (hprobe : graph.probe source sourceName target targetName expected = some connection)
    (hfed : graph.connectionInto? target targetName = some existing)
    (hne : existing ≠ connection) :
    graph.connect source sourceName target targetName expected =
      .error (.inputAlreadyConnected target targetName) := by
  obtain ⟨joins, -, rfl, rfl⟩ := wellFormed.of_probe_eq_some hprobe
  have hadd : graph.addConnection connection = .error
      (.inputAlreadyConnected connection.target.node connection.target.name) := by
    rw [joins.addConnection_eq, hfed]
    exact if_neg hne
  rw [connect_eq_join_bind, join_eq_ok_iff.mpr hprobe]
  exact hadd

/-- Where nothing is found, the error tells what is missing at one of the two ends. -/
theorem WellFormed.connect_eq_error_of_probe (wellFormed : graph.WellFormed)
    (hprobe : graph.probe source sourceName target targetName expected = none) :
    ∃ error, graph.connect source sourceName target targetName expected = .error error ∧
      (error = .unknownNode source ∨ error = .unknownNode target ∨
        error.RefusesConnectors source sourceName target targetName expected) := by
  obtain ⟨error, herror⟩ := exists_join_eq_error hprobe
  refine ⟨error, ?_, wellFormed.raisesOnly_join _ _ _ _ _ error herror⟩
  rw [connect_eq_join_bind, herror]
  rfl

/-- A graph makes a connection exactly when it finds it on probing and its input has room, and adds a
connection exactly when it finds that very connection; what it refuses leaves it unchanged. -/
structure ConnectsAsProbed (graph : Graph) : Prop where
  connect_iff : ∀ source sourceName target targetName expected next,
    graph.connect source sourceName target targetName expected = .ok next ↔
      ∃ connection, graph.probe source sourceName target targetName expected = some connection ∧
        graph.HasRoom target targetName connection ∧ next = graph.withConnection connection
  fed : ∀ source sourceName target targetName expected connection existing,
    graph.probe source sourceName target targetName expected = some connection →
      graph.connectionInto? target targetName = some existing → existing ≠ connection →
        graph.connect source sourceName target targetName expected =
          .error (.inputAlreadyConnected target targetName)
  notFound : ∀ source sourceName target targetName expected,
    graph.probe source sourceName target targetName expected = none →
      ∃ error, graph.connect source sourceName target targetName expected = .error error ∧
        (error = .unknownNode source ∨ error = .unknownNode target ∨
          error.RefusesConnectors source sourceName target targetName expected)
  add_iff : ∀ connection next, graph.addConnection connection = .ok next ↔
    graph.probeAgain connection = some connection ∧
      graph.HasRoom connection.target.node connection.target.name connection ∧
        next = graph.withConnection connection
  connect_refused : ∀ source sourceName target targetName expected error,
    graph.connect source sourceName target targetName expected = .error error →
      InPlace.connect source sourceName target targetName expected graph = (.error error, graph)
  add_refused : ∀ connection error, graph.addConnection connection = .error error →
    InPlace.addConnection connection graph = (.error error, graph)

/-- Probing for a connection, making it and adding it agree, whatever the state of the graph and
however old the connection that is added. -/
theorem connecting_agrees_with_probe (graph : Graph) (reachable : graph.Reachable) :
    graph.ConnectsAsProbed where
  connect_iff _ _ _ _ _ _ := reachable.wellFormed.connect_eq_ok_iff_probe
  fed _ _ _ _ _ _ _ := reachable.wellFormed.connect_eq_error_of_fed
  notFound _ _ _ _ _ := reachable.wellFormed.connect_eq_error_of_probe
  add_iff connection next := by
    rw [addConnection_eq_ok_iff_room, probeAgain_eq_some_self_iff]
  connect_refused _ _ _ _ _ error h := by rw [InPlace.run_connect, h]; rfl
  add_refused connection error h := by rw [InPlace.run_addConnection, h]; rfl

/-- Where the connection of a graph has been dropped, it cannot be added again as it was. -/
theorem connecting_agrees_with_probe_retuning :
    retuning.Reachable ∧ retuning.ConnectsAsProbed ∧
      retuning.probeAgain tuned = some tuned.retuned :=
  ⟨reachable_retuning, connecting_agrees_with_probe retuning reachable_retuning, rfl⟩

end Graph

end FlowGraph
