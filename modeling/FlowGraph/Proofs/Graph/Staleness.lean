import FlowGraph.Proofs.Graph.Invariant
import FlowGraph.Scripted

/-!
Connections that a change of a setting drops. A connection is kept when it is the one that could be
made now between the same two connectors. That compares connectors as a whole: beside the kind also
whether an input takes its setting while it is not connected. So a dropped connection can be made
again in one case only, when just that has changed of its input (`NearlyJoins`); in every other case
it is really invalid (`dropped_invalid_iff`).
-/

set_option autoImplicit false
set_option relaxedAutoImplicit false

namespace FlowGraph

namespace Connection

/-- The connections that can be made: between connectors of nodes that can be made, which need not
be nodes of any graph. -/
def Made (connection : Connection) : Prop :=
  ∃ (sourceNode targetNode : Node) (sourceName targetName : String) (expected : Kind),
    sourceNode.Made ∧ targetNode.Made ∧
      create sourceNode sourceName targetNode targetName expected = .ok connection

theorem Made.kind_eq {connection : Connection} (made : connection.Made) :
    connection.source.kind = connection.target.kind := by
  obtain ⟨sourceNode, targetNode, sourceName, targetName, expected, -, -, h⟩ := made
  obtain ⟨-, -, hsource, htarget⟩ := create_eq_ok_iff.mp h
  rw [hsource, htarget]

/-- The same connection into an input that differs in whether it takes its setting. -/
def retuned (connection : Connection) : Connection :=
  { connection with
    target := { connection.target with settable := !connection.target.settable } }

end Connection

namespace Graph

variable {graph next : Graph} {connection current : Connection}

/-- The connection that could be made between the connectors that a connection joins, of its kind. -/
def probeAgain (graph : Graph) (connection : Connection) : Option Connection :=
  graph.probe connection.source.node connection.source.name connection.target.node
    connection.target.name connection.kind

/-- A connection would join current connectors if its input took its setting, or did not take it, as
the input of the graph does. -/
def NearlyJoins (graph : Graph) (connection : Connection) : Prop := graph.Joins connection.retuned

theorem probe_eq_some_iff {source target : NodeId} {sourceName targetName : String}
    {expected : Kind} :
    graph.probe source sourceName target targetName expected = some current ↔
      ∃ sourceNode, graph.node? source = some sourceNode ∧
        ∃ targetNode, graph.node? target = some targetNode ∧
          Connection.create sourceNode sourceName targetNode targetName expected =
            .ok current := by
  have htoOption : ∀ result : Except GraphError Connection,
      result.toOption = some current ↔ result = .ok current := by
    intro result
    cases result <;> simp [Except.toOption]
  simp only [probe, Option.bind_eq_bind, Option.bind_eq_some_iff, htoOption]

theorem Joins.probeAgain_eq (joins : graph.Joins connection) :
    graph.probeAgain connection = some connection := by
  obtain ⟨sourceNode, hsource, houtput⟩ := joins.source
  obtain ⟨targetNode, htarget, hinput⟩ := joins.target
  refine probe_eq_some_iff.mpr ⟨sourceNode, hsource, targetNode, htarget, ?_⟩
  exact Connection.create_eq_ok_iff.mpr ⟨houtput, hinput, rfl, joins.kind.symm⟩

theorem NearlyJoins.probeAgain_eq (nearly : graph.NearlyJoins connection) :
    graph.probeAgain connection = some connection.retuned :=
  Joins.probeAgain_eq nearly

/-- A connection made from the nodes of a graph has its ends where it was asked for. -/
theorem WellFormed.ends_of_create (wellFormed : graph.WellFormed) {source target : NodeId}
    {sourceNode targetNode : Node} {sourceName targetName : String} {expected : Kind}
    (hsource : graph.node? source = some sourceNode)
    (htarget : graph.node? target = some targetNode)
    (h : Connection.create sourceNode sourceName targetNode targetName expected = .ok current) :
    current.source = ⟨source, sourceName, expected⟩ ∧
      current.target = ⟨target, targetName, expected, current.target.settable⟩ := by
  obtain ⟨houtput, hinput, hsourceKind, htargetKind⟩ := Connection.create_eq_ok_iff.mp h
  have houtputNamed := (wellFormed.coherent _ sourceNode hsource).output_named houtput
  have hinputNamed := (wellFormed.coherent _ targetNode htarget).input_named hinput
  rw [wellFormed.own_id _ sourceNode hsource] at houtputNamed
  rw [wellFormed.own_id _ targetNode htarget] at hinputNamed
  rw [← houtputNamed.1, ← houtputNamed.2, ← hinputNamed.1, ← hinputNamed.2]
  constructor
  · rw [← hsourceKind]
  · rw [← htargetKind]

/-- A connection made from the nodes of a graph joins current connectors. -/
theorem WellFormed.joins_of_create (wellFormed : graph.WellFormed) {source target : NodeId}
    {sourceNode targetNode : Node} {sourceName targetName : String} {expected : Kind}
    (hsource : graph.node? source = some sourceNode)
    (htarget : graph.node? target = some targetNode)
    (h : Connection.create sourceNode sourceName targetNode targetName expected = .ok current) :
    graph.Joins current := by
  obtain ⟨hsourceEnd, htargetEnd⟩ := wellFormed.ends_of_create hsource htarget h
  obtain ⟨houtput, hinput, hsourceKind, htargetKind⟩ := Connection.create_eq_ok_iff.mp h
  refine ⟨⟨sourceNode, ?_, ?_⟩, ⟨targetNode, ?_, ?_⟩, hsourceKind.trans htargetKind.symm⟩
  · rw [hsourceEnd, hsource]
  · rw [← houtput, hsourceEnd]
  · rw [htargetEnd, htarget]
  · rw [← hinput, htargetEnd]

/-- What can be made between the connectors of a connection joins them, and it differs from the
connection in no more than whether its input takes its setting. -/
theorem WellFormed.of_probeAgain_eq_some (wellFormed : graph.WellFormed)
    (hkind : connection.source.kind = connection.target.kind)
    (h : graph.probeAgain connection = some current) :
    graph.Joins current ∧ (current = connection ∨ current = connection.retuned) := by
  obtain ⟨sourceNode, hsource, targetNode, htarget, hcreate⟩ := probe_eq_some_iff.mp h
  refine ⟨wellFormed.joins_of_create hsource htarget hcreate, ?_⟩
  obtain ⟨hsourceEnd, htargetEnd⟩ := wellFormed.ends_of_create hsource htarget hcreate
  rw [Connection.kind] at hsourceEnd
  rw [Connection.kind, hkind] at htargetEnd
  by_cases hsettable : current.target.settable = connection.target.settable
  · rw [hsettable] at htargetEnd
    exact Or.inl ((Connection.mk.injEq ..).mpr ⟨hsourceEnd, htargetEnd⟩)
  · rw [Bool.eq_not_of_ne hsettable] at htargetEnd
    exact Or.inr ((Connection.mk.injEq ..).mpr ⟨hsourceEnd, htargetEnd⟩)

/-- Nothing can be made between the connectors of a connection unless it joins them or nearly
does. -/
theorem WellFormed.probeAgain_eq_none_iff (wellFormed : graph.WellFormed)
    (hkind : connection.source.kind = connection.target.kind) :
    graph.probeAgain connection = none ↔
      ¬ graph.Joins connection ∧ ¬ graph.NearlyJoins connection := by
  constructor
  · intro hnone
    constructor
    · intro joins
      simp [joins.probeAgain_eq] at hnone
    · intro nearly
      simp [nearly.probeAgain_eq] at hnone
  · intro h
    refine Option.eq_none_iff_forall_ne_some.mpr fun current hcurrent ↦ ?_
    obtain ⟨joins, rfl | rfl⟩ := wellFormed.of_probeAgain_eq_some hkind hcurrent
    · exact h.1 joins
    · exact h.2 joins

/-- A change of a setting drops the connections at the node that no longer join its connectors. -/
theorem mem_dropped_iff {id : NodeId} {name : String} {value : Box} {dropped : List Connection}
    (h : graph.updateSetting id name value = .ok (next, dropped)) (connection : Connection) :
    connection ∈ dropped ↔
      connection ∈ graph.connections ∧ connection.touches id = true ∧ ¬ next.Joins connection := by
  obtain ⟨node, -, changed, -, hnodes, hsplit⟩ := updateSetting_eq_ok_iff.mp h
  rw [List.partition_eq_filter_filter, Prod.mk.injEq] at hsplit
  let edited : Graph := { graph with nodes := graph.nodes.insert id changed }
  have hnode : ∀ other, next.node? other = edited.node? other := by
    intro other
    rw [node?, hnodes]
    rfl
  have hjoins : next.Joins connection ↔ edited.Joins connection :=
    ⟨fun joins ↦ joins.congr (hnode _).symm (hnode _).symm,
      fun joins ↦ joins.congr (hnode _) (hnode _)⟩
  have hstale : edited.isStale id connection = true ↔
      connection.touches id = true ∧ ¬ edited.Joins connection := by
    rw [← Bool.not_eq_false, isStale_eq_false_iff, Classical.not_imp]
  rw [hsplit.1, List.mem_filter, hjoins]
  exact and_congr_right fun _ ↦ hstale

/-- A successful change of a setting splits the connections of the graph into those that it drops
and those that the graph keeps. What is kept could be made again just as it is. What is dropped
could not, unless all that has changed is whether its input takes its setting. -/
theorem dropped_invalid_iff (graph : Graph) (reachable : graph.Reachable) {id : NodeId}
    {name : String} {value : Box} {dropped : List Connection}
    (h : graph.updateSetting id name value = .ok (next, dropped)) :
    (∀ connection ∈ dropped,
      next.probeAgain connection = none ↔ ¬ next.NearlyJoins connection) ∧
    (∀ connection ∈ next.connections, next.probeAgain connection = some connection) ∧
    ∀ connection, connection ∈ graph.connections ↔
      connection ∈ dropped ∨ connection ∈ next.connections := by
  have wellFormed := reachable.wellFormed
  have hnext := wellFormed.updateSetting h
  refine ⟨fun connection hdropped ↦ ?_, fun connection hkept ↦ ?_, fun connection ↦ ?_⟩
  · obtain ⟨hmem, -, hjoins⟩ := (mem_dropped_iff h connection).mp hdropped
    rw [hnext.probeAgain_eq_none_iff (wellFormed.joins connection hmem).kind]
    exact and_iff_right hjoins
  · exact (hnext.joins connection hkept).probeAgain_eq
  · obtain ⟨node, -, changed, -, -, hsplit⟩ := updateSetting_eq_ok_iff.mp h
    rw [List.partition_eq_filter_filter, Prod.mk.injEq] at hsplit
    rw [hsplit.1, hsplit.2, List.mem_filter, List.mem_filter, ← and_or_left]
    refine (and_iff_left ?_).symm
    rw [Function.comp_apply, Bool.not_eq_true']
    exact Bool.eq_false_or_eq_true _

/-- A type with one input, which takes its setting in one of two variants. -/
def tunable : NodeType :=
  Scripted.Script.toNodeType
    { metadata := ⟨"tunable", .processing, "", ""⟩
      defaults := .ofList [("variant", .string "plain")]
      inputs := [⟨"in", .string, false⟩]
      outputs := []
      variants := .ofList [("settable", ⟨some [⟨"in", .string, true⟩], none⟩)]
      computation := .outputs .empty }

/-- A text that goes to an input of the plain variant. -/
def tuning : Graph :=
  afterEdits
    [ .createNode (.ofTypes [Builtin.textInput]) (.ofNat 1) "text-input" .empty,
      .createNode (.ofTypes [tunable]) (.ofNat 2) "tunable" .empty,
      .connect (.ofNat 1) "text" (.ofNat 2) "in" .string ]

/-- The connection of the graph. -/
def tuned : Connection := ⟨⟨.ofNat 1, "text", .string⟩, ⟨.ofNat 2, "in", .string, false⟩⟩

theorem reachable_tuning : tuning.Reachable := ⟨_, rfl⟩

/-- The change to the other variant drops the connection, which could be made again. -/
theorem updateSetting_tuning : ∃ retuned,
    tuning.updateSetting (.ofNat 2) "variant" (.string "settable") = .ok (retuned, [tuned]) ∧
      retuned.probeAgain tuned = some tuned.retuned :=
  ⟨_, rfl, rfl⟩

theorem dropped_invalid_iff_tuning : tuning.Reachable ∧ ∃ retuned,
    tuning.updateSetting (.ofNat 2) "variant" (.string "settable") = .ok (retuned, [tuned]) ∧
      (∀ connection ∈ [tuned],
        retuned.probeAgain connection = none ↔ ¬ retuned.NearlyJoins connection) ∧
      (∀ connection ∈ retuned.connections, retuned.probeAgain connection = some connection) ∧
      ∀ connection, connection ∈ tuning.connections ↔
        connection ∈ [tuned] ∨ connection ∈ retuned.connections := by
  obtain ⟨retuned, h, -⟩ := updateSetting_tuning
  exact ⟨reachable_tuning, retuned, h, dropped_invalid_iff tuning reachable_tuning h⟩

/-- A connection that is dropped need not be invalid. -/
theorem not_dropped_invalid :
    ¬ ∀ graph : Graph, graph.Reachable → ∀ id name value next dropped,
      graph.updateSetting id name value = .ok (next, dropped) →
        ∀ connection ∈ dropped, next.probeAgain connection = none := by
  intro h
  obtain ⟨retuned, hupdate, hprobe⟩ := updateSetting_tuning
  have hnone := h tuning reachable_tuning _ _ _ retuned [tuned] hupdate tuned
    (List.mem_singleton_self tuned)
  rw [hprobe] at hnone
  cases hnone

end Graph

end FlowGraph
