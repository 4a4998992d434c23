import FlowGraph.Proofs.Graph.Cycle

/-!
Cycles and the components in which they lie. The problems of a graph with a cycle name one node on a
cycle, however many cycles there are; so of all cycles those are reported that lie in the component
of this node, and all of them are exactly when no two of them lie apart
(`reportsEveryCycle_iff`). Two cycles that are not connected to each other are the counterexample.
-/

set_option autoImplicit false
set_option relaxedAutoImplicit false

namespace FlowGraph.Graph

open Relation

variable {graph : Graph} {first second third id : NodeId}

/-- The node can be reached from itself along one or more connections. -/
def OnCycle (graph : Graph) (id : NodeId) : Prop := TransGen graph.Feeds id id

/-- Two nodes lie in one component: each can be reached from the other. -/
structure StronglyConnected (graph : Graph) (first second : NodeId) : Prop where
  onward : ReflTransGen graph.Feeds first second
  back : ReflTransGen graph.Feeds second first

theorem StronglyConnected.symm (connected : graph.StronglyConnected first second) :
    graph.StronglyConnected second first :=
  ⟨connected.back, connected.onward⟩

theorem StronglyConnected.trans (earlier : graph.StronglyConnected first second)
    (later : graph.StronglyConnected second third) : graph.StronglyConnected first third :=
  ⟨earlier.onward.trans later.onward, later.back.trans earlier.back⟩

/-- The problems name a node of the component in which the cycles through a node lie. -/
def ReportsCycleAt (graph : Graph) (id : NodeId) : Prop :=
  ∃ named, .cycleDetected named ∈ graph.problems ∧ graph.StronglyConnected id named

/-- The problems name a node of the component of each cycle. -/
def ReportsEveryCycle (graph : Graph) : Prop := ∀ id, graph.OnCycle id → graph.ReportsCycleAt id

/-- The problems of a graph with a cycle name one node, which lies on a cycle. -/
theorem WellFormed.exists_named (wellFormed : graph.WellFormed) (cycle : graph.OnCycle id) :
    ∃ named, graph.OnCycle named ∧
      ∀ other, .cycleDetected other ∈ graph.problems ↔ other = named := by
  cases horder : graph.order with
  | ok order => exact absurd cycle ((orders_of_order wellFormed horder).acyclic wellFormed id)
  | error named =>
    refine ⟨named, (wellFormed.onCycle_of_order_eq_error horder).2.1, fun other ↦ ?_⟩
    rw [cycleDetected_mem_problems_iff, findCycle_eq_some_iff, horder, Except.error.injEq]
    exact eq_comm

theorem reportsCycleAt_iff {named : NodeId}
    (hnamed : ∀ other, .cycleDetected other ∈ graph.problems ↔ other = named) :
    graph.ReportsCycleAt id ↔ graph.StronglyConnected id named := by
  simp only [ReportsCycleAt, hnamed, exists_eq_left]

/-- The problems of a graph with cycles name one node on a cycle, and they report a cycle exactly
when it lies in the component of this node. So every cycle is reported exactly when all cycles lie in
one component. -/
theorem reportsEveryCycle_iff (graph : Graph) (reachable : graph.Reachable) :
    ((∃ id, graph.OnCycle id) →
      ∃ named, graph.OnCycle named ∧
        (∀ other, .cycleDetected other ∈ graph.problems ↔ other = named) ∧
        ∀ id, graph.ReportsCycleAt id ↔ graph.StronglyConnected id named) ∧
      (graph.ReportsEveryCycle ↔
        ∀ first second, graph.OnCycle first → graph.OnCycle second →
          graph.StronglyConnected first second) := by
  have wellFormed := reachable.wellFormed
  refine ⟨?_, fun reports first second hfirst hsecond ↦ ?_, fun connected id hid ↦ ?_⟩
  · rintro ⟨id, hid⟩
    obtain ⟨named, hcycle, hnamed⟩ := wellFormed.exists_named hid
    exact ⟨named, hcycle, hnamed, fun _ ↦ reportsCycleAt_iff hnamed⟩
  · obtain ⟨named, -, hnamed⟩ := wellFormed.exists_named hfirst
    have hfirst := (reportsCycleAt_iff hnamed).mp (reports first hfirst)
    have hsecond := (reportsCycleAt_iff hnamed).mp (reports second hsecond)
    exact hfirst.trans hsecond.symm
  · obtain ⟨named, hcycle, hnamed⟩ := wellFormed.exists_named hid
    exact (reportsCycleAt_iff hnamed).mpr (connected id named hid hcycle)

theorem problems_spur : spur.problems = [.cycleDetected (.ofNat 3)] := by
  decide

theorem feeds_onward_spur : spur.Feeds (.ofNat 2) (.ofNat 3) := by
  show ∃ connection ∈ spur.connections,
    connection.source.node = .ofNat 2 ∧ connection.target.node = .ofNat 3
  decide

theorem feeds_back_spur : spur.Feeds (.ofNat 3) (.ofNat 2) := by
  show ∃ connection ∈ spur.connections,
    connection.source.node = .ofNat 3 ∧ connection.target.node = .ofNat 2
  decide

theorem connected_of_onCycle_spur (cycle : spur.OnCycle id) :
    spur.StronglyConnected id (.ofNat 3) := by
  have hsources : ∀ connection ∈ spur.connections,
      connection.source.node = .ofNat 2 ∨ connection.source.node = .ofNat 3 := by
    decide
  obtain ⟨next, ⟨connection, hmem, rfl, -⟩, -⟩ := TransGen.head'_iff.mp cycle
  rcases hsources connection hmem with h | h
  · rw [h]
    exact ⟨.single feeds_onward_spur, .single feeds_back_spur⟩
  · rw [h]
    exact ⟨.refl, .refl⟩

/-- The one node that is named lies in the component of all the cycles. -/
theorem reportsEveryCycle_iff_spur :
    spur.Reachable ∧ spur.problems = [.cycleDetected (.ofNat 3)] ∧ spur.OnCycle (.ofNat 3) ∧
      (∀ id, spur.ReportsCycleAt id ↔ spur.StronglyConnected id (.ofNat 3)) ∧
      spur.ReportsEveryCycle := by
  obtain ⟨hreported, hevery⟩ := reportsEveryCycle_iff spur reachable_spur
  have cycle : spur.OnCycle (.ofNat 3) := .head feeds_back_spur (.single feeds_onward_spur)
  obtain ⟨named, -, hnamed, hreports⟩ := hreported ⟨_, cycle⟩
  obtain rfl : .ofNat 3 = named := (hnamed _).mp (by rw [problems_spur]; exact List.mem_cons_self)
  refine ⟨reachable_spur, problems_spur, cycle, hreports,
    hevery.mpr fun first second hfirst hsecond ↦ ?_⟩
  exact (connected_of_onCycle_spur hfirst).trans (connected_of_onCycle_spur hsecond).symm

/-- Two texts each of which reads itself. -/
def twins : Graph :=
  afterEdits
    [ .createNode (.ofTypes [Builtin.textInput]) (.ofNat 1) "text-input" .empty,
      .createNode (.ofTypes [Builtin.textInput]) (.ofNat 2) "text-input" .empty,
      .connect (.ofNat 1) "text" (.ofNat 1) "text" .string,
      .connect (.ofNat 2) "text" (.ofNat 2) "text" .string ]

theorem reachable_twins : twins.Reachable := ⟨_, rfl⟩

theorem problems_twins : twins.problems = [.cycleDetected (.ofNat 1)] := by
  decide

theorem ends_twins : ∀ connection ∈ twins.connections,
    connection.source.node = connection.target.node := by
  decide

theorem eq_of_reaches_twins (h : ReflTransGen twins.Feeds first second) : first = second := by
  induction h with
  | refl => rfl
  | tail _ feeds ih =>
    obtain ⟨connection, hmem, rfl, rfl⟩ := feeds
    exact ih.trans (ends_twins connection hmem)

theorem onCycle_twins : twins.OnCycle (.ofNat 2) := by
  have feeds : ∃ connection ∈ twins.connections,
      connection.source.node = .ofNat 2 ∧ connection.target.node = .ofNat 2 := by
    decide
  exact .single feeds

/-- A cycle apart from the one that is named is not reported. -/
theorem not_reportsEveryCycle :
    ¬ ∀ graph : Graph, graph.Reachable → graph.ReportsEveryCycle := by
  intro h
  obtain ⟨named, hmem, connected⟩ := h twins reachable_twins (.ofNat 2) onCycle_twins
  rw [problems_twins, List.mem_singleton, Problem.cycleDetected.injEq] at hmem
  have hsame := eq_of_reaches_twins connected.onward
  rw [hmem] at hsame
  exact absurd hsame (by decide)

end FlowGraph.Graph
