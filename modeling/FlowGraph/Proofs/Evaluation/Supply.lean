import FlowGraph.Proofs.Evaluation.Attribution
import FlowGraph.Proofs.Evaluation.Typing
import FlowGraph.Proofs.Graph.Problem
import FlowGraph.Proofs.Graph.TopologicalSort

/-!
Problems and evaluation agree. A graph with a cycle among its problems is refused, with the node of
that problem, and no other graph is; and a node that is started is given a box for just those of its
inputs that are not among the problems.
-/

set_option autoImplicit false
set_option relaxedAutoImplicit false

namespace FlowGraph

open Evaluation

/-- The evaluation was refused for a cycle through this node. -/
def Evaluation.Trace.IsRefused (trace : Trace) (id : NodeId) : Prop :=
  ∃ report, trace.outcome = .failed report ∧ report.error = .cyclicGraph id

theorem GraphError.not_isAttributed_cyclicGraph (id : NodeId) : ¬ (cyclicGraph id).IsAttributed := by
  intro h
  obtain ⟨node, cause, heq⟩ := h
  cases heq

namespace Graph

variable {graph : Graph} {config : Config} {freshId : String} {trace : Trace}

/-- An evaluation is refused with the cycle that is found, and only when one is. -/
theorem Evaluates.isRefused_iff (h : graph.Evaluates config freshId trace)
    (wellFormed : graph.WellFormed) (id : NodeId) :
    trace.IsRefused id ↔ .cycleDetected id ∈ graph.problems := by
  rw [cycleDetected_mem_problems_iff, findCycle_eq_some_iff]
  cases horder : graph.order with
  | error node =>
    rw [Evaluates, horder] at h
    rw [h, Trace.IsRefused, evaluate, horder]
    simp
  | ok order =>
    refine iff_of_false (fun refused ↦ ?_) (by simp)
    obtain ⟨report, hfailed, herror⟩ := refused
    obtain ⟨final, -, sound, settled, rfl⟩ := h.of_order wellFormed horder
    have hattributed := sound.isAttributed_of_failed wellFormed settled hfailed
    rw [herror] at hattributed
    exact GraphError.not_isAttributed_cyclicGraph id hattributed

/-- A started node lacks just those of its inputs that are problems of the graph. -/
theorem PassesThrough.get?_assembleInputs_eq_none_iff {run : Run}
    (through : graph.PassesThrough config freshId run) (wellFormed : graph.WellFormed)
    {position : Nat} {node : Node} (starts : run.Starts graph config.bound position node)
    {name : String} {input : Input} (hinput : node.input? name = some input) :
    (node.assembleInputs graph run.outputs).get? name = none ↔
      .unconnectedInput node.id name ∈ graph.problems := by
  obtain ⟨order, -, sound⟩ := through.sound wellFormed
  have coherent := wellFormed.coherent node.id node starts.found
  have fits := sound.fitsInputs_of_starts wellFormed starts
  have hbox := fits.exists_box_iff wellFormed coherent hinput
  rw [wellFormed.unconnectedInput_mem_problems_iff, Option.eq_none_iff_forall_ne_some,
    ← not_exists, hbox, Bool.not_eq_true]
  constructor
  · intro hsupplied
    exact ⟨node, input, starts.found, hinput, hsupplied⟩
  · intro h
    obtain ⟨other, found, hother, hfound, hsupplied⟩ := h
    obtain rfl : node = other := Option.some.inj (starts.found.symm.trans hother)
    obtain rfl : input = found := Option.some.inj (hinput.symm.trans hfound)
    exact hsupplied

/-- Problems and evaluation agree. An evaluation is refused for a cycle exactly when a cycle is
among the problems of the graph, and then with the node that is listed. Otherwise every node that is
started lacks just those of its inputs that are listed as not connected. An input is listed once
when it is left without a box, and not at all when it is not. -/
theorem evaluation_agrees_with_problems (graph : Graph) (reachable : graph.Reachable)
    (config : Config) (freshId : String) :
    graph.Evaluates config freshId (graph.evaluate config freshId) ∧
      (∀ trace, graph.Evaluates config freshId trace →
        ((∃ id, trace.IsRefused id) ↔ ∃ id, .cycleDetected id ∈ graph.problems) ∧
        ∀ id, trace.IsRefused id → .cycleDetected id ∈ graph.problems) ∧
      (∀ run, graph.PassesThrough config freshId run →
        ∀ position node, run.Starts graph config.bound position node →
          ∀ name input, node.input? name = some input →
            ((node.assembleInputs graph run.outputs).get? name = none ↔
              .unconnectedInput node.id name ∈ graph.problems)) ∧
      ∀ id name, (graph.IsUnsupplied id name →
          graph.problems.count (.unconnectedInput id name) = 1) ∧
        (¬ graph.IsUnsupplied id name →
          graph.problems.count (.unconnectedInput id name) = 0) := by
  have wellFormed := reachable.wellFormed
  refine ⟨wellFormed.evaluates_evaluate config freshId, fun trace h ↦ ⟨?_, fun id ↦ ?_⟩,
    fun run through position node starts name input hinput ↦ ?_, fun id name ↦ ⟨?_, ?_⟩⟩
  · exact exists_congr fun id ↦ h.isRefused_iff wellFormed id
  · exact (h.isRefused_iff wellFormed id).mp
  · exact through.get?_assembleInputs_eq_none_iff wellFormed starts hinput
  · intro hunsupplied
    exact List.count_eq_one_of_mem wellFormed.nodup_problems
      (wellFormed.isUnsupplied_iff.mp hunsupplied)
  · intro hsupplied
    exact List.count_eq_zero_of_not_mem fun hmem ↦
      hsupplied (wellFormed.isUnsupplied_iff.mpr hmem)

/-- A text output whose input nothing supplies. -/
def bare : Graph :=
  afterEdits [.createNode (.ofTypes [Builtin.textOutput]) (.ofNat 1) "text-output" .empty]

theorem reachable_bare : bare.Reachable := ⟨_, rfl⟩

theorem evaluation_agrees_with_problems_bare :
    bare.Reachable ∧ bare.problems = [.unconnectedInput (.ofNat 1) "text"] ∧
      bare.Evaluates ⟨none, none⟩ "run" (bare.evaluate ⟨none, none⟩ "run") ∧
      (∀ trace, bare.Evaluates ⟨none, none⟩ "run" trace →
        ((∃ id, trace.IsRefused id) ↔ ∃ id, .cycleDetected id ∈ bare.problems) ∧
        ∀ id, trace.IsRefused id → .cycleDetected id ∈ bare.problems) ∧
      (∀ run, bare.PassesThrough ⟨none, none⟩ "run" run →
        ∀ position node, run.Starts bare none position node →
          ∀ name input, node.input? name = some input →
            ((node.assembleInputs bare run.outputs).get? name = none ↔
              .unconnectedInput node.id name ∈ bare.problems)) ∧
      ∀ id name, (bare.IsUnsupplied id name →
          bare.problems.count (.unconnectedInput id name) = 1) ∧
        (¬ bare.IsUnsupplied id name →
          bare.problems.count (.unconnectedInput id name) = 0) :=
  ⟨reachable_bare, by decide,
    evaluation_agrees_with_problems bare reachable_bare ⟨none, none⟩ "run"⟩

end Graph

end FlowGraph
