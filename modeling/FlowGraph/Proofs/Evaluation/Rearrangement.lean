import FlowGraph.Proofs.Evaluation.Schedule
import FlowGraph.Proofs.Graph.Rearrangement

/-!
Evaluation of graphs whose connections are listed in different orders. A run reads of its graph the
nodes, the neighbours of a node and the connection into an input, and of the connections nothing
else but their number; where graphs are alike in this, every operation of a run is the same, and so
are all runs.
-/

set_option autoImplicit false
set_option relaxedAutoImplicit false

namespace FlowGraph

open Evaluation

/-- All that an evaluation reads of a graph is the same in both. -/
structure Graph.ReadsAlike (graph other : Graph) : Prop where
  node? : graph.node? = other.node?
  size : graph.size = other.size
  connectionInto? : graph.connectionInto? = other.connectionInto?
  length_connections : graph.connections.length = other.connections.length
  dependencies : graph.dependencies = other.dependencies
  dependents : graph.dependents = other.dependents
  order : graph.order = other.order

variable {graph other : Graph}

theorem Graph.Rearranges.readsAlike (rearranges : graph.Rearranges other)
    (wellFormed : graph.WellFormed) : graph.ReadsAlike other where
  node? := funext rearranges.node?_eq
  size := rearranges.size_eq
  connectionInto? := by
    ext target name : 2
    exact rearranges.connectionInto?_eq wellFormed target name
  length_connections := rearranges.connections.length_eq
  dependencies := funext rearranges.dependencies_eq
  dependents := funext rearranges.dependents_eq
  order := rearranges.order_eq wellFormed

theorem Graph.ReadsAlike.symm (alike : graph.ReadsAlike other) : other.ReadsAlike graph where
  node? := alike.node?.symm
  size := alike.size.symm
  connectionInto? := alike.connectionInto?.symm
  length_connections := alike.length_connections.symm
  dependencies := alike.dependencies.symm
  dependents := alike.dependents.symm
  order := alike.order.symm

namespace Evaluation.Run

variable (alike : graph.ReadsAlike other)

include alike

/-! ### The operations of a run -/

theorem start_congr (executionId : String) (order : List NodeId) :
    start executionId graph order = start executionId other order := by
  unfold start
  rw [alike.size, alike.dependencies]

theorem startNode_congr : startNode graph = startNode other := by
  ext run node : 2
  unfold startNode Node.assembleInputs
  rw [alike.connectionInto?]

theorem startReady_congr (limit : Option Nat) (fuel : Nat) (run : Run) :
    startReady graph limit fuel run = startReady other limit fuel run := by
  induction fuel generalizing run with
  | zero => rfl
  | succ fuel ih =>
    unfold startReady
    rw [alike.node?, startNode_congr alike]
    split
    · rfl
    · split
      · rfl
      · exact ih _

theorem resolve_congr : resolve graph = resolve other := by
  ext run id outputs : 3
  unfold resolve
  rw [alike.dependents]

theorem skipDownstream_congr : skipDownstream graph = skipDownstream other := by
  ext origin fuel frontier skipped run : 5
  induction fuel generalizing frontier skipped run with
  | zero => rfl
  | succ fuel ih =>
    cases frontier with
    | nil => rfl
    | cons node frontier =>
      unfold skipDownstream
      rw [alike.dependents, ih, ih]

theorem fail_congr : fail graph = fail other := by
  ext run id error : 3
  unfold fail
  rw [alike.dependents, alike.length_connections, skipDownstream_congr alike]

theorem complete_congr : complete graph = complete other := by
  ext run task : 2
  unfold complete
  rw [resolve_congr alike, fail_congr alike]

theorem step_congr (limit : Option Nat) (run : Run) :
    step graph limit run = step other limit run := by
  unfold step
  rw [startReady_congr alike, complete_congr alike]

theorem advance_congr (limit : Option Nat) (fuel : Nat) (run : Run) :
    advance graph limit fuel run = advance other limit fuel run := by
  induction fuel generalizing run with
  | zero => rfl
  | succ fuel ih =>
    unfold advance
    rw [step_congr alike]
    split
    · rfl
    · exact ih _

/-! ### Runs in any order of completions -/

theorem Starts.congr {limit : Option Nat} {run : Run} {position : Nat} {node : Node}
    (starts : run.Starts graph limit position node) : run.Starts other limit position node where
  room := starts.room
  first := starts.first
  found := by
    rw [← alike.node?]
    exact starts.found

theorem Step.congr {limit : Option Nat} {run next : Run} (step : Step graph limit run next) :
    Step other limit run next := by
  cases step with
  | start starts =>
    rw [startNode_congr alike]
    exact .start (starts.congr alike)
  | complete waits running =>
    rw [complete_congr alike]
    exact .complete waits running

theorem IsOver.congr {limit : Option Nat} {run : Run} (ended : run.IsOver graph limit) :
    run.IsOver other limit :=
  fun next step ↦ ended next (step.congr alike.symm)

end Evaluation.Run

namespace Graph

theorem ReadsAlike.evaluate_eq (alike : graph.ReadsAlike other) (config : Config)
    (freshId : String) : graph.evaluate config freshId = other.evaluate config freshId := by
  unfold evaluate
  rw [alike.order, alike.size]
  simp only [Run.start_congr alike, Run.advance_congr alike]

theorem ReadsAlike.passesThrough (alike : graph.ReadsAlike other) {config : Config}
    {freshId : String} {run : Run} (through : graph.PassesThrough config freshId run) :
    other.PassesThrough config freshId run := by
  obtain ⟨order, horder, steps⟩ := through
  refine ⟨order, alike.order ▸ horder, ?_⟩
  rw [← Run.start_congr alike]
  exact Relation.ReflTransGen.mono (fun _ _ step ↦ step.congr alike) _ _ steps

theorem ReadsAlike.evaluates (alike : graph.ReadsAlike other) {config : Config}
    {freshId : String} {trace : Trace} (h : graph.Evaluates config freshId trace) :
    other.Evaluates config freshId trace := by
  unfold Evaluates at h ⊢
  rw [← alike.order]
  split
  · next node horder =>
    simp only [horder] at h
    rw [h, alike.evaluate_eq]
  · next order horder =>
    simp only [horder] at h
    obtain ⟨final, through, ended, htrace⟩ := h
    exact ⟨final, alike.passesThrough through, ended.congr alike, htrace⟩

/-- The order in which connections were made never matters. Two graphs with equal nodes, the
connections of one listed in any order in the other, have the same order of evaluation or are
refused for the same node, have the same node on a cycle and the same problems; their evaluations
give the same outcome, with all that a report of a failure says, the same events and take the same
time, and what the one can come to in any order of completions, so can the other. It is enough that
one of them is reachable. -/
theorem connection_order_irrelevant (graph other : Graph) (reachable : graph.Reachable)
    (nodes : graph.nodes = other.nodes) (connections : graph.connections.Perm other.connections) :
    graph.topologicalOrder = other.topologicalOrder ∧
      graph.findCycle = other.findCycle ∧
      graph.problems = other.problems ∧
      ∀ config freshId,
        graph.evaluate config freshId = other.evaluate config freshId ∧
        ∀ trace, graph.Evaluates config freshId trace ↔ other.Evaluates config freshId trace := by
  have rearranges : graph.Rearranges other := ⟨nodes, connections⟩
  have wellFormed := reachable.wellFormed
  have alike := rearranges.readsAlike wellFormed
  refine ⟨rearranges.topologicalOrder_eq wellFormed, rearranges.findCycle_eq wellFormed,
    rearranges.problems_eq wellFormed, fun config freshId ↦ ⟨alike.evaluate_eq config freshId,
      fun trace ↦ ⟨alike.evaluates, alike.symm.evaluates⟩⟩⟩

/-- A text that two outputs read, connected to the one and then to the other. -/
def fork (first second : NodeId) : Graph :=
  afterEdits
    [ .createNode (.ofTypes [Builtin.textInput]) (.ofNat 1) "text-input" .empty,
      .createNode (.ofTypes [Builtin.textOutput]) (.ofNat 2) "text-output" .empty,
      .createNode (.ofTypes [Builtin.textOutput]) (.ofNat 3) "text-output" .empty,
      .connect (.ofNat 1) "text" first "text" .string,
      .connect (.ofNat 1) "text" second "text" .string ]

theorem reachable_fork (first second : NodeId) : (fork first second).Reachable := ⟨_, rfl⟩

theorem nodes_fork (first second : NodeId) :
    (fork first second).nodes = (fork second first).nodes := by
  simp only [fork, afterEdits, List.foldl_cons, List.foldl_nil, nodes_edit_connect]

theorem connections_fork :
    (fork (.ofNat 2) (.ofNat 3)).connections.Perm (fork (.ofNat 3) (.ofNat 2)).connections := by
  decide

theorem connection_order_irrelevant_fork :
    (fork (.ofNat 2) (.ofNat 3)).Reachable ∧
      (fork (.ofNat 2) (.ofNat 3)).topologicalOrder =
        (fork (.ofNat 3) (.ofNat 2)).topologicalOrder ∧
      (fork (.ofNat 2) (.ofNat 3)).findCycle = (fork (.ofNat 3) (.ofNat 2)).findCycle ∧
      (fork (.ofNat 2) (.ofNat 3)).problems = (fork (.ofNat 3) (.ofNat 2)).problems ∧
      ∀ config freshId,
        (fork (.ofNat 2) (.ofNat 3)).evaluate config freshId =
            (fork (.ofNat 3) (.ofNat 2)).evaluate config freshId ∧
          ∀ trace, (fork (.ofNat 2) (.ofNat 3)).Evaluates config freshId trace ↔
            (fork (.ofNat 3) (.ofNat 2)).Evaluates config freshId trace :=
  ⟨reachable_fork _ _, connection_order_irrelevant _ _ (reachable_fork _ _) (nodes_fork _ _)
    connections_fork⟩

end Graph

end FlowGraph
