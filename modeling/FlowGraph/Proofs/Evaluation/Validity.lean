import FlowGraph.Proofs.Builtin
import FlowGraph.Proofs.Evaluation.Attribution
import FlowGraph.Proofs.Evaluation.Typing
import FlowGraph.Proofs.Graph.Problem
import FlowGraph.Proofs.Graph.TopologicalSort
import FlowGraph.Regex

/-!
Graphs without problems. Every input of such a graph is supplied, so a node of it is served whenever
it is computed; where all types are built-in ones, a node can then only fail with an excuse of its
type (`valid_evaluation_excused`).
-/

set_option autoImplicit false
set_option relaxedAutoImplicit false

namespace FlowGraph

open Evaluation

variable {engine : Regex.Engine} {graph : Graph}

/-- In a graph without problems, fitting inputs serve a node. -/
theorem Node.FitsInputs.isServed {node : Node} {upstream : OrderedMap NodeId Boxes}
    (fits : node.FitsInputs graph upstream (node.assembleInputs graph upstream))
    (wellFormed : graph.WellFormed) (valid : graph.problems = [])
    (found : graph.node? node.id = some node) :
    node.type.IsServed node.id (node.assembleInputs graph upstream) node.settings := by
  have coherent := wellFormed.coherent node.id node found
  refine coherent.isServed fun name input hinput ↦ ?_
  exact fits.kind_of_isSupplied wellFormed coherent hinput
    (wellFormed.isSupplied_of_problems_eq_nil valid found hinput)

namespace Builtin

theorem Excuses.not_isAttributed {type : NodeType} {settings : Boxes} {error : GraphError}
    (excuses : Excuses engine type settings error) : ¬ error.IsAttributed := by
  rintro ⟨node, cause, rfl⟩
  cases excuses

theorem Excuses.rootCause_eq {type : NodeType} {settings : Boxes} {error : GraphError}
    (excuses : Excuses engine type settings error) : error.rootCause = error := by
  cases excuses <;> rfl

end Builtin

namespace Graph

/-- All nodes are of built-in types, under whatever identifiers. -/
def IsBuiltin (graph : Graph) (engine : Regex.Engine) : Prop :=
  ∀ id node, graph.node? id = some node → node.type ∈ Builtin.types engine

theorem isBuiltin_of_types (h : graph.nodes.values.map Node.type ⊆ Builtin.types engine) :
    graph.IsBuiltin engine :=
  fun _ _ hnode ↦ h (OrderedMap.mem_map_values Node.type hnode)

/-- The error is a failure of this node, and what caused it is an excuse of the node's type. -/
def Excuses (graph : Graph) (engine : Regex.Engine) (id : NodeId) (error : GraphError) : Prop :=
  ∃ node, graph.node? id = some node ∧ error = .nodeFailure id error.rootCause ∧
    Builtin.Excuses engine node.type node.settings error.rootCause

/-- A node that is served resolves or fails with an excuse. -/
theorem excuses_of_run (wellFormed : graph.WellFormed) (builtin : graph.IsBuiltin engine)
    {id : NodeId} {node : Node} (hnode : graph.node? id = some node) {inputs : Boxes}
    (served : node.type.IsServed node.id inputs node.settings) {error : GraphError}
    (h : (node.run inputs).result = .error error) : graph.Excuses engine id error := by
  obtain rfl := wellFormed.own_id id node hnode
  rcases Builtin.delivers_or_excused (builtin node.id node hnode) served with
    delivers | ⟨cause, hcause, excuses⟩
  · obtain ⟨outputs, houtputs⟩ :=
      (wellFormed.coherent node.id node hnode).run_of_delivers delivers
    rw [h] at houtputs
    cases houtputs
  · have hproduce : node.produce inputs = .error cause := by
      rw [Node.produce, hcause]
      rfl
    have herror : error = .nodeFailure node.id cause := by
      rw [← GraphError.attributeTo_of_not_isAttributed excuses.not_isAttributed]
      exact Except.error.inj (h.symm.trans (Node.run_eq_error_iff.mpr ⟨cause, hproduce, rfl⟩))
    have hroot : error.rootCause = cause := by
      rw [herror]
      exact excuses.rootCause_eq
    exact ⟨node, hnode, hroot.symm ▸ herror, hroot.symm ▸ excuses⟩

theorem excuses_of_compute? (wellFormed : graph.WellFormed) (builtin : graph.IsBuiltin engine)
    (valid : graph.problems = []) {walk : Walk} {passed : List NodeId}
    (follows : walk.Follows graph passed) {id : NodeId} {error : GraphError}
    (h : walk.compute? graph id = some (.error error)) : graph.Excuses engine id error := by
  obtain ⟨node, hnode, hresult, fits⟩ := follows.fitsInputs_of_compute? wellFormed h
  have hid := wellFormed.own_id id node hnode
  have served := fits.isServed wellFormed valid (hid ▸ hnode)
  exact excuses_of_run wellFormed builtin hnode served hresult

/-- No node of the graph has an excuse: none matches patterns, and the branches of every conditional
node are of a known kind. -/
def LacksExcuses (graph : Graph) (engine : Regex.Engine) : Prop :=
  ∀ id node, graph.node? id = some node → node.type ≠ Builtin.regexMatch engine ∧
    (node.type = Builtin.conditional →
      ∃ kind : Kind, node.settings.value? .string "kind" = some kind.name)

theorem lacksExcuses_of_types (h : ∀ type ∈ graph.nodes.values.map Node.type,
    type ≠ Builtin.regexMatch engine ∧ type ≠ Builtin.conditional) :
    graph.LacksExcuses engine := by
  intro id node hnode
  obtain ⟨hregexMatch, hconditional⟩ := h node.type (OrderedMap.mem_map_values Node.type hnode)
  exact ⟨hregexMatch, fun isConditional ↦ absurd isConditional hconditional⟩

theorem LacksExcuses.not_excuses (lacks : graph.LacksExcuses engine) (id : NodeId)
    (error : GraphError) : ¬ graph.Excuses engine id error := by
  rintro ⟨node, hnode, -, excuses⟩
  obtain ⟨hregexMatch, hconditional⟩ := lacks id node hnode
  generalize error.rootCause = cause at excuses
  cases excuses with
  | pattern isRegexMatch => exact hregexMatch isRegexMatch
  | branchKind isConditional hname unknown =>
    obtain ⟨kind, hkind⟩ := hconditional isConditional
    exact unknown kind (Option.some.inj (hkind.symm.trans hname))

/-- What evaluations of a graph come to when nodes fail with an excuse only. -/
structure FailsExcused (graph : Graph) (engine : Regex.Engine) (config : Config)
    (freshId : String) : Prop where
  running : ∀ run, graph.PassesThrough config freshId run → ∀ task ∈ run.running, ∀ error,
    task.result = .error error → graph.Excuses engine task.node error
  ownFailures : ∀ run, graph.PassesThrough config freshId run → ∀ place id error,
    run.ownFailures.get? place = some (id, error) → graph.Excuses engine id error
  report : ∀ trace report, graph.Evaluates config freshId trace →
    trace.outcome = .failed report → graph.Excuses engine report.node report.error
  resolves : graph.LacksExcuses engine → ∀ trace, graph.Evaluates config freshId trace →
    ∃ outputs, trace.outcome = .resolved outputs

/-- A graph of built-in nodes that has no problems does not go wrong, whatever engine compiles the
patterns. In every evaluation of it, a node whose own computation fails does so because a pattern
cannot be compiled or because its branches are of no known kind; and where no node has such an
excuse the evaluation resolves. -/
theorem valid_evaluation_excused (engine : Regex.Engine) (graph : Graph)
    (reachable : graph.Reachable) (builtin : graph.IsBuiltin engine) (valid : graph.problems = [])
    (config : Config) (freshId : String) :
    graph.Evaluates config freshId (graph.evaluate config freshId) ∧
      graph.FailsExcused engine config freshId := by
  have wellFormed := reachable.wellFormed
  obtain ⟨order, horder⟩ := findCycle_eq_none_iff.mp (findCycle_of_problems_eq_nil valid)
  have hreport : ∀ trace report, graph.Evaluates config freshId trace →
      trace.outcome = .failed report → graph.Excuses engine report.node report.error := by
    intro trace report h houtcome
    obtain ⟨final, -, sound, settled, rfl⟩ := h.of_order wellFormed horder
    have hfirst := List.mem_of_head? (sound.predictsReport settled houtcome).first
    exact excuses_of_compute? wellFormed builtin valid sound.follows
      (sound.follows.mem_failures_iff.mp hfirst).2
  refine ⟨wellFormed.evaluates_evaluate config freshId, ?_, ?_, hreport, ?_⟩
  · intro run through task htask error hresult
    obtain ⟨other, -, sound⟩ := through.sound wellFormed
    have hcompute := sound.agrees.running task htask
    rw [hresult] at hcompute
    exact excuses_of_compute? wellFormed builtin valid sound.follows hcompute
  · intro run through place id error hown
    obtain ⟨other, -, sound⟩ := through.sound wellFormed
    exact excuses_of_compute? wellFormed builtin valid sound.follows
      (sound.agrees.ownFailures place id error hown)
  · intro lacks trace h
    cases houtcome : trace.outcome with
    | resolved outputs => exact ⟨outputs, rfl⟩
    | failed report => exact absurd (hreport trace report h houtcome) (lacks.not_excuses _ _)

/-- An unbalanced pattern, and a choice between branches of a kind that there is not. -/
def misfit : Graph :=
  afterEdits
    [ .createNode (Builtin.registry Regex.plainEngine) (.ofNat 1) "text-input"
        (.ofList [("text", .string "(")]),
      .createNode (Builtin.registry Regex.plainEngine) (.ofNat 2) "regex-match" .empty,
      .createNode (Builtin.registry Regex.plainEngine) (.ofNat 3) "conditional"
        (.ofList [("kind", .string "text")]),
      .connect (.ofNat 1) "text" (.ofNat 2) "regex" .string,
      .connect (.ofNat 1) "text" (.ofNat 2) "word" .string,
      .connect (.ofNat 2) "output" (.ofNat 3) "condition" .boolean,
      .connect (.ofNat 1) "text" (.ofNat 3) "if_true" .string,
      .connect (.ofNat 1) "text" (.ofNat 3) "if_false" .string ]

theorem reachable_misfit : misfit.Reachable := ⟨_, rfl⟩

theorem problems_misfit : misfit.problems = [] := by
  decide +kernel

set_option maxRecDepth 20000 in
theorem types_misfit : misfit.nodes.values.map Node.type =
    [Builtin.textInput, Builtin.regexMatch Regex.plainEngine, Builtin.conditional] := rfl

theorem isBuiltin_misfit : misfit.IsBuiltin Regex.plainEngine := by
  refine isBuiltin_of_types ?_
  rw [types_misfit]
  simp [Builtin.types]

theorem fails_misfit : ∃ report,
    (misfit.evaluate ⟨some 2, none⟩ "run").outcome = .failed report :=
  ⟨_, rfl⟩

theorem problems_relay : relay.problems = [] := by
  decide +kernel

theorem types_relay : relay.nodes.values.map Node.type =
    [Builtin.textInput, Builtin.textOutput] := rfl

theorem isBuiltin_relay : relay.IsBuiltin Regex.plainEngine := by
  refine isBuiltin_of_types ?_
  rw [types_relay]
  simp [Builtin.types]

theorem lacksExcuses_relay : relay.LacksExcuses Regex.plainEngine := by
  refine lacksExcuses_of_types fun type htype ↦ ?_
  rw [types_relay] at htype
  -- Types are told apart by what they tell about themselves.
  have hmetadata := List.mem_map_of_mem (f := NodeType.metadata) htype
  constructor
  · rintro rfl
    exact absurd hmetadata (by decide)
  · rintro rfl
    exact absurd hmetadata (by decide)

/-- One graph that fails with an excuse, and one that has none and resolves. -/
theorem valid_evaluation_excused_misfit_relay :
    (misfit.Reachable ∧ misfit.IsBuiltin Regex.plainEngine ∧ misfit.problems = [] ∧ ∃ report,
      (misfit.evaluate ⟨some 2, none⟩ "run").outcome = .failed report ∧
        misfit.Excuses Regex.plainEngine report.node report.error) ∧
    (relay.Reachable ∧ relay.IsBuiltin Regex.plainEngine ∧ relay.problems = [] ∧
      relay.LacksExcuses Regex.plainEngine ∧
      ∃ outputs, (relay.evaluate ⟨none, none⟩ "run").outcome = .resolved outputs) := by
  obtain ⟨hmisfit, excused⟩ := valid_evaluation_excused Regex.plainEngine misfit reachable_misfit
    isBuiltin_misfit problems_misfit ⟨some 2, none⟩ "run"
  obtain ⟨hrelay, resolves⟩ := valid_evaluation_excused Regex.plainEngine relay reachable_relay
    isBuiltin_relay problems_relay ⟨none, none⟩ "run"
  obtain ⟨report, hreport⟩ := fails_misfit
  exact ⟨⟨reachable_misfit, isBuiltin_misfit, problems_misfit, report, hreport,
      excused.report _ report hmisfit hreport⟩,
    reachable_relay, isBuiltin_relay, problems_relay, lacksExcuses_relay,
      resolves.resolves lacksExcuses_relay _ hrelay⟩

end Graph

end FlowGraph
