import FlowGraph.Proofs.Evaluation.Agreement

/-!
Who a failure is attributed to. The error that a node raises, by its computation, by an output that
it waits for or by the check of its outputs, is reported as a failure of that node; an error that is
attributed to some node already is reported as it is (`reported_error_attributed`). So the node that
a report names and the node that its error names may differ (`not_reported_error_names_node`).
-/

set_option autoImplicit false
set_option relaxedAutoImplicit false

namespace FlowGraph

open Evaluation

namespace GraphError

/-- The error is attributed to some node. -/
def IsAttributed (error : GraphError) : Prop := ∃ node cause, error = .nodeFailure node cause

theorem isAttributed_attributeTo (node : NodeId) (cause : GraphError) :
    (cause.attributeTo node).IsAttributed := by
  cases cause <;> exact ⟨_, _, rfl⟩

theorem attributeTo_of_isAttributed {cause : GraphError} (h : cause.IsAttributed) (node : NodeId) :
    cause.attributeTo node = cause := by
  obtain ⟨failed, inner, rfl⟩ := h
  rfl

theorem attributeTo_of_not_isAttributed {cause : GraphError} (h : ¬ cause.IsAttributed)
    (node : NodeId) : cause.attributeTo node = .nodeFailure node cause := by
  cases cause with
  | nodeFailure failed inner => exact absurd ⟨failed, inner, rfl⟩ h
  | _ => rfl

end GraphError

namespace Node

/-- What a node puts out when it is given inputs, or the error that it raises: that of its
computation, of an output that it waits for, or of the check of its outputs. -/
def produce (node : Node) (inputs : Boxes) : Except GraphError Boxes :=
  (node.type.run inputs node.settings).result.bind fun produced ↦
    checkOutputs node.id produced node.outputs .empty

theorem run_eq_error_iff {node : Node} {inputs : Boxes} {error : GraphError} :
    (node.run inputs).result = .error error ↔
      ∃ cause, node.produce inputs = .error cause ∧ cause.attributeTo node.id = error :=
  mapError_eq_error_iff

end Node

variable {graph : Graph}

/-- A node whose own computation fails in a walk raises an error, which is attributed to it. -/
theorem Walk.raised_of_compute? {walk : Walk} (wellFormed : graph.WellFormed) {id : NodeId}
    {error : GraphError} (h : walk.compute? graph id = some (.error error)) :
    ∃ node cause, graph.node? id = some node ∧
      node.produce (node.assembleInputs graph walk.outputs) = .error cause ∧
      error = cause.attributeTo id := by
  obtain ⟨-, node, hnode, hresult⟩ := Walk.compute?_eq_some_iff.mp h
  obtain ⟨cause, hraised, hattributed⟩ := Node.run_eq_error_iff.mp hresult
  rw [wellFormed.own_id id node hnode] at hattributed
  exact ⟨node, cause, hnode, hraised, hattributed.symm⟩

/-- The error that a run which is over reports is attributed to a node. -/
theorem Evaluation.Run.Sound.isAttributed_of_failed {order : List NodeId} {run : Run}
    (sound : run.Sound graph order) (wellFormed : graph.WellFormed)
    (settled : ∀ id ∈ order, run.IsSettled id) {report : Report}
    (h : run.conclude.outcome = .failed report) : report.error.IsAttributed := by
  have hfirst := (sound.predictsReport settled h).first
  have hcompute := (sound.follows.mem_failures_iff.mp (List.mem_of_head? hfirst)).2
  obtain ⟨node, cause, -, -, herror⟩ := Walk.raised_of_compute? wellFormed hcompute
  rw [herror]
  exact GraphError.isAttributed_attributeTo report.node cause

namespace Graph

/-- The error of every failed evaluation of a graph without cycles is attributed to a node. It comes
from the error that the reported node raised on the inputs that the evaluation gave it: if that was
not attributed to any node, the report attributes it to the reported node; otherwise the report has
it unchanged, whichever node it names. -/
theorem reported_error_attributed (graph : Graph) (reachable : graph.Reachable)
    (acyclic : graph.Acyclic) (config : Config) (freshId : String) :
    graph.Evaluates config freshId (graph.evaluate config freshId) ∧
      ∀ trace report, graph.Evaluates config freshId trace → trace.outcome = .failed report →
        ∃ run node cause, graph.PassesThrough config freshId run ∧ trace = run.conclude ∧
          graph.node? report.node = some node ∧
          node.produce (node.assembleInputs graph run.outputs) = .error cause ∧
          report.error.IsAttributed ∧
          (¬ cause.IsAttributed → report.error = .nodeFailure report.node cause) ∧
          (cause.IsAttributed → report.error = cause) := by
  have wellFormed := reachable.wellFormed
  refine ⟨wellFormed.evaluates_evaluate config freshId, fun trace report h hreport ↦ ?_⟩
  obtain ⟨order, horder⟩ := exists_order_of_acyclic wellFormed acyclic
  obtain ⟨final, through, sound, settled, rfl⟩ := h.of_order wellFormed horder
  have hfirst := (sound.predictsReport settled hreport).first
  have hcompute := (sound.follows.mem_failures_iff.mp (List.mem_of_head? hfirst)).2
  obtain ⟨node, cause, hnode, hraised, herror⟩ := Walk.raised_of_compute? wellFormed hcompute
  rw [← sound.outputs_eq settled] at hraised
  rw [herror]
  exact ⟨final, node, cause, through, rfl, hnode, hraised,
    GraphError.isAttributed_attributeTo report.node cause,
    fun h ↦ GraphError.attributeTo_of_not_isAttributed h report.node,
    fun h ↦ GraphError.attributeTo_of_isAttributed h report.node⟩

/-- A type whose computation fails with a failure of another node. -/
def blaming (other : NodeId) : NodeType where
  metadata := ⟨"blaming", .processing, "Blaming", "Fails in the name of another node"⟩
  defaults := .empty
  inputs _ _ := []
  outputs _ _ := []
  compute _ _ := .error (.nodeFailure other (.executionFailed "no answer"))

/-- One node, which blames another one that the graph does not have. -/
def scapegoat : Graph :=
  afterEdits
    [.createNode (.ofTypes [blaming (.ofNat 2)]) (.ofNat 1) "blaming" .empty]

theorem reachable_scapegoat : scapegoat.Reachable := ⟨_, rfl⟩

theorem order_scapegoat : scapegoat.order = .ok [.ofNat 1] := by
  decide

theorem acyclic_scapegoat : scapegoat.Acyclic :=
  (orders_of_order reachable_scapegoat.wellFormed order_scapegoat).acyclic
    reachable_scapegoat.wellFormed

theorem report_scapegoat : ∃ report,
    (scapegoat.evaluate ⟨none, none⟩ "run").outcome = .failed report ∧
      report.node = .ofNat 1 ∧
      report.error = .nodeFailure (.ofNat 2) (.executionFailed "no answer") :=
  ⟨_, rfl, rfl, rfl⟩

theorem reported_error_attributed_scapegoat :
    scapegoat.Reachable ∧ scapegoat.Acyclic ∧ ∃ report,
      (scapegoat.evaluate ⟨none, none⟩ "run").outcome = .failed report ∧
        ∃ run node cause, scapegoat.PassesThrough ⟨none, none⟩ "run" run ∧
          scapegoat.evaluate ⟨none, none⟩ "run" = run.conclude ∧
          scapegoat.node? report.node = some node ∧
          node.produce (node.assembleInputs scapegoat run.outputs) = .error cause ∧
          report.error.IsAttributed ∧
          (¬ cause.IsAttributed → report.error = .nodeFailure report.node cause) ∧
          (cause.IsAttributed → report.error = cause) := by
  obtain ⟨report, houtcome, -, -⟩ := report_scapegoat
  obtain ⟨hevaluates, hreported⟩ := reported_error_attributed scapegoat reachable_scapegoat
    acyclic_scapegoat ⟨none, none⟩ "run"
  exact ⟨reachable_scapegoat, acyclic_scapegoat, report, houtcome,
    hreported _ report hevaluates houtcome⟩

/-- The error of a failed evaluation need not name the node that the report names. -/
theorem not_reported_error_names_node :
    ¬ ∀ graph : Graph, graph.Reachable → graph.Acyclic → ∀ config freshId trace report,
      graph.Evaluates config freshId trace → trace.outcome = .failed report →
        ∃ cause, report.error = .nodeFailure report.node cause := by
  intro h
  obtain ⟨report, houtcome, hnode, herror⟩ := report_scapegoat
  have hevaluates := reachable_scapegoat.wellFormed.evaluates_evaluate ⟨none, none⟩ "run"
  obtain ⟨cause, hcause⟩ :=
    h scapegoat reachable_scapegoat acyclic_scapegoat _ _ _ report hevaluates houtcome
  rw [herror, hnode] at hcause
  have hsame : NodeId.ofNat 2 = NodeId.ofNat 1 := (GraphError.nodeFailure.inj hcause).1
  exact absurd hsame (by decide)

end Graph

end FlowGraph
