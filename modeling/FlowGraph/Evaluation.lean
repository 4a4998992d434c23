import FlowGraph.Evaluation.Run

/-!
Evaluation of a graph. A graph with a cycle is refused before any node is computed. Otherwise every
node that can be is computed once, and the evaluation fails with the failure of the node that comes
first in the order, if any node failed.
-/

set_option autoImplicit false
set_option relaxedAutoImplicit false

namespace FlowGraph

namespace Evaluation

/-- How many nodes may run at once, without bound if absent, and the name of the run, a fresh one if
absent. -/
structure Config where
  maxConcurrency : Option Nat := none
  executionId : Option String := none
deriving DecidableEq

/-- The report of a failed evaluation. States and failures are empty when the graph was refused. -/
structure Report where
  node : NodeId
  error : GraphError
  states : OrderedMap NodeId NodeState
  failures : OrderedMap NodeId Failure

inductive Outcome where
  | resolved (outputs : OrderedMap NodeId Boxes)
  | failed (report : Report)

namespace Outcome

/-- The outputs of all nodes, or the error of the node that failed first. -/
def toExcept : Outcome → Except GraphError (OrderedMap NodeId Boxes)
  | .resolved outputs => .ok outputs
  | .failed report => .error report.error

end Outcome

/-- An evaluation as it went: its outcome, its events, and how long it took in milliseconds. -/
structure Trace where
  outcome : Outcome
  events : List Event
  elapsed : Nat

/-- The outcome of a run that is over, with the event that says so. -/
def Run.conclude (run : Run) : Trace :=
  match run.ownFailures.entries with
  | [] =>
    { outcome := .resolved run.outputs
      events := run.events ++ [.evaluationCompleted run.executionId]
      elapsed := run.clock }
  | (_, node, error) :: _ =>
    { outcome := .failed ⟨node, error, run.states, run.failures⟩
      events := run.events ++ [.evaluationFailed run.executionId error.message]
      elapsed := run.clock }

end Evaluation

open Evaluation

namespace Graph

/-- Evaluates a graph. A bound of zero counts as one. -/
def evaluate (graph : Graph) (config : Config) (freshId : String) : Trace :=
  let executionId := config.executionId.getD freshId
  match graph.order with
  | .error node =>
    let error := GraphError.cyclicGraph node
    { outcome := .failed ⟨node, error, .empty, .empty⟩
      events :=
        [.evaluationStarted executionId graph.size, .evaluationFailed executionId error.message]
      elapsed := 0 }
  | .ok order =>
    let limit := config.maxConcurrency.map (max 1)
    ((Run.start executionId graph order).advance graph limit order.length).conclude

end Graph

end FlowGraph
