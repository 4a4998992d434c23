import FlowGraph.Encoding.Box

/-!
Events of an evaluation. Nodes are carried by the text of their identifiers and outputs as
documents, so an event means the same to every reader.
-/

set_option autoImplicit false
set_option relaxedAutoImplicit false

namespace FlowGraph.Evaluation

inductive Event where
  | evaluationStarted (executionId : String) (nodeCount : Nat)
  | nodeStarted (executionId : String) (nodeId : String)
  | nodeResolved (executionId : String) (nodeId : String) (outputs : Json)
  | nodeFailed (executionId : String) (nodeId : String) (error : String)
  /-- The node was never started because a node it depends on failed. -/
  | nodeSkipped (executionId : String) (nodeId : String) (origin : String)
  | evaluationCompleted (executionId : String)
  | evaluationFailed (executionId : String) (error : String)
deriving Inhabited

namespace Event

/-- The evaluation that an event belongs to. -/
def executionId : Event → String
  | .evaluationStarted id _ => id
  | .nodeStarted id _ => id
  | .nodeResolved id _ _ => id
  | .nodeFailed id _ _ => id
  | .nodeSkipped id _ _ => id
  | .evaluationCompleted id => id
  | .evaluationFailed id _ => id

end Event

end FlowGraph.Evaluation
