import FlowGraph.Evaluation
import FlowGraph.Proofs.Graph.Order

/-!
The steps of a run in any order of completions: while there is room the first ready node is started,
and when none can be, any running node may complete. The run of an evaluation is one of these runs,
the one in which deadlines choose who completes.
-/

set_option autoImplicit false
set_option relaxedAutoImplicit false

namespace FlowGraph.Evaluation

namespace Run

/-- As many nodes are running as may run at once. -/
def IsFull (limit : Option Nat) (run : Run) : Prop := limit.any (· ≤ run.running.length) = true

instance (limit : Option Nat) (run : Run) : Decidable (run.IsFull limit) :=
  inferInstanceAs (Decidable (_ = true))

/-- There is room, and this node is the first that is ready. -/
structure Starts (graph : Graph) (limit : Option Nat) (run : Run) (position : Nat)
    (node : Node) : Prop where
  room : ¬ run.IsFull limit
  first : ∃ rest, run.ready.entries = (position, node.id) :: rest
  found : graph.node? node.id = some node

/-- One step of a run. -/
inductive Step (graph : Graph) (limit : Option Nat) (run : Run) : Run → Prop where
  /-- The first ready node is started while there is room. -/
  | start {position : Nat} {node : Node} (starts : run.Starts graph limit position node) :
      Step graph limit run (startNode graph { run with ready := run.ready.erase position } node)
  /-- When no node can be started, any running one completes. -/
  | complete {task : Task} (waits : run.IsFull limit ∨ run.ready.entries = [])
      (running : task ∈ run.running) : Step graph limit run (complete graph run task)

/-- A run that can go no further. -/
def IsOver (graph : Graph) (limit : Option Nat) (run : Run) : Prop :=
  ∀ next, ¬ Step graph limit run next

/-- What can be reached in any number of steps. -/
abbrev Steps (graph : Graph) (limit : Option Nat) : Run → Run → Prop :=
  Relation.ReflTransGen (Step graph limit)

/-- A run with one task less, at the time when it is done. -/
def finish (run : Run) (task : Task) : Run :=
  { run with
    clock := max run.clock task.deadline
    running := run.running.eraseP fun other ↦ other.node = task.node }

variable {graph : Graph} {run : Run}

theorem complete_of_ok {task : Task} {outputs : Boxes} (h : task.result = .ok outputs) :
    complete graph run task =
      resolve graph
        ((run.finish task).emit (.nodeResolved run.executionId task.node.text outputs.toJson))
        task.node outputs := by
  rw [complete, h]
  rfl

theorem complete_of_error {task : Task} {error : GraphError} (h : task.result = .error error) :
    complete graph run task =
      fail graph
        ((run.finish task).emit (.nodeFailed run.executionId task.node.text error.message))
        task.node error := by
  rw [complete, h]
  rfl

theorem map_node_eraseP (tasks : List Task) (id : NodeId) :
    (tasks.eraseP fun task ↦ task.node = id).map Task.node = (tasks.map Task.node).erase id := by
  induction tasks with
  | nil => rfl
  | cons task rest ih =>
    by_cases h : task.node = id
    · simp [h]
    · simp [h, ih]

theorem isPending_iff (run : Run) (id : NodeId) :
    run.isPending id = true ↔ run.states.get? id = some .pending := by
  simp [isPending]

end Run

end FlowGraph.Evaluation
