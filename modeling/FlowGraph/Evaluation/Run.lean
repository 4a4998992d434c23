import FlowGraph.Evaluation.Computation
import FlowGraph.Evaluation.Event

/-!
The state of a run and the steps that change it. Time is a count of milliseconds that moves only
when nothing else can happen: ready nodes start at once while there is room for them, and then the
running node with the earliest deadline completes, of several the one that was started first. A node
is started when all nodes it reads from have resolved; when a node fails, everything downstream of
it that has not started is failed with it.
-/

set_option autoImplicit false
set_option relaxedAutoImplicit false

namespace FlowGraph.Evaluation

/-- Where a node stands within one evaluation. -/
inductive NodeState where
  | pending
  | resolving
  | resolved
  | failed
deriving DecidableEq, Inhabited

/-- Why a node failed. The origin is the node whose own computation failed. -/
structure Failure where
  origin : NodeId
  cause : String
deriving DecidableEq

/-- A node that has been started: when it completes, and with what. -/
structure Task where
  node : NodeId
  deadline : Nat
  result : Except GraphError Boxes

structure Run where
  /-- The name of the run in its events. -/
  executionId : String
  clock : Nat
  order : List NodeId
  /-- The place of each node in the order. -/
  position : OrderedMap NodeId Nat
  /-- How many of the nodes that a node reads from have not resolved. -/
  waitingOn : OrderedMap NodeId Nat
  /-- The nodes that can start, by position. -/
  ready : OrderedMap Nat NodeId
  states : OrderedMap NodeId NodeState
  outputs : OrderedMap NodeId Boxes
  failures : OrderedMap NodeId Failure
  /-- The nodes whose own computation failed, by position. -/
  ownFailures : OrderedMap Nat (NodeId × GraphError)
  /-- The started nodes that have not completed, in the order they were started. -/
  running : List Task
  events : List Event

namespace Run

/-- The run before its first step. -/
def start (executionId : String) (graph : Graph) (order : List NodeId) : Run :=
  let places := order.zipIdx
  let waitingOn : OrderedMap NodeId Nat :=
    .ofList (order.map fun node ↦ (node, (graph.dependencies node).size))
  { executionId
    clock := 0
    order
    position := .ofList places
    waitingOn
    ready := .ofList ((places.filter fun place ↦ waitingOn.get? place.1 = some 0).map fun place ↦
      (place.2, place.1))
    states := .ofList (order.map fun node ↦ (node, .pending))
    outputs := .empty
    failures := .empty
    ownFailures := .empty
    running := []
    events := [.evaluationStarted executionId graph.size] }

def emit (run : Run) (event : Event) : Run := { run with events := run.events ++ [event] }

def isPending (run : Run) (node : NodeId) : Bool := run.states.get? node == some .pending

/-- Starts a node: its inputs are what its dependencies have put out. -/
def startNode (graph : Graph) (run : Run) (node : Node) : Run :=
  let computed := node.run (node.assembleInputs graph run.outputs)
  { run with
    states := run.states.insert node.id .resolving
    running := run.running ++ [⟨node.id, run.clock + computed.duration, computed.result⟩]
    events := run.events ++ [.nodeStarted run.executionId node.id.text] }

/-- Starts ready nodes by position while there is room for them. -/
def startReady (graph : Graph) (limit : Option Nat) : Nat → Run → Run
  | 0, run => run
  | fuel + 1, run =>
    if limit.any (· ≤ run.running.length) then run
    else
      match run.ready.entries with
      | [] => run
      | (position, id) :: _ =>
        let popped := { run with ready := run.ready.erase position }
        startReady graph limit fuel
          (match graph.node? id with
          | some node => startNode graph popped node
          | none => popped)

/-- Of started nodes the one to complete next: the earliest deadline, started first. -/
def nextTask? : List Task → Option Task
  | [] => none
  | task :: rest =>
    match nextTask? rest with
    | none => some task
    | some other => some (if other.deadline < task.deadline then other else task)

/-- Counts a resolved dependency down; a node without any left becomes ready. -/
def release (run : Run) (dependent : NodeId) : Run :=
  match run.waitingOn.get? dependent with
  | none => run
  | some waiting =>
    let counted := { run with waitingOn := run.waitingOn.insert dependent (waiting - 1) }
    match run.position.get? dependent with
    | some position =>
      if waiting - 1 = 0 ∧ run.isPending dependent then
        { counted with ready := counted.ready.insert position dependent }
      else counted
    | none => counted

/-- Records the outputs of a node and releases the nodes that read from it. -/
def resolve (graph : Graph) (run : Run) (node : NodeId) (outputs : Boxes) : Run :=
  (graph.dependents node).toList.foldl release
    { run with
      states := run.states.insert node .resolved
      outputs := run.outputs.insert node outputs }

/-- Fails a node that cannot be started any more. -/
def skip (origin : NodeId) (run : Run) (node : NodeId) : Run :=
  { run with
    states := run.states.insert node .failed
    failures := run.failures.insert node ⟨origin, "upstream node " ++ origin.text ++ " failed"⟩ }

/-- Skips the pending nodes downstream of a failed one, and lists them. The frontier is a stack of
nodes to look at: a node that is not pending is passed over; a pending one is skipped, and the nodes
that read from it are put on top. No connection is followed twice, so that their number is fuel
enough. -/
def skipDownstream (graph : Graph) (origin : NodeId) :
    Nat → List NodeId → List NodeId → Run → List NodeId × Run
  | fuel + 1, node :: frontier, skipped, run =>
    if run.isPending node then
      skipDownstream graph origin fuel ((graph.dependents node).toList.reverse ++ frontier)
        (skipped ++ [node]) (skip origin run node)
    else skipDownstream graph origin fuel frontier skipped run
  | _, _, skipped, run => (skipped, run)

def reportSkipped (origin : NodeId) (run : Run) (node : NodeId) : Run :=
  run.emit (.nodeSkipped run.executionId node.text origin.text)

/-- Records the failure of a node's own computation and skips everything downstream of it, which is
reported in the order of identifiers. -/
def fail (graph : Graph) (run : Run) (node : NodeId) (error : GraphError) : Run :=
  let position := (run.position.get? node).getD run.order.length
  let recorded :=
    { run with
      states := run.states.insert node .failed
      failures := run.failures.insert node ⟨node, error.rootCause.message⟩
      ownFailures := run.ownFailures.insert position (node, error) }
  let (skipped, failed) :=
    skipDownstream graph node graph.connections.length (graph.dependents node).toList.reverse []
      recorded
  (OrderedSet.ofList skipped).toList.foldl (reportSkipped node) failed

/-- Completes a started node. -/
def complete (graph : Graph) (run : Run) (task : Task) : Run :=
  let finished :=
    { run with
      clock := max run.clock task.deadline
      running := run.running.eraseP fun other ↦ other.node = task.node }
  match task.result with
  | .ok outputs =>
    resolve graph (finished.emit (.nodeResolved run.executionId task.node.text outputs.toJson))
      task.node outputs
  | .error error =>
    fail graph (finished.emit (.nodeFailed run.executionId task.node.text error.message))
      task.node error

/-- Starts what can start and completes the next task, `none` when nothing is running. -/
def step (graph : Graph) (limit : Option Nat) (run : Run) : Option Run :=
  let started := startReady graph limit run.ready.size run
  (nextTask? started.running).map (complete graph started)

/-- Steps until nothing is running. -/
def advance (graph : Graph) (limit : Option Nat) : Nat → Run → Run
  | 0, run => run
  | fuel + 1, run =>
    match step graph limit run with
    | none => run
    | some next => advance graph limit fuel next

end Run

end FlowGraph.Evaluation
