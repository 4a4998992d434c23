import FlowGraph.Proofs.Graph.Edit
import FlowGraph.Proofs.InPlace

/-!
Edits carried out in place, write by write. A graph that is held in place keeps what has been
written to it when an edit fails half-way, and a change of a setting writes several times: it
replaces the node, takes all connections out and puts back one by one those that the changed node
still admits. Each edit here answers as the edit of the same name on whole graphs does and leaves the
graph that this edit gives, or the graph as it was when it fails (`run_updateSetting`,
`run_addConnection`, `run_connect`).
-/

set_option autoImplicit false
set_option relaxedAutoImplicit false

namespace FlowGraph.Graph

/-- An edit of a graph that is held in place. What it has written stays when it fails. -/
abbrev InPlace (α : Type) := ExceptT GraphError (StateM Graph) α

namespace InPlace

/-- Puts a connection back that has been taken out, or drops it when it is stale. -/
def putBack (id : NodeId) (dropped : List Connection) (connection : Connection) :
    InPlace (List Connection) := do
  if (← get).isStale id connection then
    return dropped ++ [connection]
  else
    modify fun graph ↦ { graph with connections := graph.connections ++ [connection] }
    return dropped

def updateSetting (id : NodeId) (name : String) (value : Box) : InPlace (List Connection) := do
  let node ← (← get).require id
  let changed ← node.applySetting name value
  modify fun graph ↦ { graph with nodes := graph.nodes.insert id changed }
  let taken := (← get).connections
  modify fun graph ↦ { graph with connections := [] }
  taken.foldlM (putBack id) []

def addConnection (connection : Connection) : InPlace Unit := do
  let _ ← (← get).require connection.source.node
  let _ ← (← get).require connection.target.node
  (← get).checkConnection connection
  match (← get).connectionInto? connection.target.node connection.target.name with
  | some existing =>
    if existing = connection then return
    else throw (.inputAlreadyConnected connection.target.node connection.target.name)
  | none => modify fun graph ↦ { graph with connections := graph.connections ++ [connection] }

def connect (source : NodeId) (sourceName : String) (target : NodeId) (targetName : String)
    (expected : Kind) : InPlace Unit := do
  let sourceNode ← (← get).require source
  let targetNode ← (← get).require target
  let connection ← Connection.create sourceNode sourceName targetNode targetName expected
  addConnection connection

/-- What an edit answers and leaves that is carried out as a whole or not at all. -/
def allOrNothing {α : Type} (graph : Graph) :
    Except GraphError (Graph × α) → Except GraphError α × Graph
  | .ok (next, answer) => (.ok answer, next)
  | .error error => (.error error, graph)

/-- An edit that begins with a check is carried out as a whole or not at all when what follows the
check is. -/
theorem run_check_bind_eq_allOrNothing {α β : Type} (graph : Graph) {check : Except GraphError α}
    {next : α → InPlace β} {whole : α → Except GraphError (Graph × β)}
    (hnext : ∀ a, next a graph = allOrNothing graph (whole a)) :
    ((liftM check : InPlace α) >>= next) graph = allOrNothing graph (check >>= whole) := by
  rw [run_check_bind]
  cases check with
  | error error => rfl
  | ok a => exact hnext a

/-! ### Settings -/

/-- Whether a connection is stale does not depend on the connections that the graph has. -/
theorem isStale_congr {first second : Graph} (hnodes : first.nodes = second.nodes) :
    first.isStale = second.isStale := by
  funext id connection
  simp only [isStale, checkConnection, require, node?, hnodes]

theorem run_putBack (graph : Graph) (id : NodeId) (dropped : List Connection)
    (connection : Connection) :
    putBack id dropped connection graph =
      if graph.isStale id connection then (.ok (dropped ++ [connection]), graph)
      else (.ok dropped, { graph with connections := graph.connections ++ [connection] }) := by
  rw [putBack, run_get_bind]
  split_ifs
  · rfl
  · rfl

/-- Putting back one by one keeps and drops what a split of the whole list does. -/
theorem run_foldlM_putBack (graph : Graph) (id : NodeId) (taken dropped : List Connection) :
    taken.foldlM (putBack id) dropped graph =
      (.ok (dropped ++ taken.filter (graph.isStale id)),
        { graph with
          connections := graph.connections ++ taken.filter (not ∘ graph.isStale id) }) := by
  induction taken generalizing graph dropped with
  | nil =>
    simp only [List.filter_nil, List.append_nil]
    rfl
  | cons connection rest ih =>
    rw [List.foldlM_cons, run_bind, run_putBack]
    by_cases hstale : graph.isStale id connection = true
    · rw [if_pos hstale]
      simp [ih, hstale]
    · let after : Graph := { graph with connections := graph.connections ++ [connection] }
      have hsame : after.isStale = graph.isStale := isStale_congr rfl
      rw [if_neg hstale]
      dsimp only
      rw [ih after dropped, hsame]
      simp [after, hstale]

theorem run_updateSetting (graph : Graph) (id : NodeId) (name : String) (value : Box) :
    updateSetting id name value graph =
      allOrNothing graph (graph.updateSetting id name value) := by
  rw [updateSetting, run_get_bind]
  refine run_check_bind_eq_allOrNothing graph fun node ↦ ?_
  refine run_check_bind_eq_allOrNothing graph fun changed ↦ ?_
  rw [run_modify_bind, run_get_bind, run_modify_bind, run_foldlM_putBack]
  simp only [List.partition_eq_filter_filter]
  rfl

/-! ### Connections -/

theorem run_addConnection (graph : Graph) (connection : Connection) :
    addConnection connection graph =
      allOrNothing graph (do return (← graph.addConnection connection, ())) := by
  simp only [Graph.addConnection, bind_assoc]
  rw [addConnection, run_get_bind]
  refine run_check_bind_eq_allOrNothing graph fun _ ↦ ?_
  rw [run_get_bind]
  refine run_check_bind_eq_allOrNothing graph fun _ ↦ ?_
  rw [run_get_bind]
  refine run_check_bind_eq_allOrNothing graph fun _ ↦ ?_
  rw [run_get_bind]
  cases graph.connectionInto? connection.target.node connection.target.name with
  | none => rfl
  | some existing =>
    dsimp only
    split_ifs
    · rfl
    · rfl

theorem run_connect (graph : Graph) (source : NodeId) (sourceName : String) (target : NodeId)
    (targetName : String) (expected : Kind) :
    connect source sourceName target targetName expected graph =
      allOrNothing graph
        (do return (← graph.connect source sourceName target targetName expected, ())) := by
  simp only [Graph.connect, bind_assoc]
  rw [connect, run_get_bind]
  refine run_check_bind_eq_allOrNothing graph fun sourceNode ↦ ?_
  rw [run_get_bind]
  refine run_check_bind_eq_allOrNothing graph fun targetNode ↦ ?_
  exact run_check_bind_eq_allOrNothing graph fun connection ↦ run_addConnection graph connection

end InPlace

end FlowGraph.Graph
