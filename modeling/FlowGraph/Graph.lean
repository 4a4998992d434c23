import FlowGraph.Connection
import FlowGraph.OrderedSet
import FlowGraph.Registry

/-!
Graphs: nodes by identifier and connections in the order they were made. Every edit checks what it
adds against the connectors as they are now, and an edit that fails leaves no graph behind. Cycles
may be stored; only the order of evaluation refuses them.
-/

set_option autoImplicit false
set_option relaxedAutoImplicit false

namespace FlowGraph

structure Graph where
  nodes : OrderedMap NodeId Node
  connections : List Connection

namespace Graph

def empty : Graph := ⟨.empty, []⟩

instance : Inhabited Graph := ⟨empty⟩

def node? (graph : Graph) (id : NodeId) : Option Node := graph.nodes.get? id

def contains (graph : Graph) (id : NodeId) : Bool := graph.nodes.contains id

def size (graph : Graph) : Nat := graph.nodes.size

def require (graph : Graph) (id : NodeId) : Except GraphError Node :=
  match graph.node? id with
  | some node => .ok node
  | none => .error (.unknownNode id)

/-- Adds a node under its own identifier, which has to be free. -/
def addNode (graph : Graph) (node : Node) : Except GraphError Graph :=
  if graph.contains node.id then .error (.duplicateNode node.id)
  else .ok { graph with nodes := graph.nodes.insert node.id node }

/-- Makes a node of a registered type and adds it. -/
def createNode (graph : Graph) (registry : Registry) (id : NodeId) (identifier : String)
    (overrides : Boxes) : Except GraphError Graph := do
  let type ← registry.require identifier
  let node ← Node.create id identifier type overrides
  graph.addNode node

/-- Removes a node with all connections that touch it. -/
def removeNode (graph : Graph) (id : NodeId) : Graph :=
  if graph.contains id then
    ⟨graph.nodes.erase id, graph.connections.filter fun connection ↦ !connection.touches id⟩
  else graph

/-- The connection that could be made between two connectors, if it is a valid one. -/
def probe (graph : Graph) (source : NodeId) (sourceName : String) (target : NodeId)
    (targetName : String) (expected : Kind) : Option Connection := do
  let sourceNode ← graph.node? source
  let targetNode ← graph.node? target
  (Connection.create sourceNode sourceName targetNode targetName expected).toOption

/-- Checks that a connection joins current connectors of the graph. -/
def checkConnection (graph : Graph) (connection : Connection) : Except GraphError Unit := do
  let sourceNode ← graph.require connection.source.node
  let targetNode ← graph.require connection.target.node
  let current ← Connection.create sourceNode connection.source.name targetNode
    connection.target.name connection.kind
  if current = connection then return ()
  else .error (.typeMismatch connection.kind current.kind.name)

/-- The connection that feeds an input. -/
def connectionInto? (graph : Graph) (target : NodeId) (name : String) : Option Connection :=
  graph.connections.find? fun connection ↦ connection.feeds target name

/-- Adds a connection made before. An input takes one connection; adding the one that it has
already changes nothing. -/
def addConnection (graph : Graph) (connection : Connection) : Except GraphError Graph := do
  let _ ← graph.require connection.source.node
  let _ ← graph.require connection.target.node
  graph.checkConnection connection
  match graph.connectionInto? connection.target.node connection.target.name with
  | some existing =>
    if existing = connection then return graph
    else .error (.inputAlreadyConnected connection.target.node connection.target.name)
  | none => return { graph with connections := graph.connections ++ [connection] }

/-- Makes a connection and adds it. -/
def connect (graph : Graph) (source : NodeId) (sourceName : String) (target : NodeId)
    (targetName : String) (expected : Kind) : Except GraphError Graph := do
  let sourceNode ← graph.require source
  let targetNode ← graph.require target
  let connection ← Connection.create sourceNode sourceName targetNode targetName expected
  graph.addConnection connection

/-- Removes the connection that feeds an input. -/
def disconnect (graph : Graph) (target : NodeId) (name : String) : Graph :=
  { graph with connections := graph.connections.eraseP fun connection ↦
      connection.feeds target name }

def connectionsInto (graph : Graph) (target : NodeId) : List Connection :=
  graph.connections.filter fun connection ↦ connection.target.node = target

def connectionsFrom (graph : Graph) (source : NodeId) : List Connection :=
  graph.connections.filter fun connection ↦ connection.source.node = source

/-- The nodes that a node reads from, in ascending order. -/
def dependencies (graph : Graph) (id : NodeId) : OrderedSet NodeId :=
  .ofList ((graph.connectionsInto id).map fun connection ↦ connection.source.node)

/-- The nodes that read from a node, in ascending order. -/
def dependents (graph : Graph) (id : NodeId) : OrderedSet NodeId :=
  .ofList ((graph.connectionsFrom id).map fun connection ↦ connection.target.node)

/-- Whether a connection has lost one of its connectors to a change of a node. -/
def isStale (graph : Graph) (id : NodeId) (connection : Connection) : Bool :=
  connection.touches id && !(graph.checkConnection connection).isOk

/-- Changes a setting of a node. Connections that touch the node and no longer join current
connectors are dropped and given back. -/
def updateSetting (graph : Graph) (id : NodeId) (name : String) (value : Box) :
    Except GraphError (Graph × List Connection) := do
  let node ← graph.require id
  let changed ← node.applySetting name value
  let edited := { graph with nodes := graph.nodes.insert id changed }
  let (dropped, kept) := graph.connections.partition (edited.isStale id)
  return ({ edited with connections := kept }, dropped)

end Graph

end FlowGraph
