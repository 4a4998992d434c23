import FlowGraph.Kind
import FlowGraph.NodeId

/-!
What can go wrong while a graph is built, stored or evaluated. Each cause is a constructor and
`message` is the only place where a wording stands.
-/

set_option autoImplicit false
set_option relaxedAutoImplicit false

namespace FlowGraph

inductive GraphError where
  /-- A value of another kind, or of no kind, than the expected one. -/
  | typeMismatch (expected : Kind) (found : String)
  | connectorNotFound (node : NodeId) (name : String)
  | cyclicGraph (node : NodeId)
  /-- The node failed while it was computed. -/
  | nodeFailure (node : NodeId) (cause : GraphError)
  | missingInput (name : String)
  | missingOutput (node : NodeId) (name : String)
  | unknownNodeType (identifier : String)
  | unknownNode (node : NodeId)
  | unknownSetting (name : String)
  | duplicateNode (node : NodeId)
  | duplicateConnector (node : NodeId) (name : String)
  | inputAlreadyConnected (node : NodeId) (name : String)
  | invalidPattern (reason : String)
  | executionFailed (reason : String)
  | unknownAlias (name : String)
  | duplicateAlias (name : String)
  | registryAlreadyInstalled
  | unreadable (reason : String)
deriving DecidableEq, Inhabited

namespace GraphError

/-- The mismatch of a payload with an expected kind. -/
def payloadMismatch (expected : Kind) (payload : Json) : GraphError :=
  .typeMismatch expected payload.shape

def message : GraphError → String
  | .typeMismatch expected found =>
    "Type mismatch: expected " ++ expected.name ++ ", found " ++ found
  | .connectorNotFound node name => "Connector '" ++ name ++ "' not found on node " ++ node.text
  | .cyclicGraph node => "Graph contains a cycle through node " ++ node.text
  | .nodeFailure node cause => "Node " ++ node.text ++ " failed: " ++ cause.message
  | .missingInput name => "Missing required input: " ++ name
  | .missingOutput node name => "Node " ++ node.text ++ " did not produce output '" ++ name ++ "'"
  | .unknownNodeType identifier => "Unknown node type: " ++ identifier
  | .unknownNode node => "Unknown node: " ++ node.text
  | .unknownSetting name => "Unknown setting: " ++ name
  | .duplicateNode node => "Duplicate node: " ++ node.text
  | .duplicateConnector node name => "Duplicate connector '" ++ name ++ "' on node " ++ node.text
  | .inputAlreadyConnected node name =>
    "Input '" ++ name ++ "' on node " ++ node.text ++ " is already connected"
  | .invalidPattern reason => "Invalid regex: " ++ reason
  | .executionFailed reason => "Execution failed: " ++ reason
  | .unknownAlias name => "Unknown node alias: " ++ name
  | .duplicateAlias name => "Duplicate node alias: " ++ name
  | .registryAlreadyInstalled => "Node type registry already initialized"
  | .unreadable reason => "Serialization error: " ++ reason

/-- Attributes a failure to a node, unless it is attributed to some node already. -/
def attributeTo (node : NodeId) : GraphError → GraphError
  | .nodeFailure failed cause => .nodeFailure failed cause
  | cause => .nodeFailure node cause

/-- The error behind all attributions to nodes. -/
def rootCause : GraphError → GraphError
  | .nodeFailure _ cause => cause.rootCause
  | error => error

/-- The error that an attribution wraps. -/
def source? : GraphError → Option GraphError
  | .nodeFailure _ cause => some cause
  | _ => none

end GraphError

/-- The kind of a name. -/
def Kind.parse (name : String) : Except GraphError Kind :=
  match Kind.ofName? name with
  | some kind => .ok kind
  | none => .error (.executionFailed ("Unknown data kind '" ++ name ++ "'"))

end FlowGraph
