import FlowGraph.Builtin.Control
import FlowGraph.Builtin.Input
import FlowGraph.Builtin.Output
import FlowGraph.Builtin.Processing
import FlowGraph.Registry

/-!
The node types that come with the library, given an engine for regular expressions.
-/

set_option autoImplicit false
set_option relaxedAutoImplicit false

namespace FlowGraph.Builtin

def types (engine : Regex.Engine) : List NodeType :=
  [booleanInput, conditional, delay, jsonFilter, merge, regexMatch engine, textInput, textOutput]

def registry (engine : Regex.Engine) : Registry := .ofTypes (types engine)

end FlowGraph.Builtin
