import FlowGraph.NodeType

/-!
Nodes that bring values into a graph: a text and a truth value. The connected value counts, and the
setting of the same name where nothing is connected.
-/

set_option autoImplicit false
set_option relaxedAutoImplicit false

namespace FlowGraph.Builtin

/-- The value of an input, or else of the setting of its name. -/
def inputOrSetting (inputs settings : Boxes) (kind : Kind) (name : String) :
    Except GraphError kind.Carrier :=
  match inputs.value? kind name with
  | some value => .ok value
  | none => settings.setting kind name

def textInput : NodeType where
  metadata := ⟨"text-input", .input, "Text Input", "Provides text input to the graph"⟩
  defaults := .ofList [("text", .string "")]
  inputs _ _ := [{ name := "text", kind := .string, settable := true }]
  outputs _ _ := [⟨"text", .string⟩]
  compute inputs settings := do
    let text ← inputOrSetting inputs settings .string "text"
    return .ofList [("text", .ready (.string text))]

def booleanInput : NodeType where
  metadata := ⟨"boolean-input", .input, "Boolean Input", "Provides a true/false value to the graph"⟩
  defaults := .ofList [("value", .boolean false)]
  inputs _ _ := [{ name := "value", kind := .boolean, settable := true }]
  outputs _ _ := [⟨"value", .boolean⟩]
  compute inputs settings := do
    let value ← inputOrSetting inputs settings .boolean "value"
    return .ofList [("value", .ready (.boolean value))]

end FlowGraph.Builtin
