import FlowGraph.NodeType

/-!
The node that shows a text.
-/

set_option autoImplicit false
set_option relaxedAutoImplicit false

namespace FlowGraph.Builtin

def textOutput : NodeType where
  metadata := ⟨"text-output", .output, "Text Output", "Displays text output"⟩
  defaults := .empty
  inputs _ _ := [{ name := "text", kind := .string }]
  outputs _ _ := [⟨"text", .string⟩]
  compute inputs _ := do
    let text ← inputs.require .string "text"
    return .ofList [("text", .ready (.string text))]

end FlowGraph.Builtin
