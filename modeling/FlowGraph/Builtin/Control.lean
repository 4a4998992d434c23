import FlowGraph.NodeType
import FlowGraph.Text.Blank

/-!
Nodes that direct values: a choice between two branches, and the merging of texts. Both declare
their slots from their settings.
-/

set_option autoImplicit false
set_option relaxedAutoImplicit false

namespace FlowGraph.Builtin

/-- The kind of the branches of a conditional node, which a setting names. -/
def branchKind (settings : Boxes) : Except GraphError Kind := do
  Kind.parse (← settings.setting .string "kind")

/-- The kind that the slots of a conditional node show: that of a text if the setting names none. -/
def shownKind (settings : Boxes) : Kind :=
  match branchKind settings with
  | .ok kind => kind
  | .error _ => .string

/-- Only the branch that is taken has to be there. -/
def conditional : NodeType where
  metadata :=
    ⟨"conditional", .control, "Conditional", "Selects a value based on a boolean condition"⟩
  defaults := .ofList [("kind", .string Kind.string.name)]
  inputs _ settings :=
    [{ name := "condition", kind := .boolean },
      { name := "if_true", kind := shownKind settings },
      { name := "if_false", kind := shownKind settings }]
  outputs _ settings := [⟨"value", shownKind settings⟩]
  compute inputs settings := do
    let kind ← branchKind settings
    let condition ← inputs.require .boolean "condition"
    let branch := if condition then "if_true" else "if_false"
    match (inputs.get? branch).filter fun box ↦ box.kind = kind with
    | some box => return .ofList [("value", .ready box)]
    | none => .error (.missingInput branch)

/-- The largest number of inputs of a merge node. -/
def mergeLimit : Nat := 64

/-- The number of inputs that a setting asks for, whole and not above the limit. -/
def mergeCount (settings : Boxes) : Nat :=
  match settings.setting .number "inputs" with
  | .ok n => min n.wholePart mergeLimit
  | .error _ => 0

def mergeSlot (index : Nat) : String := "input_" ++ toString index

/-- The texts at the slots in their order, without those that are missing or blank. -/
def mergeParts (inputs settings : Boxes) : List String :=
  ((List.range (mergeCount settings)).filterMap fun index ↦
    inputs.value? .string (mergeSlot index)).filter fun text ↦ !Text.isBlank text

def merge : NodeType where
  metadata := ⟨"merge", .control, "Merge", "Combines multiple string inputs into one"⟩
  defaults := .ofList [("inputs", .integer 2), ("separator", .string "\n")]
  inputs _ settings :=
    (List.range (mergeCount settings)).map fun index ↦ { name := mergeSlot index, kind := .string }
  outputs _ _ := [⟨"merged", .string⟩, ⟨"count", .number⟩]
  compute inputs settings := do
    let separator ← settings.setting .string "separator"
    let parts := mergeParts inputs settings
    return .ofList
      [("merged", .ready (.string (separator.intercalate parts))),
        ("count", .ready (.integer parts.length))]

end FlowGraph.Builtin
