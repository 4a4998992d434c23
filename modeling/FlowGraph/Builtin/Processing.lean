import FlowGraph.NodeType
import FlowGraph.Path
import FlowGraph.Regex.Engine

/-!
Nodes that work on values: a delay, a filter of documents, and a test of words against patterns.
-/

set_option autoImplicit false
set_option relaxedAutoImplicit false

namespace FlowGraph.Builtin

/-- The delay that a number of milliseconds asks for: whole, and within 64 bits. -/
def delayMillis (millis : Binary64) : Nat := min millis.wholePart ((1 <<< 64) - 1)

def delay : NodeType where
  metadata := ⟨"delay", .processing, "Delay", "Forwards a value after a fixed wait"⟩
  defaults := .ofList [("millis", .integer 0)]
  inputs _ _ := [{ name := "value", kind := .string }]
  outputs _ _ := [⟨"value", .string⟩]
  compute inputs settings := do
    let value ← inputs.require .string "value"
    let millis ← settings.setting .number "millis"
    return .ofList [("value", ⟨delayMillis millis, .ok (.string value)⟩)]

/-- A path that leads nowhere gives null and says that nothing was found. -/
def jsonFilter : NodeType where
  metadata :=
    ⟨"json-filter", .processing, "JSON Filter", "Extracts values from JSON using path expressions"⟩
  defaults := .ofList [("path", .string "")]
  inputs _ _ := [{ name := "json", kind := .json }]
  outputs _ _ := [⟨"value", .json⟩, ⟨"found", .boolean⟩]
  compute inputs settings := do
    let document ← inputs.require .json "json"
    let path ← settings.setting .string "path"
    let extracted := Path.extract? document path
    return .ofList
      [("value", .ready (.json (extracted.getD .null))),
        ("found", .ready (.boolean extracted.isSome))]

/-- The pattern that matches a word as a whole: the given one, which has to be a pattern by itself,
between anchors. -/
def wholeWord (engine : Regex.Engine) (pattern : String) : Except GraphError engine.Compiled := do
  let compile := fun text ↦ (engine.compile text).mapError GraphError.invalidPattern
  let _ ← compile pattern
  compile ("^(?:" ++ pattern ++ ")$")

def regexMatch (engine : Regex.Engine) : NodeType where
  metadata :=
    ⟨"regex-match", .processing, "Regex Match",
      "Checks whether a word fully matches a regular expression"⟩
  defaults := .ofList [("template", .string "\x7b\x7d")]
  inputs _ _ := [{ name := "regex", kind := .string }, { name := "word", kind := .string }]
  outputs _ _ := [⟨"output", .boolean⟩]
  compute inputs _ := do
    let pattern ← inputs.require .string "regex"
    let word ← inputs.require .string "word"
    let regex ← wholeWord engine pattern
    return .ofList [("output", .ready (.boolean (engine.isMatch regex word)))]

end FlowGraph.Builtin
