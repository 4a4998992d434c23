import FlowGraph.Graph.Problem

/-!
The computation of one node. Its pending outputs are awaited together: the first failure in time
ends the wait, of failures at one time the one of the least name; without a failure the wait is as
long as the longest delay. Outputs of a large number are taken up by name instead, so there the
first failure by name ends the wait. What arrives is then checked against the declared outputs.
-/

set_option autoImplicit false
set_option relaxedAutoImplicit false

namespace FlowGraph

/-- What comes of a computation, and how many milliseconds it takes. -/
structure Timed (α : Type) where
  duration : Nat
  result : Except GraphError α

namespace Pending

/-- The failures among named outputs with their delays. -/
def failures (outputs : List (String × Pending)) : List (Nat × GraphError) :=
  outputs.filterMap fun output ↦
    match output.2.outcome with
    | .ok _ => none
    | .error error => some (output.2.delay, error)

/-- Of failures the earliest, of two at one time the one listed first. -/
def earliest : List (Nat × GraphError) → Option (Nat × GraphError)
  | [] => none
  | failure :: rest =>
    match earliest rest with
    | none => some failure
    | some other => some (if other.1 < failure.1 then other else failure)

def arrived (outputs : List (String × Pending)) : List (String × Box) :=
  outputs.filterMap fun output ↦
    match output.2.outcome with
    | .ok box => some (output.1, box)
    | .error _ => none

/-- The time until the last of named outputs. -/
def longestDelay (outputs : List (String × Pending)) : Nat :=
  outputs.foldl (fun longest output ↦ max longest output.2.delay) 0

/-- The greatest number of outputs that are all watched at once. -/
def watchLimit : Nat := 30

/-- The first failure by name, which shows when it and all outputs before it have come. -/
def firstByName (elapsed : Nat) : List (String × Pending) → Option (Nat × GraphError)
  | [] => none
  | output :: rest =>
    let time := max elapsed output.2.delay
    match output.2.outcome with
    | .ok _ => firstByName time rest
    | .error error => some (time, error)

/-- The failure that ends the wait for named outputs, and when it does. -/
def failure? (outputs : List (String × Pending)) : Option (Nat × GraphError) :=
  if outputs.length ≤ watchLimit then earliest (failures outputs) else firstByName 0 outputs

/-- Awaits named outputs together. -/
def joinAll (outputs : OrderedMap String Pending) : Timed Boxes :=
  match failure? outputs.entries with
  | some (delay, error) => ⟨delay, .error error⟩
  | none => ⟨longestDelay outputs.entries, .ok (.ofList (arrived outputs.entries))⟩

end Pending

/-- Computes a type alone: pending outputs, awaited. -/
def NodeType.run (type : NodeType) (inputs settings : Boxes) : Timed Boxes :=
  match type.compute inputs settings with
  | .error error => ⟨0, .error error⟩
  | .ok outputs => Pending.joinAll outputs

namespace Node

/-- Picks the declared outputs from what a computation produced. -/
def checkOutputs (id : NodeId) (produced : Boxes) :
    List Output → Boxes → Except GraphError Boxes
  | [], checked => .ok checked
  | output :: rest, checked =>
    match produced.get? output.name with
    | none => .error (.missingOutput id output.name)
    | some box =>
      if box.kind = output.kind then checkOutputs id produced rest (checked.insert output.name box)
      else .error (.typeMismatch output.kind box.kind.name)

/-- Computes a node and attributes a failure to it. -/
def run (node : Node) (inputs : Boxes) : Timed Boxes :=
  let computed := node.type.run inputs node.settings
  { duration := computed.duration
    result := (computed.result.bind fun produced ↦
      checkOutputs node.id produced node.outputs .empty).mapError (.attributeTo node.id) }

/-- The inputs of a node, given the outputs of the nodes before it: the box that comes along the
connection into an input, else its stand-in, else nothing. -/
def assembleInputs (graph : Graph) (outputs : OrderedMap NodeId Boxes) (node : Node) : Boxes :=
  .ofList (node.inputs.filterMap fun input ↦
    let value :=
      match graph.connectionInto? node.id input.name with
      | some connection =>
        (outputs.get? connection.source.node).bind fun boxes ↦
          boxes.get? connection.source.name
      | none => Graph.standIn? node input
    value.map fun box ↦ (input.name, box))

end Node

end FlowGraph
