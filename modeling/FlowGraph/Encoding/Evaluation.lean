import FlowGraph.Encoding.Box
import FlowGraph.Evaluation

/-!
Configurations, states, failures and events of evaluations as documents. An event carries its
variant in the member `type`, which may stand anywhere among the others: all of an event is kept
until its variant is known, and its fields are read then. In the form of an array the variant
stands first.
-/

set_option autoImplicit false
set_option relaxedAutoImplicit false

namespace FlowGraph.Evaluation

open Json

namespace Config

def toJson (config : Config) : Json :=
  .object [("maxConcurrency",
      match config.maxConcurrency with
      | some bound => .number (.integer bound)
      | none => .null),
    ("executionId",
      match config.executionId with
      | some id => .string id
      | none => .null)]

structure Parts where
  maxConcurrency : Option (Option Nat) := none
  executionId : Option (Option String) := none

def fields : List (Json.Field Parts) :=
  [{ name := "maxConcurrency", required := false
     isRead := fun parts ↦ parts.maxConcurrency.isSome
     read := fun _ outline parts ↦ do
       return { parts with maxConcurrency := some (← readOption readCount outline) } },
   { name := "executionId", required := false
     isRead := fun parts ↦ parts.executionId.isSome
     read := fun _ outline parts ↦ do
       return { parts with executionId := some (← readOption readText outline) } }]

def read (source : Source) (outline : Outline) : Except ReadError Config := do
  let parts ← readFields fields {} source outline
  return ⟨parts.maxConcurrency.getD none, parts.executionId.getD none⟩

end Config

namespace NodeState

def all : List NodeState := [.pending, .resolving, .resolved, .failed]

def name : NodeState → String
  | .pending => "pending"
  | .resolving => "resolving"
  | .resolved => "resolved"
  | .failed => "failed"

def toJson (state : NodeState) : Json := .string state.name

def read : Source → Outline → Except ReadError NodeState :=
  readVariant (all.map fun state ↦ (state.name, state))

end NodeState

namespace Failure

def toJson (failure : Failure) : Json :=
  .object [("origin", failure.origin.toJson), ("cause", .string failure.cause)]

structure Parts where
  origin : Option NodeId := none
  cause : Option String := none

def fields : List (Json.Field Parts) :=
  [{ name := "origin", required := true
     isRead := fun parts ↦ parts.origin.isSome
     read := fun source outline parts ↦ do
       return { parts with origin := some (← NodeId.read source outline) } },
   { name := "cause", required := true
     isRead := fun parts ↦ parts.cause.isSome
     read := fun _ outline parts ↦ do
       return { parts with cause := some (← readText outline) } }]

def read (source : Source) (outline : Outline) : Except ReadError Failure := do
  match ← readFields fields {} source outline with
  | { origin := some origin, cause := some cause } => return ⟨origin, cause⟩
  | _ => .error .unfit

end Failure

namespace Event

def toJson : Event → Json
  | .evaluationStarted executionId nodeCount =>
    .object [("type", .string "evaluationStarted"), ("executionId", .string executionId),
      ("nodeCount", .number (.integer nodeCount))]
  | .nodeStarted executionId nodeId =>
    .object [("type", .string "nodeStarted"), ("executionId", .string executionId),
      ("nodeId", .string nodeId)]
  | .nodeResolved executionId nodeId outputs =>
    .object [("type", .string "nodeResolved"), ("executionId", .string executionId),
      ("nodeId", .string nodeId), ("outputs", outputs)]
  | .nodeFailed executionId nodeId error =>
    .object [("type", .string "nodeFailed"), ("executionId", .string executionId),
      ("nodeId", .string nodeId), ("error", .string error)]
  | .nodeSkipped executionId nodeId origin =>
    .object [("type", .string "nodeSkipped"), ("executionId", .string executionId),
      ("nodeId", .string nodeId), ("origin", .string origin)]
  | .evaluationCompleted executionId =>
    .object [("type", .string "evaluationCompleted"), ("executionId", .string executionId)]
  | .evaluationFailed executionId error =>
    .object [("type", .string "evaluationFailed"), ("executionId", .string executionId),
      ("error", .string error)]

inductive Variant where
  | evaluationStarted
  | nodeStarted
  | nodeResolved
  | nodeFailed
  | nodeSkipped
  | evaluationCompleted
  | evaluationFailed
deriving DecidableEq

namespace Variant

def all : List Variant :=
  [.evaluationStarted, .nodeStarted, .nodeResolved, .nodeFailed, .nodeSkipped,
    .evaluationCompleted, .evaluationFailed]

def name : Variant → String
  | .evaluationStarted => "evaluationStarted"
  | .nodeStarted => "nodeStarted"
  | .nodeResolved => "nodeResolved"
  | .nodeFailed => "nodeFailed"
  | .nodeSkipped => "nodeSkipped"
  | .evaluationCompleted => "evaluationCompleted"
  | .evaluationFailed => "evaluationFailed"

end Variant

/-- What has been read of the fields of an event, whatever its variant. -/
structure Parts where
  executionId : Option String := none
  nodeCount : Option Nat := none
  nodeId : Option String := none
  outputs : Option Json := none
  error : Option String := none
  origin : Option String := none

def executionIdField : Json.Field Parts :=
  { name := "executionId", required := true
    isRead := fun parts ↦ parts.executionId.isSome
    read := fun _ outline parts ↦ do
      return { parts with executionId := some (← readText outline) } }

def nodeCountField : Json.Field Parts :=
  { name := "nodeCount", required := true
    isRead := fun parts ↦ parts.nodeCount.isSome
    read := fun _ outline parts ↦ do
      return { parts with nodeCount := some (← readCount outline) } }

def nodeIdField : Json.Field Parts :=
  { name := "nodeId", required := true
    isRead := fun parts ↦ parts.nodeId.isSome
    read := fun _ outline parts ↦ do
      return { parts with nodeId := some (← readText outline) } }

def outputsField : Json.Field Parts :=
  { name := "outputs", required := true
    isRead := fun parts ↦ parts.outputs.isSome
    read := fun source outline parts ↦ do
      return { parts with outputs := some (← readJson source outline) } }

def errorField : Json.Field Parts :=
  { name := "error", required := true
    isRead := fun parts ↦ parts.error.isSome
    read := fun _ outline parts ↦ do
      return { parts with error := some (← readText outline) } }

def originField : Json.Field Parts :=
  { name := "origin", required := true
    isRead := fun parts ↦ parts.origin.isSome
    read := fun _ outline parts ↦ do
      return { parts with origin := some (← readText outline) } }

/-- The fields of a variant in the order of their declaration. -/
def Variant.fields : Variant → List (Json.Field Parts)
  | .evaluationStarted => [executionIdField, nodeCountField]
  | .nodeStarted => [executionIdField, nodeIdField]
  | .nodeResolved => [executionIdField, nodeIdField, outputsField]
  | .nodeFailed => [executionIdField, nodeIdField, errorField]
  | .nodeSkipped => [executionIdField, nodeIdField, originField]
  | .evaluationCompleted => [executionIdField]
  | .evaluationFailed => [executionIdField, errorField]

/-- The event of a variant and the fields read for it. -/
def ofParts? (variant : Variant) (parts : Parts) : Option Event := do
  let executionId ← parts.executionId
  match variant with
  | .evaluationStarted => return .evaluationStarted executionId (← parts.nodeCount)
  | .nodeStarted => return .nodeStarted executionId (← parts.nodeId)
  | .nodeResolved => return .nodeResolved executionId (← parts.nodeId) (← parts.outputs)
  | .nodeFailed => return .nodeFailed executionId (← parts.nodeId) (← parts.error)
  | .nodeSkipped => return .nodeSkipped executionId (← parts.nodeId) (← parts.origin)
  | .evaluationCompleted => return .evaluationCompleted executionId
  | .evaluationFailed => return .evaluationFailed executionId (← parts.error)

def readTag (outline : Outline) : Except ReadError Variant := do
  chooseVariant (Variant.all.map fun variant ↦ (variant.name, variant)) (← readText outline)

/-- The variant, once it is read, and the other members kept so far, last first. -/
structure Members where
  variant : Option Variant := none
  others : List (Token String × Outline) := []

/-- Takes up one member: the variant, which may occur once, or a member to keep. -/
def keepMember (source : Source) (members : Members) (member : Token String × Outline) :
    Except ReadError Members := do
  let key ← orFault member.1.kept
  if key = "type" then
    if members.variant.isSome then .error (.duplicateField "type")
    else return { members with variant := some (← readTag member.2) }
  else
    let _ ← readJson source member.2
    return { members with others := member :: members.others }

/-- Reads the fields of a variant from what has been kept. -/
def readKept (variant : Variant) (kept : Outline) : Except ReadError Event := do
  match ofParts? variant (← readFields variant.fields {} .document kept) with
  | some event => return event
  | none => .error .unfit

def read (source : Source) : Outline → Except ReadError Event
  | .object members ending => do
    let source ← source.enter
    let kept ← members.foldlM (keepMember source) {}
    readEnding ending
    match kept.variant with
    | none => .error (.missingField "type")
    | some variant => readKept variant (.object kept.others.reverse none)
  | .array items ending => do
    let source ← source.enter
    match items with
    | [] =>
      readEnding ending
      .error (.missingField "type")
    | tag :: rest =>
      let variant ← readTag tag
      let _ ← readJsonItems source rest
      readEnding ending
      readKept variant (.array rest none)
  | outline => .error (misfit outline)

end Event

end FlowGraph.Evaluation
