import FlowGraph.Box
import FlowGraph.Json.Printer
import FlowGraph.Json.Reader

/-!
Boxes as documents: an object of `dataType` and `value`. A box that is read has to fit its kind, as
any other box.
-/

set_option autoImplicit false
set_option relaxedAutoImplicit false

namespace FlowGraph

open Json

namespace Kind

def toJson (kind : Kind) : Json := .string kind.name

def read : Source → Outline → Except ReadError Kind :=
  readVariant (all.map fun kind ↦ (kind.name, kind))

end Kind

namespace Box

def toJson (box : Box) : Json := .object [("dataType", box.kind.toJson), ("value", box.payload)]

/-- What has been read of a box. -/
structure Parts where
  kind : Option Kind := none
  payload : Option Json := none

def fields : List (Json.Field Parts) :=
  [{ name := "dataType", required := true
     isRead := fun parts ↦ parts.kind.isSome
     read := fun source outline parts ↦ do
       return { parts with kind := some (← Kind.read source outline) } },
   { name := "value", required := true
     isRead := fun parts ↦ parts.payload.isSome
     read := fun source outline parts ↦ do
       return { parts with payload := some (← readJson source outline) } }]

def read (source : Source) (outline : Outline) : Except ReadError Box := do
  match ← readFields fields {} source outline with
  | { kind := some kind, payload := some payload } =>
    match create kind payload with
    | .ok box => return box
    | .error error => .error (.mismatch (some error.message))
  | _ => .error .unfit

end Box

namespace Boxes

def toJson (boxes : Boxes) : Json :=
  .object (boxes.entries.map fun entry ↦ (entry.1, entry.2.toJson))

/-- Reads named boxes; of boxes with one name the last counts. -/
def read (source : Source) (outline : Outline) : Except ReadError Boxes := do
  return .ofList (← readEntries Box.read source outline)

end Boxes

namespace NodeId

def toJson (node : NodeId) : Json := .string node.text

def read (_ : Source) (outline : Outline) : Except ReadError NodeId := do
  match parse? (← readText outline) with
  | some node => return node
  | none => .error .unfit

end NodeId

end FlowGraph
