import FlowGraph.Encoding.Box
import FlowGraph.StoredGraph

/-!
Stored graphs as JSON texts. A missing list or map counts as empty.
-/

set_option autoImplicit false
set_option relaxedAutoImplicit false

namespace FlowGraph

open Json

namespace StoredNode

def toJson (node : StoredNode) : Json :=
  .object [("nodeId", node.id.toJson), ("typeIdentifier", .string node.typeIdentifier),
    ("settings", node.settings.toJson)]

structure Parts where
  id : Option NodeId := none
  typeIdentifier : Option String := none
  settings : Option Boxes := none

def fields : List (Json.Field Parts) :=
  [{ name := "nodeId", required := true
     isRead := fun parts ↦ parts.id.isSome
     read := fun source outline parts ↦ do
       return { parts with id := some (← NodeId.read source outline) } },
   { name := "typeIdentifier", required := true
     isRead := fun parts ↦ parts.typeIdentifier.isSome
     read := fun _ outline parts ↦ do
       return { parts with typeIdentifier := some (← readText outline) } },
   { name := "settings", required := false
     isRead := fun parts ↦ parts.settings.isSome
     read := fun source outline parts ↦ do
       return { parts with settings := some (← Boxes.read source outline) } }]

def read (source : Source) (outline : Outline) : Except ReadError StoredNode := do
  match ← readFields fields {} source outline with
  | { id := some id, typeIdentifier := some typeIdentifier, settings } =>
    return ⟨id, typeIdentifier, settings.getD .empty⟩
  | _ => .error .unfit

end StoredNode

namespace StoredConnection

def toJson (connection : StoredConnection) : Json :=
  .object [("fromNodeId", connection.source.toJson),
    ("fromConnectorName", .string connection.sourceName),
    ("toNodeId", connection.target.toJson),
    ("toConnectorName", .string connection.targetName)]

structure Parts where
  source : Option NodeId := none
  sourceName : Option String := none
  target : Option NodeId := none
  targetName : Option String := none

def fields : List (Json.Field Parts) :=
  [{ name := "fromNodeId", required := true
     isRead := fun parts ↦ parts.source.isSome
     read := fun source outline parts ↦ do
       return { parts with source := some (← NodeId.read source outline) } },
   { name := "fromConnectorName", required := true
     isRead := fun parts ↦ parts.sourceName.isSome
     read := fun _ outline parts ↦ do
       return { parts with sourceName := some (← readText outline) } },
   { name := "toNodeId", required := true
     isRead := fun parts ↦ parts.target.isSome
     read := fun source outline parts ↦ do
       return { parts with target := some (← NodeId.read source outline) } },
   { name := "toConnectorName", required := true
     isRead := fun parts ↦ parts.targetName.isSome
     read := fun _ outline parts ↦ do
       return { parts with targetName := some (← readText outline) } }]

def read (origin : Source) (outline : Outline) : Except ReadError StoredConnection := do
  match ← readFields fields {} origin outline with
  | { source := some source, sourceName := some sourceName, target := some target,
      targetName := some targetName } => return ⟨source, sourceName, target, targetName⟩
  | _ => .error .unfit

end StoredConnection

namespace StoredGraph

def toJson (stored : StoredGraph) : Json :=
  .object [("nodes", .array (stored.nodes.map StoredNode.toJson)),
    ("connections", .array (stored.connections.map StoredConnection.toJson))]

structure Parts where
  nodes : Option (List StoredNode) := none
  connections : Option (List StoredConnection) := none

def fields : List (Json.Field Parts) :=
  [{ name := "nodes", required := false
     isRead := fun parts ↦ parts.nodes.isSome
     read := fun source outline parts ↦ do
       return { parts with nodes := some (← readList StoredNode.read source outline) } },
   { name := "connections", required := false
     isRead := fun parts ↦ parts.connections.isSome
     read := fun source outline parts ↦ do
       return { parts with
         connections := some (← readList StoredConnection.read source outline) } }]

def read (source : Source) (outline : Outline) : Except ReadError StoredGraph := do
  let parts ← readFields fields {} source outline
  return ⟨parts.nodes.getD [], parts.connections.getD []⟩

/-- The text of a stored graph. -/
def print (stored : StoredGraph) : String := stored.toJson.print

/-- Reads the text of a stored graph. -/
def parse (text : String) : Except ReadError StoredGraph := readWhole read text

end StoredGraph

end FlowGraph
