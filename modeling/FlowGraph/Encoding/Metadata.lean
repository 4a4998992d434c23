import FlowGraph.Encoding.Box
import FlowGraph.NodeType

/-!
What node types tell about themselves, as documents.
-/

set_option autoImplicit false
set_option relaxedAutoImplicit false

namespace FlowGraph

open Json

namespace Category

def toJson (category : Category) : Json := .string category.name

def read : Source → Outline → Except ReadError Category :=
  readVariant (all.map fun category ↦ (category.name, category))

end Category

namespace Metadata

def toJson (metadata : Metadata) : Json :=
  .object [("identifier", .string metadata.identifier), ("category", metadata.category.toJson),
    ("label", .string metadata.label), ("description", .string metadata.description)]

structure Parts where
  identifier : Option String := none
  category : Option Category := none
  label : Option String := none
  description : Option String := none

def fields : List (Json.Field Parts) :=
  [{ name := "identifier", required := true
     isRead := fun parts ↦ parts.identifier.isSome
     read := fun _ outline parts ↦ do
       return { parts with identifier := some (← readText outline) } },
   { name := "category", required := true
     isRead := fun parts ↦ parts.category.isSome
     read := fun source outline parts ↦ do
       return { parts with category := some (← Category.read source outline) } },
   { name := "label", required := true
     isRead := fun parts ↦ parts.label.isSome
     read := fun _ outline parts ↦ do
       return { parts with label := some (← readText outline) } },
   { name := "description", required := true
     isRead := fun parts ↦ parts.description.isSome
     read := fun _ outline parts ↦ do
       return { parts with description := some (← readText outline) } }]

def read (source : Source) (outline : Outline) : Except ReadError Metadata := do
  match ← readFields fields {} source outline with
  | { identifier := some identifier, category := some category, label := some label,
      description := some description } => return ⟨identifier, category, label, description⟩
  | _ => .error .unfit

end Metadata

end FlowGraph
