import FlowGraph.NodeType

/-!
The registry of node types. A type stands under the identifier it was registered with, which need
not be the one that the type itself reports; the later of two registrations under one identifier
counts. What is listed of a registry is collected from its types in whatever order they come, and
sorted afterwards.
-/

set_option autoImplicit false
set_option relaxedAutoImplicit false

namespace FlowGraph

structure Registry where
  types : OrderedMap String NodeType

namespace Registry

def empty : Registry := ⟨.empty⟩

instance : Inhabited Registry := ⟨empty⟩

/-- Registers a type under an identifier. -/
def register (registry : Registry) (identifier : String) (type : NodeType) : Registry :=
  ⟨registry.types.insert identifier type⟩

/-- Registers a type under the identifier that it reports. -/
def registerType (registry : Registry) (type : NodeType) : Registry :=
  registry.register type.metadata.identifier type

def ofTypes (types : List NodeType) : Registry := types.foldl registerType empty

def get? (registry : Registry) (identifier : String) : Option NodeType :=
  registry.types.get? identifier

def require (registry : Registry) (identifier : String) : Except GraphError NodeType :=
  match registry.get? identifier with
  | some type => .ok type
  | none => .error (.unknownNodeType identifier)

def contains (registry : Registry) (identifier : String) : Bool :=
  registry.types.contains identifier

def size (registry : Registry) : Nat := registry.types.size

def isEmpty (registry : Registry) : Bool := registry.types.isEmpty

/-- The identifiers of types listed in any order, in ascending order. -/
def collectIdentifiers (listed : List (String × NodeType)) : List String :=
  (listed.map fun entry ↦ entry.1).mergeSort fun first second ↦ first ≤ second

def identifiers (registry : Registry) : List String := collectIdentifiers registry.types.entries

/-- What types listed in any order tell about themselves, each under the identifier that it is
registered with and in the order of these. -/
def collectMetadata (listed : List (String × NodeType)) : List Metadata :=
  (listed.map fun entry ↦ { entry.2.metadata with identifier := entry.1 }).mergeSort
    fun first second ↦ first.identifier ≤ second.identifier

def metadata (registry : Registry) : List Metadata := collectMetadata registry.types.entries

/-- Puts metadata at the end of the group of its category, which it starts if there is none. -/
def pushGroup (groups : OrderedMap Category (List Metadata)) (metadata : Metadata) :
    OrderedMap Category (List Metadata) :=
  groups.insert metadata.category ((groups.get? metadata.category).getD [] ++ [metadata])

/-- The metadata in groups by category. -/
def metadataByCategory (registry : Registry) : List (Category × List Metadata) :=
  (registry.metadata.foldl pushGroup .empty).entries

/-- Registers every type of another registry. -/
def merge (registry other : Registry) : Registry := ⟨registry.types.union other.types⟩

end Registry

end FlowGraph
