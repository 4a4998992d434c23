import FlowGraph.OrderedMap

/-!
Finite sets listed in ascending order.
-/

set_option autoImplicit false
set_option relaxedAutoImplicit false

namespace FlowGraph

/-- A finite set: a map that has nothing to say about its keys. -/
abbrev OrderedSet (κ : Type) [LT κ] := OrderedMap κ Unit

namespace OrderedSet

variable {κ : Type} [LT κ]

def toList (set : OrderedSet κ) : List κ := OrderedMap.keys set

variable [DecidableLT κ] [LE κ] [Std.IsLinearOrder κ] [Std.LawfulOrderLT κ]

def add (set : OrderedSet κ) (member : κ) : OrderedSet κ := OrderedMap.insert set member ()

def ofList (members : List κ) : OrderedSet κ := members.foldl add OrderedMap.empty

end OrderedSet

end FlowGraph
