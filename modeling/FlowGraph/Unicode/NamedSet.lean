import FlowGraph.Unicode.CharSet

/-!
Sets of characters that are found by name. Names are compared loosely: case, blanks, hyphens,
underscores and a leading `is` make no difference.
-/

set_option autoImplicit false
set_option relaxedAutoImplicit false

namespace FlowGraph.Unicode

/-- A set of characters and its names. The set is worked out when it is first asked for. -/
structure NamedSet where
  names : List String
  members : Thunk CharSet

/-- A name without what makes no difference. The name `isc` stays apart from the name `c`. -/
def looseName (name : String) : String :=
  let (stripped, rest) := match name.toList with
    | first :: second :: rest =>
      if first.toLower = 'i' && second.toLower = 's' then (true, rest)
      else (false, first :: second :: rest)
    | letters => (false, letters)
  let letters := (rest.filter fun c ↦ c.val < 0x80 && !(c = ' ' || c = '_' || c = '-')).map
    Char.toLower
  if stripped && letters = ['c'] then "isc" else .ofList letters

/-- The set that has a name. -/
def findSet? (sets : List NamedSet) (name : String) : Option CharSet :=
  let wanted := looseName name
  (sets.find? fun set ↦ set.names.any fun known ↦ looseName known = wanted).map fun set ↦
    set.members.get

end FlowGraph.Unicode
