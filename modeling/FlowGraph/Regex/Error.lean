/-!
The reasons why a pattern is refused.
-/

set_option autoImplicit false
set_option relaxedAutoImplicit false

namespace FlowGraph.Regex

inductive Error where
  | groupUnclosed
  | groupUnopened
  | groupName
  | groupNameRepeated
  | lookAround
  | flags
  | nothingToRepeat
  | count
  | escape
  | bracketUnclosed
  | bracketMember
  | rangeReversed
  | propertyUnknown
  | outsideText
  | limit
deriving DecidableEq

end FlowGraph.Regex
