import FlowGraph.Regex.Engine
import FlowGraph.Regex.Match
import FlowGraph.Regex.Pattern

/-!
An engine that reads patterns into trees and matches them by sets of positions. Which reasons it
gives, and which patterns are too large for it, it is told.
-/

set_option autoImplicit false
set_option relaxedAutoImplicit false

namespace FlowGraph.Regex

/-- Patterns are refused if they are not well-formed, or if they do not fit. -/
def engine (describe : Error → String) (fits : Part → Bool) : Engine where
  Compiled := Expression
  compile pattern :=
    match readPattern pattern with
    | .error error => .error (describe error)
    | .ok part => if fits part then .ok part.expression else .error (describe .limit)
  isMatch expression text := expression.matchesIn text.toList.toArray

/-- The engine that gives no reasons and sets a limit to nesting only. -/
def plainEngine : Engine := engine (fun _ ↦ "") fun part ↦ part.depth ≤ 250

end FlowGraph.Regex
