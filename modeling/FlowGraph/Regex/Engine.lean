/-!
Engines for regular expressions. How patterns are written, which of them are refused and what they
match is left to the engine.
-/

set_option autoImplicit false
set_option relaxedAutoImplicit false

namespace FlowGraph.Regex

/-- What is asked of an engine: to compile a pattern, or to give the reason why it cannot, and to
tell whether there is a match anywhere in a text. -/
structure Engine where
  Compiled : Type
  compile : String → Except String Compiled
  isMatch : Compiled → String → Bool

end FlowGraph.Regex
