/-!
Numbers read from hexadecimal digits of either case.
-/

set_option autoImplicit false
set_option relaxedAutoImplicit false

namespace FlowGraph.Hexadecimal

/-- The value of one digit. -/
def digit? (c : Char) : Option Nat :=
  if '0' ≤ c ∧ c ≤ '9' then some (c.toNat - '0'.toNat)
  else if 'a' ≤ c ∧ c ≤ 'f' then some (c.toNat - 'a'.toNat + 10)
  else if 'A' ≤ c ∧ c ≤ 'F' then some (c.toNat - 'A'.toNat + 10)
  else none

/-- The number written behind a number already read. -/
def continue? (value : Nat) : List Char → Option Nat
  | [] => some value
  | c :: rest => (digit? c).bind fun digit ↦ continue? (16 * value + digit) rest

/-- The number of a list of digits, most significant first. -/
def value? (digits : List Char) : Option Nat := continue? 0 digits

end FlowGraph.Hexadecimal
