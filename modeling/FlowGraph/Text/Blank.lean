/-!
Blank text: text of characters with the Unicode property White_Space only.
-/

set_option autoImplicit false
set_option relaxedAutoImplicit false

namespace FlowGraph.Text

/-- The characters with the property White_Space, as ranges of code points. -/
def blankRanges : List (Nat × Nat) :=
  [(0x09, 0x0D), (0x20, 0x20), (0x85, 0x85), (0xA0, 0xA0), (0x1680, 0x1680), (0x2000, 0x200A),
    (0x2028, 0x2029), (0x202F, 0x202F), (0x205F, 0x205F), (0x3000, 0x3000)]

def isBlankChar (c : Char) : Bool :=
  blankRanges.any fun range ↦ range.1 ≤ c.toNat && c.toNat ≤ range.2

def isBlank (text : String) : Bool := text.toList.all isBlankChar

end FlowGraph.Text
