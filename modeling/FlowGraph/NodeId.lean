import FlowGraph.Hexadecimal

/-!
Node identifiers: numbers of 128 bits, ordered by value. They are written as 32 hexadecimal digits
in five groups joined by hyphens, and read in four spellings: the bare digits, the hyphenated
form, the hyphenated form in braces, and the hyphenated form after `urn:uuid:`.
-/

set_option autoImplicit false
set_option relaxedAutoImplicit false

namespace FlowGraph

structure NodeId where
  value : Nat
  value_lt : value < 1 <<< 128
deriving DecidableEq

namespace NodeId

instance : LE NodeId := ⟨fun first second ↦ first.value ≤ second.value⟩

instance : LT NodeId := ⟨fun first second ↦ first.value < second.value⟩

instance : DecidableLT NodeId := fun first second ↦ Nat.decLt first.value second.value

instance : DecidableLE NodeId := fun first second ↦ Nat.decLe first.value second.value

theorem eq_of_value_eq {first second : NodeId} (h : first.value = second.value) :
    first = second := by
  cases first; cases second; simpa using h

instance : Std.IsLinearOrder NodeId where
  le_refl node := Nat.le_refl node.value
  le_trans _ _ _ := Nat.le_trans
  le_antisymm _ _ h h' := eq_of_value_eq (Nat.le_antisymm h h')
  le_total first second := Nat.le_total first.value second.value

instance : Std.LawfulOrderLT NodeId where
  lt_iff first second := by
    change first.value < second.value ↔ first.value ≤ second.value ∧ ¬ second.value ≤ first.value
    omega

/-- The identifier of a number, taken modulo 2¹²⁸. -/
def ofNat (n : Nat) : NodeId := ⟨n % (1 <<< 128), Nat.mod_lt _ (by decide)⟩

instance : Inhabited NodeId := ⟨ofNat 0⟩

/-- The 32 hexadecimal digits, most significant first. -/
def digits (node : NodeId) : List Char :=
  let significant := Nat.toDigits 16 node.value
  List.replicate (32 - significant.length) '0' ++ significant

/-- Joins the groups of 8, 4, 4, 4 and 12 digits by hyphens. -/
def hyphenate (digits : List Char) : List Char :=
  digits.take 8 ++ '-' :: (digits.drop 8).take 4 ++ '-' :: (digits.drop 12).take 4
    ++ '-' :: (digits.drop 16).take 4 ++ '-' :: digits.drop 20

/-- The hyphenated form in lower case. -/
def text (node : NodeId) : String := String.ofList (hyphenate node.digits)

def hexText (node : NodeId) : String := String.ofList node.digits

/-- The bare form: 32 digits and nothing else. -/
def ofDigits? (chars : List Char) : Option NodeId :=
  if chars.length = 32 then (Hexadecimal.value? chars).map ofNat else none

/-- The hyphenated form: 36 characters with hyphens at four fixed places. -/
def ofHyphenated? (chars : List Char) : Option NodeId :=
  let digits := chars.take 8 ++ (chars.drop 9).take 4 ++ (chars.drop 14).take 4
    ++ (chars.drop 19).take 4 ++ chars.drop 24
  if hyphenate digits = chars then ofDigits? digits else none

/-- The hyphenated form, bare, in braces or as a name of the `uuid` name space; or bare digits. -/
def ofChars? (chars : List Char) : Option NodeId :=
  if chars.length = 32 then ofDigits? chars
  else if chars.length = 36 then ofHyphenated? chars
  else if chars.length = 38 then
    if chars.head? = some '\x7b' ∧ chars.getLast? = some '\x7d' then
      ofHyphenated? ((chars.drop 1).take 36)
    else none
  else if (chars.take 9).map Char.toLower = ['u', 'r', 'n', ':', 'u', 'u', 'i', 'd', ':'] then
    ofHyphenated? (chars.drop 9)
  else none

def parse? (text : String) : Option NodeId := ofChars? text.toList

end NodeId

end FlowGraph
