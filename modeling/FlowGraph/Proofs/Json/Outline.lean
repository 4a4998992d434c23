import FlowGraph.Json.Outline
import FlowGraph.Proofs.Json.Document
import FlowGraph.Proofs.Json.Token

/-!
The outline of a printed document. Reading what has been printed of a document gives the outline of
that document and leaves what follows it (`readValue_chars_append`), by induction over the document
with its items and members; fuel of twice the length of the text is enough.
-/

set_option autoImplicit false
set_option relaxedAutoImplicit false

namespace FlowGraph.Json

/-! ### The texts of values -/

/-- Texts one after the other, with a comma before each of them except one that comes first. -/
def followChars : Bool → List (List Char) → List Char
  | _, [] => []
  | first, text :: rest => (if first then [] else [',']) ++ text ++ followChars false rest

theorem joinCommas_eq (texts : List (List Char)) : joinCommas texts = followChars true texts := by
  have hcons (text : List Char) (rest : List (List Char)) :
      joinCommas (text :: rest) = text ++ followChars false rest := by
    induction rest generalizing text with
    | nil => simp [joinCommas, followChars]
    | cons next more ih =>
      rw [joinCommas, ih, followChars]
      · simp
      · simp
  cases texts with
  | nil => rfl
  | cons text rest =>
    rw [hcons]
    rfl

/-- What follows a value inside an array is a comma or the closing bracket. -/
theorem closes_followChars (texts : List (List Char)) {c : Char}
    (h : c = ',' ∨ c = ']' ∨ c = '\x7d') (rest : List Char) :
    Closes (followChars false texts ++ c :: rest) := by
  cases texts with
  | nil => exact closes_cons h rest
  | cons text more => exact closes_cons (.inl rfl) _

theorem text_integer (n : Int) :
    (Number.integer n).text.toList =
      (if n < 0 then ['-'] else []) ++ Nat.toDigits 10 n.natAbs := by
  cases n with
  | ofNat n =>
    show n.repr.toList = _
    simp [Nat.repr]
  | negSucc n =>
    show ("-" ++ (n + 1).repr).toList = _
    simp [Nat.repr]

/-- A text that begins with a character which is neither blank nor a closing bracket. -/
def Opens (text : List Char) : Prop :=
  ∃ c rest, text = c :: rest ∧ Outline.isBlank c = false ∧ c ≠ ']'

theorem opens_cons {c : Char} (hblank : Outline.isBlank c = false) (hbracket : c ≠ ']')
    (rest : List Char) : Opens (c :: rest) :=
  ⟨c, rest, rfl, hblank, hbracket⟩

theorem exists_toDigits_eq_cons (n : Nat) :
    ∃ c rest, Nat.toDigits 10 n = c :: rest ∧ c.isDigit = true := by
  cases hdigits : Nat.toDigits 10 n with
  | nil => exact absurd hdigits Nat.toDigits_ne_nil
  | cons c rest =>
    refine ⟨c, rest, rfl, Nat.isDigit_of_mem_toDigits (b := 10) (n := n) (by omega) (by omega) ?_⟩
    rw [hdigits]
    exact List.mem_cons_self

theorem ne_of_isDigit {c other : Char} (h : c.isDigit = true) (hother : other.isDigit = false) :
    c ≠ other := by
  rintro rfl
  rw [h] at hother
  cases hother

theorem isBlank_of_isDigit {c : Char} (h : c.isDigit = true) : Outline.isBlank c = false := by
  have hne (other : Char) (hother : other.isDigit = false) : (c == other) = false :=
    beq_eq_false_iff_ne.mpr (ne_of_isDigit h hother)
  simp [Outline.isBlank, hne]

theorem opens_chars (document : Json) (integral : document.everywhere isIntegral = true) :
    Opens document.chars := by
  cases document with
  | null => exact opens_cons (by decide) (by decide) _
  | bool b => cases b <;> exact opens_cons (by decide) (by decide) _
  | number n =>
    cases n with
    | float x => cases integral
    | integer n =>
      rw [chars, text_integer]
      by_cases hn : n < 0
      · rw [if_pos hn]
        exact opens_cons (by decide) (by decide) _
      · obtain ⟨c, rest, hdigits, hc⟩ := exists_toDigits_eq_cons n.natAbs
        rw [if_neg hn, List.nil_append, hdigits]
        exact opens_cons (isBlank_of_isDigit hc) (ne_of_isDigit hc (by decide)) rest
  | string s => exact opens_cons (by decide) (by decide) _
  | array items => exact opens_cons (by decide) (by decide) _
  | object members => exact opens_cons (by decide) (by decide) _

namespace Outline

theorem skipBlanks_cons {c : Char} (h : isBlank c = false) (rest : List Char) :
    skipBlanks (c :: rest) = c :: rest := by
  simp [skipBlanks, h]

/-- Reading an item leaves the items after it to be read. -/
theorem readItems_of_item {fuel : Nat} (first : Bool) {item tail : List Char} (opens : Opens item)
    {outline : Outline} (hvalue : readValue fuel (item ++ tail) = (outline, some tail)) :
    readItems (fuel + 1) first ((if first then [] else [',']) ++ item ++ tail) =
      (outline :: (readItems fuel false tail).1, (readItems fuel false tail).2) := by
  obtain ⟨c, rest, rfl, hblank, hbracket⟩ := opens
  rw [List.cons_append] at hvalue
  rw [readItems]
  cases first with
  | true => simp [skipBlanks_cons hblank, hbracket, hvalue]
  | false =>
    have hcomma : isBlank ',' = false := by decide
    simp [skipBlanks_cons hcomma, hvalue]

theorem readMembers_of_member {fuel : Nat} (first : Bool) (key : String) {value tail : List Char}
    {outline : Outline} (hvalue : readValue fuel (value ++ tail) = (outline, some tail)) :
    readMembers (fuel + 1) first
        ((if first then [] else [',']) ++ (quote key ++ ':' :: value) ++ tail) =
      ((⟨.ok key, .ok ()⟩, outline) :: (readMembers fuel false tail).1,
        (readMembers fuel false tail).2) := by
  have hquote : isBlank '"' = false := by decide
  have hcolon : isBlank ':' = false := by decide
  have hcomma : isBlank ',' = false := by decide
  have hkey := readString_flatMap_append key (':' :: (value ++ tail))
  rw [readMembers]
  cases first with
  | true =>
    simp [quote, quoteChars, skipBlanks_cons hquote, hkey, skipBlanks_cons hcolon, hvalue]
  | false =>
    simp [quote, quoteChars, skipBlanks_cons hcomma, skipBlanks_cons hquote, hkey,
      skipBlanks_cons hcolon, hvalue]

theorem readValue_integer {n : Int} (hleast : Number.leastInteger ≤ n)
    (hgreatest : n ≤ Number.greatestInteger) (fuel : Nat) {rest : List Char}
    (closes : Closes rest) :
    readValue (fuel + 1) ((Number.integer n).text.toList ++ rest) =
      (.number ⟨.ok (.integer n), .ok ()⟩, some rest) := by
  have hnumber := readNumber_natAbs hleast hgreatest closes
  rw [text_integer, readValue]
  by_cases hn : n < 0
  · have hminus : isBlank '-' = false := by decide
    rw [decide_eq_true hn] at hnumber
    simp [hn, skipBlanks_cons hminus, hnumber]
  · obtain ⟨c, more, hdigits, hc⟩ := exists_toDigits_eq_cons n.natAbs
    have hne (other : Char) (hother : other.isDigit = false) : c ≠ other :=
      ne_of_isDigit hc hother
    rw [decide_eq_false hn, hdigits, List.cons_append] at hnumber
    rw [if_neg hn, List.nil_append, hdigits, List.cons_append,
      skipBlanks_cons (isBlank_of_isDigit hc)]
    simp [hne, hc, hnumber]

mutual

/-- What has been printed of a document is read as its outline, up to what follows it. -/
theorem readValue_chars_append (document : Json)
    (integral : document.everywhere isIntegral = true) (fuel : Nat)
    (hfuel : 2 * document.chars.length ≤ fuel) {rest : List Char} (closes : Closes rest) :
    readValue fuel (document.chars ++ rest) = (ofJson document, some rest) := by
  obtain ⟨fuel, rfl⟩ : ∃ previous, fuel = previous + 1 := by
    obtain ⟨c, more, hchars, -⟩ := opens_chars document integral
    rw [hchars, List.length_cons] at hfuel
    exact ⟨fuel - 1, by omega⟩
  cases document with
  | null => rfl
  | bool b => cases b <;> rfl
  | number n =>
    cases n with
    | float x => cases integral
    | integer n =>
      simp only [everywhere, isIntegral, Bool.and_eq_true, decide_eq_true_eq] at integral
      exact readValue_integer integral.1 integral.2 fuel closes
  | string s =>
    have hquote : isBlank '"' = false := by decide
    rw [chars, quote, quoteChars, readValue]
    simp [skipBlanks_cons hquote, readString_flatMap_append, ofJson]
  | array items =>
    have hbracket : isBlank '[' = false := by decide
    rw [everywhere, Bool.and_eq_true] at integral
    rw [chars, joinCommas_eq] at hfuel ⊢
    have hitems := readItems_followChars items integral.2 true fuel
      (by simp at hfuel; omega) rest
    rw [readValue]
    simp [skipBlanks_cons hbracket, hitems, ofJson]
  | object members =>
    have hbrace : isBlank '\x7b' = false := by decide
    rw [everywhere, Bool.and_eq_true] at integral
    rw [chars, joinCommas_eq] at hfuel ⊢
    have hmembers := readMembers_followChars members integral.2 true fuel
      (by simp at hfuel; omega) rest
    rw [readValue]
    simp [skipBlanks_cons hbrace, hmembers, ofJson]

theorem readItems_followChars (items : List Json)
    (integral : itemsEverywhere isIntegral items = true) (first : Bool) (fuel : Nat)
    (hfuel : 2 * (followChars first (itemChars items)).length + 3 ≤ fuel) (rest : List Char) :
    readItems fuel first (followChars first (itemChars items) ++ ']' :: rest) =
      (ofItems items, none, some rest) := by
  obtain ⟨fuel, rfl⟩ : ∃ previous, fuel = previous + 1 := ⟨fuel - 1, by omega⟩
  cases items with
  | nil => rfl
  | cons item more =>
    rw [itemsEverywhere, Bool.and_eq_true] at integral
    have opens := opens_chars item integral.1
    have hitem : 0 < item.chars.length := by
      obtain ⟨c, tail, hchars, -⟩ := opens
      rw [hchars]
      exact Nat.succ_pos _
    rw [itemChars, followChars, List.length_append, List.length_append] at hfuel
    have hvalue := readValue_chars_append item integral.1 fuel (by omega)
      (closes_followChars (itemChars more) (.inr (.inl rfl)) rest)
    rw [itemChars, followChars, List.append_assoc, readItems_of_item first opens hvalue,
      readItems_followChars more integral.2 false fuel (by omega) rest, ofItems]

theorem readMembers_followChars (members : List (String × Json))
    (integral : membersEverywhere isIntegral members = true) (first : Bool) (fuel : Nat)
    (hfuel : 2 * (followChars first (memberChars members)).length + 3 ≤ fuel) (rest : List Char) :
    readMembers fuel first (followChars first (memberChars members) ++ '\x7d' :: rest) =
      (ofMembers members, none, some rest) := by
  obtain ⟨fuel, rfl⟩ : ∃ previous, fuel = previous + 1 := ⟨fuel - 1, by omega⟩
  cases members with
  | nil => rfl
  | cons member more =>
    obtain ⟨key, value⟩ := member
    rw [membersEverywhere, Bool.and_eq_true] at integral
    rw [memberChars, followChars, List.length_append, List.length_append, List.length_append,
      List.length_cons] at hfuel
    have hvalue := readValue_chars_append value integral.1 fuel (by omega)
      (closes_followChars (memberChars more) (.inr (.inr rfl)) rest)
    rw [memberChars, followChars, List.append_assoc, readMembers_of_member first key hvalue,
      readMembers_followChars more integral.2 false fuel (by omega) rest, ofMembers]

end

/-! ### Whole documents -/

theorem ofMembers_eq_map (members : List (String × Json)) :
    ofMembers members =
      members.map fun member ↦ (⟨.ok member.1, .ok ()⟩, ofJson member.2) := by
  induction members with
  | nil => rfl
  | cons member rest ih => rw [ofMembers, ih, List.map_cons]

mutual

/-- There is no fault in a whole document. -/
theorem pass_ofJson (document : Json) : (ofJson document).pass = .ok () := by
  cases document with
  | array items => rw [ofJson, pass, passItems_ofItems]; rfl
  | object members => rw [ofJson, pass, passMembers_ofMembers]; rfl
  | _ => rfl

theorem passItems_ofItems (items : List Json) : passItems (ofItems items) = .ok () := by
  cases items with
  | nil => rfl
  | cons item rest =>
    rw [ofItems, passItems, pass_ofJson item]
    exact passItems_ofItems rest

theorem passMembers_ofMembers (members : List (String × Json)) :
    passMembers (ofMembers members) = .ok () := by
  cases members with
  | nil => rfl
  | cons member rest =>
    obtain ⟨key, value⟩ := member
    rw [ofMembers, passMembers, pass_ofJson value]
    exact passMembers_ofMembers rest

end

/-- The outline of what has been printed of a document is the outline of the document, and nothing
follows it. -/
theorem ofChars_chars (document : Json) (integral : document.everywhere isIntegral = true) :
    ofChars document.chars = (ofJson document, true) := by
  have hvalue := readValue_chars_append document integral (2 * document.chars.length + 2)
    (by omega) closes_nil
  rw [List.append_nil] at hvalue
  rw [ofChars, hvalue]
  rfl

end Outline

end FlowGraph.Json
