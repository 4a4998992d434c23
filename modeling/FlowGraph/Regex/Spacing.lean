import FlowGraph.Text.Blank

/-!
Blanks and comments between the signs of a pattern. Where they count for nothing, blanks and what
stands between a number sign and the end of its line are passed over.
-/

set_option autoImplicit false
set_option relaxedAutoImplicit false

namespace FlowGraph.Regex

open Text (isBlankChar)

/-- The text behind blanks and comments. -/
def dropSpacing (inComment : Bool) : List Char → List Char
  | [] => []
  | c :: rest =>
    if inComment then dropSpacing (c ≠ '\n') rest
    else if isBlankChar c then dropSpacing false rest
    else if c = '#' then dropSpacing true rest
    else c :: rest

def skip (spaced : Bool) (text : List Char) : List Char :=
  if spaced then dropSpacing false text else text

/-- The characters of a kind in front of a text without the spacing between them, and the text
behind them and the spacing. -/
def takeSpaced (spaced : Bool) (kind : Char → Bool) (inComment : Bool) :
    List Char → List Char × List Char
  | [] => ([], [])
  | c :: rest =>
    if inComment then takeSpaced spaced kind (c ≠ '\n') rest
    else if spaced && isBlankChar c then takeSpaced spaced kind false rest
    else if spaced && c = '#' then takeSpaced spaced kind true rest
    else if kind c then
      let (more, behind) := takeSpaced spaced kind false rest
      (c :: more, behind)
    else ([], c :: rest)

/-- The character that stands next, as far as a hyphen between members of a set asks for it: blanks
are passed over, and so is the number sign of a comment, but not the comment. -/
def peekSpaced (spaced : Bool) (text : List Char) : Option Char :=
  if spaced then
    match text.dropWhile isBlankChar with
    | '#' :: rest => (rest.dropWhile isBlankChar).head?.or text.head?
    | c :: _ => some c
    | [] => text.head?
  else text.head?

end FlowGraph.Regex
