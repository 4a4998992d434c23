import FlowGraph.Regex.Error

/-!
Flags change what the signs of a pattern mean, from where they are switched to the end of the group.
-/

set_option autoImplicit false
set_option relaxedAutoImplicit false

namespace FlowGraph.Regex

inductive Flag where
  | ignoreCase
  | multiLine
  | dotAll
  | swapGreed
  | unicode
  | returns
  | spaced
deriving DecidableEq

namespace Flag

def ofLetter? (letter : Char) : Option Flag :=
  if letter = 'i' then some .ignoreCase
  else if letter = 'm' then some .multiLine
  else if letter = 's' then some .dotAll
  else if letter = 'U' then some .swapGreed
  else if letter = 'u' then some .unicode
  else if letter = 'R' then some .returns
  else if letter = 'x' then some .spaced
  else none

end Flag

/-- The flags that are on. Which of several matches is preferred makes no difference to whether
there is one, so the flag for it is not kept. -/
structure Flags where
  ignoreCase : Bool := false
  multiLine : Bool := false
  dotAll : Bool := false
  unicode : Bool := true
  returns : Bool := false
  spaced : Bool := false
deriving DecidableEq

namespace Flags

def set (flags : Flags) (flag : Flag) (on : Bool) : Flags :=
  match flag with
  | .ignoreCase => { flags with ignoreCase := on }
  | .multiLine => { flags with multiLine := on }
  | .dotAll => { flags with dotAll := on }
  | .swapGreed => flags
  | .unicode => { flags with unicode := on }
  | .returns => { flags with returns := on }
  | .spaced => { flags with spaced := on }

end Flags

/-- Flags to switch, each of them once. -/
abbrev Switches := List (Flag × Bool)

namespace Switches

def apply (switches : Switches) (flags : Flags) : Flags :=
  switches.foldl (fun flags switch ↦ flags.set switch.1 switch.2) flags

/-- Reads letters up to a colon or a closing bracket, which is left. Behind a minus sign flags are
switched off, and it has to have a flag behind it. -/
def read (on dangling : Bool) (switches : Switches) :
    List Char → Except Error (Switches × List Char)
  | [] => .error .flags
  | c :: rest =>
    if c = ':' ∨ c = ')' then if dangling then .error .flags else .ok (switches, c :: rest)
    else if c = '-' then if on then read false true switches rest else .error .flags
    else
      match Flag.ofLetter? c with
      | none => .error .flags
      | some flag =>
        if (switches.map Prod.fst).contains flag then .error .flags
        else read on false (switches ++ [(flag, on)]) rest

end Switches

end FlowGraph.Regex
