import FlowGraph.Regex.Engine
import Mathlib.Logic.Basic

/-!
What engines for regular expressions promise. An account of an engine tells which texts are
patterns, which of these it refuses to compile for their nesting or their size, and between which
positions of a text a pattern matches; and it says of a group and of the two anchors what they add to
a pattern.
A comment is the one thing that may be open where a pattern ends: it goes on to the end of its line,
and takes in what is put behind the pattern there.
-/

set_option autoImplicit false
set_option relaxedAutoImplicit false

namespace FlowGraph.Regex

/-- Texts of one group and of anchors in front of it and behind it. The pattern in the group must
not end within a comment, which would take in the bracket that closes the group. -/
inductive Branch (Valid InComment : String → Prop) : String → Prop where
  | group {pattern : String} (valid : Valid pattern) (outside : ¬ InComment pattern) :
      Branch Valid InComment ("(?:" ++ pattern ++ ")")
  | start {text : String} (branch : Branch Valid InComment text) :
      Branch Valid InComment ("^" ++ text)
  | stop {text : String} (branch : Branch Valid InComment text) :
      Branch Valid InComment (text ++ "$")

/-- An account of an engine. -/
structure Engine.Account (engine : Engine) where
  /-- Whether a text is written as patterns are. -/
  Valid : String → Prop
  /-- Whether a pattern exceeds the limits on nesting and on size. -/
  Exceeds : String → Prop
  /-- Whether a text ends within a comment. -/
  InComment : String → Prop
  /-- Whether a pattern matches what stands between two positions of a text. Positions lie between
  characters, from zero to the length of the text. -/
  Matches (pattern text : String) (first last : Nat) : Prop
  /-- Compiled are the patterns that keep the limits. -/
  compile_iff : ∀ pattern,
    (∃ regex, engine.compile pattern = .ok regex) ↔ Valid pattern ∧ ¬ Exceeds pattern
  /-- A match is looked for anywhere in the text. -/
  isMatch_iff : ∀ pattern regex, engine.compile pattern = .ok regex → ∀ text,
    engine.isMatch regex text = true ↔ ∃ first last, Matches pattern text first last
  /-- A group that captures nothing matches what the pattern in it matches. -/
  group : ∀ pattern, Valid pattern → ¬ InComment pattern → Valid ("(?:" ++ pattern ++ ")") ∧
    ∀ text first last, Matches ("(?:" ++ pattern ++ ")") text first last ↔
      Matches pattern text first last
  /-- An anchor in front is met at the start of the text. -/
  start : ∀ branch, Branch Valid InComment branch → Valid ("^" ++ branch) ∧
    ∀ text first last, Matches ("^" ++ branch) text first last ↔
      first = 0 ∧ Matches branch text first last
  /-- An anchor behind is met at the end of the text. -/
  stop : ∀ branch, Branch Valid InComment branch → Valid (branch ++ "$") ∧
    ∀ text first last, Matches (branch ++ "$") text first last ↔
      Matches branch text first last ∧ last = text.length
  /-- A comment takes in what stands behind it on its line. -/
  comment : ∀ text more, InComment text → '\n' ∉ more.toList → (Valid (text ++ more) ↔ Valid text)
  /-- What ends a pattern within a comment does so behind the opening of a group. -/
  comment_opened : ∀ pattern, Valid pattern → InComment pattern → InComment ("^(?:" ++ pattern)
  /-- A group that is opened has to be closed. -/
  unclosed : ∀ pattern, Valid pattern → ¬ Valid ("^(?:" ++ pattern)

namespace Engine.Account

variable {engine : Engine} (account : engine.Account) {pattern : String}

include account

theorem valid_of_compile_eq_ok {regex : engine.Compiled} (h : engine.compile pattern = .ok regex) :
    account.Valid pattern :=
  ((account.compile_iff pattern).mp ⟨regex, h⟩).1

/-- Behind a comment at the end of a pattern, the bracket that closes a group is not read. -/
theorem not_valid_of_inComment (valid : account.Valid pattern)
    (inComment : account.InComment pattern) : ¬ account.Valid ("^(?:" ++ pattern ++ ")$") := by
  rw [account.comment _ ")$" (account.comment_opened pattern valid inComment) (by decide)]
  exact account.unclosed pattern valid

omit account in
theorem anchor_eq (pattern : String) :
    "^(?:" ++ pattern ++ ")$" = "^" ++ ("(?:" ++ pattern ++ ")") ++ "$" := by
  have hopening : "^(?:" = "^" ++ "(?:" := by decide
  have hclosing : ")$" = ")" ++ "$" := by decide
  rw [hopening, hclosing]
  simp only [String.append_assoc]

theorem valid_anchored_iff (valid : account.Valid pattern) :
    account.Valid ("^(?:" ++ pattern ++ ")$") ↔ ¬ account.InComment pattern := by
  constructor
  · intro whole inComment
    exact account.not_valid_of_inComment valid inComment whole
  · intro outside
    rw [anchor_eq]
    exact (account.stop _ (.start (.group valid outside))).1

/-- In a group between anchors, a pattern matches nothing but a text as a whole. -/
theorem matches_anchored_iff (valid : account.Valid pattern)
    (outside : ¬ account.InComment pattern) (text : String) (first last : Nat) :
    account.Matches ("^(?:" ++ pattern ++ ")$") text first last ↔
      (first = 0 ∧ account.Matches pattern text first last) ∧ last = text.length := by
  have branch : Branch account.Valid account.InComment ("(?:" ++ pattern ++ ")") :=
    .group valid outside
  rw [anchor_eq, (account.stop _ branch.start).2, (account.start _ branch).2,
    (account.group pattern valid outside).2]

end Engine.Account

end FlowGraph.Regex
