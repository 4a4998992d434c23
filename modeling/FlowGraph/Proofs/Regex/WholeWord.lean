import FlowGraph.Proofs.Builtin
import FlowGraph.Proofs.Regex.Engine

/-!
Words that are matched as a whole. The node compiles a pattern alone, and then once more as text in
a group between two anchors. What comes of it is shown for every engine of which there is an account:
a pattern by itself stays one in the group, with the same matches, unless it ends within a comment,
which takes in the end of the group. `regexMatch_whole_word` says what the node answers for every
pattern and every word, and `not_regexMatch_whole_word` that it refuses a pattern with a comment at
its end.
-/

set_option autoImplicit false
set_option relaxedAutoImplicit false

namespace FlowGraph.Builtin

variable {engine : Regex.Engine} {inputs settings : Boxes} {pattern word : String}

theorem compute_regexMatch (hpattern : inputs.require .string "regex" = .ok pattern)
    (hword : inputs.require .string "word" = .ok word) :
    (regexMatch engine).compute inputs settings =
      (wholeWord engine pattern).map fun regex ↦
        .ofList [("output", .ready (.boolean (engine.isMatch regex word)))] := by
  change (inputs.require .string "regex" >>= _) = _
  rw [hpattern]
  change (inputs.require .string "word" >>= _) = _
  rw [hword]
  change (wholeWord engine pattern >>= _) = _
  cases wholeWord engine pattern <;> rfl

theorem wholeWord_of_compile_eq_error {reason : String}
    (h : engine.compile pattern = .error reason) :
    wholeWord engine pattern = .error (.invalidPattern reason) := by
  simp only [wholeWord, h]
  rfl

theorem wholeWord_eq_ok_iff {regex whole : engine.Compiled}
    (h : engine.compile pattern = .ok regex) :
    wholeWord engine pattern = .ok whole ↔
      engine.compile ("^(?:" ++ pattern ++ ")$") = .ok whole := by
  simp only [wholeWord, h]
  exact mapError_eq_ok_iff

section Account

variable (account : engine.Account) {regex whole : engine.Compiled}
include account

theorem exists_wholeWord_eq_ok_iff (h : engine.compile pattern = .ok regex) :
    (∃ whole, wholeWord engine pattern = .ok whole) ↔
      ¬ account.InComment pattern ∧ ¬ account.Exceeds ("^(?:" ++ pattern ++ ")$") := by
  simp only [wholeWord_eq_ok_iff h, account.compile_iff,
    account.valid_anchored_iff (account.valid_of_compile_eq_ok h)]

/-- The pattern between anchors is found in those words which the pattern matches as a whole. -/
theorem isMatch_wholeWord_iff (h : engine.compile pattern = .ok regex)
    (hwhole : wholeWord engine pattern = .ok whole) :
    engine.isMatch whole word = true ↔ account.Matches pattern word 0 word.length := by
  have valid := account.valid_of_compile_eq_ok h
  have outside := ((exists_wholeWord_eq_ok_iff account h).mp ⟨whole, hwhole⟩).1
  have hanchored := (wholeWord_eq_ok_iff h).mp hwhole
  rw [account.isMatch_iff _ _ hanchored]
  simp only [account.matches_anchored_iff valid outside]
  constructor
  · rintro ⟨first, last, ⟨rfl, hmatches⟩, rfl⟩
    exact hmatches
  · intro hmatches
    exact ⟨0, word.length, ⟨rfl, hmatches⟩, rfl⟩

/-- A word is tested as a whole against a pattern that is one by itself. The test fails for no other
pattern, and for no other reason than that the pattern ends within a comment, or that in its group
between anchors it exceeds the limits of the engine. -/
theorem regexMatch_whole_word (hpattern : inputs.require .string "regex" = .ok pattern)
    (hword : inputs.require .string "word" = .ok word) :
    (∀ reason, engine.compile pattern = .error reason →
        (regexMatch engine).compute inputs settings = .error (.invalidPattern reason)) ∧
      ∀ regex, engine.compile pattern = .ok regex →
        ((∃ outputs, (regexMatch engine).compute inputs settings = .ok outputs) ↔
          ¬ account.InComment pattern ∧ ¬ account.Exceeds ("^(?:" ++ pattern ++ ")$")) ∧
        (∀ outputs, (regexMatch engine).compute inputs settings = .ok outputs →
          ∃ result, outputs = .ofList [("output", .ready (.boolean result))] ∧
            (result = true ↔ account.Matches pattern word 0 word.length)) ∧
        ∀ error, (regexMatch engine).compute inputs settings = .error error →
          ∃ reason, error = .invalidPattern reason := by
  rw [compute_regexMatch hpattern hword]
  refine ⟨fun reason herror ↦ by rw [wholeWord_of_compile_eq_error herror]; rfl,
    fun regex hregex ↦ ?_⟩
  rw [← exists_wholeWord_eq_ok_iff account hregex]
  cases hwhole : wholeWord engine pattern with
  | error error =>
    refine ⟨⟨nofun, nofun⟩, nofun, fun other hother ↦ ?_⟩
    obtain rfl : error = other := Except.error.inj hother
    exact invalidPattern_of_wholeWord hwhole
  | ok whole =>
    refine ⟨⟨fun _ ↦ ⟨whole, rfl⟩, fun _ ↦ ⟨_, rfl⟩⟩, fun outputs houtputs ↦ ?_, nofun⟩
    exact ⟨engine.isMatch whole word, (Except.ok.inj houtputs).symm,
      isMatch_wholeWord_iff account hregex hwhole⟩

end Account

/-- The inputs of a test. -/
def testing (pattern word : String) : Boxes :=
  .ofList [("regex", .string pattern), ("word", .string word)]

theorem not_readMatches_choice : ¬ Regex.ReadMatches "a|" "b" 0 1 := by
  have hread : Regex.readPattern "a|" =
      .ok ⟨.either (.chars (.singleton 'a')) .empty, 1⟩ := rfl
  rw [Regex.readMatches_iff hread]
  rintro ⟨-, ⟨-, c, hc, hset⟩ | hempty⟩
  · obtain rfl := Regex.contains_singleton_iff.mp hset
    exact absurd hc (by decide)
  · exact Nat.zero_ne_one hempty

/-- The empty alternative of a pattern is found in a word, but is not all of it. -/
theorem regexMatch_whole_word_choice :
    (∃ regex, Regex.plainEngine.compile "a|" = .ok regex) ∧
      (regexMatch Regex.plainEngine).compute (testing "a|" "b") .empty =
        .ok (.ofList [("output", .ready (.boolean false))]) := by
  obtain ⟨regex, hregex⟩ : ∃ regex, Regex.plainEngine.compile "a|" = .ok regex := ⟨_, rfl⟩
  have hpattern : (testing "a|" "b").require .string "regex" = .ok "a|" := rfl
  have hword : (testing "a|" "b").require .string "word" = .ok "b" := rfl
  obtain ⟨-, hcompiled⟩ :=
    @regexMatch_whole_word _ _ .empty _ _ Regex.plainAccount hpattern hword
  obtain ⟨hsuccess, hresult, -⟩ := hcompiled regex hregex
  have outside : ¬ Regex.plainAccount.InComment "a|" := by
    intro inComment
    cases inComment ")" (by decide)
  have keeps : ¬ Regex.plainAccount.Exceeds ("^(?:" ++ "a|" ++ ")$") := by
    rintro ⟨part, hpart, hfits⟩
    cases hpart
    cases hfits
  obtain ⟨outputs, houtputs⟩ := hsuccess.mpr ⟨outside, keeps⟩
  obtain ⟨result, rfl, hmatches⟩ := hresult outputs houtputs
  have hfalse : result = false := by
    rw [← Bool.not_eq_true, hmatches]
    exact not_readMatches_choice
  rw [hfalse] at houtputs
  exact ⟨⟨regex, hregex⟩, houtputs⟩

/-- A comment at the end of a pattern takes in the anchor, so a pattern by itself is refused although
it exceeds no limit. -/
theorem not_regexMatch_whole_word :
    ¬ ∀ (engine : Regex.Engine) (account : engine.Account) (inputs settings : Boxes)
        (pattern word : String) (regex : engine.Compiled),
      inputs.require .string "regex" = .ok pattern → inputs.require .string "word" = .ok word →
        engine.compile pattern = .ok regex → ¬ account.Exceeds ("^(?:" ++ pattern ++ ")$") →
          ∃ result, (regexMatch engine).compute inputs settings =
              .ok (.ofList [("output", .ready (.boolean result))]) ∧
            (result = true ↔ account.Matches pattern word 0 word.length) := by
  intro h
  have hpattern : (testing "(?x)abc # three letters" "abc").require .string "regex" =
      .ok "(?x)abc # three letters" := rfl
  have hword : (testing "(?x)abc # three letters" "abc").require .string "word" = .ok "abc" := rfl
  have keeps : ¬ Regex.plainAccount.Exceeds ("^(?:" ++ "(?x)abc # three letters" ++ ")$") := by
    rintro ⟨part, hpart, -⟩
    cases hpart
  have hrefused : wholeWord Regex.plainEngine "(?x)abc # three letters" =
      .error (.invalidPattern "") := by
    rfl
  obtain ⟨result, hresult, -⟩ :=
    h Regex.plainEngine Regex.plainAccount _ .empty _ _ _ hpattern hword rfl keeps
  rw [compute_regexMatch hpattern hword, hrefused] at hresult
  cases hresult

end FlowGraph.Builtin
