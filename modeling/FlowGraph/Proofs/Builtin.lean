import FlowGraph.Builtin
import FlowGraph.Proofs.Evaluation.Delivery

/-!
What the built-in types promise. Served with all their inputs they deliver what they declare, with
two excuses: a pattern that cannot be compiled, and branches of a kind that has no such name
(`delivers_or_excused`).
-/

set_option autoImplicit false
set_option relaxedAutoImplicit false

namespace FlowGraph

theorem Kind.ofName?_eq_none_iff {name : String} :
    Kind.ofName? name = none ↔ ∀ kind : Kind, kind.name ≠ name := by
  simp only [Kind.ofName?, List.find?_eq_none, beq_iff_eq]
  refine forall_congr' fun kind ↦ imp_iff_right ?_
  cases kind <;> simp [Kind.all]

namespace Builtin

variable {engine : Regex.Engine} {id : NodeId} {inputs settings : Boxes}

/-- Why a computation of a built-in type may fail although it is served. -/
inductive Excuses (engine : Regex.Engine) (type : NodeType) (settings : Boxes) :
    GraphError → Prop where
  /-- A pattern cannot be compiled. -/
  | pattern (isRegexMatch : type = regexMatch engine) {pattern reason : String}
      (refused : wholeWord engine pattern = .error (.invalidPattern reason)) :
      Excuses engine type settings (.invalidPattern reason)
  /-- The branches are of no known kind. -/
  | branchKind (isConditional : type = conditional) {name : String}
      (hname : settings.value? .string "kind" = some name)
      (unknown : ∀ kind : Kind, kind.name ≠ name) :
      Excuses engine type settings (.executionFailed ("Unknown data kind '" ++ name ++ "'"))

/-! ### Types that always deliver -/

theorem inputOrSetting_eq_ok {kind : Kind} {name : String} {value : kind.Carrier}
    (h : inputs.value? kind name = some value) :
    inputOrSetting inputs settings kind name = .ok value := by
  rw [inputOrSetting, h]

theorem textInput_delivers (served : textInput.IsServed id inputs settings) :
    textInput.Delivers id inputs settings := by
  obtain ⟨text, htext⟩ := served.exists_value? .string "text" List.mem_cons_self
  have hcompute : textInput.compute inputs settings =
      .ok (.ofList [("text", .ready (.string text))]) :=
    bind_eq_ok_iff.mpr ⟨text, inputOrSetting_eq_ok htext, rfl⟩
  exact NodeType.delivers_of_compute hcompute (by simp) (by simp [Pending.ready])
    (by simp [textInput, Pending.ready, Box.string])

theorem booleanInput_delivers (served : booleanInput.IsServed id inputs settings) :
    booleanInput.Delivers id inputs settings := by
  obtain ⟨value, hvalue⟩ := served.exists_value? .boolean "value" List.mem_cons_self
  have hcompute : booleanInput.compute inputs settings =
      .ok (.ofList [("value", .ready (.boolean value))]) :=
    bind_eq_ok_iff.mpr ⟨value, inputOrSetting_eq_ok hvalue, rfl⟩
  exact NodeType.delivers_of_compute hcompute (by simp) (by simp [Pending.ready])
    (by simp [booleanInput, Pending.ready, Box.boolean])

theorem textOutput_delivers (served : textOutput.IsServed id inputs settings) :
    textOutput.Delivers id inputs settings := by
  obtain ⟨text, htext⟩ := served.exists_value? .string "text" List.mem_cons_self
  have hcompute : textOutput.compute inputs settings =
      .ok (.ofList [("text", .ready (.string text))]) :=
    bind_eq_ok_iff.mpr ⟨text, Boxes.require_eq_ok_iff.mpr htext, rfl⟩
  exact NodeType.delivers_of_compute hcompute (by simp) (by simp [Pending.ready])
    (by simp [textOutput, Pending.ready, Box.string])

theorem delay_delivers (served : delay.IsServed id inputs settings) :
    delay.Delivers id inputs settings := by
  obtain ⟨value, hvalue⟩ := served.exists_value? .string "value" List.mem_cons_self
  obtain ⟨millis, hmillis⟩ := served.exists_setting .number "millis" rfl
  have hcompute : delay.compute inputs settings =
      .ok (.ofList [("value", ⟨delayMillis millis, .ok (.string value)⟩)]) :=
    bind_eq_ok_iff.mpr ⟨value, Boxes.require_eq_ok_iff.mpr hvalue,
      bind_eq_ok_iff.mpr ⟨millis, Boxes.setting_eq_ok_iff.mpr hmillis, rfl⟩⟩
  exact NodeType.delivers_of_compute hcompute (by simp) (by simp)
    (by simp [delay, Box.string])

/-- The outputs of a filter of documents. -/
def filtered (value : Json) (found : Bool) : OrderedMap String Pending :=
  .ofList [("value", .ready (.json value)), ("found", .ready (.boolean found))]

theorem compute_jsonFilter {document : Json} {path : String}
    (hdocument : inputs.value? .json "json" = some document)
    (hpath : settings.value? .string "path" = some path) :
    jsonFilter.compute inputs settings =
      .ok (filtered ((Path.extract? document path).getD .null)
        (Path.extract? document path).isSome) :=
  bind_eq_ok_iff.mpr ⟨document, Boxes.require_eq_ok_iff.mpr hdocument,
    bind_eq_ok_iff.mpr ⟨path, Boxes.setting_eq_ok_iff.mpr hpath, rfl⟩⟩

theorem jsonFilter_delivers (served : jsonFilter.IsServed id inputs settings) :
    jsonFilter.Delivers id inputs settings := by
  obtain ⟨document, hdocument⟩ := served.exists_value? .json "json" List.mem_cons_self
  obtain ⟨path, hpath⟩ := served.exists_setting .string "path" rfl
  have hcompute := compute_jsonFilter hdocument hpath
  exact NodeType.delivers_of_compute hcompute (by simp) (by simp [Pending.ready])
    (by simp [jsonFilter, Pending.ready, Box.json, Box.boolean])

/-- The outputs of a merge of texts. -/
def merged (separator : String) (texts : List String) : OrderedMap String Pending :=
  .ofList
    [("merged", .ready (.string (separator.intercalate texts))),
      ("count", .ready (.integer texts.length))]

theorem compute_merge (inputs : Boxes) {separator : String}
    (hseparator : settings.value? .string "separator" = some separator) :
    merge.compute inputs settings = .ok (merged separator (mergeParts inputs settings)) :=
  bind_eq_ok_iff.mpr ⟨separator, Boxes.setting_eq_ok_iff.mpr hseparator, rfl⟩

theorem merge_delivers (served : merge.IsServed id inputs settings) :
    merge.Delivers id inputs settings := by
  obtain ⟨separator, hseparator⟩ := served.exists_setting .string "separator" rfl
  have hcompute := compute_merge inputs hseparator
  exact NodeType.delivers_of_compute hcompute (by simp) (by simp [Pending.ready])
    (by simp [merge, Pending.ready, Box.string, Box.integer])

/-! ### Types with an excuse -/

theorem invalidPattern_of_wholeWord {pattern : String} {error : GraphError}
    (h : wholeWord engine pattern = .error error) : ∃ reason, error = .invalidPattern reason := by
  rcases bind_eq_error_iff.mp h with hbare | ⟨-, -, hanchored⟩
  · obtain ⟨reason, -, rfl⟩ := mapError_eq_error_iff.mp hbare
    exact ⟨reason, rfl⟩
  · obtain ⟨reason, -, rfl⟩ := mapError_eq_error_iff.mp hanchored
    exact ⟨reason, rfl⟩

theorem regexMatch_delivers_or_invalidPattern
    (served : (regexMatch engine).IsServed id inputs settings) :
    (regexMatch engine).Delivers id inputs settings ∨
      ∃ pattern reason, wholeWord engine pattern = .error (.invalidPattern reason) ∧
        (regexMatch engine).compute inputs settings = .error (.invalidPattern reason) := by
  obtain ⟨pattern, hpattern⟩ := served.exists_value? .string "regex" List.mem_cons_self
  obtain ⟨word, hword⟩ := served.exists_value? .string "word"
    (List.mem_cons_of_mem _ List.mem_cons_self)
  rw [← Boxes.require_eq_ok_iff] at hpattern hword
  cases hregex : wholeWord engine pattern with
  | ok regex =>
    have hcompute : (regexMatch engine).compute inputs settings =
        .ok (.ofList [("output", .ready (.boolean (engine.isMatch regex word)))]) :=
      bind_eq_ok_iff.mpr ⟨pattern, hpattern,
        bind_eq_ok_iff.mpr ⟨word, hword, bind_eq_ok_iff.mpr ⟨regex, hregex, rfl⟩⟩⟩
    exact Or.inl (NodeType.delivers_of_compute hcompute (by simp) (by simp [Pending.ready])
      (by simp [regexMatch, Pending.ready, Box.boolean]))
  | error error =>
    obtain ⟨reason, rfl⟩ := invalidPattern_of_wholeWord hregex
    exact Or.inr ⟨pattern, reason, hregex, bind_eq_error_iff.mpr (Or.inr ⟨pattern, hpattern,
      bind_eq_error_iff.mpr (Or.inr ⟨word, hword, bind_eq_error_iff.mpr (Or.inl hregex)⟩)⟩)⟩

/-- With branches of a known kind the chosen branch is there and is put out. -/
theorem conditional_delivers {kind : Kind} (hkind : branchKind settings = .ok kind)
    (served : conditional.IsServed id inputs settings) :
    conditional.Delivers id inputs settings := by
  have hshown : shownKind settings = kind := by rw [shownKind, hkind]
  obtain ⟨condition, hcondition⟩ := served.exists_value? .boolean "condition" List.mem_cons_self
  have hbranch : (inputs.get? (if condition then "if_true" else "if_false")).map Box.kind =
      some kind := by
    rw [← hshown]
    cases condition with
    | true => exact served.supplied ⟨"if_true", shownKind settings, false⟩ (by simp [conditional])
    | false => exact served.supplied ⟨"if_false", shownKind settings, false⟩ (by simp [conditional])
  obtain ⟨box, hbox, hboxKind⟩ := Option.map_eq_some_iff.mp hbranch
  have htaken : (inputs.get? (if condition then "if_true" else "if_false")).filter
      (fun box ↦ box.kind = kind) = some box :=
    Option.filter_eq_some_iff.mpr ⟨hbox, decide_eq_true hboxKind⟩
  have hcompute : conditional.compute inputs settings = .ok (.ofList [("value", .ready box)]) := by
    refine bind_eq_ok_iff.mpr ⟨kind, hkind,
      bind_eq_ok_iff.mpr ⟨condition, Boxes.require_eq_ok_iff.mpr hcondition, ?_⟩⟩
    simp only [htaken]
    rfl
  exact NodeType.delivers_of_compute hcompute (by simp) (by simp [Pending.ready])
    (by simp [conditional, Pending.ready, hshown, hboxKind])

theorem conditional_delivers_or_unknown (served : conditional.IsServed id inputs settings) :
    conditional.Delivers id inputs settings ∨
      ∃ name, settings.value? .string "kind" = some name ∧ (∀ kind : Kind, kind.name ≠ name) ∧
        conditional.compute inputs settings =
          .error (.executionFailed ("Unknown data kind '" ++ name ++ "'")) := by
  obtain ⟨name, hname⟩ := served.exists_setting .string "kind" rfl
  have hparse : branchKind settings = Kind.parse name := by
    rw [branchKind, Boxes.setting_eq_ok_iff.mpr hname]
    rfl
  cases hkind : Kind.ofName? name with
  | some kind =>
    rw [Kind.parse, hkind] at hparse
    exact Or.inl (conditional_delivers hparse served)
  | none =>
    rw [Kind.parse, hkind] at hparse
    exact Or.inr ⟨name, hname, Kind.ofName?_eq_none_iff.mp hkind,
      bind_eq_error_iff.mpr (Or.inl hparse)⟩

/-- A built-in type that is served delivers what it declares, or has an excuse. -/
theorem delivers_or_excused {type : NodeType} (htype : type ∈ types engine)
    (served : type.IsServed id inputs settings) :
    type.Delivers id inputs settings ∨
      ∃ error, (type.run inputs settings).result = .error error ∧
        Excuses engine type settings error := by
  simp only [types, List.mem_cons, List.not_mem_nil, or_false] at htype
  rcases htype with rfl | rfl | rfl | rfl | rfl | rfl | rfl | rfl
  · exact Or.inl (booleanInput_delivers served)
  · refine (conditional_delivers_or_unknown served).imp_right ?_
    rintro ⟨name, hname, unknown, hcompute⟩
    exact ⟨_, NodeType.run_eq_error hcompute, .branchKind rfl hname unknown⟩
  · exact Or.inl (delay_delivers served)
  · exact Or.inl (jsonFilter_delivers served)
  · exact Or.inl (merge_delivers served)
  · refine (regexMatch_delivers_or_invalidPattern served).imp_right ?_
    rintro ⟨pattern, reason, refused, hcompute⟩
    exact ⟨_, NodeType.run_eq_error hcompute, .pattern rfl refused⟩
  · exact Or.inl (textInput_delivers served)
  · exact Or.inl (textOutput_delivers served)

end Builtin

end FlowGraph
