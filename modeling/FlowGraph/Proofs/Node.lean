import FlowGraph.Node
import FlowGraph.Proofs.OrderedMap
import Mathlib.Tactic.SplitIfs

/-!
The nodes that can be made. A node is created from a type and changed by one setting at a time;
whichever way it came about, it is coherent: its settings have the names and kinds of the type's
defaults, and its connectors are those that its type derives from them. Connectors stand under
their own names and carry the identifier of their node.
-/

set_option autoImplicit false
set_option relaxedAutoImplicit false

namespace FlowGraph

theorem bind_eq_ok_iff {ε α β : Type} {first : Except ε α} {next : α → Except ε β} {b : β} :
    first >>= next = .ok b ↔ ∃ a, first = .ok a ∧ next a = .ok b := by
  cases first with
  | error error =>
    constructor
    · intro h
      cases h
    · rintro ⟨a, h, -⟩
      cases h
  | ok a =>
    constructor
    · intro h
      exact ⟨a, rfl, h⟩
    · rintro ⟨a', h, hnext⟩
      cases h
      exact hnext

theorem bind_eq_error_iff {ε α β : Type} {first : Except ε α} {next : α → Except ε β} {error : ε} :
    first >>= next = .error error ↔
      first = .error error ∨ ∃ a, first = .ok a ∧ next a = .error error := by
  cases first with
  | error other =>
    constructor
    · intro h
      exact Or.inl (congrArg Except.error (Except.error.inj h))
    · rintro (h | ⟨a, h, -⟩)
      · exact congrArg Except.error (Except.error.inj h)
      · cases h
  | ok a =>
    constructor
    · intro h
      exact Or.inr ⟨a, rfl, h⟩
    · rintro (h | ⟨a', h, hnext⟩)
      · cases h
      · cases h
        exact hnext

/-- What every step extends by its item, steps in a row extend by their items. -/
theorem foldlM_extends {ε σ α : Type} (holds : List α → σ → Prop) {step : σ → α → Except ε σ}
    (hstep : ∀ done state item next, holds done state → step state item = .ok next →
      holds (done ++ [item]) next)
    (done items : List α) {state result : σ} (hstate : holds done state)
    (h : items.foldlM step state = .ok result) : holds (done ++ items) result := by
  induction items generalizing done state with
  | nil =>
    cases h
    rwa [List.append_nil]
  | cons item rest ih =>
    rw [List.foldlM_cons, bind_eq_ok_iff] at h
    obtain ⟨middle, hmiddle, hrest⟩ := h
    rw [List.append_cons]
    exact ih (done ++ [item]) (hstep done state item middle hstate hmiddle) hrest

/-- What every step keeps, steps in a row keep. -/
theorem foldlM_keeps {ε σ α : Type} (keeps : σ → Prop) {step : σ → α → Except ε σ}
    (hstep : ∀ state item next, keeps state → step state item = .ok next → keeps next)
    (items : List α) {state result : σ} (hstate : keeps state)
    (h : items.foldlM step state = .ok result) : keeps result :=
  foldlM_extends (fun _ ↦ keeps) (fun _ ↦ hstep) [] items hstate h

/-- Where each step is fit for its item, and no step makes another unfit, none of them gives up. -/
theorem foldlM_eq_some_foldl {σ α : Type} (fit : σ → α → Prop) {checked : σ → α → Option σ}
    {step : σ → α → σ}
    (hstep : ∀ state item, fit state item → checked state item = some (step state item))
    (hkeeps : ∀ state item other, other ≠ item → fit state other → fit (step state item) other)
    {items : List α} (hnodup : items.Nodup) {state : σ} (h : ∀ item ∈ items, fit state item) :
    items.foldlM checked state = some (items.foldl step state) := by
  induction items generalizing state with
  | nil => rfl
  | cons item rest ih =>
    rw [List.nodup_cons] at hnodup
    rw [List.foldlM_cons, hstep state item (h item List.mem_cons_self)]
    refine ih hnodup.2 fun other hother ↦ ?_
    have hne : other ≠ item := by
      rintro rfl
      exact hnodup.1 hother
    exact hkeeps state item other hne (h other (List.mem_cons_of_mem item hother))

theorem mapError_eq_ok_iff {ε ε' α : Type} {result : Except ε α} {change : ε → ε'} {a : α} :
    result.mapError change = .ok a ↔ result = .ok a := by
  cases result <;> simp [Except.mapError]

theorem mapError_eq_error_iff {ε ε' α : Type} {result : Except ε α} {change : ε → ε'}
    {error : ε'} :
    result.mapError change = .error error ↔
      ∃ cause, result = .error cause ∧ change cause = error := by
  cases result <;> simp [Except.mapError]

namespace Connectors

/-- Entering succeeds only with new names, and then shows every connector under its name. -/
theorem get?_of_enter {α : Type} {node : NodeId} {name : α → String} {connectors : List α}
    {entered result : OrderedMap String α} (h : enter node name connectors entered = .ok result)
    (key : String) (connector : α) :
    result.get? key = some connector ↔
      entered.get? key = some connector ∨ connector ∈ connectors ∧ name connector = key := by
  induction connectors generalizing entered with
  | nil =>
    cases h
    simp
  | cons first rest ih =>
    rw [enter] at h
    split_ifs at h with hold
    rw [ih h, OrderedMap.get?_insert, List.mem_cons]
    have hfree : entered.get? (name first) = none := by
      simpa [OrderedMap.contains] using hold
    by_cases hkey : key = name first
    · subst hkey
      simp only [if_true, hfree, Option.some.injEq, reduceCtorEq, false_or]
      constructor
      · rintro (rfl | ⟨hmem, hname⟩)
        · exact ⟨Or.inl rfl, rfl⟩
        · exact ⟨Or.inr hmem, hname⟩
      · rintro ⟨rfl | hmem, hname⟩
        · exact Or.inl rfl
        · exact Or.inr ⟨hmem, hname⟩
    · rw [if_neg hkey]
      constructor
      · rintro (hget | ⟨hmem, hname⟩)
        · exact Or.inl hget
        · exact Or.inr ⟨Or.inr hmem, hname⟩
      · rintro (hget | ⟨rfl | hmem, hname⟩)
        · exact Or.inl hget
        · exact absurd hname.symm hkey
        · exact Or.inr ⟨hmem, hname⟩

/-- Connectors entered for slots are those of the slots. -/
theorem get?_of_enter_map {σ α : Type} {node : NodeId} {name : α → String} {slots : List σ}
    {ofSlot : σ → α} {result : OrderedMap String α}
    (h : enter node name (slots.map ofSlot) .empty = .ok result) (key : String) (connector : α) :
    result.get? key = some connector ↔
      ∃ slot ∈ slots, ofSlot slot = connector ∧ name connector = key := by
  rw [get?_of_enter h]
  simp only [OrderedMap.get?_empty, reduceCtorEq, false_or, List.mem_map]
  constructor
  · rintro ⟨⟨slot, hslot, heq⟩, hname⟩
    exact ⟨slot, hslot, heq, hname⟩
  · rintro ⟨slot, hslot, heq, hname⟩
    exact ⟨⟨slot, hslot, heq⟩, hname⟩

theorem derive_eq_ok_iff {node : NodeId} {type : NodeType} {settings : Boxes}
    {connectors : Connectors} :
    derive node type settings = .ok connectors ↔
      enter node Input.name ((type.inputs node settings).map (.ofSlot node)) .empty =
          .ok connectors.inputs ∧
        enter node Output.name ((type.outputs node settings).map (.ofSlot node)) .empty =
          .ok connectors.outputs := by
  simp only [derive, bind_eq_ok_iff]
  constructor
  · rintro ⟨inputs, hinputs, outputs, houtputs, h⟩
    cases h
    exact ⟨hinputs, houtputs⟩
  · rintro ⟨hinputs, houtputs⟩
    exact ⟨_, hinputs, _, houtputs, rfl⟩

/-- An input of derived connectors stands under its name and belongs to the node. -/
theorem inputs_named {node : NodeId} {type : NodeType} {settings : Boxes}
    {connectors : Connectors} (h : derive node type settings = .ok connectors) {name : String}
    {input : Input} (hget : connectors.inputs.get? name = some input) :
    input.name = name ∧ input.node = node := by
  rw [get?_of_enter (derive_eq_ok_iff.mp h).1] at hget
  rcases hget with hget | ⟨hmem, hname⟩
  · cases hget
  · obtain ⟨slot, -, rfl⟩ := List.mem_map.mp hmem
    exact ⟨hname, rfl⟩

theorem outputs_named {node : NodeId} {type : NodeType} {settings : Boxes}
    {connectors : Connectors} (h : derive node type settings = .ok connectors) {name : String}
    {output : Output} (hget : connectors.outputs.get? name = some output) :
    output.name = name ∧ output.node = node := by
  rw [get?_of_enter (derive_eq_ok_iff.mp h).2] at hget
  rcases hget with hget | ⟨hmem, hname⟩
  · cases hget
  · obtain ⟨slot, -, rfl⟩ := List.mem_map.mp hmem
    exact ⟨hname, rfl⟩

end Connectors

namespace Node

/-- The nodes that can be made: a new node of any type, and what its settings can be changed to. -/
inductive Made : Node → Prop where
  | created {id : NodeId} {typeIdentifier : String} {type : NodeType} {overrides : Boxes}
      {node : Node} (h : create id typeIdentifier type overrides = .ok node) : Made node
  | changed {node next : Node} {name : String} {value : Box} (made : Made node)
      (h : node.applySetting name value = .ok next) : Made next

/-- A node that is as its type says. -/
structure Coherent (node : Node) : Prop where
  settings : ∀ name,
    (node.settings.get? name).map Box.kind = (node.type.defaults.get? name).map Box.kind
  connectors : Connectors.derive node.id node.type node.settings = .ok node.connectors

theorem checkSetting_eq_ok_iff {settings : Boxes} {name : String} {value : Box} :
    checkSetting settings name value = .ok () ↔
      (settings.get? name).map Box.kind = some value.kind := by
  unfold checkSetting
  cases settings.get? name with
  | none => simp
  | some current =>
    by_cases h : current.kind = value.kind <;> simp [h]

/-- Writing a setting that passes the check keeps the names and kinds of all settings. -/
theorem kind_insert_of_checkSetting {settings : Boxes} {name : String} {value : Box}
    (h : checkSetting settings name value = .ok ()) (other : String) :
    ((settings.insert name value).get? other).map Box.kind =
      (settings.get? other).map Box.kind := by
  rw [OrderedMap.get?_insert]
  split_ifs with hother
  · rw [hother, checkSetting_eq_ok_iff.mp h, Option.map_some]
  · rfl

theorem kind_of_overlay {values : List (String × Box)} {settings result : Boxes}
    (h : overlay values settings = .ok result) (name : String) :
    (result.get? name).map Box.kind = (settings.get? name).map Box.kind := by
  induction values generalizing settings with
  | nil =>
    cases h
    rfl
  | cons value rest ih =>
    obtain ⟨⟨⟩, hcheck, hrest⟩ := bind_eq_ok_iff.mp h
    exact (ih hrest).trans (kind_insert_of_checkSetting hcheck name)

theorem create_eq_ok_iff {id : NodeId} {typeIdentifier : String} {type : NodeType}
    {overrides : Boxes} {node : Node} :
    create id typeIdentifier type overrides = .ok node ↔
      overlay overrides.entries type.defaults = .ok node.settings ∧
        Connectors.derive id type node.settings = .ok node.connectors ∧
        node.id = id ∧ node.typeIdentifier = typeIdentifier ∧ node.type = type := by
  simp only [create, bind_eq_ok_iff]
  constructor
  · rintro ⟨settings, hsettings, connectors, hconnectors, h⟩
    cases h
    exact ⟨hsettings, hconnectors, rfl, rfl, rfl⟩
  · rintro ⟨hsettings, hconnectors, rfl, rfl, rfl⟩
    exact ⟨_, hsettings, _, hconnectors, rfl⟩

theorem applySetting_eq_ok_iff {node next : Node} {name : String} {value : Box} :
    node.applySetting name value = .ok next ↔
      checkSetting node.settings name value = .ok () ∧
        Connectors.derive node.id node.type (node.settings.insert name value) =
          .ok next.connectors ∧
        next = { node with
          settings := node.settings.insert name value, connectors := next.connectors } := by
  simp only [applySetting, bind_eq_ok_iff]
  constructor
  · rintro ⟨⟨⟩, hcheck, connectors, hconnectors, h⟩
    cases h
    exact ⟨hcheck, hconnectors, rfl⟩
  · rintro ⟨hcheck, hconnectors, h⟩
    exact ⟨(), hcheck, _, hconnectors, congrArg Except.ok h.symm⟩

theorem id_of_applySetting {node next : Node} {name : String} {value : Box}
    (h : node.applySetting name value = .ok next) : next.id = node.id := by
  rw [(applySetting_eq_ok_iff.mp h).2.2]

theorem coherent_of_create {id : NodeId} {typeIdentifier : String} {type : NodeType}
    {overrides : Boxes} {node : Node} (h : create id typeIdentifier type overrides = .ok node) :
    node.Coherent := by
  obtain ⟨hsettings, hconnectors, rfl, -, rfl⟩ := create_eq_ok_iff.mp h
  exact ⟨kind_of_overlay hsettings, hconnectors⟩

theorem Coherent.applySetting {node next : Node} {name : String} {value : Box}
    (coherent : node.Coherent) (h : node.applySetting name value = .ok next) : next.Coherent := by
  obtain ⟨hcheck, hconnectors, hnext⟩ := applySetting_eq_ok_iff.mp h
  rw [hnext]
  exact ⟨fun other ↦ (kind_insert_of_checkSetting hcheck other).trans (coherent.settings other),
    hconnectors⟩

theorem Made.coherent {node : Node} (made : node.Made) : node.Coherent := by
  induction made with
  | created h => exact coherent_of_create h
  | changed _ h ih => exact ih.applySetting h

/-- An input found under a name has that name and belongs to the node. -/
theorem Coherent.input_named {node : Node} (coherent : node.Coherent) {name : String}
    {input : Input} (h : node.input? name = some input) :
    input.name = name ∧ input.node = node.id :=
  Connectors.inputs_named coherent.connectors h

theorem Coherent.output_named {node : Node} (coherent : node.Coherent) {name : String}
    {output : Output} (h : node.output? name = some output) :
    output.name = name ∧ output.node = node.id :=
  Connectors.outputs_named coherent.connectors h

/-- The inputs of a node are those of the slots that its type declares. -/
theorem Coherent.input?_eq_some_iff {node : Node} (coherent : node.Coherent) {name : String}
    {input : Input} :
    node.input? name = some input ↔
      ∃ slot ∈ node.type.inputs node.id node.settings,
        .ofSlot node.id slot = input ∧ input.name = name :=
  Connectors.get?_of_enter_map (Connectors.derive_eq_ok_iff.mp coherent.connectors).1 name input

theorem Coherent.output?_eq_some_iff {node : Node} (coherent : node.Coherent) {name : String}
    {output : Output} :
    node.output? name = some output ↔
      ∃ slot ∈ node.type.outputs node.id node.settings,
        .ofSlot node.id slot = output ∧ output.name = name :=
  Connectors.get?_of_enter_map (Connectors.derive_eq_ok_iff.mp coherent.connectors).2 name output

theorem Coherent.nodup_inputs {node : Node} (coherent : node.Coherent) :
    (node.inputs.map Input.name).Nodup := by
  have hkeys : node.inputs.map Input.name = node.connectors.inputs.keys := by
    refine OrderedMap.map_values_eq_keys fun entry hentry ↦ ?_
    have hget := (OrderedMap.get?_eq_some_iff node.connectors.inputs entry.1 entry.2).mpr hentry
    exact (coherent.input_named hget).1
  rw [hkeys]
  exact OrderedMap.nodup_keys _

theorem Coherent.nodup_outputs {node : Node} (coherent : node.Coherent) :
    (node.outputs.map Output.name).Nodup := by
  have hkeys : node.outputs.map Output.name = node.connectors.outputs.keys := by
    refine OrderedMap.map_values_eq_keys fun entry hentry ↦ ?_
    have hget := (OrderedMap.get?_eq_some_iff node.connectors.outputs entry.1 entry.2).mpr hentry
    exact (coherent.output_named hget).1
  rw [hkeys]
  exact OrderedMap.nodup_keys _

theorem Coherent.mem_inputs_iff {node : Node} (coherent : node.Coherent) (input : Input) :
    input ∈ node.inputs ↔ node.input? input.name = some input := by
  rw [inputs, OrderedMap.mem_values_iff]
  constructor
  · rintro ⟨name, h⟩
    rwa [(coherent.input_named h).1]
  · intro h
    exact ⟨_, h⟩

theorem Coherent.mem_outputs_iff {node : Node} (coherent : node.Coherent) (output : Output) :
    output ∈ node.outputs ↔ node.output? output.name = some output := by
  rw [outputs, OrderedMap.mem_values_iff]
  constructor
  · rintro ⟨name, h⟩
    rwa [(coherent.output_named h).1]
  · intro h
    exact ⟨_, h⟩

/-- Searching the outputs by name finds the output under that name. -/
theorem Coherent.find?_outputs {node : Node} (coherent : node.Coherent) (name : String) :
    (node.outputs.find? fun output ↦ output.name = name) = node.output? name := by
  cases hfind : node.outputs.find? fun output ↦ output.name = name with
  | some output =>
    have hname : output.name = name := by simpa using List.find?_some hfind
    have hget := (coherent.mem_outputs_iff output).mp (List.mem_of_find?_eq_some hfind)
    rw [← hname, hget]
  | none =>
    refine (Option.eq_none_iff_forall_ne_some.mpr fun output hget ↦ ?_).symm
    have hname := (coherent.output_named hget).1
    have hmem := (coherent.mem_outputs_iff output).mpr (hname.symm ▸ hget)
    exact List.find?_eq_none.mp hfind output hmem (by simp [hname])

end Node

end FlowGraph
