import FlowGraph.Builtin
import FlowGraph.Proofs.InPlace
import FlowGraph.Proofs.StoredGraph.NormalForm

/-!
Overrides at the creation of a node and later changes of its settings. Both are laid over settings
that keep the names and kinds of the type's defaults, so what is refused does not depend on what has
been laid over them before, nor what comes out on the order (`overlay_eq_ok_iff_of_perm`). As long as
the type never declares one name twice the connectors are derived without fail from any settings,
and it does not matter that a change derives them each time and the creation only once.
-/

set_option autoImplicit false
set_option relaxedAutoImplicit false

namespace FlowGraph

/-- Entries with different keys give the same map in whatever order they are entered. -/
theorem OrderedMap.foldl_insert_eq_of_perm {κ ν : Type} [LT κ] [DecidableLT κ] [LE κ]
    [Std.LawfulOrderLT κ] [Std.IsLinearOrder κ] {first second : List (κ × ν)}
    (perm : first.Perm second) (hnodup : (first.map Prod.fst).Nodup) (map : OrderedMap κ ν) :
    first.foldl (fun map entry ↦ map.insert entry.1 entry.2) map =
      second.foldl (fun map entry ↦ map.insert entry.1 entry.2) map := by
  have hkeys : (first.map Prod.fst).Perm (second.map Prod.fst) := perm.map Prod.fst
  refine eq_of_get?_eq fun key ↦ Option.ext fun value ↦ ?_
  rw [get?_foldl_insert hnodup, get?_foldl_insert (hkeys.nodup_iff.mp hnodup), perm.mem_iff,
    hkeys.mem_iff]

/-- Settings that nodes of a type may have: those of the type's defaults, each of its kind. -/
def NodeType.Permits (type : NodeType) (settings : Boxes) : Prop :=
  ∀ name, (settings.get? name).map Box.kind = (type.defaults.get? name).map Box.kind

/-- A type that never declares two inputs, or two outputs, of one name. -/
def NodeType.NamesOnce (type : NodeType) : Prop :=
  ∀ node settings, type.Permits settings →
    ((type.inputs node settings).map InputSlot.name).Nodup ∧
      ((type.outputs node settings).map OutputSlot.name).Nodup

namespace Builtin

theorem mergeSlot_injective : Function.Injective mergeSlot := by
  intro first second h
  have hdigits : Nat.toDigits 10 first = Nat.toDigits 10 second := by
    have htext := congrArg String.toList h
    simpa [mergeSlot] using htext
  have hvalue (n : Nat) : Nat.ofDigitChars 10 (Nat.toDigits 10 n) 0 = n :=
    Nat.ofDigitChars_toDigits (by omega) (by omega)
  rw [← hvalue first, hdigits, hvalue]

theorem namesOnce_merge : merge.NamesOnce := by
  refine fun node settings _ ↦ ⟨?_, by simp [merge]⟩
  simp only [merge, List.map_map]
  exact List.nodup_range.map mergeSlot_injective

/-- The built-in types declare every name once. -/
theorem namesOnce_of_mem_types {engine : Regex.Engine} {type : NodeType}
    (htype : type ∈ types engine) : type.NamesOnce := by
  simp only [types, List.mem_cons, List.not_mem_nil, or_false] at htype
  intro node settings permits
  rcases htype with rfl | rfl | rfl | rfl | rfl | rfl | rfl | rfl
  · simp [booleanInput]
  · simp [conditional]
  · simp [delay]
  · simp [jsonFilter]
  · exact namesOnce_merge node settings permits
  · simp [regexMatch]
  · simp [textInput]
  · simp [textOutput]

end Builtin

namespace Connectors

/-- Connectors of different names can be entered beside others. -/
theorem exists_enter {α : Type} (node : NodeId) {name : α → String} {connectors : List α}
    {entered : OrderedMap String α} (hnodup : (connectors.map name).Nodup)
    (hnew : ∀ connector ∈ connectors, entered.get? (name connector) = none) :
    ∃ result, enter node name connectors entered = .ok result := by
  induction connectors generalizing entered with
  | nil => exact ⟨entered, rfl⟩
  | cons first rest ih =>
    rw [List.map_cons, List.nodup_cons] at hnodup
    have hfree : entered.contains (name first) = false :=
      (OrderedMap.contains_eq_false_iff entered _).mpr (hnew first List.mem_cons_self)
    rw [enter, hfree]
    refine ih hnodup.2 fun connector hmem ↦ ?_
    have hne : name connector ≠ name first := fun heq ↦
      hnodup.1 (heq ▸ List.mem_map_of_mem hmem)
    rw [OrderedMap.get?_insert_of_ne entered hne]
    exact hnew connector (List.mem_cons_of_mem first hmem)

/-- Where no name is declared twice, connectors are derived from all settings that are permitted. -/
theorem exists_derive {type : NodeType} (once : type.NamesOnce) (node : NodeId)
    {settings : Boxes} (permits : type.Permits settings) :
    ∃ connectors, derive node type settings = .ok connectors := by
  obtain ⟨honce, honce'⟩ := once node settings permits
  have hinputs : (((type.inputs node settings).map (.ofSlot node)).map Input.name).Nodup := by
    rwa [List.map_map]
  have houtputs : (((type.outputs node settings).map (.ofSlot node)).map Output.name).Nodup := by
    rwa [List.map_map]
  obtain ⟨inputs, hin⟩ := exists_enter node hinputs fun _ _ ↦ OrderedMap.get?_empty _
  obtain ⟨outputs, hout⟩ := exists_enter node houtputs fun _ _ ↦ OrderedMap.get?_empty _
  exact ⟨⟨inputs, outputs⟩, derive_eq_ok_iff.mpr ⟨hin, hout⟩⟩

end Connectors

namespace Node

variable {type : NodeType}

/-! ### Settings -/

/-- Values can be laid over settings when each of them is of a known name and its kind. -/
theorem overlay_eq_ok_iff {values : List (String × Box)} {settings result : Boxes} :
    overlay values settings = .ok result ↔
      (∀ value ∈ values, (settings.get? value.1).map Box.kind = some value.2.kind) ∧
        values.foldl (fun settings value ↦ settings.insert value.1 value.2) settings = result := by
  constructor
  · intro h
    refine ⟨?_, (eq_foldl_of_overlay h).symm⟩
    induction values generalizing settings with
    | nil => exact fun _ hmem ↦ absurd hmem List.not_mem_nil
    | cons value rest ih =>
      obtain ⟨⟨⟩, hcheck, hrest⟩ := bind_eq_ok_iff.mp h
      rw [List.forall_mem_cons]
      refine ⟨checkSetting_eq_ok_iff.mp hcheck, fun other hother ↦ ?_⟩
      rw [← kind_insert_of_checkSetting hcheck]
      exact ih hrest other hother
  · rintro ⟨hknown, rfl⟩
    exact overlay_eq_foldl hknown

/-- Values of different names can be laid over settings in any order. -/
theorem overlay_eq_ok_iff_of_perm {first second : List (String × Box)} (perm : first.Perm second)
    (hnodup : (first.map Prod.fst).Nodup) {settings result : Boxes} :
    overlay first settings = .ok result ↔ overlay second settings = .ok result := by
  simp only [overlay_eq_ok_iff, perm.mem_iff, OrderedMap.foldl_insert_eq_of_perm perm hnodup]

/-! ### Changes -/

/-- Changes of settings, one after another. -/
def applySettings (node : Node) (changes : List (String × Box)) : Except GraphError Node :=
  changes.foldlM (fun node change ↦ node.applySetting change.1 change.2) node

/-- Where no name is declared twice, a setting is changed if only its name and kind are right. -/
theorem Coherent.exists_applySetting {node : Node} (coherent : node.Coherent)
    (once : node.type.NamesOnce) {name : String} {value : Box}
    (hcheck : checkSetting node.settings name value = .ok ()) :
    ∃ changed, node.applySetting name value = .ok changed := by
  have permits : node.type.Permits (node.settings.insert name value) := fun other ↦
    (kind_insert_of_checkSetting hcheck other).trans (coherent.settings other)
  obtain ⟨connectors, hconnectors⟩ := Connectors.exists_derive once node.id permits
  exact ⟨{ node with settings := node.settings.insert name value, connectors },
    applySetting_eq_ok_iff.mpr ⟨hcheck, hconnectors, rfl⟩⟩

/-- Changes one after another lay their values over the settings of a node, and leave it with the
connectors that its type derives from the settings at the end. -/
theorem Coherent.applySettings_eq_ok_iff {node next : Node} (coherent : node.Coherent)
    (once : node.type.NamesOnce) {changes : List (String × Box)} :
    node.applySettings changes = .ok next ↔
      overlay changes node.settings = .ok next.settings ∧
        Connectors.derive node.id node.type next.settings = .ok next.connectors ∧
        next.id = node.id ∧ next.typeIdentifier = node.typeIdentifier ∧
        next.type = node.type := by
  induction changes generalizing node with
  | nil =>
    constructor
    · rintro ⟨⟩
      exact ⟨rfl, coherent.connectors, rfl, rfl, rfl⟩
    · rintro ⟨hsettings, hderived, hid, hidentifier, htype⟩
      have hconnectors := coherent.connectors
      cases node; cases next
      cases hsettings; cases hid; cases hidentifier; cases htype
      cases hconnectors.symm.trans hderived
      rfl
  | cons change rest ih =>
    have hrest : ∀ changed, node.applySetting change.1 change.2 = .ok changed →
        (changed.applySettings rest = .ok next ↔
          overlay rest (node.settings.insert change.1 change.2) = .ok next.settings ∧
            Connectors.derive node.id node.type next.settings = .ok next.connectors ∧
            next.id = node.id ∧ next.typeIdentifier = node.typeIdentifier ∧
            next.type = node.type) := by
      intro changed happly
      have hnext := ih (coherent.applySetting happly)
      rw [(applySetting_eq_ok_iff.mp happly).2.2] at hnext ⊢
      exact hnext once
    constructor
    · intro h
      obtain ⟨changed, happly, hnext⟩ := bind_eq_ok_iff.mp h
      obtain ⟨hsettings, hfinal⟩ := (hrest changed happly).mp hnext
      have hcheck := (applySetting_eq_ok_iff.mp happly).1
      exact ⟨bind_eq_ok_iff.mpr ⟨(), hcheck, hsettings⟩, hfinal⟩
    · rintro ⟨hsettings, hfinal⟩
      obtain ⟨⟨⟩, hcheck, hlaid⟩ := bind_eq_ok_iff.mp hsettings
      obtain ⟨changed, happly⟩ := coherent.exists_applySetting once hcheck
      exact bind_eq_ok_iff.mpr ⟨changed, happly, (hrest changed happly).mpr ⟨hlaid, hfinal⟩⟩

/-- What can be made with overrides is what a node without any can be changed to. -/
theorem create_eq_ok_iff_applySettings (once : type.NamesOnce) {id : NodeId}
    {typeIdentifier : String} {overrides : Boxes} {changes : List (String × Box)}
    (perm : changes.Perm overrides.entries) {node : Node} :
    create id typeIdentifier type overrides = .ok node ↔
      (create id typeIdentifier type .empty >>= (applySettings · changes)) = .ok node := by
  have permits : type.Permits type.defaults := fun _ ↦ rfl
  obtain ⟨connectors, hconnectors⟩ := Connectors.exists_derive once id permits
  let plain : Node := ⟨id, typeIdentifier, type, type.defaults, connectors⟩
  have hplain : create id typeIdentifier type .empty = .ok plain :=
    create_eq_ok_iff.mpr ⟨rfl, hconnectors, rfl, rfl, rfl⟩
  have happly : plain.applySettings changes = .ok node ↔ _ :=
    (coherent_of_create hplain).applySettings_eq_ok_iff once
  have hnodup : (overrides.entries.map Prod.fst).Nodup := OrderedMap.nodup_keys overrides
  rw [hplain, create_eq_ok_iff, overlay_eq_ok_iff_of_perm perm.symm hnodup]
  exact happly.symm

/-! ### Changes in place -/

/-- A change of a node that is held in place. What it has written stays when it fails. -/
abbrev InPlace (α : Type) := ExceptT GraphError (StateM Node) α

namespace InPlace

/-- Changes one setting: first the settings are written, then the connectors of either direction. -/
def applySetting (name : String) (value : Box) : InPlace Unit := do
  checkSetting (← get).settings name value
  let settings := (← get).settings.insert name value
  let connectors ← Connectors.derive (← get).id (← get).type settings
  modify fun node ↦ { node with settings }
  modify fun node ↦ { node with connectors := { node.connectors with inputs := connectors.inputs } }
  modify fun node ↦
    { node with connectors := { node.connectors with outputs := connectors.outputs } }

/-- A change is carried out as a whole or not at all. -/
theorem run_applySetting (node : Node) (name : String) (value : Box) :
    applySetting name value node =
      match node.applySetting name value with
      | .ok next => (.ok (), next)
      | .error error => (.error error, node) := by
  unfold applySetting Node.applySetting
  rw [run_get_bind, run_check_bind]
  cases checkSetting node.settings name value with
  | error error => rfl
  | ok checked =>
    dsimp only
    rw [run_get_bind, run_get_bind, run_get_bind, run_check_bind]
    cases Connectors.derive node.id node.type (node.settings.insert name value) with
    | error error => rfl
    | ok connectors => rfl

end InPlace

/-- A node made with overrides is the node made without any whose settings are then changed to them
one by one: for a type that never declares a name twice, and in whatever order the changes are made,
the one succeeds with a node exactly when the other does, so with equal settings and connectors.
Every built-in type is such a type. A change that is refused leaves the node as it was, although it
is carried out write by write. -/
theorem overrides_eq_changes (type : NodeType) (once : type.NamesOnce) (id : NodeId)
    (typeIdentifier : String) (overrides : Boxes) :
    (∀ changes : List (String × Box), changes.Perm overrides.entries → ∀ node,
      create id typeIdentifier type overrides = .ok node ↔
        (create id typeIdentifier type .empty >>= (applySettings · changes)) = .ok node) ∧
    (∀ engine, ∀ builtin ∈ Builtin.types engine, builtin.NamesOnce) ∧
    (∀ node name value error, node.applySetting name value = .error error →
      InPlace.applySetting name value node = (.error error, node)) := by
  refine ⟨fun changes perm node ↦ create_eq_ok_iff_applySettings once perm,
    fun _ _ ↦ Builtin.namesOnce_of_mem_types, fun node name value error h ↦ ?_⟩
  rw [InPlace.run_applySetting, h]

set_option maxRecDepth 20000 in
/-- A merge node of three inputs, with its inputs counted after its separator has been changed. -/
theorem overrides_eq_changes_merge :
    Builtin.merge.NamesOnce ∧
      ∃ node, create (.ofNat 1) "merge" Builtin.merge
          (.ofList [("inputs", .integer 3), ("separator", .string " ")]) = .ok node ∧
        (create (.ofNat 1) "merge" Builtin.merge .empty >>=
          (applySettings · [("separator", .string " "), ("inputs", .integer 3)])) = .ok node ∧
        node.inputs.map Input.name = ["input_0", "input_1", "input_2"] := by
  obtain ⟨node, hnode, hinputs⟩ : ∃ node, create (.ofNat 1) "merge" Builtin.merge
      (.ofList [("inputs", .integer 3), ("separator", .string " ")]) = .ok node ∧
        node.inputs.map Input.name = ["input_0", "input_1", "input_2"] := ⟨_, rfl, rfl⟩
  exact ⟨Builtin.namesOnce_merge, node, hnode,
    ((overrides_eq_changes Builtin.merge Builtin.namesOnce_merge (.ofNat 1) "merge" _).1 _
      (List.Perm.swap _ _ _) node).mp hnode, hinputs⟩

end Node

end FlowGraph
