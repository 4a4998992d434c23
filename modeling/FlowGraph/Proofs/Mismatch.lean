import FlowGraph.Proofs.Raise

/-!
Mismatches of kinds that boxes and nodes report. A mismatch names the expected kind and tells what
was found in its place; it is one when these differ. Boxes and nodes compare a payload with a kind,
or a kind with a kind, so they report a mismatch only where there is one.
-/

set_option autoImplicit false
set_option relaxedAutoImplicit false

namespace FlowGraph

theorem Kind.name_injective : Function.Injective Kind.name := by
  intro first second h
  have hname := Kind.ofName?_name first
  rw [h, Kind.ofName?_name] at hname
  exact (Option.some.inj hname).symm

namespace GraphError

/-- The mismatch that an error tells of, if any, is one: what was found is not the expected kind. -/
def Contrasts (error : GraphError) : Prop :=
  ∀ expected found, error = .typeMismatch expected found → found ≠ expected.name

theorem raisesOnly_of_ne {α : Type} {error : GraphError}
    (h : ∀ expected found, error ≠ .typeMismatch expected found) :
    RaisesOnly Contrasts (.error error : Except GraphError α) :=
  raisesOnly_error_iff.mpr fun expected found heq ↦ absurd heq (h expected found)

theorem contrasts_typeMismatch_iff {expected : Kind} {found : String} :
    (typeMismatch expected found).Contrasts ↔ found ≠ expected.name := by
  constructor
  · intro h
    exact h expected found rfl
  · intro h other text heq
    cases heq
    exact h

theorem contrasts_of_kind_ne {expected found : Kind} (h : found ≠ expected) :
    (typeMismatch expected found.name).Contrasts :=
  contrasts_typeMismatch_iff.mpr fun hname ↦ h (Kind.name_injective hname)

/-- A payload of the shape that a kind is named for is one of that kind. -/
theorem contrasts_payloadMismatch {kind : Kind} {payload : Json} (h : ¬kind.admits payload = true) :
    (payloadMismatch kind payload).Contrasts := by
  apply contrasts_typeMismatch_iff.mpr
  intro hname
  apply h
  cases kind <;> cases payload <;> simp [Json.shape, Kind.name] at hname <;> rfl

end GraphError

namespace Box

theorem create_eq_error_iff {kind : Kind} {payload : Json} {error : GraphError} :
    create kind payload = .error error ↔
      ¬kind.admits payload = true ∧ error = .payloadMismatch kind payload := by
  unfold create
  by_cases h : kind.admits payload = true
  · simp [h]
  · simp [h, eq_comm]

theorem raisesOnly_create (kind : Kind) (payload : Json) :
    RaisesOnly GraphError.Contrasts (create kind payload) := by
  intro error h
  obtain ⟨hadmits, rfl⟩ := create_eq_error_iff.mp h
  exact GraphError.contrasts_payloadMismatch hadmits

end Box

theorem Boxes.raisesOnly_setting (settings : Boxes) (kind : Kind) (name : String) :
    RaisesOnly GraphError.Contrasts (settings.setting kind name) := by
  unfold setting
  split
  · exact GraphError.raisesOnly_of_ne (by simp)
  · next box _ =>
    split
    · exact raisesOnly_ok _
    · next hvalue =>
      refine raisesOnly_error_iff.mpr (GraphError.contrasts_of_kind_ne fun hkind ↦ ?_)
      have hnone := box.isSome_get? kind
      simp [hvalue, hkind] at hnone

namespace GraphError

/-- The errors that tell why a node cannot be made or changed: a name that is not that of a setting,
a value of another kind, or two connectors of one name. -/
def RefusesNode : GraphError → Prop
  | .unknownSetting _ => True
  | .typeMismatch expected found => found ≠ expected.name
  | .duplicateConnector _ _ => True
  | _ => False

theorem RefusesNode.contrasts {error : GraphError} (h : error.RefusesNode) : error.Contrasts := by
  rintro expected found rfl
  exact h

end GraphError

namespace Connectors

theorem raisesOnly_enter {α : Type} (node : NodeId) (name : α → String) (connectors : List α)
    (entered : OrderedMap String α) :
    RaisesOnly GraphError.RefusesNode (enter node name connectors entered) := by
  induction connectors generalizing entered with
  | nil => exact raisesOnly_ok entered
  | cons first rest ih =>
    rw [enter]
    split_ifs
    · exact raisesOnly_error_iff.mpr trivial
    · exact ih _

theorem raisesOnly_derive (node : NodeId) (type : NodeType) (settings : Boxes) :
    RaisesOnly GraphError.RefusesNode (derive node type settings) := by
  refine (raisesOnly_enter node Input.name _ _).bind fun _ _ ↦ ?_
  exact (raisesOnly_enter node Output.name _ _).bind fun _ _ ↦ raisesOnly_ok _

end Connectors

namespace Node

theorem raisesOnly_checkSetting (settings : Boxes) (name : String) (value : Box) :
    RaisesOnly GraphError.RefusesNode (checkSetting settings name value) := by
  unfold checkSetting
  split
  · exact raisesOnly_error_iff.mpr trivial
  · next current _ =>
    by_cases hkind : current.kind = value.kind
    · rw [if_pos hkind]
      exact raisesOnly_ok ()
    · rw [if_neg hkind]
      exact raisesOnly_error_iff.mpr fun hname ↦ hkind (Kind.name_injective hname).symm

theorem raisesOnly_overlay (values : List (String × Box)) (settings : Boxes) :
    RaisesOnly GraphError.RefusesNode (overlay values settings) := by
  induction values generalizing settings with
  | nil => exact raisesOnly_ok settings
  | cons value rest ih =>
    exact (raisesOnly_checkSetting settings value.1 value.2).bind fun _ _ ↦ ih _

theorem refusesNode_create (id : NodeId) (typeIdentifier : String) (type : NodeType)
    (overrides : Boxes) :
    RaisesOnly GraphError.RefusesNode (create id typeIdentifier type overrides) := by
  refine (raisesOnly_overlay overrides.entries type.defaults).bind fun settings _ ↦ ?_
  exact (Connectors.raisesOnly_derive id type settings).bind fun _ _ ↦ raisesOnly_ok _

theorem raisesOnly_create (id : NodeId) (typeIdentifier : String) (type : NodeType)
    (overrides : Boxes) :
    RaisesOnly GraphError.Contrasts (create id typeIdentifier type overrides) :=
  (refusesNode_create id typeIdentifier type overrides).imp fun _ ↦ GraphError.RefusesNode.contrasts

theorem raisesOnly_applySetting (node : Node) (name : String) (value : Box) :
    RaisesOnly GraphError.Contrasts (node.applySetting name value) := by
  refine RaisesOnly.imp ?_ fun _ ↦ GraphError.RefusesNode.contrasts
  refine (raisesOnly_checkSetting node.settings name value).bind fun _ _ ↦ ?_
  exact (Connectors.raisesOnly_derive _ _ _).bind fun _ _ ↦ raisesOnly_ok _

end Node

end FlowGraph
