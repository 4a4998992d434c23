import FlowGraph.Proofs.Box
import FlowGraph.Proofs.Evaluation.Computation

/-!
Computations that deliver. Outputs that all arrive are joined to boxes under their names, and boxes
of all declared names and kinds pass the check; so a node whose type delivers what it declares puts
it out (`Node.Coherent.run_of_delivers`).
-/

set_option autoImplicit false
set_option relaxedAutoImplicit false

namespace FlowGraph

namespace Pending

theorem failures_eq_nil {outputs : List (String × Pending)}
    (h : ∀ output ∈ outputs, ∃ box, output.2.outcome = .ok box) : failures outputs = [] := by
  refine List.filterMap_eq_nil_iff.mpr fun output houtput ↦ ?_
  obtain ⟨box, hbox⟩ := h output houtput
  rw [hbox]

theorem firstByName_eq_none {outputs : List (String × Pending)}
    (h : ∀ output ∈ outputs, ∃ box, output.2.outcome = .ok box) (elapsed : Nat) :
    firstByName elapsed outputs = none := by
  induction outputs generalizing elapsed with
  | nil => rfl
  | cons output rest ih =>
    obtain ⟨box, hbox⟩ := h output List.mem_cons_self
    simp only [firstByName, hbox]
    exact ih (fun other hother ↦ h other (List.mem_cons_of_mem output hother)) _

theorem failure?_eq_none {outputs : List (String × Pending)}
    (h : ∀ output ∈ outputs, ∃ box, output.2.outcome = .ok box) : failure? outputs = none := by
  unfold failure?
  split_ifs
  · rw [failures_eq_nil h]
    rfl
  · exact firstByName_eq_none h 0

theorem joinAll_eq_ok {outputs : OrderedMap String Pending}
    (h : ∀ output ∈ outputs.entries, ∃ box, output.2.outcome = .ok box) :
    (joinAll outputs).result = .ok (.ofList (arrived outputs.entries)) := by
  rw [joinAll, failure?_eq_none h]

/-- What has arrived stands under the name of its output. -/
theorem get?_arrived (outputs : OrderedMap String Pending) (name : String) (box : Box) :
    (OrderedMap.ofList (arrived outputs.entries)).get? name = some box ↔
      ∃ pending, outputs.get? name = some pending ∧ pending.outcome = .ok box := by
  have harrived : arrived outputs.entries = outputs.entries.filterMap fun output ↦
      output.2.outcome.toOption.map fun box ↦ (output.1, box) := by
    refine List.filterMap_congr fun output _ ↦ ?_
    cases output.2.outcome <;> rfl
  have hnames : ((arrived outputs.entries).map Prod.fst).Nodup := by
    rw [harrived]
    exact (Node.map_fst_filterMap_sublist Prod.fst _ outputs.entries).nodup
      (OrderedMap.nodup_keys outputs)
  rw [OrderedMap.get?_ofList_eq_some_iff hnames, arrived, List.mem_filterMap]
  simp only [OrderedMap.get?_eq_some_iff]
  constructor
  · rintro ⟨⟨other, pending⟩, hmem, h⟩
    cases houtcome : pending.outcome with
    | error error => simp [houtcome] at h
    | ok found =>
      simp only [houtcome, Option.some.injEq, Prod.mk.injEq] at h
      obtain ⟨rfl, rfl⟩ := h
      exact ⟨pending, hmem, houtcome⟩
  · rintro ⟨pending, hmem, houtcome⟩
    exact ⟨(name, pending), hmem, by rw [houtcome]⟩

end Pending

namespace NodeType

variable {type : NodeType} {id : NodeId} {inputs settings : Boxes}

/-- What a computation is promised: a setting of every default's name and kind, and a box of every
declared input's kind. -/
structure IsServed (type : NodeType) (id : NodeId) (inputs settings : Boxes) : Prop where
  kept : ∀ name, (settings.get? name).map Box.kind = (type.defaults.get? name).map Box.kind
  supplied : ∀ slot ∈ type.inputs id settings,
    (inputs.get? slot.name).map Box.kind = some slot.kind

theorem IsServed.exists_value? (served : type.IsServed id inputs settings) (kind : Kind)
    (name : String) {settable : Bool} (h : ⟨name, kind, settable⟩ ∈ type.inputs id settings) :
    ∃ value, inputs.value? kind name = some value :=
  Boxes.exists_value?_eq_some_iff.mpr (served.supplied ⟨name, kind, settable⟩ h)

theorem IsServed.exists_setting (served : type.IsServed id inputs settings) (kind : Kind)
    (name : String) (h : (type.defaults.get? name).map Box.kind = some kind) :
    ∃ value, settings.value? kind name = some value := by
  refine Boxes.exists_value?_eq_some_iff.mpr ?_
  rw [served.kept, h]

/-- A computation that ends with a box of every declared output's kind. -/
def Delivers (type : NodeType) (id : NodeId) (inputs settings : Boxes) : Prop :=
  ∃ produced, (type.run inputs settings).result = .ok produced ∧
    ∀ slot ∈ type.outputs id settings, (produced.get? slot.name).map Box.kind = some slot.kind

/-- A computation delivers when all its outputs arrive and the declared ones are among them. -/
theorem delivers_of_compute {entries : List (String × Pending)}
    (hcompute : type.compute inputs settings = .ok (.ofList entries))
    (hnames : (entries.map Prod.fst).Nodup)
    (harrive : ∀ entry ∈ entries, ∃ box, entry.2.outcome = .ok box)
    (hdeclared : ∀ slot ∈ type.outputs id settings, ∃ pending box,
      (slot.name, pending) ∈ entries ∧ pending.outcome = .ok box ∧ box.kind = slot.kind) :
    type.Delivers id inputs settings := by
  have hget := OrderedMap.get?_ofList_eq_some_iff hnames
  have hall : ∀ output ∈ (OrderedMap.ofList entries).entries,
      ∃ box, output.2.outcome = .ok box := by
    rintro ⟨name, pending⟩ houtput
    rw [← OrderedMap.get?_eq_some_iff, hget] at houtput
    exact harrive _ houtput
  refine ⟨.ofList (Pending.arrived (OrderedMap.ofList entries).entries), ?_, fun slot hslot ↦ ?_⟩
  · rw [run, hcompute]
    exact Pending.joinAll_eq_ok hall
  · obtain ⟨pending, box, hmem, houtcome, hkind⟩ := hdeclared slot hslot
    have hbox := (Pending.get?_arrived _ slot.name box).mpr
      ⟨pending, (hget slot.name pending).mpr hmem, houtcome⟩
    rw [hbox, Option.map_some, hkind]

theorem run_eq_error {error : GraphError} (h : type.compute inputs settings = .error error) :
    (type.run inputs settings).result = .error error := by
  rw [run, h]

end NodeType

namespace Node

variable {node : Node}

/-- Boxes of all declared names and kinds pass the check. -/
theorem exists_checkOutputs_eq_ok {id : NodeId} {produced checked : Boxes}
    {declared : List Output}
    (h : ∀ output ∈ declared, (produced.get? output.name).map Box.kind = some output.kind) :
    ∃ outputs, checkOutputs id produced declared checked = .ok outputs := by
  induction declared generalizing checked with
  | nil => exact ⟨checked, rfl⟩
  | cons output rest ih =>
    obtain ⟨box, hbox, hkind⟩ := Option.map_eq_some_iff.mp (h output List.mem_cons_self)
    simp only [checkOutputs, hbox, hkind, if_true]
    exact ih fun other hother ↦ h other (List.mem_cons_of_mem output hother)

theorem Coherent.isServed (coherent : node.Coherent) {inputs : Boxes}
    (h : ∀ name input, node.input? name = some input →
      (inputs.get? name).map Box.kind = some input.kind) :
    node.type.IsServed node.id inputs node.settings where
  kept := coherent.settings
  supplied slot hslot := h slot.name (.ofSlot node.id slot)
    (coherent.input?_eq_some_iff.mpr ⟨slot, hslot, rfl, rfl⟩)

/-- A node whose type delivers what it declares resolves. -/
theorem Coherent.run_of_delivers (coherent : node.Coherent) {inputs : Boxes}
    (delivers : node.type.Delivers node.id inputs node.settings) :
    ∃ outputs, (node.run inputs).result = .ok outputs := by
  obtain ⟨produced, hrun, hdeclared⟩ := delivers
  have hchecked : ∀ output ∈ node.outputs,
      (produced.get? output.name).map Box.kind = some output.kind := by
    intro output houtput
    obtain ⟨slot, hslot, rfl, -⟩ :=
      coherent.output?_eq_some_iff.mp ((coherent.mem_outputs_iff output).mp houtput)
    exact hdeclared slot hslot
  obtain ⟨outputs, houtputs⟩ := exists_checkOutputs_eq_ok hchecked
  exact ⟨outputs, run_eq_ok_iff.mpr ⟨produced, hrun, houtputs⟩⟩

end Node

end FlowGraph
