import FlowGraph.Evaluation.Computation
import FlowGraph.Proofs.Graph.Order

/-!
The computation of one node. Its inputs are determined by the outputs of the nodes it reads from
(`assembleInputs_congr`), each input name at a time (`get?_assembleInputs_iff`), and what it puts
out has exactly the declared names and kinds, whatever its type produces (`fits_of_run`).
-/

set_option autoImplicit false
set_option relaxedAutoImplicit false

namespace FlowGraph.Node

variable {graph : Graph} {node : Node}

/-! ### Inputs -/

/-- The box of one input, given the outputs of the nodes before. -/
def inputBox? (graph : Graph) (outputs : OrderedMap NodeId Boxes) (node : Node) (input : Input) :
    Option Box :=
  match graph.connectionInto? node.id input.name with
  | some connection =>
    (outputs.get? connection.source.node).bind fun boxes ↦ boxes.get? connection.source.name
  | none => Graph.standIn? node input

theorem assembleInputs_eq (graph : Graph) (outputs : OrderedMap NodeId Boxes) (node : Node) :
    node.assembleInputs graph outputs =
      .ofList (node.inputs.filterMap fun input ↦
        (node.inputBox? graph outputs input).map fun box ↦ (input.name, box)) := rfl

/-- The inputs of a node depend only on the outputs of the nodes it reads from. -/
theorem assembleInputs_congr (node : Node) {outputs other : OrderedMap NodeId Boxes}
    (h : ∀ source, graph.Feeds source node.id → outputs.get? source = other.get? source) :
    node.assembleInputs graph outputs = node.assembleInputs graph other := by
  have hbox : ∀ input, node.inputBox? graph outputs input = node.inputBox? graph other input := by
    intro input
    unfold inputBox?
    cases hinto : graph.connectionInto? node.id input.name with
    | none => rfl
    | some connection =>
      have hmem := List.mem_of_find?_eq_some hinto
      have htarget := (Graph.feeds_of_connectionInto? hinto).1
      simp only [h connection.source.node ⟨connection, hmem, rfl, htarget⟩]
  simp only [assembleInputs_eq, hbox]

theorem map_fst_filterMap_sublist {α κ ν : Type} (key : α → κ) (value? : α → Option ν)
    (items : List α) :
    List.Sublist ((items.filterMap fun item ↦ (value? item).map fun value ↦
      (key item, value)).map Prod.fst) (items.map key) := by
  induction items with
  | nil => exact List.Sublist.refl []
  | cons item rest ih =>
    cases hvalue : value? item with
    | none => simpa [hvalue] using ih.cons (key item)
    | some value => simpa [hvalue] using ih

/-- A node is given, under the name of each of its inputs, the box of that input. -/
theorem get?_assembleInputs_iff (coherent : node.Coherent) (outputs : OrderedMap NodeId Boxes)
    (name : String) (box : Box) :
    (node.assembleInputs graph outputs).get? name = some box ↔
      ∃ input, node.input? name = some input ∧ node.inputBox? graph outputs input = some box := by
  have hkeys : ((node.inputs.filterMap fun input ↦
      (node.inputBox? graph outputs input).map fun box ↦ (input.name, box)).map Prod.fst).Nodup :=
    (map_fst_filterMap_sublist Input.name _ node.inputs).nodup coherent.nodup_inputs
  rw [assembleInputs_eq, OrderedMap.get?_ofList_eq_some_iff hkeys, List.mem_filterMap]
  constructor
  · rintro ⟨input, hinput, h⟩
    obtain ⟨found, hfound, heq⟩ := Option.map_eq_some_iff.mp h
    obtain ⟨rfl, rfl⟩ := Prod.mk.inj heq
    exact ⟨input, (coherent.mem_inputs_iff input).mp hinput, hfound⟩
  · rintro ⟨input, hinput, hbox⟩
    obtain rfl := (coherent.input_named hinput).1
    exact ⟨input, (coherent.mem_inputs_iff input).mpr hinput, by rw [hbox, Option.map_some]⟩

/-! ### Outputs -/

/-- Boxes with exactly the names of the declared outputs, each of the declared kind. -/
def FitsOutputs (node : Node) (outputs : Boxes) : Prop :=
  ∀ name, (outputs.get? name).map Box.kind = (node.output? name).map Output.kind

/-- What passes the check has of each declared output a box of its kind. -/
theorem kind_of_checkOutputs {id : NodeId} {produced checked outputs : Boxes}
    {declared : List Output} (hnames : (declared.map Output.name).Nodup)
    (h : checkOutputs id produced declared checked = .ok outputs) (name : String) :
    (outputs.get? name).map Box.kind =
      ((declared.find? fun output ↦ output.name = name).map Output.kind).or
        ((checked.get? name).map Box.kind) := by
  induction declared generalizing checked with
  | nil =>
    cases h
    rfl
  | cons output rest ih =>
    rw [List.map_cons, List.nodup_cons] at hnames
    unfold checkOutputs at h
    split at h
    · cases h
    · next box _ =>
      split_ifs at h with hkind
      rw [ih hnames.2 h, OrderedMap.get?_insert]
      by_cases hname : name = output.name
      · have hrest : rest.find? (fun other ↦ other.name = name) = none := by
          refine List.find?_eq_none.mpr fun other hother ↦ ?_
          rw [hname, decide_eq_true_eq]
          exact fun heq ↦ hnames.1 (List.mem_map.mpr ⟨other, hother, heq⟩)
        rw [hrest, if_pos hname, List.find?_cons_of_pos (by simp [hname])]
        simp [hkind]
      · rw [if_neg hname, List.find?_cons_of_neg (by simpa using Ne.symm hname)]

theorem run_eq_ok_iff {inputs outputs : Boxes} :
    (node.run inputs).result = .ok outputs ↔
      ∃ produced, (node.type.run inputs node.settings).result = .ok produced ∧
        checkOutputs node.id produced node.outputs .empty = .ok outputs :=
  mapError_eq_ok_iff.trans bind_eq_ok_iff

/-- A computation that succeeds puts out what the node declares. -/
theorem fits_of_run (coherent : node.Coherent) {inputs outputs : Boxes}
    (h : (node.run inputs).result = .ok outputs) : node.FitsOutputs outputs := by
  obtain ⟨produced, -, hcheck⟩ := run_eq_ok_iff.mp h
  intro name
  rw [kind_of_checkOutputs coherent.nodup_outputs hcheck, coherent.find?_outputs]
  simp

end FlowGraph.Node
