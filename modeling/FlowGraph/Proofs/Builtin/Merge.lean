import FlowGraph.Proofs.Binary64
import FlowGraph.Proofs.Builtin
import FlowGraph.Proofs.Graph.SettingChange
import FlowGraph.Proofs.Node.Overrides

/-!
The ports of a merge node. How many there are is computed from its settings twice, where they are
declared and where the texts at them are taken, and both times it is the number in its settings,
truncated toward zero and limited (`mergeCount_eq`). Texts are taken in the order of the numbers of
their ports, which is not the order of their names (`takesPorts_mergeParts`), and a new number drops
the connections into the ports that are no longer there and no other (`Graph.WellFormed.recount`).
-/

set_option autoImplicit false
set_option relaxedAutoImplicit false

namespace FlowGraph

namespace Builtin

variable {inputs settings : Boxes} {number : Number}

/-! ### Declared ports -/

/-- The number of ports that a number asks for: truncated toward zero and limited to 0 to 64. -/
def portCount (number : Number) : Nat := (max 0 (min (truncated number.value) 64)).toNat

theorem mergeCount_eq (h : settings.get? "inputs" = some (.ofNumber number)) :
    mergeCount settings = portCount number := by
  have hsetting := Boxes.setting_eq_ok_iff.mpr (Boxes.value?_of_ofNumber h)
  have hmin := number.min_wholePart_toBinary64 (show 64 ≤ 2 ^ 53 by decide)
  simp only [mergeCount, hsetting, portCount, mergeLimit]
  omega

/-- The input at a port of a merge node. -/
def mergeInput (id : NodeId) (port : Nat) : Input := ⟨id, mergeSlot port, .string, false⟩

theorem mergeInput_injective (id : NodeId) : Function.Injective (mergeInput id) := fun _ _ h ↦
  mergeSlot_injective (congrArg Input.name h)

/-- A node shows so many ports, and the outputs of a merge node. -/
structure ShowsPorts (node : Node) (count : Nat) : Prop where
  mem_inputs_iff : ∀ input, input ∈ node.inputs ↔ ∃ port < count, mergeInput node.id port = input
  mem_outputs_iff : ∀ output, output ∈ node.outputs ↔
    output = ⟨node.id, "merged", .string⟩ ∨ output = ⟨node.id, "count", .number⟩

theorem showsPorts {node : Node} (coherent : node.Coherent) (htype : node.type = merge) :
    ShowsPorts node (mergeCount node.settings) where
  mem_inputs_iff input := by
    rw [coherent.mem_inputs_iff, coherent.input?_eq_some_iff, htype]
    simp [merge, mergeInput, Input.ofSlot]
  mem_outputs_iff output := by
    rw [coherent.mem_outputs_iff, coherent.output?_eq_some_iff, htype]
    simp [merge, Output.ofSlot, eq_comm]

theorem inputs_perm {node : Node} (coherent : node.Coherent) (htype : node.type = merge)
    (h : node.setting? "inputs" = some (.ofNumber number)) :
    node.inputs.Perm ((List.range (portCount number)).map (mergeInput node.id)) := by
  have hnodup : ((List.range (portCount number)).map (mergeInput node.id)).Nodup :=
    List.nodup_range.map (mergeInput_injective node.id)
  refine (List.perm_ext_iff_of_nodup (.of_map _ coherent.nodup_inputs) hnodup).mpr fun input ↦ ?_
  rw [(showsPorts coherent htype).mem_inputs_iff, mergeCount_eq h]
  simp

/-! ### Texts at ports -/

/-- The ports at which a text stands that is not blank, among so many, by ascending number, and
these texts. -/
structure TakesPorts (inputs : Boxes) (count : Nat) (ports : List Nat) (texts : List String) :
    Prop where
  ascending : ports.Pairwise (· < ·)
  mem_iff : ∀ port, port ∈ ports ↔ port < count ∧ ∃ text : String,
    inputs.get? (mergeSlot port) = some (.string text) ∧
      ∃ c ∈ text.toList, Text.isBlankChar c = false
  texts : ports.map (fun port ↦ inputs.get? (mergeSlot port)) =
    texts.map fun text ↦ some (.string text)

/-- The ports at which a text stands that is not blank, in their order. -/
def takenPorts (inputs settings : Boxes) : List Nat :=
  (List.range (mergeCount settings)).filter fun port ↦
    (inputs.value? .string (mergeSlot port)).any fun text ↦ !Text.isBlank text

theorem map_takenPorts (inputs settings : Boxes) :
    (takenPorts inputs settings).map (fun port ↦ inputs.get? (mergeSlot port)) =
      (mergeParts inputs settings).map fun text ↦ some (.string text) := by
  rw [takenPorts, mergeParts]
  induction List.range (mergeCount settings) with
  | nil => rfl
  | cons port rest ih =>
    cases htext : inputs.value? .string (mergeSlot port) with
    | none => simp [htext, ih]
    | some text =>
      have hget := Boxes.value?_string_eq_some_iff.mp htext
      cases hblank : Text.isBlank text <;> simp [htext, hblank, hget, ih]

theorem takesPorts_mergeParts (inputs settings : Boxes) :
    TakesPorts inputs (mergeCount settings) (takenPorts inputs settings)
      (mergeParts inputs settings) where
  ascending := List.pairwise_lt_range.filter _
  mem_iff port := by
    simp only [takenPorts, List.mem_filter, List.mem_range, Option.any_eq_true, Text.isBlank,
      Bool.not_eq_true', List.all_eq_false, Bool.not_eq_true]
    exact and_congr_right fun _ ↦ exists_congr fun text ↦
      and_congr_left' Boxes.value?_string_eq_some_iff
  texts := map_takenPorts inputs settings

/-- Only the texts at the declared ports count. -/
theorem mergeParts_congr {other : Boxes} (h : ∀ port < mergeCount settings, ∀ text : String,
    inputs.get? (mergeSlot port) = some (.string text) ↔
      other.get? (mergeSlot port) = some (.string text)) :
    mergeParts inputs settings = mergeParts other settings := by
  have hvalues : ∀ port ∈ List.range (mergeCount settings),
      inputs.value? .string (mergeSlot port) = other.value? .string (mergeSlot port) := by
    intro port hport
    refine Option.ext fun text ↦ ?_
    exact Boxes.value?_string_eq_some_iff.trans
      ((h port (List.mem_range.mp hport) text).trans Boxes.value?_string_eq_some_iff.symm)
  rw [mergeParts, mergeParts, List.filterMap_congr hvalues]

end Builtin

namespace Graph

open Builtin (mergeCount mergeSlot portCount)

variable {graph next : Graph} {id : NodeId} {node : Node} {number : Number}
  {dropped : List Connection}

/-! ### A new number of ports -/

/-- A merge node takes any number for the number of its ports. -/
theorem WellFormed.exists_recount (wellFormed : graph.WellFormed)
    (hnode : graph.node? id = some node) (htype : node.type = Builtin.merge) (number : Number) :
    ∃ next dropped, graph.updateSetting id "inputs" (.ofNumber number) = .ok (next, dropped) := by
  have coherent := wellFormed.coherent id node hnode
  have once : node.type.NamesOnce := htype ▸ Builtin.namesOnce_merge
  have hcheck : Node.checkSetting node.settings "inputs" (.ofNumber number) = .ok () := by
    rw [Node.checkSetting_eq_ok_iff, coherent.settings, htype]
    rfl
  obtain ⟨changed, hchanged⟩ := coherent.exists_applySetting once hcheck
  let edited : Graph := { graph with nodes := graph.nodes.insert id changed }
  let split := graph.connections.partition (edited.isStale id)
  exact ⟨{ edited with connections := split.2 }, split.1,
    updateSetting_eq_ok_iff.mpr ⟨node, hnode, changed, hchanged, rfl, rfl⟩⟩

/-- What a new number of ports does to a graph: to the node it is a change of the setting after
which it has just these ports, and it drops the connections into ports that are no longer there. -/
structure Recount (graph : Graph) (id : NodeId) (number : Number) (next : Graph)
    (dropped : List Connection) : Prop where
  change : graph.SettingChange id "inputs" (.ofNumber number) next dropped
  ports : ∀ changed, next.node? id = some changed →
    changed.inputs.Perm ((List.range (portCount number)).map (Builtin.mergeInput id))
  mem_dropped_iff : ∀ connection ∈ graph.connections,
    connection ∈ dropped ↔ connection.target.node = id ∧
      ∃ port, portCount number ≤ port ∧ connection.target.name = mergeSlot port

theorem WellFormed.recount (wellFormed : graph.WellFormed) (hnode : graph.node? id = some node)
    (htype : node.type = Builtin.merge)
    (h : graph.updateSetting id "inputs" (.ofNumber number) = .ok (next, dropped)) :
    graph.Recount id number next dropped := by
  have hnext := wellFormed.updateSetting h
  have change := wellFormed.settingChange h
  obtain ⟨found, changed, hfound, hchanged, changedIn⟩ := change.node
  obtain rfl : found = node := Option.some.inj (hfound.symm.trans hnode)
  obtain rfl := wellFormed.own_id id found hnode
  have hid := changedIn.id
  have hcoherent := hnext.coherent _ changed hchanged
  have htype' := changedIn.type.trans htype
  have shows := Builtin.showsPorts (wellFormed.coherent _ found hnode) htype
  have shows' := Builtin.showsPorts hcoherent htype'
  rw [Builtin.mergeCount_eq changedIn.setting] at shows'
  -- The outputs do not depend on the settings, so only inputs are lost.
  have houtput : ∀ output, graph.HasOutput output → next.HasOutput output := by
    intro output houtput
    by_cases hnodeId : output.node = found.id
    · rw [hasOutput_iff hnode hnodeId, shows.mem_outputs_iff] at houtput
      rwa [hasOutput_iff hchanged hnodeId, shows'.mem_outputs_iff, hid]
    · obtain ⟨source, hsource, hmem⟩ := houtput
      exact ⟨source, (change.others _ hnodeId).trans hsource, hmem⟩
  refine ⟨change, fun changed' hchanged' ↦ ?_, fun connection hmem ↦ ?_⟩
  · obtain rfl : changed = changed' := Option.some.inj (hchanged.symm.trans hchanged')
    exact hid ▸ Builtin.inputs_perm hcoherent htype' changedIn.setting
  · have joins := wellFormed.joins connection hmem
    obtain ⟨hsource, htarget⟩ := (wellFormed.joins_iff joins.kind).mp joins
    rw [change.mem_dropped_iff_lost hnext hmem, or_iff_right (not_not_intro (houtput _ hsource))]
    by_cases hnodeId : connection.target.node = found.id
    · rw [hasInput_iff hnode hnodeId, shows.mem_inputs_iff] at htarget
      rw [hasInput_iff hchanged hnodeId, shows'.mem_inputs_iff, hid]
      obtain ⟨port, -, hport⟩ := htarget
      rw [← hport]
      simp [Builtin.mergeInput, Builtin.mergeSlot_injective.eq_iff]
    · obtain ⟨target, hnodeTarget, htargetMem⟩ := htarget
      have hkept : next.HasInput connection.target :=
        ⟨target, (change.others _ hnodeId).trans hnodeTarget, htargetMem⟩
      simp [hkept, hnodeId]

end Graph

namespace Builtin

variable {settings : Boxes} {number : Number} {separator : String}

/-- A merge node declares and consumes the same ports. With a number and a separator in its settings
it has as many inputs as the number says, truncated toward zero and limited to 0 to 64; what it puts
out are the texts at just these ports that are not blank, by ascending number of the port, and how
many they are; and whatever else its inputs are given does not count. In a graph a new number drops
just the connections into the ports that are no longer there. -/
theorem merge_ports (hnumber : settings.get? "inputs" = some (.ofNumber number))
    (hseparator : settings.get? "separator" = some (.string separator)) :
    (∀ node : Node, node.Made → node.type = merge → node.settings = settings →
      node.inputs.Perm ((List.range (portCount number)).map (mergeInput node.id))) ∧
    (∀ inputs, ∃ ports texts, TakesPorts inputs (portCount number) ports texts ∧
      merge.compute inputs settings = .ok (merged separator texts)) ∧
    (∀ inputs other : Boxes,
      (∀ port < portCount number, ∀ text : String,
        inputs.get? (mergeSlot port) = some (.string text) ↔
          other.get? (mergeSlot port) = some (.string text)) →
      merge.compute inputs settings = merge.compute other settings) ∧
    ∀ graph : Graph, graph.Reachable → ∀ id node, graph.node? id = some node → node.type = merge →
      ∀ renumbered, ∃ next dropped,
        graph.updateSetting id "inputs" (.ofNumber renumbered) = .ok (next, dropped) ∧
          graph.Recount id renumbered next dropped := by
  have hcount := mergeCount_eq hnumber
  have hvalue := Boxes.value?_string_eq_some_iff.mpr hseparator
  refine ⟨?_, fun inputs ↦ ?_, fun inputs other h ↦ ?_, ?_⟩
  · rintro node made htype rfl
    exact inputs_perm made.coherent htype hnumber
  · exact ⟨_, _, hcount ▸ takesPorts_mergeParts inputs settings, compute_merge inputs hvalue⟩
  · rw [compute_merge inputs hvalue, compute_merge other hvalue, mergeParts_congr (hcount ▸ h)]
  · intro graph reachable id node hnode htype renumbered
    obtain ⟨next, dropped, h⟩ := reachable.wellFormed.exists_recount hnode htype renumbered
    exact ⟨next, dropped, h, reachable.wellFormed.recount hnode htype h⟩

/-- Settings that ask for 11.5 ports. -/
def eleven : Boxes :=
  .ofList [("inputs", .ofNumber (.float ⟨0x4027000000000000⟩)), ("separator", .string "-")]

/-- Texts in the order of their names, of which two are at none of these ports. -/
def lines : Boxes :=
  .ofList
    [("input_1", .string " "), ("input_10", .string "c"), ("input_11", .string "d"),
      ("input_2", .string "a"), ("input_3", .boolean true), ("input_9", .string "b"),
      ("other", .string "e")]

set_option maxRecDepth 20000 in
/-- The text at port 10 comes after that at port 9, and the text at port 11 is not taken. Where a
merge node has two ports and is given one, the connection into the second is dropped. -/
theorem merge_ports_eleven :
    mergeCount eleven = 11 ∧
      (∃ node, Node.create (.ofNat 1) "merge" merge eleven = .ok node ∧
        node.inputs.Perm ((List.range 11).map (mergeInput node.id))) ∧
      (∃ ports texts, TakesPorts lines 11 ports texts ∧
        merge.compute lines eleven = .ok (merged "-" texts)) ∧
      merge.compute lines eleven = .ok (merged "-" ["a", "b", "c"]) ∧
      ∃ next, Graph.echo.updateSetting (.ofNat 1) "inputs" (.ofNumber (.integer 1)) =
          .ok (next, [⟨⟨.ofNat 1, "merged", .string⟩, mergeInput (.ofNat 1) 1⟩]) ∧
        Graph.echo.Recount (.ofNat 1) (.integer 1) next
          [⟨⟨.ofNat 1, "merged", .string⟩, mergeInput (.ofNat 1) 1⟩] := by
  have hnumber : eleven.get? "inputs" = some (.ofNumber (.float ⟨0x4027000000000000⟩)) := rfl
  have hseparator : eleven.get? "separator" = some (.string "-") := rfl
  have heleven : mergeCount eleven = 11 := by decide +kernel
  have hparts : mergeParts lines eleven = ["a", "b", "c"] := by decide +kernel
  have hcount : portCount _ = 11 := (mergeCount_eq hnumber).symm.trans heleven
  obtain ⟨hinputs, htexts, -, hgraph⟩ := merge_ports hnumber hseparator
  rw [hcount] at hinputs htexts
  refine ⟨heleven, ?_, htexts lines, ?_, ?_⟩
  · obtain ⟨node, hnode, htype, hsettings⟩ : ∃ node,
        Node.create (.ofNat 1) "merge" merge eleven = .ok node ∧ node.type = merge ∧
          node.settings = eleven := ⟨_, rfl, rfl, rfl⟩
    exact ⟨node, hnode, hinputs node (.created hnode) htype hsettings⟩
  · exact hparts ▸ compute_merge lines rfl
  · obtain ⟨next, hnext⟩ : ∃ next, Graph.echo.updateSetting (.ofNat 1) "inputs"
        (.ofNumber (.integer 1)) =
          .ok (next, [⟨⟨.ofNat 1, "merged", .string⟩, mergeInput (.ofNat 1) 1⟩]) := ⟨_, rfl⟩
    obtain ⟨_, _, h, recount⟩ :=
      hgraph Graph.echo Graph.reachable_echo (.ofNat 1) _ rfl rfl (.integer 1)
    cases hnext.symm.trans h
    exact ⟨next, hnext, recount⟩

end Builtin

end FlowGraph
