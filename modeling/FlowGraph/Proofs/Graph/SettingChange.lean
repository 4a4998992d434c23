import FlowGraph.Proofs.Graph.InPlace
import FlowGraph.Proofs.Graph.Staleness

/-!
What a change of a setting does, and all that it does. Of the nodes only one is changed, and of its
settings only one; its connectors are derived anew. The connections of the graph are split into those
that it keeps and those that it drops, and what decides is whether the two connectors of a
connection that touches the node are still there (`SettingChange`). A change that is refused leaves
everything as it was, also when it is carried out in place; and to write the value that a setting
has already is no change at all (`setting_change_exact`).
-/

set_option autoImplicit false
set_option relaxedAutoImplicit false

namespace FlowGraph

namespace Node

/-- A node is another one but for the value of one setting and what follows from it: its connectors
are those that its type derives from the settings that it has now. -/
structure ChangedIn (changed node : Node) (name : String) (value : Box) : Prop where
  id : changed.id = node.id
  typeIdentifier : changed.typeIdentifier = node.typeIdentifier
  type : changed.type = node.type
  setting : changed.setting? name = some value
  settings : ∀ other, other ≠ name → changed.setting? other = node.setting? other
  connectors : Connectors.derive node.id node.type changed.settings = .ok changed.connectors

theorem changedIn_of_applySetting {node changed : Node} {name : String} {value : Box}
    (h : node.applySetting name value = .ok changed) : changed.ChangedIn node name value := by
  obtain ⟨-, hconnectors, hchanged⟩ := applySetting_eq_ok_iff.mp h
  have hsettings : changed.settings = node.settings.insert name value := by rw [hchanged]
  refine ⟨by rw [hchanged], by rw [hchanged], by rw [hchanged], ?_, fun other hother ↦ ?_, ?_⟩
  · rw [setting?, hsettings, OrderedMap.get?_insert_self]
  · rw [setting?, hsettings, OrderedMap.get?_insert_of_ne node.settings hother]
    rfl
  · rw [hsettings]
    exact hconnectors

/-- Writing the value that a setting has already gives the node as it is. -/
theorem Coherent.applySetting_self {node : Node} (coherent : node.Coherent) {name : String}
    {value : Box} (h : node.setting? name = some value) :
    node.applySetting name value = .ok node := by
  have hcheck : checkSetting node.settings name value = .ok () := by
    rw [checkSetting_eq_ok_iff, ← setting?, h, Option.map_some]
  have hsettings : node.settings.insert name value = node.settings :=
    OrderedMap.insert_eq_self h
  refine applySetting_eq_ok_iff.mpr ⟨hcheck, ?_, ?_⟩
  · rw [hsettings]
    exact coherent.connectors
  · rw [hsettings]

end Node

namespace Graph

variable {graph next : Graph} {id : NodeId} {name : String} {value : Box}
  {dropped : List Connection}

/-- An output is one that a node of the graph has now, with its name and kind. -/
def HasOutput (graph : Graph) (output : Output) : Prop :=
  ∃ node, graph.node? output.node = some node ∧ output ∈ node.outputs

/-- An input is one that a node of the graph has now, with its name and kind and whether it takes
its setting. -/
def HasInput (graph : Graph) (input : Input) : Prop :=
  ∃ node, graph.node? input.node = some node ∧ input ∈ node.inputs

theorem hasInput_iff {node : Node} (hnode : graph.node? id = some node) {input : Input}
    (hid : input.node = id) : graph.HasInput input ↔ input ∈ node.inputs := by
  subst hid
  simp [HasInput, hnode]

theorem hasOutput_iff {node : Node} (hnode : graph.node? id = some node) {output : Output}
    (hid : output.node = id) : graph.HasOutput output ↔ output ∈ node.outputs := by
  subst hid
  simp [HasOutput, hnode]

/-- What a change of a setting does: to the one node, to no other, and to the connections, which it
splits in two without a change of their order. -/
structure SettingChange (graph : Graph) (id : NodeId) (name : String) (value : Box) (next : Graph)
    (dropped : List Connection) : Prop where
  node : ∃ node changed, graph.node? id = some node ∧ next.node? id = some changed ∧
    changed.ChangedIn node name value
  others : ∀ other, other ≠ id → next.node? other = graph.node? other
  kept_order : next.connections.Sublist graph.connections
  dropped_order : dropped.Sublist graph.connections
  complete : (dropped ++ next.connections).Perm graph.connections
  mem_kept_iff : ∀ connection ∈ graph.connections,
    connection ∈ next.connections ↔ connection ∉ dropped
  untouched : ∀ connection ∈ graph.connections, connection.touches id = false →
    connection ∈ next.connections
  mem_dropped_iff : ∀ connection ∈ graph.connections, connection.touches id = true →
    (connection ∈ dropped ↔ ¬ next.HasOutput connection.source ∨ ¬ next.HasInput connection.target)

/-- The two connectors of a connection are current ones when it joins, and the other way round when
they are of one kind. -/
theorem WellFormed.joins_iff (wellFormed : graph.WellFormed) {connection : Connection}
    (hkind : connection.source.kind = connection.target.kind) :
    graph.Joins connection ↔
      graph.HasOutput connection.source ∧ graph.HasInput connection.target := by
  have houtput : graph.HasOutput connection.source ↔ ∃ node,
      graph.node? connection.source.node = some node ∧
        node.output? connection.source.name = some connection.source :=
    exists_congr fun node ↦ and_congr_right fun hnode ↦
      (wellFormed.coherent _ node hnode).mem_outputs_iff connection.source
  have hinput : graph.HasInput connection.target ↔ ∃ node,
      graph.node? connection.target.node = some node ∧
        node.input? connection.target.name = some connection.target :=
    exists_congr fun node ↦ and_congr_right fun hnode ↦
      (wellFormed.coherent _ node hnode).mem_inputs_iff connection.target
  rw [houtput, hinput]
  exact ⟨fun joins ↦ ⟨joins.source, joins.target⟩, fun h ↦ ⟨h.1, h.2, hkind⟩⟩

/-- Of the connections of a graph a change of a setting drops those that have lost a connector. -/
theorem SettingChange.mem_dropped_iff_lost
    (change : graph.SettingChange id name value next dropped) (hnext : next.WellFormed)
    {connection : Connection} (hmem : connection ∈ graph.connections) :
    connection ∈ dropped ↔
      ¬ next.HasOutput connection.source ∨ ¬ next.HasInput connection.target := by
  cases htouches : connection.touches id with
  | true => exact change.mem_dropped_iff connection hmem htouches
  | false =>
    have hkept := change.untouched connection hmem htouches
    have joins := hnext.joins connection hkept
    obtain ⟨houtput, hinput⟩ := (hnext.joins_iff joins.kind).mp joins
    have hnot := (change.mem_kept_iff connection hmem).mp hkept
    simp [houtput, hinput, hnot]

theorem WellFormed.settingChange (wellFormed : graph.WellFormed)
    (h : graph.updateSetting id name value = .ok (next, dropped)) :
    graph.SettingChange id name value next dropped := by
  have hnext := wellFormed.updateSetting h
  have hdropped := mem_dropped_iff h
  obtain ⟨node, hnode, changed, hchanged, hnodes, hsplit⟩ := updateSetting_eq_ok_iff.mp h
  rw [List.partition_eq_filter_filter, Prod.mk.injEq] at hsplit
  obtain ⟨hdroppedEq, hkeptEq⟩ := hsplit
  have hlookup : ∀ other, next.node? other = if other = id then some changed
      else graph.node? other := by
    intro other
    rw [node?, hnodes]
    exact OrderedMap.get?_insert graph.nodes id other changed
  have hkept : ∀ connection ∈ graph.connections,
      connection ∈ next.connections ↔ connection ∉ dropped := by
    intro connection hmem
    simp [hkeptEq, hdroppedEq, hmem]
  exact {
    node := ⟨node, changed, hnode, (hlookup id).trans (if_pos rfl),
      Node.changedIn_of_applySetting hchanged⟩
    others := fun other hother ↦ (hlookup other).trans (if_neg hother)
    kept_order := hkeptEq ▸ List.filter_sublist
    dropped_order := hdroppedEq ▸ List.filter_sublist
    complete := by
      rw [hdroppedEq, hkeptEq]
      exact List.filter_append_perm _ graph.connections
    mem_kept_iff := hkept
    untouched := fun connection hmem htouches ↦ by
      rw [hkept connection hmem, hdropped, htouches]
      simp
    mem_dropped_iff := fun connection hmem htouches ↦ by
      rw [hdropped, hnext.joins_iff (wellFormed.joins connection hmem).kind, not_and_or]
      simp [hmem, htouches] }

/-- Writing the value that a setting has already gives the graph as it is. -/
theorem WellFormed.updateSetting_self (wellFormed : graph.WellFormed) {node : Node}
    (hnode : graph.node? id = some node) (h : node.setting? name = some value) :
    graph.updateSetting id name value = .ok (graph, []) := by
  have hnodes : graph.nodes.insert id node = graph.nodes := OrderedMap.insert_eq_self hnode
  have hfresh : ∀ connection ∈ graph.connections, graph.isStale id connection = false :=
    fun connection hmem ↦ isStale_eq_false_iff.mpr fun _ ↦ wellFormed.joins connection hmem
  refine updateSetting_eq_ok_iff.mpr ⟨node, hnode, node,
    (wellFormed.coherent id node hnode).applySetting_self h, hnodes.symm, ?_⟩
  rw [hnodes, List.partition_eq_filter_filter, Prod.mk.injEq]
  constructor
  · exact (List.filter_eq_nil_iff.mpr fun connection hmem ↦ by simp [hfresh connection hmem]).symm
  · exact (List.filter_eq_self.mpr fun connection hmem ↦ by simp [hfresh connection hmem]).symm

/-- All that can be said of changing one setting to one value: a refusal leaves the graph unchanged,
a success is a `SettingChange`, and a value written over itself changes nothing. -/
structure ChangesExactly (graph : Graph) (id : NodeId) (name : String) (value : Box) : Prop where
  refused : ∀ error, graph.updateSetting id name value = .error error →
    InPlace.updateSetting id name value graph = (.error error, graph)
  changed : ∀ next dropped, graph.updateSetting id name value = .ok (next, dropped) →
    InPlace.updateSetting id name value graph = (.ok dropped, next) ∧
      graph.SettingChange id name value next dropped
  unchanged : ∀ node, graph.node? id = some node → node.setting? name = some value →
    graph.updateSetting id name value = .ok (graph, [])

/-- Changing a setting of a graph does all or nothing. When it is refused the graph stays as it was,
although it is carried out write by write. When it succeeds, one setting of one node has the new
value, the connectors of the node are derived anew, and of the connections that touch the node just
those are dropped that have lost a connector; all others are kept, in their order. -/
theorem setting_change_exact (graph : Graph) (reachable : graph.Reachable) (id : NodeId)
    (name : String) (value : Box) : graph.ChangesExactly id name value where
  refused error h := by rw [InPlace.run_updateSetting, h]; rfl
  changed next dropped h := by
    rw [InPlace.run_updateSetting, h]
    exact ⟨rfl, reachable.wellFormed.settingChange h⟩
  unchanged _ := reachable.wellFormed.updateSetting_self

/-- A choice between a text and what was chosen, with a second reader of the text. -/
def choosing : Graph :=
  let registry := Registry.ofTypes
    [Builtin.textInput, Builtin.booleanInput, Builtin.conditional, Builtin.textOutput]
  afterEdits
    [ .createNode registry (.ofNat 1) "text-input" .empty,
      .createNode registry (.ofNat 2) "boolean-input" .empty,
      .createNode registry (.ofNat 3) "conditional" .empty,
      .createNode registry (.ofNat 4) "text-output" .empty,
      .connect (.ofNat 1) "text" (.ofNat 3) "if_true" .string,
      .connect (.ofNat 2) "value" (.ofNat 3) "condition" .boolean,
      .connect (.ofNat 3) "value" (.ofNat 3) "if_false" .string,
      .connect (.ofNat 1) "text" (.ofNat 4) "text" .string ]

theorem reachable_choosing : choosing.Reachable := ⟨_, rfl⟩

/-- A choice between numbers drops the text at one branch and the connection from the node to its
other branch, whose connectors have another kind at both ends. -/
theorem setting_change_exact_choosing :
    choosing.Reachable ∧ choosing.ChangesExactly (.ofNat 3) "kind" (.string "number") ∧
      ∃ next, choosing.updateSetting (.ofNat 3) "kind" (.string "number") =
        .ok (next,
          [ ⟨⟨.ofNat 1, "text", .string⟩, ⟨.ofNat 3, "if_true", .string, false⟩⟩,
            ⟨⟨.ofNat 3, "value", .string⟩, ⟨.ofNat 3, "if_false", .string, false⟩⟩ ]) :=
  ⟨reachable_choosing,
    setting_change_exact choosing reachable_choosing (.ofNat 3) "kind" (.string "number"), _, rfl⟩

end Graph

end FlowGraph
