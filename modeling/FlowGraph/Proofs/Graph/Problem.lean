import FlowGraph.Proofs.Graph.Invariant

/-!
The problems of a graph. A cycle is listed when one is found, and an input of a node when neither a
connection nor a setting supplies it; nothing else is a problem of a graph, and none is listed twice.
-/

set_option autoImplicit false
set_option relaxedAutoImplicit false

namespace FlowGraph.Graph

variable {graph : Graph}

theorem cycleDetected_mem_problems_iff {id : NodeId} :
    .cycleDetected id ∈ graph.problems ↔ graph.findCycle = some id := by
  simp [problems]

theorem WellFormed.unconnectedInput_mem_problems_iff (wellFormed : graph.WellFormed) {id : NodeId}
    {name : String} :
    .unconnectedInput id name ∈ graph.problems ↔
      ∃ node input, graph.node? id = some node ∧ node.input? name = some input ∧
        graph.isSupplied node input = false := by
  simp only [problems, List.mem_append, Option.mem_toList, Option.map_eq_some_iff, reduceCtorEq,
    and_false, exists_false, false_or, List.mem_flatMap, List.mem_map, List.mem_filter,
    Bool.not_eq_true', Problem.unconnectedInput.injEq, OrderedMap.mem_values_iff]
  constructor
  · rintro ⟨node, ⟨key, hnode⟩, input, ⟨hinput, hsupplied⟩, rfl, rfl⟩
    have coherent := wellFormed.coherent key node hnode
    obtain rfl := wellFormed.own_id key node hnode
    exact ⟨node, input, hnode, (coherent.mem_inputs_iff input).mp hinput, hsupplied⟩
  · rintro ⟨node, input, hnode, hinput, hsupplied⟩
    have coherent := wellFormed.coherent id node hnode
    obtain rfl := (coherent.input_named hinput).1
    exact ⟨node, ⟨id, hnode⟩, input, ⟨(coherent.mem_inputs_iff input).mpr hinput, hsupplied⟩,
      wellFormed.own_id id node hnode, rfl⟩

/-- An input of a node of the graph is left without a box: no connection ends at it, and it does not
take a setting of its name and kind. -/
def IsUnsupplied (graph : Graph) (id : NodeId) (name : String) : Prop :=
  ∃ node input, graph.node? id = some node ∧ node.input? name = some input ∧
    (∀ connection ∈ graph.connections,
      ¬ (connection.target.node = id ∧ connection.target.name = name)) ∧
    ¬ (input.settable = true ∧
      ∃ box, node.setting? name = some box ∧ box.kind = input.kind)

theorem isSome_standIn?_iff {node : Node} {input : Input} :
    (standIn? node input).isSome = true ↔
      input.settable = true ∧
        ∃ box, node.setting? input.name = some box ∧ box.kind = input.kind := by
  unfold standIn?
  by_cases hsettable : input.settable = true
  · rw [if_pos hsettable, Option.isSome_iff_exists]
    simp [hsettable, Option.filter_eq_some_iff]
  · simp [hsettable]

theorem isSome_connectionInto?_iff {target : NodeId} {name : String} :
    (graph.connectionInto? target name).isSome = true ↔
      ∃ connection ∈ graph.connections,
        connection.target.node = target ∧ connection.target.name = name := by
  simp only [connectionInto?, List.find?_isSome, feeds_iff]

/-- The inputs listed as problems are those that are left without a box. -/
theorem WellFormed.isUnsupplied_iff (wellFormed : graph.WellFormed) {id : NodeId} {name : String} :
    graph.IsUnsupplied id name ↔ .unconnectedInput id name ∈ graph.problems := by
  rw [wellFormed.unconnectedInput_mem_problems_iff]
  refine exists_congr fun node ↦ exists_congr fun input ↦ ?_
  refine and_congr_right fun hnode ↦ and_congr_right fun hinput ↦ ?_
  obtain rfl := wellFormed.own_id id node hnode
  obtain rfl := ((wellFormed.coherent _ node hnode).input_named hinput).1
  rw [isSupplied, Bool.or_eq_false_iff, ← Bool.not_eq_true, ← Bool.not_eq_true,
    isSome_connectionInto?_iff, isSome_standIn?_iff]
  simp only [not_exists, not_and]

/-- No problem is listed twice. -/
theorem WellFormed.nodup_problems (wellFormed : graph.WellFormed) : graph.problems.Nodup := by
  have hids : (graph.nodes.values.map Node.id).Nodup := by
    rw [wellFormed.map_id_values]
    exact OrderedMap.nodup_keys _
  refine List.Nodup.append ?_ (List.nodup_flatMap.mpr ⟨fun node hnode ↦ ?_, ?_⟩) ?_
  · cases graph.findCycle <;> simp
  · obtain ⟨id, hget⟩ := (OrderedMap.mem_values_iff graph.nodes node).mp hnode
    have hnames : ((node.inputs.filter fun input ↦ !graph.isSupplied node input).map
        Input.name).Nodup :=
      (List.filter_sublist.map Input.name).nodup (wellFormed.coherent id node hget).nodup_inputs
    have hproblems := hnames.map (f := Problem.unconnectedInput node.id)
      fun first second h ↦ (Problem.unconnectedInput.inj h).2
    rw [List.map_map] at hproblems
    exact hproblems
  · refine (List.pairwise_map.mp hids).imp fun hne problem hfirst hsecond ↦ ?_
    obtain ⟨input, -, rfl⟩ := List.mem_map.mp hfirst
    obtain ⟨other, -, heq⟩ := List.mem_map.mp hsecond
    exact hne (Problem.unconnectedInput.inj heq).1.symm
  · intro problem hcycle hinput
    obtain ⟨id, -, rfl⟩ := Option.map_eq_some_iff.mp (Option.mem_toList.mp hcycle)
    obtain ⟨node, -, hproblem⟩ := List.mem_flatMap.mp hinput
    obtain ⟨input, -, heq⟩ := List.mem_map.mp hproblem
    cases heq

theorem findCycle_of_problems_eq_nil (valid : graph.problems = []) : graph.findCycle = none := by
  refine Option.eq_none_iff_forall_ne_some.mpr fun id hcycle ↦ ?_
  have hmem := cycleDetected_mem_problems_iff.mpr hcycle
  rw [valid] at hmem
  exact List.not_mem_nil hmem

/-- In a graph without problems every input is supplied. -/
theorem WellFormed.isSupplied_of_problems_eq_nil (wellFormed : graph.WellFormed)
    (valid : graph.problems = []) {id : NodeId} {node : Node} (hnode : graph.node? id = some node)
    {name : String} {input : Input} (hinput : node.input? name = some input) :
    graph.isSupplied node input = true := by
  rw [← Bool.not_eq_false]
  intro hsupplied
  have hmem := wellFormed.unconnectedInput_mem_problems_iff.mpr
    ⟨node, input, hnode, hinput, hsupplied⟩
  rw [valid] at hmem
  exact List.not_mem_nil hmem

end FlowGraph.Graph
