import FlowGraph.Proofs.Evaluation.Computation
import FlowGraph.Proofs.Evaluation.Progress

/-!
The reference walk: the nodes one after the other along an order, each computed when all the nodes
it reads from have resolved and failed without being computed otherwise. A walk never changes what
it has found, so its result is described node by node (`follows_walk`): what a node comes to is what
its computation gives from the final outputs.
-/

set_option autoImplicit false
set_option relaxedAutoImplicit false

namespace FlowGraph

open Evaluation

/-- How far a walk has come: the verdict on each node passed, the outputs of those that resolved,
and those whose own computation failed, in the order of the walk. -/
structure Walk where
  states : OrderedMap NodeId NodeState
  outputs : OrderedMap NodeId Boxes
  failures : List (NodeId × GraphError)

namespace Walk

def empty : Walk := ⟨.empty, .empty, []⟩

/-- What the computation of a node gives, once all the nodes it reads from have resolved. -/
def compute? (graph : Graph) (walk : Walk) (id : NodeId) : Option (Except GraphError Boxes) :=
  if ∀ source ∈ (graph.dependencies id).toList, walk.states.get? source = some .resolved then
    (graph.node? id).map fun node ↦ (node.run (node.assembleInputs graph walk.outputs)).result
  else none

/-- Passes one node. -/
def visit (graph : Graph) (walk : Walk) (id : NodeId) : Walk :=
  match walk.compute? graph id with
  | none => { walk with states := walk.states.insert id .failed }
  | some (.ok outputs) =>
    { walk with
      states := walk.states.insert id .resolved
      outputs := walk.outputs.insert id outputs }
  | some (.error error) =>
    { walk with
      states := walk.states.insert id .failed
      failures := walk.failures ++ [(id, error)] }

end Walk

/-- Walks along an order. -/
def Graph.walk (graph : Graph) (order : List NodeId) : Walk := order.foldl (Walk.visit graph) .empty

variable {graph : Graph}

namespace Walk

variable {walk other : Walk} {order : List NodeId}

theorem compute?_congr (wellFormed : graph.WellFormed) {id : NodeId}
    (hstates : ∀ source, graph.Feeds source id →
      walk.states.get? source = other.states.get? source)
    (houtputs : ∀ source, graph.Feeds source id →
      walk.outputs.get? source = other.outputs.get? source) :
    walk.compute? graph id = other.compute? graph id := by
  have hresolved : (∀ source ∈ (graph.dependencies id).toList,
        walk.states.get? source = some .resolved) ↔
      ∀ source ∈ (graph.dependencies id).toList, other.states.get? source = some .resolved := by
    refine forall₂_congr fun source hsource ↦ ?_
    rw [hstates source (Graph.mem_dependencies.mp hsource)]
  have hcomputed : ((graph.node? id).map fun node ↦
        (node.run (node.assembleInputs graph walk.outputs)).result) =
      (graph.node? id).map fun node ↦
        (node.run (node.assembleInputs graph other.outputs)).result := by
    refine Option.map_congr fun node hnode ↦ ?_
    rw [node.assembleInputs_congr]
    rw [wellFormed.own_id id node hnode]
    exact houtputs
  unfold compute?
  rw [hcomputed]
  simp only [hresolved]

/-- A node with a dependency that has not resolved is not computed. -/
theorem compute?_eq_none_of_feeds {source id : NodeId} (hfeeds : graph.Feeds source id)
    (hsource : walk.states.get? source ≠ some .resolved) : walk.compute? graph id = none :=
  if_neg fun h ↦ hsource (h source (Graph.mem_dependencies.mpr hfeeds))

theorem compute?_eq_some_iff {id : NodeId} {result : Except GraphError Boxes} :
    walk.compute? graph id = some result ↔
      (∀ source, graph.Feeds source id → walk.states.get? source = some .resolved) ∧
        ∃ node, graph.node? id = some node ∧
          (node.run (node.assembleInputs graph walk.outputs)).result = result := by
  unfold compute?
  split_ifs with hresolved
  · rw [Option.map_eq_some_iff]
    refine (and_iff_right fun source hfeeds ↦ ?_).symm
    exact hresolved source (Graph.mem_dependencies.mpr hfeeds)
  · refine iff_of_false (by simp) fun h ↦ hresolved fun source hsource ↦ ?_
    exact h.1 source (Graph.mem_dependencies.mp hsource)

/-- The verdict on a node whose computation gives this. -/
def verdict : Option (Except GraphError Boxes) → NodeState
  | some (.ok _) => .resolved
  | _ => .failed

/-- The failure of a node's own computation. -/
def ownFailure? (graph : Graph) (walk : Walk) (id : NodeId) : Option (NodeId × GraphError) :=
  match walk.compute? graph id with
  | some (.error error) => some (id, error)
  | _ => none

/-- What a walk has found of the nodes it has passed. -/
structure Follows (graph : Graph) (passed : List NodeId) (walk : Walk) : Prop where
  state : ∀ id, walk.states.get? id =
    if id ∈ passed then some (verdict (walk.compute? graph id)) else none
  outputs : ∀ id outputs, walk.outputs.get? id = some outputs ↔
    id ∈ passed ∧ walk.compute? graph id = some (.ok outputs)
  failures : walk.failures = passed.filterMap (walk.ownFailure? graph)

theorem visit_states (graph : Graph) (walk : Walk) (id : NodeId) :
    (walk.visit graph id).states = walk.states.insert id (verdict (walk.compute? graph id)) := by
  unfold visit
  split <;> next h => rw [h]; rfl

theorem get?_visit_outputs_of_ne {id other : NodeId} (h : other ≠ id) :
    (walk.visit graph id).outputs.get? other = walk.outputs.get? other := by
  unfold visit
  split
  · rfl
  · exact OrderedMap.get?_insert_of_ne _ h _
  · rfl

theorem get?_visit_outputs_self {id : NodeId} (hnew : walk.outputs.get? id = none)
    (outputs : Boxes) :
    (walk.visit graph id).outputs.get? id = some outputs ↔
      walk.compute? graph id = some (.ok outputs) := by
  unfold visit
  split
  · next h => simp [h, hnew]
  · next found h => simp [h, OrderedMap.get?_insert_self]
  · next error h => simp [h, hnew]

theorem visit_failures (graph : Graph) (walk : Walk) (id : NodeId) :
    (walk.visit graph id).failures = walk.failures ++ (walk.ownFailure? graph id).toList := by
  unfold visit ownFailure?
  split
  · next h => simp [h]
  · next outputs h => simp [h]
  · next error h => simp [h]

/-- Passing a node changes nothing for the nodes that do not read from it. -/
theorem compute?_visit (wellFormed : graph.WellFormed) {last id : NodeId}
    (hfeeds : ¬ graph.Feeds last id) :
    (walk.visit graph last).compute? graph id = walk.compute? graph id := by
  have hsource : ∀ source, graph.Feeds source id → source ≠ last := by
    rintro source h rfl
    exact hfeeds h
  refine compute?_congr wellFormed (fun source h ↦ ?_) fun source h ↦ ?_
  · rw [visit_states, OrderedMap.get?_insert_of_ne _ (hsource source h)]
  · exact get?_visit_outputs_of_ne (hsource source h)

theorem follows_empty : empty.Follows graph [] where
  state id := by simp [empty]
  outputs id outputs := by simp [empty]
  failures := rfl

theorem Follows.visit (wellFormed : graph.WellFormed) {passed : List NodeId}
    (follows : walk.Follows graph passed) {last : NodeId} (hnew : last ∉ passed)
    (hlast : ∀ id ∈ passed ++ [last], ¬ graph.Feeds last id) :
    (walk.visit graph last).Follows graph (passed ++ [last]) := by
  have hcompute : ∀ id ∈ passed ++ [last],
      (walk.visit graph last).compute? graph id = walk.compute? graph id :=
    fun id hid ↦ compute?_visit wellFormed (hlast id hid)
  have hself := hcompute last (List.mem_append_right _ (List.mem_singleton_self last))
  refine ⟨fun id ↦ ?_, fun id outputs ↦ ?_, ?_⟩
  · rw [visit_states, OrderedMap.get?_insert, follows.state]
    by_cases hid : id = last
    · simp [hid, hself]
    · by_cases hpassed : id ∈ passed
      · simp [hid, hpassed, hcompute]
      · simp [hid, hpassed]
  · by_cases hid : id = last
    · subst hid
      have hnone : walk.outputs.get? id = none := by
        refine Option.eq_none_iff_forall_ne_some.mpr fun found h ↦ ?_
        exact hnew ((follows.outputs id found).mp h).1
      simp [get?_visit_outputs_self hnone, hself]
    · rw [get?_visit_outputs_of_ne hid, follows.outputs]
      by_cases hpassed : id ∈ passed
      · simp [hpassed, hcompute]
      · simp [hid, hpassed]
  · have hown : ∀ id ∈ passed ++ [last],
        (walk.visit graph last).ownFailure? graph id = walk.ownFailure? graph id := by
      intro id hid
      rw [ownFailure?, ownFailure?, hcompute id hid]
    rw [visit_failures, follows.failures, List.filterMap_congr hown, List.filterMap_append]
    rfl

/-- A walk along an order of the nodes has found of each node what its computation gives from what
the walk has found. -/
theorem follows_walk (wellFormed : graph.WellFormed) (orders : graph.Orders order) :
    (graph.walk order).Follows graph order := by
  refine Graph.prefix_induction
    (motive := fun passed ↦ (passed.foldl (Walk.visit graph) .empty).Follows graph passed)
    follows_empty fun passed last rest hsplit ih ↦ ?_
  rw [List.foldl_append]
  refine ih.visit wellFormed (orders.notMem_before hsplit) fun id hid hfeeds ↦ ?_
  exact orders.notMem_before hsplit (orders.mem_before hsplit hid hfeeds)

theorem Follows.state_of_compute? {passed : List NodeId} (follows : walk.Follows graph passed)
    {id : NodeId} (hid : id ∈ passed) :
    walk.states.get? id = some (verdict (walk.compute? graph id)) := by
  rw [follows.state, if_pos hid]

theorem ownFailure?_eq_some_iff {id : NodeId} {failure : NodeId × GraphError} :
    walk.ownFailure? graph id = some failure ↔
      id = failure.1 ∧ walk.compute? graph id = some (.error failure.2) := by
  obtain ⟨other, error⟩ := failure
  unfold ownFailure?
  split
  · next found hfound => simp [hfound]
  · next hnone =>
    refine iff_of_false (by simp) ?_
    rintro ⟨-, h⟩
    exact hnone error h

theorem Follows.mem_failures_iff {passed : List NodeId} (follows : walk.Follows graph passed)
    {id : NodeId} {error : GraphError} :
    (id, error) ∈ walk.failures ↔
      id ∈ passed ∧ walk.compute? graph id = some (.error error) := by
  rw [follows.failures, List.mem_filterMap]
  simp only [ownFailure?_eq_some_iff]
  constructor
  · rintro ⟨other, hmem, rfl, hcompute⟩
    exact ⟨hmem, hcompute⟩
  · rintro ⟨hmem, hcompute⟩
    exact ⟨id, hmem, rfl, hcompute⟩

end Walk

end FlowGraph
