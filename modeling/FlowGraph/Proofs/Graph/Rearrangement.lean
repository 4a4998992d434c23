import FlowGraph.Proofs.Graph.Problem
import FlowGraph.Proofs.Graph.TopologicalSort

/-!
The same connections in a different order. They are searched for the one into an input, scanned for
the neighbours of a node, and counted by the sort. One connection per input makes the search
independent of the order, neighbours are listed by identifier, and a count does not depend on the
order of what it counts; so graphs that differ in this order only have the same order of evaluation
or the same node on a cycle, and the same problems.
-/

set_option autoImplicit false
set_option relaxedAutoImplicit false

namespace FlowGraph.Graph

/-- The graphs have the same nodes, and the same connections in whatever order. -/
structure Rearranges (graph other : Graph) : Prop where
  nodes : graph.nodes = other.nodes
  connections : graph.connections.Perm other.connections

attribute [ext] Sorting

namespace Rearranges

variable {graph other : Graph} (rearranges : graph.Rearranges other)

include rearranges

theorem node?_eq (id : NodeId) : graph.node? id = other.node? id := by
  rw [node?, rearranges.nodes]
  rfl

theorem contains_eq (id : NodeId) : graph.contains id = other.contains id := by
  rw [contains, rearranges.nodes]
  rfl

theorem size_eq : graph.size = other.size := by
  rw [size, rearranges.nodes]
  rfl

/-- What one of the graphs keeps, the other keeps: none of it speaks of the order. -/
theorem wellFormed (wellFormed : graph.WellFormed) : other.WellFormed where
  own_id id node h := wellFormed.own_id id node ((rearranges.node?_eq id).trans h)
  coherent id node h := wellFormed.coherent id node ((rearranges.node?_eq id).trans h)
  joins connection h :=
    (wellFormed.joins connection (rearranges.connections.mem_iff.mpr h)).congr
      (rearranges.node?_eq _).symm (rearranges.node?_eq _).symm
  one_per_input := (rearranges.connections.map _).nodup_iff.mp wellFormed.one_per_input

theorem feeds_iff (source target : NodeId) :
    graph.Feeds source target ↔ other.Feeds source target := by
  unfold Feeds
  simp only [rearranges.connections.mem_iff]

theorem dependencies_eq (id : NodeId) : graph.dependencies id = other.dependencies id := by
  apply dependencies_congr
  exact fun source ↦ rearranges.feeds_iff source id

theorem dependents_eq (id : NodeId) : graph.dependents id = other.dependents id := by
  apply dependents_congr
  exact rearranges.feeds_iff id

/-- With one connection per input, the first one found is the only one there is. -/
theorem connectionInto?_eq (wellFormed : graph.WellFormed) (target : NodeId) (name : String) :
    graph.connectionInto? target name = other.connectionInto? target name := by
  have otherWellFormed := rearranges.wellFormed wellFormed
  exact wellFormed.connectionInto?_congr otherWellFormed
    (fun _ _ ↦ rearranges.connections.mem_iff) name

/-! ### The sort -/

theorem perm_edges : graph.edges.Perm other.edges := by
  refine (List.perm_ext_iff_of_nodup (nodup_edges graph) (nodup_edges other)).mpr ?_
  rintro ⟨source, target⟩
  rw [mem_edges_iff, mem_edges_iff]
  exact rearranges.feeds_iff source target

theorem start_eq (wellFormed : graph.WellFormed) :
    Sorting.start graph = Sorting.start other := by
  have hcounts : (Sorting.start graph).inDegree = (Sorting.start other).inDegree := by
    refine OrderedMap.eq_of_get?_eq fun id ↦ ?_
    have hopen : (graph.openEdges [] id).length = (other.openEdges [] id).length :=
      (rearranges.perm_edges.filter _).length_eq
    rw [Sorting.get?_inDegree_start wellFormed,
      Sorting.get?_inDegree_start (rearranges.wellFormed wellFormed), rearranges.contains_eq id,
      hopen]
  show Sorting.mk [] (.ofList ((Sorting.start graph).inDegree.filter fun _ degree ↦
    degree == 0).keys) (Sorting.start graph).inDegree = Sorting.start other
  rw [hcounts]
  rfl

theorem mem_targets_iff (node id : NodeId) :
    id ∈ Sorting.targets graph node ↔ id ∈ Sorting.targets other node := by
  unfold Sorting.targets
  rw [Sorting.mem_targets_iff, Sorting.mem_targets_iff]
  exact rearranges.feeds_iff node id

/-- The ends of the edges out of a placed node are counted down, each once, in whatever order. -/
theorem foldl_release_eq (sorting : Sorting) (node : NodeId) :
    (Sorting.targets graph node).foldl Sorting.release sorting =
      (Sorting.targets other node).foldl Sorting.release sorting := by
  have htargets := rearranges.mem_targets_iff node
  have hnodup : (Sorting.targets graph node).Nodup := Sorting.nodup_targets graph node
  have hother : (Sorting.targets other node).Nodup := Sorting.nodup_targets other node
  apply Sorting.ext
  · rw [Sorting.placed_foldl_release, Sorting.placed_foldl_release]
  · apply OrderedSet.eq_of_mem_toList_iff
    intro id
    rw [Sorting.mem_ready_foldl_release hnodup, Sorting.mem_ready_foldl_release hother, htargets]
  · apply OrderedMap.eq_of_get?_eq
    intro id
    rw [Sorting.inDegree_foldl_release hnodup, Sorting.inDegree_foldl_release hother]
    simp only [htargets]

theorem step_eq (sorting : Sorting) : sorting.step graph = sorting.step other := by
  cases hready : sorting.ready.toList with
  | nil =>
    unfold Sorting.step
    rw [hready]
  | cons node rest =>
    rw [Sorting.step_of_ready_cons graph hready, Sorting.step_of_ready_cons other hready,
      rearranges.foldl_release_eq]

theorem run_eq (fuel : Nat) (sorting : Sorting) :
    Sorting.run graph fuel sorting = Sorting.run other fuel sorting := by
  induction fuel generalizing sorting with
  | zero => rfl
  | succ fuel ih =>
    unfold Sorting.run
    rw [rearranges.step_eq]
    split
    · rfl
    · next next _ => exact ih next

theorem leftOver_eq (wellFormed : graph.WellFormed) :
    graph.sorted = other.sorted ∧ graph.leftOver = other.leftOver := by
  have hsorted : graph.sorted = other.sorted := by
    unfold sorted
    rw [rearranges.run_eq, rearranges.start_eq wellFormed]
  refine ⟨hsorted, ?_⟩
  unfold leftOver
  rw [hsorted, rearranges.nodes]

theorem walkBack_eq (inside : List NodeId) (fuel : Nat) (seen : List NodeId)
    (current : NodeId) :
    graph.walkBack inside fuel seen current = other.walkBack inside fuel seen current := by
  induction fuel generalizing seen current with
  | zero => rfl
  | succ fuel ih =>
    unfold walkBack
    rw [rearranges.dependencies_eq]
    simp only [ih]

theorem order_eq (wellFormed : graph.WellFormed) : graph.order = other.order := by
  obtain ⟨hsorted, hleft⟩ := rearranges.leftOver_eq wellFormed
  rw [Graph.order_eq, Graph.order_eq, hsorted, hleft]
  simp only [rearranges.walkBack_eq]

theorem topologicalOrder_eq (wellFormed : graph.WellFormed) :
    graph.topologicalOrder = other.topologicalOrder := by
  unfold topologicalOrder
  rw [rearranges.order_eq wellFormed]

theorem findCycle_eq (wellFormed : graph.WellFormed) : graph.findCycle = other.findCycle := by
  unfold findCycle
  rw [rearranges.order_eq wellFormed]

theorem problems_eq (wellFormed : graph.WellFormed) : graph.problems = other.problems := by
  unfold problems isSupplied
  rw [rearranges.findCycle_eq wellFormed, rearranges.nodes]
  simp only [rearranges.connectionInto?_eq wellFormed]

end Rearranges

end FlowGraph.Graph
