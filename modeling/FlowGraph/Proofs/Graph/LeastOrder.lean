import FlowGraph.Proofs.Graph.TopologicalSort
import Mathlib.Data.List.Lex

/-!
Ties between nodes. What the sort has ready are the nodes that can come next, and it places the least
of them; so every node of an order is the least that can follow those before it (`TakesLeast`). Where
another order first differs, it goes on with a node that could have come next too, which is a greater
one; so no order of the nodes is smaller (`TakesLeast.least`).
-/

set_option autoImplicit false
set_option relaxedAutoImplicit false

namespace FlowGraph.Graph

variable {graph : Graph} {before order other : List NodeId} {id last : NodeId}

/-- The node can come next behind some nodes: it is none of them, and all that it reads from is
among them. -/
structure CanFollow (graph : Graph) (before : List NodeId) (id : NodeId) : Prop where
  contains : graph.contains id = true
  new : id ∉ before
  sources : ∀ source, graph.Feeds source id → source ∈ before

/-- The node is the least of those that can come next. -/
structure IsNext (graph : Graph) (before : List NodeId) (id : NodeId) : Prop where
  follows : graph.CanFollow before id
  least : ∀ other, graph.CanFollow before other → id ≤ other

/-- Each node of a list comes next behind those before it. -/
def TakesLeast (graph : Graph) (order : List NodeId) : Prop :=
  ∀ before id rest, order = before ++ id :: rest → graph.IsNext before id

theorem takesLeast_nil (graph : Graph) : graph.TakesLeast [] := by
  intro before id rest h
  simp at h

theorem TakesLeast.concat (takes : graph.TakesLeast before) (next : graph.IsNext before last) :
    graph.TakesLeast (before ++ [last]) := by
  intro first id rest hsplit
  rcases List.eq_nil_or_concat rest with rfl | ⟨rest, final, rfl⟩
  · obtain ⟨rfl, heq⟩ := List.append_inj' hsplit rfl
    rwa [← (List.cons.inj heq).1]
  · rw [List.concat_eq_append, ← List.cons_append, ← List.append_assoc] at hsplit
    exact takes first id rest (List.append_inj' hsplit rfl).1

/-! ### The sort -/

namespace Sorting

/-- The ready nodes are those that can come next behind the placed ones. -/
theorem Sound.mem_ready_iff {sorting : Sorting} (sound : sorting.Sound graph) :
    id ∈ sorting.ready.toList ↔ graph.CanFollow sorting.placed.reverse id := by
  rw [sound.ready, openEdges_eq_nil_iff]
  constructor
  · rintro ⟨hcontains, hnew, hsources⟩
    exact ⟨hcontains, mt List.mem_reverse.mp hnew,
      fun source hfeeds ↦ List.mem_reverse.mpr (hsources source hfeeds)⟩
  · intro follows
    exact ⟨follows.contains, mt List.mem_reverse.mpr follows.new,
      fun source hfeeds ↦ List.mem_reverse.mp (follows.sources source hfeeds)⟩

/-- The first ready node comes next, since ready nodes are listed in ascending order. -/
theorem Sound.isNext {sorting : Sorting} (sound : sorting.Sound graph) {node : NodeId}
    {rest : List NodeId} (hready : sorting.ready.toList = node :: rest) :
    graph.IsNext sorting.placed.reverse node where
  follows := sound.mem_ready_iff.mp (hready ▸ List.mem_cons_self)
  least other follows := by
    have hmem := sound.mem_ready_iff.mpr follows
    have hascending := OrderedSet.pairwise_toList sorting.ready
    rw [hready] at hmem hascending
    rcases List.mem_cons.mp hmem with rfl | hrest
    · exact Std.le_refl _
    · exact Std.le_of_lt (List.rel_of_pairwise_cons hascending hrest)

theorem Sound.takesLeast_step {sorting next : Sorting} (sound : sorting.Sound graph)
    (takes : graph.TakesLeast sorting.placed.reverse) (h : sorting.step graph = some next) :
    graph.TakesLeast next.placed.reverse := by
  cases hready : sorting.ready.toList with
  | nil =>
    rw [Sorting.step, hready] at h
    cases h
  | cons node rest =>
    rw [step_of_ready_cons graph hready, Option.some.injEq] at h
    rw [← h, placed_foldl_release, place, List.reverse_cons]
    exact takes.concat (sound.isNext hready)

theorem Sound.takesLeast_run {sorting : Sorting} (sound : sorting.Sound graph)
    (wellFormed : graph.WellFormed) (takes : graph.TakesLeast sorting.placed.reverse)
    (fuel : Nat) : graph.TakesLeast (Sorting.run graph fuel sorting).placed.reverse := by
  induction fuel generalizing sorting with
  | zero => exact takes
  | succ fuel ih =>
    rw [Sorting.run]
    cases hstep : sorting.step graph with
    | none => exact takes
    | some next => exact ih (sound.step wellFormed hstep).1 (sound.takesLeast_step takes hstep)

end Sorting

theorem WellFormed.takesLeast_of_order (wellFormed : graph.WellFormed)
    (h : graph.order = .ok order) : graph.TakesLeast order := by
  rw [order_eq] at h
  split at h
  · rw [← Except.ok.inj h]
    exact (Sorting.sound_start wellFormed).takesLeast_run wellFormed (takesLeast_nil graph) _
  · cases h

/-! ### Other orders -/

/-- A node of an order can follow those before it. -/
theorem Orders.canFollow (orders : graph.Orders order) {rest : List NodeId}
    (hsplit : order = before ++ id :: rest) : graph.CanFollow before id where
  contains := (orders.mem_iff id).mp (by simp [hsplit])
  new := orders.notMem_before hsplit
  sources := orders.after before id rest hsplit

/-- Nodes that begin two orders are all of the one only if they are all of the other. -/
theorem Orders.ne_append_cons (orders : graph.Orders before) {rest : List NodeId} :
    ¬ graph.Orders (before ++ id :: rest) := by
  intro longer
  have follows := longer.canFollow rfl
  exact follows.new ((orders.mem_iff id).mpr follows.contains)

/-- From where two orders part, the one that takes the least is smaller. -/
theorem TakesLeast.lex (takes : graph.TakesLeast order) (orders : graph.Orders order)
    (others : graph.Orders other) {rest otherRest : List NodeId} (hsplit : order = before ++ rest)
    (hother : other = before ++ otherRest) :
    rest = otherRest ∨ List.Lex (· < ·) rest otherRest := by
  induction rest generalizing before otherRest with
  | nil =>
    rw [List.append_nil] at hsplit
    cases otherRest with
    | nil => exact Or.inl rfl
    | cons id tail => exact absurd (hother ▸ others) (hsplit ▸ orders).ne_append_cons
  | cons first tail ih =>
    cases otherRest with
    | nil =>
      rw [List.append_nil] at hother
      exact absurd (hsplit ▸ orders) (hother ▸ others).ne_append_cons
    | cons second otherTail =>
      by_cases hsame : first = second
      · subst hsame
        rw [List.append_cons] at hsplit hother
        exact (ih hsplit hother).imp (congrArg _) .cons
      · have hle := (takes before first tail hsplit).least second (others.canFollow hother)
        exact Or.inr (.rel (Std.lt_of_le_of_ne hle hsame))

theorem TakesLeast.least (takes : graph.TakesLeast order) (orders : graph.Orders order)
    (others : graph.Orders other) : order = other ∨ List.Lex (· < ·) order other :=
  takes.lex orders others (List.nil_append order).symm (List.nil_append other).symm

/-- Ties are broken by identifier in the order as a whole: of all orders of the nodes of a graph
without cycles, each with every node after the nodes it reads from, the topological one is the least
in the lexicographic order by identifiers. -/
theorem topologicalOrder_least (graph : Graph) (reachable : graph.Reachable)
    (acyclic : graph.Acyclic) :
    ∃ order, graph.topologicalOrder = .ok order ∧ graph.Orders order ∧
      ∀ other, graph.Orders other → order = other ∨ List.Lex (· < ·) order other := by
  have wellFormed := reachable.wellFormed
  obtain ⟨order, horder⟩ := exists_order_of_acyclic wellFormed acyclic
  have orders := orders_of_order wellFormed horder
  have takes := wellFormed.takesLeast_of_order horder
  exact ⟨order, topologicalOrder_eq_ok_iff.mpr horder, orders, fun other ↦ takes.least orders⟩

/-- A text with the greatest identifier that goes to the node with the least one, and a node between
them that is not connected. -/
def detour : Graph :=
  afterEdits
    [ .createNode (.ofTypes [Builtin.textInput]) (.ofNat 3) "text-input" .empty,
      .createNode (.ofTypes [Builtin.textOutput]) (.ofNat 1) "text-output" .empty,
      .createNode (.ofTypes [Builtin.textInput]) (.ofNat 2) "text-input" .empty,
      .connect (.ofNat 3) "text" (.ofNat 1) "text" .string ]

theorem reachable_detour : detour.Reachable := ⟨_, rfl⟩

theorem order_detour : detour.order = .ok [.ofNat 2, .ofNat 3, .ofNat 1] := by
  decide

theorem acyclic_detour : detour.Acyclic :=
  (orders_of_order reachable_detour.wellFormed order_detour).acyclic reachable_detour.wellFormed

theorem topologicalOrder_least_detour :
    detour.Reachable ∧ detour.Acyclic ∧
      detour.topologicalOrder = .ok [.ofNat 2, .ofNat 3, .ofNat 1] ∧
      detour.Orders [.ofNat 2, .ofNat 3, .ofNat 1] ∧
      ∀ other, detour.Orders other →
        [.ofNat 2, .ofNat 3, .ofNat 1] = other ∨
          List.Lex (· < ·) [.ofNat 2, .ofNat 3, .ofNat 1] other := by
  obtain ⟨order, horder, hleast⟩ :=
    topologicalOrder_least detour reachable_detour acyclic_detour
  have hsorted : detour.topologicalOrder = .ok [.ofNat 2, .ofNat 3, .ofNat 1] :=
    topologicalOrder_eq_ok_iff.mpr order_detour
  obtain rfl := Except.ok.inj (horder.symm.trans hsorted)
  exact ⟨reachable_detour, acyclic_detour, horder, hleast⟩

end FlowGraph.Graph
