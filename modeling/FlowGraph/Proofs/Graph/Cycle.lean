import FlowGraph.Evaluation
import FlowGraph.Proofs.Graph.Problem
import FlowGraph.Proofs.Graph.TopologicalSort

/-!
The node that is named for a cycle. What the sort leaves over includes everything downstream of a
cycle, so the walk may start at a node that lies on none; but each node left over reads from another
one, and the walk goes on among them until it comes to a node that it has seen (`Trail.walkBack`).
All that it has seen lies downstream of where it stands, so this node can be reached from itself.
-/

set_option autoImplicit false
set_option relaxedAutoImplicit false

namespace FlowGraph.Graph

open Relation

variable {graph : Graph} {inside seen : List NodeId} {current : NodeId}

/-- The walk back inside a set of nodes without a bound on its steps: it stops at a node that it has
seen before, or at one that reads from no node inside, and goes on to the first such node
otherwise. -/
inductive WalksBack (graph : Graph) (inside : List NodeId) :
    List NodeId → NodeId → NodeId → Prop where
  | repeated {seen : List NodeId} {current : NodeId} (again : current ∈ seen) :
      WalksBack graph inside seen current current
  | stuck {seen : List NodeId} {current : NodeId} (new : current ∉ seen)
      (none : (graph.dependencies current).toList.find? inside.contains = none) :
      WalksBack graph inside seen current current
  | further {seen : List NodeId} {current next result : NodeId} (new : current ∉ seen)
      (some : (graph.dependencies current).toList.find? inside.contains = some next)
      (rest : WalksBack graph inside (current :: seen) next result) :
      WalksBack graph inside seen current result

/-- The way that a walk has come: different nodes inside, all of them downstream of the node where
it stands. -/
structure Trail (graph : Graph) (inside seen : List NodeId) (current : NodeId) : Prop where
  nodup : seen.Nodup
  seen_inside : seen ⊆ inside
  current_inside : current ∈ inside
  downstream : ∀ id ∈ seen, TransGen graph.Feeds current id

theorem trail_nil (h : current ∈ inside) : graph.Trail inside [] current where
  nodup := List.nodup_nil
  seen_inside := List.nil_subset inside
  current_inside := h
  downstream _ hid := absurd hid List.not_mem_nil

theorem Trail.further (trail : graph.Trail inside seen current) (new : current ∉ seen)
    {next : NodeId} (hnext : next ∈ inside) (hfeeds : graph.Feeds next current) :
    graph.Trail inside (current :: seen) next where
  nodup := List.nodup_cons.mpr ⟨new, trail.nodup⟩
  seen_inside := List.cons_subset.mpr ⟨trail.current_inside, trail.seen_inside⟩
  current_inside := hnext
  downstream id hid := by
    by_cases hcurrent : id = current
    · rw [hcurrent]
      exact .single hfeeds
    · exact .head hfeeds (trail.downstream id (List.mem_of_ne_of_mem hcurrent hid))

/-- Where every node inside reads from one inside, as many steps as there are unseen nodes inside
bring the walk to a repeated node, which can be reached from itself. -/
theorem Trail.walkBack (trail : graph.Trail inside seen current)
    (closed : ∀ id ∈ inside, ∃ source ∈ inside, graph.Feeds source id) {fuel : Nat}
    (hfuel : inside.length < fuel + seen.length) :
    graph.WalksBack inside seen current (graph.walkBack inside fuel seen current) ∧
      graph.walkBack inside fuel seen current ∈ inside ∧
      TransGen graph.Feeds (graph.walkBack inside fuel seen current)
        (graph.walkBack inside fuel seen current) := by
  induction fuel generalizing seen current with
  | zero =>
    have hle := (trail.nodup.subperm trail.seen_inside).length_le
    omega
  | succ fuel ih =>
    unfold Graph.walkBack
    by_cases again : current ∈ seen
    · rw [if_pos (List.contains_iff_mem.mpr again)]
      exact ⟨.repeated again, trail.current_inside, trail.downstream current again⟩
    · rw [if_neg (mt List.contains_iff_mem.mp again)]
      split
      · next next hnext =>
        have hinside : next ∈ inside := by simpa using List.find?_some hnext
        have hfeeds := mem_dependencies.mp (List.mem_of_find?_eq_some hnext)
        obtain ⟨hwalk, hrest⟩ := ih (trail.further again hinside hfeeds) (by
          rw [List.length_cons]
          omega)
        exact ⟨.further again hnext hwalk, hrest⟩
      · next hnone =>
        obtain ⟨source, hsource, hfeeds⟩ := closed current trail.current_inside
        have hnot := List.find?_eq_none.mp hnone source (mem_dependencies.mpr hfeeds)
        exact absurd (List.contains_iff_mem.mpr hsource) hnot

/-- The sort names a node that can be reached from itself, where the walk from the first node left
over comes to its end. -/
theorem WellFormed.onCycle_of_order_eq_error (wellFormed : graph.WellFormed) {id : NodeId}
    (h : graph.order = .error id) :
    graph.contains id = true ∧ TransGen graph.Feeds id id ∧
      ∃ first rest, graph.leftOver = first :: rest ∧
        graph.WalksBack graph.leftOver [] first id := by
  rw [order_eq] at h
  split at h
  · cases h
  · next first rest hleft =>
    have hfirst : first ∈ graph.leftOver := hleft ▸ List.mem_cons_self
    obtain ⟨hwalk, hinside, hcycle⟩ := (trail_nil hfirst).walkBack
      (fun _ ↦ wellFormed.exists_leftOver_source) (Nat.lt_succ_self _)
    rw [Except.error.inj h] at hwalk hinside hcycle
    exact ⟨(mem_leftOver_iff.mp hinside).1, hcycle, first, rest, hleft, hwalk⟩

/-- In a graph that has a cycle, one node is named by all that ask for it: by the search for a
cycle, by the order that is refused, by every evaluation and among the problems. It is a node of the
graph that can be reached from itself along one or more connections, and the walk that finds it,
upstream from the least node that the sort leaves over, comes to an end there. -/
theorem named_node_on_cycle (graph : Graph) (reachable : graph.Reachable)
    (cyclic : ¬ graph.Acyclic) :
    ∃ id, graph.contains id = true ∧ TransGen graph.Feeds id id ∧
      graph.findCycle = some id ∧
      graph.topologicalOrder = .error (.cyclicGraph id) ∧
      (∀ config freshId, ∃ report, (graph.evaluate config freshId).outcome = .failed report ∧
        report.node = id ∧ report.error = .cyclicGraph id) ∧
      (∀ other, .cycleDetected other ∈ graph.problems ↔ other = id) ∧
      ∃ first rest, graph.leftOver = first :: rest ∧
        graph.WalksBack graph.leftOver [] first id := by
  have wellFormed := reachable.wellFormed
  cases horder : graph.order with
  | ok order => exact absurd ((orders_of_order wellFormed horder).acyclic wellFormed) cyclic
  | error id =>
    obtain ⟨hcontains, hcycle, hwalk⟩ := wellFormed.onCycle_of_order_eq_error horder
    refine ⟨id, hcontains, hcycle, findCycle_eq_some_iff.mpr horder, ?_, fun config freshId ↦ ?_,
      fun other ↦ ?_, hwalk⟩
    · rw [topologicalOrder, horder]
      rfl
    · rw [evaluate, horder]
      exact ⟨_, rfl, rfl, rfl⟩
    · rw [cycleDetected_mem_problems_iff, findCycle_eq_some_iff, horder, Except.error.injEq]
      exact eq_comm

/-- Two texts that go round in a circle, and an output with the least identifier that reads from
one of them. -/
def spur : Graph :=
  afterEdits
    [ .createNode (.ofTypes [Builtin.textOutput]) (.ofNat 1) "text-output" .empty,
      .createNode (.ofTypes [Builtin.textInput]) (.ofNat 2) "text-input" .empty,
      .createNode (.ofTypes [Builtin.textInput]) (.ofNat 3) "text-input" .empty,
      .connect (.ofNat 2) "text" (.ofNat 3) "text" .string,
      .connect (.ofNat 3) "text" (.ofNat 2) "text" .string,
      .connect (.ofNat 3) "text" (.ofNat 1) "text" .string ]

theorem reachable_spur : spur.Reachable := ⟨_, rfl⟩

theorem order_spur : spur.order = .error (.ofNat 3) := by
  decide

theorem not_acyclic_spur : ¬ spur.Acyclic := by
  intro acyclic
  obtain ⟨order, h⟩ := exists_order_of_acyclic reachable_spur.wellFormed acyclic
  rw [order_spur] at h
  cases h

theorem named_node_on_cycle_spur :
    spur.Reachable ∧ ¬ spur.Acyclic ∧ spur.contains (.ofNat 3) = true ∧
      TransGen spur.Feeds (.ofNat 3) (.ofNat 3) ∧
      spur.findCycle = some (.ofNat 3) ∧
      spur.topologicalOrder = .error (.cyclicGraph (.ofNat 3)) ∧
      (∀ config freshId, ∃ report, (spur.evaluate config freshId).outcome = .failed report ∧
        report.node = .ofNat 3 ∧ report.error = .cyclicGraph (.ofNat 3)) ∧
      (∀ other, .cycleDetected other ∈ spur.problems ↔ other = .ofNat 3) ∧
      ∃ first rest, spur.leftOver = first :: rest ∧
        spur.WalksBack spur.leftOver [] first (.ofNat 3) := by
  obtain ⟨id, hid, cycle, hfound, hnamed⟩ :=
    named_node_on_cycle spur reachable_spur not_acyclic_spur
  have hthree : spur.findCycle = some (.ofNat 3) := findCycle_eq_some_iff.mpr order_spur
  obtain rfl := Option.some.inj (hfound.symm.trans hthree)
  exact ⟨reachable_spur, not_acyclic_spur, hid, cycle, hfound, hnamed⟩

end FlowGraph.Graph
