import FlowGraph.Proofs.Evaluation.Bookkeeping

/-!
How runs end. A run that can go no further has resolved or failed every node
(`Tracks.settled_of_isOver`), and every run comes to such an end, since each step moves a node on
(`Tracks.acc`).
-/

set_option autoImplicit false
set_option relaxedAutoImplicit false

namespace FlowGraph

namespace Evaluation.Run

variable {graph : Graph} {order : List NodeId} {run next : Run} {limit : Option Nat}

/-! ### The end of a run -/

/-- While there is room, the first ready node is one of the graph that is started. -/
theorem Tracks.starts_of_entries_cons (tracks : run.Tracks graph order)
    (orders : graph.Orders order) (wellFormed : graph.WellFormed) (room : ¬ run.IsFull limit)
    {position : Nat} {id : NodeId} {rest : List (Nat × NodeId)}
    (first : run.ready.entries = (position, id) :: rest) :
    ∃ node, node.id = id ∧ run.Starts graph limit position node := by
  have hplace := ((tracks.ready position id).mp (OrderedMap.get?_of_entries_cons first).1).1
  have hid := (orders.mem_iff id).mp (List.mem_of_getElem? hplace)
  obtain ⟨node, found⟩ := (Graph.contains_iff graph id).mp hid
  obtain rfl := wellFormed.own_id id node found
  exact ⟨node, rfl, room, ⟨rest, first⟩, found⟩

/-- With room for at least one node, a run goes on while a node is running or ready. -/
theorem Tracks.idle_of_isOver (tracks : run.Tracks graph order) (orders : graph.Orders order)
    (wellFormed : graph.WellFormed) (hlimit : limit ≠ some 0) (ended : run.IsOver graph limit) :
    run.running = [] ∧ run.ready.entries = [] := by
  have hready : ¬ run.IsFull limit → run.ready.entries = [] := by
    intro room
    cases first : run.ready.entries with
    | nil => rfl
    | cons entry rest =>
      obtain ⟨position, id⟩ := entry
      obtain ⟨node, -, starts⟩ := tracks.starts_of_entries_cons orders wellFormed room first
      exact absurd (Step.start starts) (ended _)
  have hrunning : run.running = [] := by
    refine List.eq_nil_iff_forall_not_mem.mpr fun task running ↦ ended _ (.complete ?_ running)
    exact or_iff_not_imp_left.mpr hready
  refine ⟨hrunning, hready ?_⟩
  rw [IsFull, hrunning]
  cases limit with
  | none => simp
  | some most => simpa [Nat.pos_iff_ne_zero] using hlimit

/-- A node has come to its end. -/
def IsSettled (run : Run) (id : NodeId) : Prop :=
  run.states.get? id = some .resolved ∨ run.states.get? id = some .failed

theorem Tracks.settled_of_isOver (tracks : run.Tracks graph order) (orders : graph.Orders order)
    (wellFormed : graph.WellFormed) (hlimit : limit ≠ some 0) (ended : run.IsOver graph limit) :
    ∀ id ∈ order, run.IsSettled id := by
  obtain ⟨hrunning, hready⟩ := tracks.idle_of_isOver orders wellFormed hlimit ended
  refine orders.induction fun id hid hsources ↦ ?_
  obtain ⟨state, hstate⟩ := (tracks.state id).mpr hid
  obtain ⟨place, hplace⟩ := List.mem_iff_getElem?.mp hid
  cases state with
  | resolved => exact Or.inl hstate
  | failed => exact Or.inr hstate
  | resolving =>
    have hmem := (tracks.running id).mpr hstate
    rw [hrunning] at hmem
    exact absurd hmem List.not_mem_nil
  | pending =>
    by_cases hfailed : ∃ source, graph.Feeds source id ∧ run.states.get? source = some .failed
    · obtain ⟨source, hfeeds, hsource⟩ := hfailed
      exact Or.inr (tracks.downstream source id hfeeds hsource)
    · have hnil : unresolved graph run.states id = [] := by
        refine unresolved_eq_nil_iff.mpr fun source hfeeds ↦ ?_
        exact (hsources source hfeeds).resolve_right fun h ↦ hfailed ⟨source, hfeeds, h⟩
      have hfirst := (tracks.ready place id).mpr ⟨hplace, hstate, hnil⟩
      rw [OrderedMap.get?, hready] at hfirst
      cases hfirst

/-! ### Every run ends -/

/-- What is left to do for a node: `start` for the start and one for the completion. -/
def remaining (start : Nat) : Option NodeState → Nat
  | some .pending => start + 1
  | some .resolving => 1
  | _ => 0

/-- What is left to do for all nodes. -/
def effort (start : Nat) (states : OrderedMap NodeId NodeState) : List NodeId → Nat
  | [] => 0
  | id :: rest => remaining start (states.get? id) + effort start states rest

section Effort

variable {states later : OrderedMap NodeId NodeState} {start : Nat}

theorem effort_le (order : List NodeId)
    (hle : ∀ id, remaining start (later.get? id) ≤ remaining start (states.get? id)) :
    effort start later order ≤ effort start states order := by
  induction order with
  | nil => exact Nat.le_refl 0
  | cons id rest ih => exact Nat.add_le_add (hle id) ih

theorem effort_lt (hle : ∀ id, remaining start (later.get? id) ≤ remaining start (states.get? id))
    {id : NodeId} (hid : id ∈ order)
    (hlt : remaining start (later.get? id) < remaining start (states.get? id)) :
    effort start later order < effort start states order := by
  induction order with
  | nil => exact absurd hid List.not_mem_nil
  | cons first rest ih =>
    rcases List.mem_cons.mp hid with rfl | hrest
    · exact Nat.add_lt_add_of_lt_of_le hlt (effort_le rest hle)
    · exact Nat.add_lt_add_of_le_of_lt (hle first) (ih hrest)

theorem remaining_insert_resolving {node : NodeId} (hpending : states.get? node = some .pending)
    (start : Nat) (id : NodeId) :
    remaining start (states.get? id) =
      remaining start ((states.insert node .resolving).get? id) +
        if id = node then start else 0 := by
  rw [OrderedMap.get?_insert]
  split_ifs with hid
  · rw [hid, hpending, remaining, remaining, Nat.add_comm]
  · rfl

theorem effort_insert_resolving_lt {node : NodeId} (hnode : node ∈ order)
    (hpending : states.get? node = some .pending) :
    effort 1 (states.insert node .resolving) order < effort 1 states order := by
  have hremaining := remaining_insert_resolving hpending 1
  refine effort_lt (fun id ↦ ?_) hnode ?_
  · exact Nat.le.intro (hremaining id).symm
  · rw [hremaining node, if_pos rfl]
    exact Nat.lt_succ_self _

/-- Where only completions count, a start leaves as much to do as before. -/
theorem effort_insert_resolving_eq {node : NodeId} (hpending : states.get? node = some .pending)
    (order : List NodeId) :
    effort 0 (states.insert node .resolving) order = effort 0 states order := by
  induction order with
  | nil => rfl
  | cons id rest ih =>
    rw [effort, effort, ih, remaining_insert_resolving hpending 0 id, ite_self, Nat.add_zero]

theorem effort_le_length (states : OrderedMap NodeId NodeState) (order : List NodeId) :
    effort 0 states order ≤ order.length := by
  induction order with
  | nil => exact Nat.le_refl 0
  | cons id rest ih =>
    have hone : remaining 0 (states.get? id) ≤ 1 := by
      unfold remaining
      split <;> simp
    rw [effort, List.length_cons, Nat.add_comm]
    exact Nat.add_le_add ih hone

end Effort

theorem remaining_of_isSettled {id : NodeId} (settled : run.IsSettled id) (start : Nat) :
    remaining start (run.states.get? id) = 0 := by
  rcases settled with h | h <;> rw [h] <;> rfl

/-- Completing a node settles it and leaves every other node settled or as it was. -/
theorem isSettled_complete (graph : Graph) (run : Run) (task : Task) (id : NodeId) :
    (complete graph run task).IsSettled id ∨
      id ≠ task.node ∧ (complete graph run task).states.get? id = run.states.get? id := by
  cases hresult : task.result with
  | ok outputs =>
    rw [complete_of_ok hresult, resolve_frame, IsSettled]
    change ((run.states.insert task.node .resolved).get? id = _ ∨
      (run.states.insert task.node .resolved).get? id = _) ∨
        id ≠ task.node ∧ (run.states.insert task.node .resolved).get? id = _
    rw [OrderedMap.get?_insert]
    split_ifs with hid
    · exact Or.inl (Or.inl rfl)
    · exact Or.inr ⟨hid, rfl⟩
  | error error =>
    rw [complete_of_error hresult, IsSettled, get?_states_fail]
    split_ifs with hid
    · exact Or.inl (Or.inr rfl)
    · exact Or.inr ⟨(not_or.mp hid).1, rfl⟩

theorem Tracks.effort_complete_lt (tracks : run.Tracks graph order) {task : Task}
    (running : task ∈ run.running) (start : Nat) :
    effort start (complete graph run task).states order < effort start run.states order := by
  have hresolving := (tracks.of_running running).1
  refine effort_lt (fun id ↦ ?_) ((tracks.state task.node).mp ⟨_, hresolving⟩) ?_
  · rcases isSettled_complete graph run task id with settled | ⟨-, hsame⟩
    · rw [remaining_of_isSettled settled]
      exact Nat.zero_le _
    · rw [hsame]
  · rcases isSettled_complete graph run task task.node with settled | ⟨hne, -⟩
    · rw [remaining_of_isSettled settled, hresolving]
      exact Nat.one_pos
    · exact absurd rfl hne

theorem Tracks.effort_step_lt (tracks : run.Tracks graph order)
    (step : Step graph limit run next) :
    effort 1 next.states order < effort 1 run.states order := by
  cases step with
  | start starts =>
    obtain ⟨hplace, hpending, -⟩ := tracks.of_starts starts
    exact effort_insert_resolving_lt (List.mem_of_getElem? hplace) hpending
  | complete _ running => exact tracks.effort_complete_lt running 1

/-- From a run there is no endless sequence of steps. -/
theorem Tracks.acc (tracks : run.Tracks graph order) (orders : graph.Orders order)
    (wellFormed : graph.WellFormed) : Acc (fun next run ↦ Step graph limit run next) run := by
  induction heffort : effort 1 run.states order using Nat.strong_induction_on generalizing run with
  | h effort ih =>
    refine Acc.intro run fun next step ↦ ?_
    have hlt := tracks.effort_step_lt step
    exact ih _ (heffort ▸ hlt) (tracks.step orders wellFormed step) rfl

end Evaluation.Run

end FlowGraph
