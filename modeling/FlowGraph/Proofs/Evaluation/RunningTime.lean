import FlowGraph.Builtin.Processing
import FlowGraph.Proofs.Evaluation.Timeline
import Mathlib.Order.Bounds.Defs

/-!
How long an evaluation takes. A node is begun when all that it reads from has ended, so no chain of
dependencies takes longer than the clock says (`Keeps`). The work that has been begun is spent by
the running nodes, of which there is one at least at every time and no more than may be, so the
clock is between the work and its share for each place (`Shares`). Without a bound no node waits for
anything but its dependencies, so some chain is as long as the clock says (`Prompt`).
-/

set_option autoImplicit false
set_option relaxedAutoImplicit false

namespace FlowGraph

namespace Evaluation

/-- The durations along a chain of dependencies that ends with this span come to this total. -/
inductive PathTotal (graph : Graph) (spans : List Span) : Span → Nat → Prop where
  | single {span : Span} (mem : span ∈ spans) : PathTotal graph spans span span.duration
  | extend {source span : Span} {total : Nat} (path : PathTotal graph spans source total)
      (mem : span ∈ spans) (feeds : graph.Feeds source.node span.node) :
      PathTotal graph spans span (total + span.duration)

section PathTotal

variable {graph : Graph} {spans : List Span} {span : Span} {total : Nat}

theorem PathTotal.mem (path : PathTotal graph spans span total) : span ∈ spans := by
  cases path with
  | single mem => exact mem
  | extend _ mem _ => exact mem

theorem PathTotal.append (path : PathTotal graph spans span total) (more : List Span) :
    PathTotal graph (spans ++ more) span total := by
  induction path with
  | single mem => exact .single (List.mem_append_left more mem)
  | extend _ mem feeds ih => exact .extend ih (List.mem_append_left more mem) feeds

end PathTotal

theorem Span.work_append_singleton (spans : List Span) (span : Span) :
    work (spans ++ [span]) = work spans + span.duration := by
  simp [work]

namespace Run

/-- What of the begun work is still to be done. -/
def left (run : Run) : Nat := (run.running.map fun task ↦ task.deadline - run.clock).sum

variable {graph : Graph} {order : List NodeId} {limit : Option Nat} {run : Run}
  {spans : List Span} {position : Nat} {node : Node} {task : Task}

/-! ### When nodes begin and end -/

/-- The spans are those of the started nodes: a node is begun when all that it reads from has ended,
it ends at its deadline, and what does not run any more has ended. -/
structure Keeps (graph : Graph) (run : Run) (spans : List Span) : Prop where
  starts : run.events.filter Event.isStart =
    spans.map fun span ↦ .nodeStarted run.executionId span.node.text
  nodup : (spans.map Span.node).Nodup
  begun : ∀ span ∈ spans, run.states.get? span.node ≠ some .pending
  fed : ∀ span ∈ spans, ∀ source, graph.Feeds source span.node →
    run.states.get? source = some .resolved
  after : ∀ span ∈ spans, ∀ source ∈ spans, graph.Feeds source.node span.node →
    source.ended ≤ span.begun
  running : ∀ task ∈ run.running, run.clock ≤ task.deadline ∧
    ∃ span ∈ spans, span.node = task.node ∧ span.ended = task.deadline
  ended : ∀ span ∈ spans, span.ended ≤ run.clock ∨
    ∃ task ∈ run.running, task.node = span.node ∧ task.deadline = span.ended

theorem keeps_start (graph : Graph) (executionId : String) (order : List NodeId) :
    (start executionId graph order).Keeps graph [] where
  starts := rfl
  nodup := List.nodup_nil
  begun _ h := absurd h List.not_mem_nil
  fed _ h := absurd h List.not_mem_nil
  after _ h := absurd h List.not_mem_nil
  running _ h := absurd h List.not_mem_nil
  ended _ h := absurd h List.not_mem_nil

/-- No chain of dependencies takes longer than until its last node ends. -/
theorem Keeps.le_ended (keeps : run.Keeps graph spans) {span : Span} {total : Nat}
    (path : PathTotal graph spans span total) : total ≤ span.ended := by
  induction path with
  | single _ => exact Nat.le_add_left _ _
  | @extend source span total path mem feeds ih =>
    have hbegun := ih.trans (keeps.after span mem source path.mem feeds)
    exact Nat.add_le_add_right hbegun span.duration

/-- What has resolved has ended. -/
theorem Keeps.ended_of_resolved (keeps : run.Keeps graph spans) (tracks : run.Tracks graph order)
    {span : Span} (mem : span ∈ spans) (h : run.states.get? span.node = some .resolved) :
    span.ended ≤ run.clock := by
  rcases keeps.ended span mem with hended | ⟨task, running, hnode, -⟩
  · exact hended
  · have hresolving := (tracks.of_running running).1
    rw [hnode, h] at hresolving
    cases hresolving

theorem Keeps.startNode (keeps : run.Keeps graph spans) (tracks : run.Tracks graph order)
    (starts : run.Starts graph limit position node) :
    (startNode graph { run with ready := run.ready.erase position } node).Keeps graph
      (spans ++ [.ofStart graph run node]) := by
  obtain ⟨-, hpending, hnil⟩ := tracks.of_starts starts
  have hnew : ∀ span ∈ spans, span.node ≠ node.id := by
    intro span hspan heq
    exact keeps.begun span hspan (heq ▸ hpending)
  have hfed : ∀ span ∈ spans ++ [.ofStart graph run node], ∀ source,
      graph.Feeds source span.node → run.states.get? source = some .resolved :=
    List.forall_mem_append.mpr
      ⟨keeps.fed, List.forall_mem_singleton.mpr (unresolved_eq_nil_iff.mp hnil)⟩
  have hlast : Span.ofStart graph run node ∈ spans ++ [.ofStart graph run node] :=
    List.mem_append_right spans (List.mem_singleton_self _)
  refine ⟨?_, ?_, List.forall_mem_append.mpr ⟨fun span hspan ↦ ?_, List.forall_mem_singleton.mpr ?_⟩,
    fun span hspan source hfeeds ↦ ?_, fun span hspan source hsource hfeeds ↦ ?_,
    List.forall_mem_append.mpr ⟨fun task running ↦ ?_, List.forall_mem_singleton.mpr ?_⟩,
    List.forall_mem_append.mpr ⟨fun span hspan ↦ ?_, List.forall_mem_singleton.mpr ?_⟩⟩
  · change (run.events ++ [_]).filter Event.isStart = _
    rw [List.filter_append, keeps.starts, List.map_append]
    rfl
  · rw [List.map_append, List.map_singleton, ← List.concat_eq_append]
    refine List.Nodup.concat (fun hmem ↦ ?_) keeps.nodup
    obtain ⟨span, hspan, heq⟩ := List.mem_map.mp hmem
    exact hnew span hspan heq
  · change (run.states.insert node.id .resolving).get? span.node ≠ some .pending
    rw [OrderedMap.get?_insert_of_ne _ (hnew span hspan)]
    exact keeps.begun span hspan
  · change (run.states.insert node.id .resolving).get? node.id ≠ some .pending
    rw [OrderedMap.get?_insert_self]
    simp
  · change (run.states.insert node.id .resolving).get? source = some .resolved
    have hresolved := hfed span hspan source hfeeds
    have hne : source ≠ node.id := by
      intro heq
      simp [heq, hpending] at hresolved
    rw [OrderedMap.get?_insert_of_ne _ hne, hresolved]
  · -- the started node is pending, so it feeds neither itself nor any node begun before it
    have hresolved := hfed span hspan source.node hfeeds
    have hbefore : source ∈ spans := by
      refine (List.mem_append.mp hsource).resolve_right fun hlast ↦ ?_
      rw [List.mem_singleton.mp hlast] at hresolved
      exact absurd (hpending.symm.trans hresolved) (by simp)
    rcases List.mem_append.mp hspan with hold | hlast
    · exact keeps.after span hold source hbefore hfeeds
    · rw [List.mem_singleton.mp hlast]
      exact keeps.ended_of_resolved tracks hbefore hresolved
  · obtain ⟨hclock, span, hspan, h⟩ := keeps.running task running
    exact ⟨hclock, span, List.mem_append_left _ hspan, h⟩
  · exact ⟨Nat.le_add_right _ _, _, hlast, rfl, rfl⟩
  · refine (keeps.ended span hspan).imp_right fun h ↦ ?_
    obtain ⟨task, running, h⟩ := h
    exact ⟨task, List.mem_append_left _ running, h⟩
  · exact Or.inr ⟨_, List.mem_append_right _ (List.mem_singleton_self _), rfl, rfl⟩

/-- The clock moves to the deadline of a task that is due. -/
theorem Keeps.clock_complete (keeps : run.Keeps graph spans) (due : run.IsDue task) :
    (complete graph run task).clock = task.deadline := by
  rw [complete_frame]
  exact Nat.max_eq_right (keeps.running task due.running).1

theorem Keeps.complete (keeps : run.Keeps graph spans) (tracks : run.Tracks graph order)
    (due : run.IsDue task) :
    (complete graph run task).Keeps graph spans := by
  have hclock := keeps.clock_complete due
  obtain ⟨before, after, hsplit, hrest⟩ := tracks.running_split due.running
  refine ⟨?_, keeps.nodup, fun span hspan ↦ ?_, fun span hspan source hfeeds ↦ ?_, keeps.after,
    fun other hother ↦ ?_, fun span hspan ↦ ?_⟩
  · rw [starts_complete, keeps.starts, complete_frame]
    rfl
  · exact not_pending_complete graph task (keeps.begun span hspan)
  · exact tracks.resolved_complete due.running (keeps.fed span hspan source hfeeds)
  · rw [hrest] at hother
    have hrunning : other ∈ run.running := by
      rw [hsplit]
      exact (List.mem_append.mp hother).elim (List.mem_append_left _) fun h ↦
        List.mem_append_right _ (List.mem_cons_of_mem task h)
    rw [hclock]
    exact ⟨due.earliest other hrunning, (keeps.running other hrunning).2⟩
  · rw [hclock, hrest]
    rcases keeps.ended span hspan with hended | ⟨other, hother, hnode, hdeadline⟩
    · exact Or.inl (hended.trans (keeps.running task due.running).1)
    · rw [hsplit, List.mem_append, List.mem_cons] at hother
      rcases hother with hbefore | rfl | hafter
      · exact Or.inr ⟨other, List.mem_append_left _ hbefore, hnode, hdeadline⟩
      · exact Or.inl (Nat.le_of_eq hdeadline.symm)
      · exact Or.inr ⟨other, List.mem_append_right _ hafter, hnode, hdeadline⟩

/-! ### Work -/

/-- What has been begun has been done or is left to do, by no more running nodes than may be. -/
structure Shares (limit : Option Nat) (run : Run) (spans : List Span) : Prop where
  room : ∀ most, limit = some most → run.running.length ≤ most
  le_work : run.clock + run.left ≤ Span.work spans
  work_le : ∀ most, limit = some most → Span.work spans ≤ most * run.clock + run.left

theorem shares_start (graph : Graph) (executionId : String) (order : List NodeId)
    (limit : Option Nat) : (start executionId graph order).Shares limit [] where
  room _ _ := Nat.zero_le _
  le_work := Nat.le_refl 0
  work_le _ _ := Nat.zero_le _

theorem left_startNode (graph : Graph) (run : Run) (position : Nat) (node : Node) :
    (Run.startNode graph { run with ready := run.ready.erase position } node).left =
      run.left + (Span.ofStart graph run node).duration := by
  simp [left, Run.startNode, Span.ofStart]

theorem Shares.startNode (shares : run.Shares limit spans)
    (starts : run.Starts graph limit position node) :
    (startNode graph { run with ready := run.ready.erase position } node).Shares limit
      (spans ++ [.ofStart graph run node]) := by
  refine ⟨fun most hlimit ↦ ?_, ?_, fun most hlimit ↦ ?_⟩
  · have hroom := starts.room
    rw [IsFull, hlimit, Option.any_some, decide_eq_true_eq] at hroom
    change (run.running ++ [_]).length ≤ most
    rw [List.length_append]
    exact Nat.lt_of_not_le hroom
  · rw [left_startNode, Span.work_append_singleton, ← Nat.add_assoc]
    exact Nat.add_le_add_right shares.le_work _
  · rw [left_startNode, Span.work_append_singleton, ← Nat.add_assoc]
    exact Nat.add_le_add_right (shares.work_le most hlimit) _

/-- Until a time before all deadlines every task does the same share of its work. -/
theorem sum_deadline_sub {tasks : List Task} {now later : Nat} (hlater : now ≤ later)
    (h : ∀ task ∈ tasks, later ≤ task.deadline) :
    (tasks.map fun task ↦ task.deadline - now).sum =
      (tasks.map fun task ↦ task.deadline - later).sum + tasks.length * (later - now) := by
  induction tasks with
  | nil => simp
  | cons task rest ih =>
    have hfirst := h task List.mem_cons_self
    have hrest := ih fun other hother ↦ h other (List.mem_cons_of_mem task hother)
    rw [List.map_cons, List.sum_cons, List.map_cons, List.sum_cons, hrest, List.length_cons,
      Nat.succ_mul]
    omega

/-- Until the first deadline every running node does the same share of its work. -/
theorem Keeps.left_eq (keeps : run.Keeps graph spans) (tracks : run.Tracks graph order)
    (due : run.IsDue task) :
    run.left = (Run.complete graph run task).left +
      run.running.length * (task.deadline - run.clock) := by
  obtain ⟨before, after, hsplit, hrest⟩ := tracks.running_split due.running
  have hshare := sum_deadline_sub (keeps.running task due.running).1 due.earliest
  have hleft : (Run.complete graph run task).left =
      (run.running.map fun other ↦ other.deadline - task.deadline).sum := by
    rw [left, keeps.clock_complete due, hrest, hsplit]
    simp
  rw [hleft, ← hshare, left]

theorem Shares.complete (shares : run.Shares limit spans) (keeps : run.Keeps graph spans)
    (tracks : run.Tracks graph order) (due : run.IsDue task) :
    (complete graph run task).Shares limit spans := by
  have hleft := keeps.left_eq tracks due
  have hclock := (keeps.running task due.running).1
  have hpos := List.length_pos_of_mem due.running
  obtain ⟨before, after, hsplit, hrest⟩ := tracks.running_split due.running
  refine ⟨fun most hlimit ↦ ?_, ?_, fun most hlimit ↦ ?_⟩
  · have hroom := shares.room most hlimit
    rw [hsplit] at hroom
    rw [hrest]
    simp only [List.length_append, List.length_cons] at hroom ⊢
    omega
  · have hone : task.deadline - run.clock ≤
        run.running.length * (task.deadline - run.clock) := Nat.le_mul_of_pos_left _ hpos
    have hwork := shares.le_work
    rw [keeps.clock_complete due]
    omega
  · have hmost : run.running.length * (task.deadline - run.clock) ≤
        most * (task.deadline - run.clock) :=
      Nat.mul_le_mul_right _ (shares.room most hlimit)
    have hsum : most * task.deadline = most * run.clock + most * (task.deadline - run.clock) := by
      rw [← Nat.mul_add, Nat.add_sub_cancel' hclock]
    have hwork := shares.work_le most hlimit
    rw [keeps.clock_complete due]
    omega

/-! ### Without a bound -/

/-- A node waits only for what it reads from: at every time some chain of dependencies has taken
until now, and so has one for every ready node and for the end of every node. -/
structure Prompt (graph : Graph) (run : Run) (spans : List Span) : Prop where
  clock : run.clock = 0 ∨ ∃ span ∈ spans, span.ended = run.clock
  ready : ∀ place id, run.ready.get? place = some id →
    run.clock = 0 ∨ ∃ span ∈ spans, graph.Feeds span.node id ∧ span.ended = run.clock
  total : ∀ span ∈ spans, PathTotal graph spans span span.ended

theorem prompt_start (graph : Graph) (executionId : String) (order : List NodeId) :
    (start executionId graph order).Prompt graph [] where
  clock := Or.inl rfl
  ready _ _ _ := Or.inl rfl
  total _ h := absurd h List.not_mem_nil

/-- A span that is begun with the clock at zero, or when a node that it reads from ends, ends a
chain of dependencies. -/
theorem Prompt.total_ofStart (prompt : run.Prompt graph spans)
    (h : run.clock = 0 ∨ ∃ span ∈ spans, graph.Feeds span.node node.id ∧ span.ended = run.clock) :
    PathTotal graph (spans ++ [.ofStart graph run node]) (.ofStart graph run node)
      (Span.ofStart graph run node).ended := by
  have hmem : Span.ofStart graph run node ∈ spans ++ [.ofStart graph run node] :=
    List.mem_append_right _ (List.mem_singleton_self _)
  rcases h with hzero | ⟨span, hspan, hfeeds, hended⟩
  · have hdone : (Span.ofStart graph run node).ended = (Span.ofStart graph run node).duration := by
      rw [Span.ended, Span.ofStart, hzero, Nat.zero_add]
    rw [hdone]
    exact .single hmem
  · have hdone : (Span.ofStart graph run node).ended =
        span.ended + (Span.ofStart graph run node).duration := by
      rw [hended]
      rfl
    rw [hdone]
    exact .extend ((prompt.total span hspan).append _) hmem hfeeds

theorem Prompt.startNode (prompt : run.Prompt graph spans)
    (starts : run.Starts graph limit position node) :
    (startNode graph { run with ready := run.ready.erase position } node).Prompt graph
      (spans ++ [.ofStart graph run node]) := by
  refine ⟨?_, fun place id h ↦ ?_, List.forall_mem_append.mpr
    ⟨fun span hspan ↦ (prompt.total span hspan).append _, List.forall_mem_singleton.mpr ?_⟩⟩
  · refine prompt.clock.imp_right fun h ↦ ?_
    obtain ⟨span, hspan, hended⟩ := h
    exact ⟨span, List.mem_append_left _ hspan, hended⟩
  · change (run.ready.erase position).get? place = some id at h
    rw [OrderedMap.get?_erase] at h
    split_ifs at h
    refine (prompt.ready place id h).imp_right fun h ↦ ?_
    obtain ⟨span, hspan, hfed⟩ := h
    exact ⟨span, List.mem_append_left _ hspan, hfed⟩
  · obtain ⟨rest, first⟩ := starts.first
    exact prompt.total_ofStart
      (prompt.ready position node.id (OrderedMap.get?_of_entries_cons first).1)

/-- Without a bound a node completes only when nothing is ready, so what is ready then has waited
for that node. -/
theorem Prompt.complete (prompt : run.Prompt graph spans) (keeps : run.Keeps graph spans)
    (tracks : run.Tracks graph order) (waits : run.IsFull none ∨ run.ready.entries = [])
    (due : run.IsDue task) : (complete graph run task).Prompt graph spans := by
  obtain ⟨-, span, hspan, hnode, hended⟩ := keeps.running task due.running
  rw [← keeps.clock_complete due] at hended
  refine ⟨Or.inr ⟨span, hspan, hended⟩, fun place id h ↦ Or.inr ⟨span, hspan, ?_, hended⟩,
    prompt.total⟩
  rw [hnode]
  refine (tracks.ready_complete h).resolve_left fun hready ↦ ?_
  have hnone : run.ready.entries = [] := waits.resolve_left Bool.false_ne_true
  rw [OrderedMap.get?, hnone] at hready
  cases hready

/-! ### All steps -/

/-- What a run along an order keeps when every step is taken at its time. -/
structure Paced (graph : Graph) (order : List NodeId) (limit : Option Nat)
    (timeline : Timeline) : Prop where
  tracks : timeline.run.Tracks graph order
  keeps : timeline.run.Keeps graph timeline.spans
  shares : timeline.run.Shares limit timeline.spans
  prompt : limit = none → timeline.run.Prompt graph timeline.spans

theorem Paced.step {timeline later : Timeline} (paced : Paced graph order limit timeline)
    (orders : graph.Orders order) (wellFormed : graph.WellFormed)
    (h : TimedStep graph limit timeline later) : Paced graph order limit later := by
  have tracks := paced.tracks.step orders wellFormed h.step
  cases h with
  | start starts =>
    exact ⟨tracks, paced.keeps.startNode paced.tracks starts, paced.shares.startNode starts,
      fun hlimit ↦ (paced.prompt hlimit).startNode starts⟩
  | complete waits due =>
    refine ⟨tracks, paced.keeps.complete paced.tracks due,
      paced.shares.complete paced.keeps paced.tracks due, fun hlimit ↦ ?_⟩
    exact (paced.prompt hlimit).complete paced.keeps paced.tracks (hlimit ▸ waits) due

theorem Paced.steps {timeline later : Timeline} (paced : Paced graph order limit timeline)
    (orders : graph.Orders order) (wellFormed : graph.WellFormed)
    (steps : TimedSteps graph limit timeline later) : Paced graph order limit later := by
  induction steps with
  | refl => exact paced
  | tail _ step ih => exact ih.step orders wellFormed step

theorem paced_start (executionId : String) (orders : graph.Orders order) (limit : Option Nat) :
    Paced graph order limit ⟨start executionId graph order, []⟩ where
  tracks := tracks_start executionId orders
  keeps := keeps_start graph executionId order
  shares := shares_start graph executionId order limit
  prompt _ := prompt_start graph executionId order

end Run

/-! ### The running time -/

/-- The law of the running time. The spans are those of the started nodes. Without a bound the
elapsed time is the greatest total along a chain of dependencies, and with a bound of zero or one it
is the sum of all durations; with any bound it is as long as every chain at least, and between the
sum and its share for each place. -/
structure Trace.KeepsTime (graph : Graph) (config : Config) (executionId : String) (trace : Trace)
    (spans : List Span) : Prop where
  started : trace.events.filter Event.isStart =
    spans.map fun span ↦ .nodeStarted executionId span.node.text
  nodup : (spans.map Span.node).Nodup
  unbounded : config.maxConcurrency = none →
    IsGreatest {total | total = 0 ∨ ∃ span, PathTotal graph spans span total} trace.elapsed
  serial : config.maxConcurrency = some 0 ∨ config.maxConcurrency = some 1 →
    trace.elapsed = Span.work spans
  total_le : ∀ span total, PathTotal graph spans span total → total ≤ trace.elapsed
  work_le : ∀ most, config.maxConcurrency = some most → 1 ≤ most →
    Span.work spans ≤ most * trace.elapsed
  le_work : trace.elapsed ≤ Span.work spans

variable {graph : Graph} {order : List NodeId} {config : Config} {run : Run} {spans : List Span}

theorem Run.elapsed_conclude (run : Run) : run.conclude.elapsed = run.clock := by
  unfold Run.conclude
  split <;> rfl

theorem Run.Paced.keepsTime (paced : Paced graph order config.bound ⟨run, spans⟩)
    (hidle : run.running = []) : run.conclude.KeepsTime graph config run.executionId spans := by
  have hleft : run.left = 0 := by rw [Run.left, hidle]; rfl
  have hended : ∀ span total, PathTotal graph spans span total → total ≤ run.clock := by
    intro span total path
    refine (paced.keeps.le_ended path).trans ?_
    rcases paced.keeps.ended span path.mem with h | ⟨task, running, -⟩
    · exact h
    · change task ∈ run.running at running
      rw [hidle] at running
      exact absurd running List.not_mem_nil
  have hlower := paced.shares.le_work
  have hupper := paced.shares.work_le
  simp only [hleft, Nat.add_zero] at hlower hupper
  refine ⟨?_, paced.keeps.nodup, fun hmost ↦ ?_, fun hmost ↦ ?_, ?_, fun most hmost hone ↦ ?_, ?_⟩
  · rw [Run.starts_conclude, paced.keeps.starts]
  · have hbound : config.bound = none := by rw [Config.bound, hmost, Option.map_none]
    rw [Run.elapsed_conclude]
    refine ⟨?_, fun total htotal ↦ ?_⟩
    · rcases (paced.prompt hbound).clock with hzero | ⟨span, hspan, hclock⟩
      · exact Or.inl hzero
      · exact Or.inr ⟨span, hclock ▸ (paced.prompt hbound).total span hspan⟩
    · rcases htotal with rfl | ⟨span, path⟩
      · exact Nat.zero_le _
      · exact hended span total path
  · have hone := hupper 1 (Config.bound_eq_one hmost)
    rw [Nat.one_mul] at hone
    rw [Run.elapsed_conclude]
    exact Nat.le_antisymm hlower hone
  · rw [Run.elapsed_conclude]
    exact hended
  · have hbound : config.bound = some most := by
      rw [Config.bound, hmost, Option.map_some, Nat.max_eq_right hone]
    rw [Run.elapsed_conclude]
    exact hupper most hbound
  · rw [Run.elapsed_conclude]
    exact hlower

end Evaluation

namespace Graph

open Evaluation

/-- Running time keeps the law of schedules. An evaluation of a graph without cycles has a timeline,
and on every timeline, whichever of several nodes that are due completes first, the time that has
elapsed keeps the law for the spans of the nodes that were started. -/
theorem evaluation_keeps_time (graph : Graph) (reachable : graph.Reachable)
    (acyclic : graph.Acyclic) (config : Config) (freshId : String) :
    (∃ spans, graph.EvaluatesOnTime config freshId (graph.evaluate config freshId) spans) ∧
      ∀ trace spans, graph.EvaluatesOnTime config freshId trace spans →
        trace.KeepsTime graph config (config.executionId.getD freshId) spans := by
  have wellFormed := reachable.wellFormed
  obtain ⟨order, horder⟩ := exists_order_of_acyclic wellFormed acyclic
  refine ⟨wellFormed.exists_evaluatesOnTime horder config freshId, fun trace spans h ↦ ?_⟩
  obtain ⟨other, final, hother, steps, ended, rfl⟩ := h
  have orders := orders_of_order wellFormed hother
  have paced := (Run.paced_start _ orders config.bound).steps orders wellFormed steps
  have hid := Run.executionId_of_steps (Run.steps_of_timedSteps steps)
  obtain ⟨hidle, -⟩ :=
    paced.tracks.idle_of_isOver orders wellFormed config.bound_ne_zero ended
  have hkeeps := paced.keepsTime hidle
  change final.executionId = config.executionId.getD freshId at hid
  rwa [hid] at hkeeps

/-- A text that goes through two delays, of which the one takes longer than the other. -/
def pauses : Graph :=
  afterEdits
    [ .createNode (.ofTypes [Builtin.textInput]) (.ofNat 1) "text-input" .empty,
      .createNode (.ofTypes [Builtin.delay]) (.ofNat 2) "delay"
        (.ofList [("millis", .integer 30)]),
      .createNode (.ofTypes [Builtin.delay]) (.ofNat 3) "delay"
        (.ofList [("millis", .integer 20)]),
      .connect (.ofNat 1) "text" (.ofNat 2) "value" .string,
      .connect (.ofNat 1) "text" (.ofNat 3) "value" .string ]

theorem reachable_pauses : pauses.Reachable := ⟨_, rfl⟩

theorem order_pauses : pauses.order = .ok [.ofNat 1, .ofNat 2, .ofNat 3] := by
  decide

theorem acyclic_pauses : pauses.Acyclic :=
  (orders_of_order reachable_pauses.wellFormed order_pauses).acyclic reachable_pauses.wellFormed

theorem elapsed_pauses :
    (pauses.evaluate ⟨none, none⟩ "run").elapsed = 30 ∧
      (pauses.evaluate ⟨some 1, none⟩ "run").elapsed = 50 := by
  decide +kernel

/-- Without a bound the longer delay is all that is waited for, and one at a time the two delays are
waited for one after the other. -/
theorem evaluation_keeps_time_pauses :
    pauses.Reachable ∧ pauses.Acyclic ∧
      (∃ spans, pauses.EvaluatesOnTime ⟨none, none⟩ "run"
          (pauses.evaluate ⟨none, none⟩ "run") spans ∧
        IsGreatest {total | total = 0 ∨ ∃ span, PathTotal pauses spans span total} 30) ∧
      ∃ spans, pauses.EvaluatesOnTime ⟨some 1, none⟩ "run"
          (pauses.evaluate ⟨some 1, none⟩ "run") spans ∧
        Span.work spans = 50 := by
  obtain ⟨hunbounded, hserial⟩ := elapsed_pauses
  obtain ⟨⟨spans, htimes⟩, hkeeps⟩ :=
    evaluation_keeps_time pauses reachable_pauses acyclic_pauses ⟨none, none⟩ "run"
  obtain ⟨⟨queued, hqueued⟩, hqueues⟩ :=
    evaluation_keeps_time pauses reachable_pauses acyclic_pauses ⟨some 1, none⟩ "run"
  refine ⟨reachable_pauses, acyclic_pauses, ⟨spans, htimes, ?_⟩, queued, hqueued, ?_⟩
  · rw [← hunbounded]
    exact (hkeeps _ _ htimes).unbounded rfl
  · rw [← hserial]
    exact ((hqueues _ _ hqueued).serial (.inr rfl)).symm

end Graph

end FlowGraph
