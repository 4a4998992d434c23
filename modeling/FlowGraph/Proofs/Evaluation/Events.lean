import FlowGraph.Proofs.Evaluation.Agreement
import FlowGraph.Proofs.NodeId

/-!
What may stand in the events of an evaluation. An event is judged by the events before it
(`Event.Allowed`): a node is started after all it reads from have been reported as resolved, and a
skipped node follows the failure that it names, behind none but lesser nodes skipped by the same
failure. Events are listed by node, and counted to see how many nodes are running.
-/

set_option autoImplicit false
set_option relaxedAutoImplicit false

namespace FlowGraph.Evaluation

namespace Event

/-- The text of the node that an event is about. -/
def node? : Event → Option String
  | .nodeStarted _ node => some node
  | .nodeResolved _ node _ => some node
  | .nodeFailed _ node _ => some node
  | .nodeSkipped _ node _ => some node
  | _ => none

def isStart : Event → Bool
  | .nodeStarted _ _ => true
  | _ => false

def isCompletion : Event → Bool
  | .nodeResolved _ _ _ => true
  | .nodeFailed _ _ _ => true
  | _ => false

/-- The events about a node. -/
def about (id : NodeId) (events : List Event) : List Event :=
  events.filter fun event ↦ event.node? = some id.text

/-- Every event has this property of the events before it and itself. -/
def Each (property : List Event → Event → Prop) (events : List Event) : Prop :=
  ∀ before event after, events = before ++ event :: after → property before event

/-- What has to stand before an event. -/
def Allowed (graph : Graph) (executionId : String) (before : List Event) : Event → Prop
  | .nodeStarted _ node =>
    ∃ id : NodeId, node = id.text ∧ ∀ source, graph.Feeds source id →
      ∃ outputs, .nodeResolved executionId source.text outputs ∈ before
  | .nodeSkipped _ node origin =>
    ∃ (failed id : NodeId) (skipped : List NodeId) (earlier : List Event) (error : String),
      node = id.text ∧ origin = failed.text ∧ (skipped ++ [id]).Pairwise (· < ·) ∧
      before = earlier ++ .nodeFailed executionId failed.text error ::
        skipped.map fun other ↦ .nodeSkipped executionId other.text failed.text
  | _ => True

/-- At no time are more nodes running than this. -/
def Bounded (most : Nat) (events : List Event) : Prop :=
  ∀ before, before <+: events → before.countP isStart ≤ before.countP isCompletion + most

/-! ### One event after the other -/

theorem each_nil (property : List Event → Event → Prop) : Each property [] := by
  intro before event after h
  simp at h

theorem each_concat_iff {property : List Event → Event → Prop} {events : List Event}
    {last : Event} :
    Each property (events ++ [last]) ↔ Each property events ∧ property events last := by
  constructor
  · intro h
    refine ⟨fun before event after hsplit ↦ ?_, h events last [] rfl⟩
    exact h before event (after ++ [last]) (by simp [hsplit])
  · rintro ⟨heach, hlast⟩ before event after hsplit
    rcases List.eq_nil_or_concat after with rfl | ⟨rest, final, rfl⟩
    · obtain ⟨rfl, heq⟩ := List.append_inj' hsplit rfl
      rwa [← (List.cons.inj heq).1]
    · rw [List.concat_eq_append, ← List.cons_append, ← List.append_assoc] at hsplit
      exact heach before event rest (List.append_inj' hsplit rfl).1

theorem bounded_append {most : Nat} {events more : List Event} (bounded : Bounded most events)
    (h : ∀ begun, begun <+: more → (events ++ begun).countP isStart ≤
      (events ++ begun).countP isCompletion + most) : Bounded most (events ++ more) := by
  intro before hbefore
  rcases List.prefix_or_prefix_of_prefix hbefore (List.prefix_append events more) with hold | hnew
  · exact bounded before hold
  · obtain ⟨begun, rfl⟩ := hnew
    exact h begun ((List.prefix_append_right_inj events).mp hbefore)

/-- Without further starts a bound that leaves no one running too many is kept. -/
theorem bounded_append_of_no_start {most running : Nat} {events more : List Event}
    (bounded : Bounded most events)
    (hrunning : events.countP isStart = events.countP isCompletion + running)
    (hmost : running ≤ most) (hmore : ∀ event ∈ more, event.isStart = false) :
    Bounded most (events ++ more) := by
  refine bounded_append bounded fun begun hbegun ↦ ?_
  have hnone : begun.countP isStart = 0 := by
    refine List.countP_eq_zero.mpr fun event hevent ↦ ?_
    rw [hmore event (hbegun.subset hevent)]
    exact Bool.false_ne_true
  rw [List.countP_append, List.countP_append, hnone]
  omega

/-! ### Events about a node -/

theorem about_append (id : NodeId) (events more : List Event) :
    about id (events ++ more) = about id events ++ about id more :=
  List.filter_append events more

theorem about_of_node? {id : NodeId} {event : Event} (h : event.node? = some id.text) :
    about id [event] = [event] := by
  simp [about, h]

theorem about_of_ne {id other : NodeId} {event : Event} (h : event.node? = some other.text)
    (hne : id ≠ other) : about id [event] = [] := by
  have htext : other.text ≠ id.text := fun heq ↦ hne (NodeId.text_inj.mp heq).symm
  simp [about, h, htext]

theorem about_of_none {event : Event} (h : event.node? = none) (id : NodeId) :
    about id [event] = [] := by
  simp [about, h]

/-! ### The report of a failure -/

/-- What is reported when a node fails: its failure, and each node that is skipped with it. -/
def failureReport (executionId : String) (failed : NodeId) (error : String)
    (skipped : List NodeId) : List Event :=
  .nodeFailed executionId failed.text error ::
    skipped.map fun other ↦ .nodeSkipped executionId other.text failed.text

section FailureReport

variable {executionId error : String} {failed : NodeId} {skipped : List NodeId} {event : Event}

theorem mem_failureReport_iff :
    event ∈ failureReport executionId failed error skipped ↔
      event = .nodeFailed executionId failed.text error ∨
        ∃ id ∈ skipped, .nodeSkipped executionId id.text failed.text = event := by
  rw [failureReport, List.mem_cons, List.mem_map]

theorem isStart_of_mem_failureReport
    (h : event ∈ failureReport executionId failed error skipped) : event.isStart = false := by
  rcases mem_failureReport_iff.mp h with rfl | ⟨id, -, rfl⟩ <;> rfl

theorem countP_isCompletion_failureReport (executionId error : String) (failed : NodeId)
    (skipped : List NodeId) :
    (failureReport executionId failed error skipped).countP isCompletion = 1 := by
  have hnone : (skipped.map fun other ↦
      Event.nodeSkipped executionId other.text failed.text).countP isCompletion = 0 := by
    refine List.countP_eq_zero.mpr fun event hevent ↦ ?_
    obtain ⟨id, -, rfl⟩ := List.mem_map.mp hevent
    exact Bool.false_ne_true
  rw [failureReport, List.countP_cons, hnone]
  rfl

theorem about_skips (executionId origin : String) {skipped : List NodeId}
    (hnodup : skipped.Nodup) (id : NodeId) :
    about id (skipped.map fun other ↦ .nodeSkipped executionId other.text origin) =
      if id ∈ skipped then [.nodeSkipped executionId id.text origin] else [] := by
  induction skipped with
  | nil => rfl
  | cons first rest ih =>
    rw [List.nodup_cons] at hnodup
    rw [List.map_cons, ← List.singleton_append, about_append, ih hnodup.2]
    by_cases hid : id = first
    · subst hid
      rw [about_of_node? rfl, if_neg hnodup.1, if_pos List.mem_cons_self, List.append_nil]
    · rw [about_of_ne rfl hid, List.nil_append]
      simp [hid]

/-- Just one event is about each of the nodes that fail. -/
theorem about_failureReport (executionId error : String) (hnodup : skipped.Nodup)
    (hfailed : failed ∉ skipped) (id : NodeId) :
    about id (failureReport executionId failed error skipped) =
      if id = failed then [.nodeFailed executionId id.text error]
      else if id ∈ skipped then [.nodeSkipped executionId id.text failed.text] else [] := by
  rw [failureReport, ← List.singleton_append, about_append, about_skips _ _ hnodup]
  by_cases hid : id = failed
  · subst hid
    rw [about_of_node? rfl, if_neg hfailed, if_pos rfl, List.append_nil]
  · rw [about_of_ne rfl hid, if_neg hid, List.nil_append]

/-- After a failure, the nodes skipped with it may be reported in ascending order. -/
theorem each_allowed_append_failureReport {graph : Graph} {events : List Event}
    (heach : Each (Allowed graph executionId) events) (failed : NodeId) (error : String)
    (hascending : skipped.Pairwise (· < ·)) :
    Each (Allowed graph executionId)
      (events ++ failureReport executionId failed error skipped) := by
  unfold failureReport
  induction skipped using List.reverseRecOn with
  | nil => exact each_concat_iff.mpr ⟨heach, trivial⟩
  | append_singleton skipped id ih =>
    rw [List.map_append, List.map_singleton, ← List.cons_append, ← List.append_assoc]
    refine each_concat_iff.mpr ⟨ih (List.pairwise_append.mp hascending).1, ?_⟩
    exact ⟨failed, id, skipped, events, error, rfl, rfl, hascending, rfl⟩

end FailureReport

end Event

end FlowGraph.Evaluation
