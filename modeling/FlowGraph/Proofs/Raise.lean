import FlowGraph.Proofs.Node

/-!
What errors a computation can raise. A computation raises allowed errors only when its parts do, so
a property of all errors of an operation is proved along the operation: at each point where an error
is raised, with what is known there.
-/

set_option autoImplicit false
set_option relaxedAutoImplicit false

namespace FlowGraph

/-- Every error that a result may be is an allowed one. -/
def RaisesOnly {ε α : Type} (allowed : ε → Prop) (result : Except ε α) : Prop :=
  ∀ error, result = .error error → allowed error

section RaisesOnly

variable {ε ε' α β σ : Type} {allowed : ε → Prop} {allowed' : ε' → Prop}

theorem raisesOnly_ok (a : α) : RaisesOnly allowed (.ok a : Except ε α) := by
  intro error h
  cases h

theorem raisesOnly_error_iff {error : ε} :
    RaisesOnly allowed (.error error : Except ε α) ↔ allowed error := by
  constructor
  · intro h
    exact h error rfl
  · intro h other hother
    cases hother
    exact h

theorem RaisesOnly.imp {wider : ε → Prop} {result : Except ε α} (h : RaisesOnly allowed result)
    (himp : ∀ error, allowed error → wider error) : RaisesOnly wider result :=
  fun error herror ↦ himp error (h error herror)

theorem RaisesOnly.bind {first : Except ε α} {next : α → Except ε β}
    (hfirst : RaisesOnly allowed first)
    (hnext : ∀ a, first = .ok a → RaisesOnly allowed (next a)) :
    RaisesOnly allowed (first >>= next) := by
  intro error h
  rcases bind_eq_error_iff.mp h with herror | ⟨a, ha, herror⟩
  · exact hfirst error herror
  · exact hnext a ha error herror

/-- Steps in a row raise allowed errors only when each does from where those before it have led. -/
theorem raisesOnly_foldlM_extends (holds : List α → σ → Prop) {step : σ → α → Except ε σ}
    (hstep : ∀ done state item next, holds done state → step state item = .ok next →
      holds (done ++ [item]) next)
    (done items : List α)
    (hraises : ∀ before item after state, items = before ++ item :: after →
      holds (done ++ before) state → RaisesOnly allowed (step state item))
    {state : σ} (hstate : holds done state) : RaisesOnly allowed (items.foldlM step state) := by
  induction items generalizing done state with
  | nil => exact raisesOnly_ok state
  | cons item rest ih =>
    have hfirst : RaisesOnly allowed (step state item) :=
      hraises [] item rest state rfl (by rwa [List.append_nil])
    rw [List.foldlM_cons]
    refine hfirst.bind fun next hnext ↦ ?_
    refine ih (done ++ [item]) (fun before other after later hsplit hbefore ↦ ?_)
      (hstep done state item next hstate hnext)
    rw [← List.append_cons] at hbefore
    exact hraises (item :: before) other after later (congrArg (item :: ·) hsplit) hbefore

/-- Where one step from a good state raises allowed errors only and ends in a good state, so do
steps in a row. -/
theorem raisesOnly_foldlM (good : σ → Prop) {step : σ → α → Except ε σ}
    (hraises : ∀ state item, good state → RaisesOnly allowed (step state item))
    (hkeeps : ∀ state item next, good state → step state item = .ok next → good next)
    (items : List α) {state : σ} (hstate : good state) :
    RaisesOnly allowed (items.foldlM step state) :=
  raisesOnly_foldlM_extends (fun _ ↦ good) (fun _ ↦ hkeeps) [] items
    (fun _ item _ state _ ↦ hraises state item) hstate

end RaisesOnly

end FlowGraph
