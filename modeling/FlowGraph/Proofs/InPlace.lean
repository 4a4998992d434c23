import FlowGraph.GraphError

/-!
Operations on something that is held in place, step by step. What such an operation has written stays
when it fails; a check writes nothing and ends the operation when it fails.
-/

set_option autoImplicit false
set_option relaxedAutoImplicit false

namespace FlowGraph

variable {σ α β : Type} (state : σ)

theorem run_bind (first : ExceptT GraphError (StateM σ) α)
    (next : α → ExceptT GraphError (StateM σ) β) :
    (first >>= next) state =
      match first state with
      | (.ok answer, after) => next answer after
      | (.error error, after) => (.error error, after) := by
  have hbind : (first >>= next) state = ExceptT.bindCont next (first state).1 (first state).2 :=
    rfl
  rw [hbind]
  obtain ⟨answer | error, after⟩ := first state
  · rfl
  · rfl

theorem run_get_bind (next : σ → ExceptT GraphError (StateM σ) α) :
    ((get : ExceptT GraphError (StateM σ) σ) >>= next) state = next state state := rfl

theorem run_modify_bind (change : σ → σ) (next : Unit → ExceptT GraphError (StateM σ) α) :
    ((modify change : ExceptT GraphError (StateM σ) Unit) >>= next) state =
      next () (change state) := rfl

theorem run_check_bind (check : Except GraphError α)
    (next : α → ExceptT GraphError (StateM σ) β) :
    ((liftM check : ExceptT GraphError (StateM σ) α) >>= next) state =
      match check with
      | .ok a => next a state
      | .error error => (.error error, state) := by
  cases check with
  | error error => rfl
  | ok a => rfl

end FlowGraph
