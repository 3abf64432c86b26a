import Mathlib.Data.List.Basic

/-! Programs over a state that may throw: what they have changed before a `throw` stays changed. -/

namespace Txing.Library.Exceptions
variable {State Error α β : Type}

def exec (program : ExceptT Error (StateM State) α) (state : State) : Except Error α × State := program.run.run state

theorem exec_bind (first : ExceptT Error (StateM State) α) (next : α → ExceptT Error (StateM State) β) (state : State) :
    exec (first >>= next) state = match exec first state with
      | (.ok value, after) => exec (next value) after
      | (.error error, after) => (.error error, after) := by
  unfold exec
  rw [ExceptT.run_bind, StateT.run_bind]
  rcases first.run.run state with ⟨value | error, after⟩ <;> rfl

theorem exec_tryCatch (first : ExceptT Error (StateM State) α) (handler : Error → ExceptT Error (StateM State) α)
    (state : State) :
    exec (tryCatch first handler) state = match exec first state with
      | (.ok value, after) => (.ok value, after)
      | (.error error, after) => exec (handler error) after := by
  unfold exec
  rw [ExceptT.run_tryCatch, StateT.run_bind]
  rcases first.run.run state with ⟨value | error, after⟩ <;> rfl

theorem exec_bind_ok {first : ExceptT Error (StateM State) α} {state after : State} {value : α}
    (ran : exec first state = (.ok value, after)) (next : α → ExceptT Error (StateM State) β) :
    exec (first >>= next) state = exec (next value) after := by
  rw [exec_bind, ran]

/-- A program whose outcome is not looked at. -/
theorem exec_ignored (program : ExceptT Error (StateM State) α) (state : State) :
    (exec (do let _ ← program) state).2 = (exec program state).2 := by
  rw [exec_bind]
  rcases exec program state with ⟨error | value, after⟩ <;> rfl

/-- A program whose exception is passed over. -/
theorem exec_attempted (program : ExceptT Error (StateM State) α) (state : State) :
    exec (tryCatch (do let _ ← program) fun _ => pure ()) state = (.ok (), (exec program state).2) := by
  rw [exec_tryCatch, exec_bind]
  rcases exec program state with ⟨error | value, after⟩ <;> rfl

end Txing.Library.Exceptions
