import FrontEnd.Proofs.Dialogue.Journal

/-!
# Stops that nothing catches

`Exposes` says that the run of a routine comes to an inner one with nothing around it that
would catch its stop. What the inner routine then stops with is what the whole run ends
with, in the same state, and whatever was to come after it does not happen.
-/

namespace FrontEnd.Routine

variable {Request : Type} {Reply : Request → Type} {ε σ τ α β : Type}

/-- The run of a routine comes to `inner`, with private state `held` and the engine at
    `stand`, and nothing around it catches `stop`: there are only routines that are to be
    continued, and handlers that pass the stop on. -/
inductive Exposes (answer : (request : Request) → τ → Reply request × τ) (stop : ε)
    (inner : Routine Request Reply ε σ β) (held : σ) (stand : τ) :
    {α : Type} → Routine Request Reply ε σ α → σ → τ → Prop where
  | itself : Exposes answer stop inner held stand inner held stand
  | first {γ α : Type} {routine : Routine Request Reply ε σ γ}
      (rest : γ → Routine Request Reply ε σ α) {own : σ} {state : τ}
      (within : Exposes answer stop inner held stand routine own state) :
      Exposes answer stop inner held stand (routine >>= rest) own state
  | second {γ α : Type} {routine : Routine Request Reply ε σ γ}
      {rest : γ → Routine Request Reply ε σ α} {own after : σ} {state reached : τ} {value : γ}
      (ran : run answer routine own state = (.ok value, after, reached))
      (within : Exposes answer stop inner held stand (rest value) after reached) :
      Exposes answer stop inner held stand (routine >>= rest) own state
  | attempt {α : Type} {routine : Routine Request Reply ε σ α}
      {handle : ε → Routine Request Reply ε σ α} {own : σ} {state : τ}
      (passes : handle stop = throw stop)
      (within : Exposes answer stop inner held stand routine own state) :
      Exposes answer stop inner held stand (tryCatch routine handle) own state
  | handler {α : Type} {routine : Routine Request Reply ε σ α}
      {handle : ε → Routine Request Reply ε σ α} {own after : σ} {state reached : τ} {caught : ε}
      (ran : run answer routine own state = (.error caught, after, reached))
      (within : Exposes answer stop inner held stand (handle caught) after reached) :
      Exposes answer stop inner held stand (tryCatch routine handle) own state

variable {answer : (request : Request) → τ → Reply request × τ} {stop : ε}
  {inner : Routine Request Reply ε σ β} {held last : σ} {stand final : τ}
  {outer : Routine Request Reply ε σ α} {own : σ} {state : τ}

/-- A stop that nothing catches ends the whole run, where it ended its own routine. -/
theorem Exposes.run_eq (exposes : Exposes answer stop inner held stand outer own state)
    (stops : run answer inner held stand = (.error stop, last, final)) :
    run answer outer own state = (.error stop, last, final) := by
  induction exposes with
  | itself => exact stops
  | first rest within ih => exact run_bind_error answer ih rest
  | second ran within ih => exact (run_bind_ok answer ran _).trans ih
  | attempt passes within ih => rw [run_tryCatch_error answer ih, passes, run_throw]
  | handler ran within ih => exact (run_tryCatch_error answer ran _).trans ih

end FrontEnd.Routine
