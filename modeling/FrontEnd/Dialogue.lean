/-!
# Dialogues between a routine and an engine

A language is described by routines that only ever talk to an engine: they make a
request, look at the reply, and go on. A `Dialogue` is that conversation as data,
so that a statement about every routine is an induction over it, and an engine is
nothing but a function that answers requests.

A `Routine` adds what a routine may do on its own: keep private state between
requests, and stop early with an outcome of type `ε`. The private state survives
an early stop.
-/

namespace FrontEnd

/-- A terminating conversation that ends with a value of type `α`. It may branch on
    every reply, and every branch ends. -/
inductive Dialogue (Request : Type) (Reply : Request → Type) (α : Type) : Type where
  | done (value : α)
  | ask (request : Request) (next : Reply request → Dialogue Request Reply α)

namespace Dialogue

variable {Request : Type} {Reply : Request → Type} {α β γ σ : Type}

/-- Continue a conversation with another one that depends on its value. -/
def bind (dialogue : Dialogue Request Reply α) (rest : α → Dialogue Request Reply β) :
    Dialogue Request Reply β :=
  match dialogue with
  | .done value => rest value
  | .ask request next => .ask request fun reply => (next reply).bind rest

instance : Monad (Dialogue Request Reply) where
  pure := .done
  bind := bind

theorem bind_done (dialogue : Dialogue Request Reply α) : dialogue.bind .done = dialogue := by
  induction dialogue with
  | done value => rfl
  | ask request next ih => exact congrArg (ask request) (funext ih)

theorem bind_assoc (dialogue : Dialogue Request Reply α) (middle : α → Dialogue Request Reply β)
    (last : β → Dialogue Request Reply γ) :
    (dialogue.bind middle).bind last = dialogue.bind fun value => (middle value).bind last := by
  induction dialogue with
  | done value => rfl
  | ask request next ih => exact congrArg (ask request) (funext ih)

instance : LawfulMonad (Dialogue Request Reply) :=
  LawfulMonad.mk' (Dialogue Request Reply)
    (fun dialogue => bind_done dialogue)
    (fun _ _ => rfl)
    (fun dialogue middle last => bind_assoc dialogue middle last)

/-- Hold a conversation with an engine: `answer` gives the reply to a request in a
    state of the engine, and the state after it. -/
def run (answer : (request : Request) → σ → Reply request × σ) :
    Dialogue Request Reply α → σ → α × σ
  | .done value, state => (value, state)
  | .ask request next, state =>
      match answer request state with
      | (reply, after) => (next reply).run answer after

theorem run_bind (answer : (request : Request) → σ → Reply request × σ)
    (dialogue : Dialogue Request Reply α) (rest : α → Dialogue Request Reply β) (state : σ) :
    (dialogue.bind rest).run answer state =
      (rest (dialogue.run answer state).1).run answer (dialogue.run answer state).2 := by
  induction dialogue generalizing state with
  | done value => rfl
  | ask request next ih => exact ih _ _

end Dialogue

/-- A dialogue that keeps private state `σ` and may stop early with an `ε`. -/
abbrev Routine (Request : Type) (Reply : Request → Type) (ε σ : Type) :=
  ExceptT ε (StateT σ (Dialogue Request Reply))

namespace Routine

variable {Request : Type} {Reply : Request → Type} {ε σ τ α β : Type}

def ask (request : Request) : Routine Request Reply ε σ (Reply request) :=
  ExceptT.lift (StateT.lift (.ask request .done))

/-- Hold the whole conversation with an engine, starting with private state `own`:
    the outcome, the private state and the engine's state at the end. -/
def run (answer : (request : Request) → τ → Reply request × τ)
    (routine : Routine Request Reply ε σ α) (own : σ) (state : τ) : Except ε α × σ × τ :=
  match Dialogue.run answer (StateT.run (ExceptT.run routine) own) state with
  | ((outcome, own), state) => (outcome, own, state)

theorem dialogue_bind (routine : Routine Request Reply ε σ α)
    (rest : α → Routine Request Reply ε σ β) (own : σ) :
    StateT.run (ExceptT.run (routine >>= rest)) own =
      (StateT.run (ExceptT.run routine) own).bind fun reached =>
        StateT.run (ExceptT.bindCont rest reached.1) reached.2 := rfl

theorem dialogue_tryCatch (routine : Routine Request Reply ε σ α)
    (handle : ε → Routine Request Reply ε σ α) (own : σ) :
    StateT.run (ExceptT.run (tryCatch routine handle)) own =
      (StateT.run (ExceptT.run routine) own).bind fun reached =>
        match reached.1 with
        | .ok value => .done (.ok value, reached.2)
        | .error stop => StateT.run (ExceptT.run (handle stop)) reached.2 := by
  show Dialogue.bind _ _ = Dialogue.bind _ _
  congr 1
  funext ⟨outcome, own⟩
  cases outcome <;> rfl

variable (answer : (request : Request) → τ → Reply request × τ)

theorem run_pure (value : α) (own : σ) (state : τ) :
    run answer (pure value : Routine Request Reply ε σ α) own state = (.ok value, own, state) :=
  rfl

theorem run_throw (stop : ε) (own : σ) (state : τ) :
    run answer (throw stop : Routine Request Reply ε σ α) own state = (.error stop, own, state) :=
  rfl

theorem run_ask (request : Request) (own : σ) (state : τ) :
    run answer (ask request : Routine Request Reply ε σ (Reply request)) own state =
      (.ok (answer request state).1, own, (answer request state).2) :=
  rfl

/-- An early stop ends the whole conversation; otherwise it continues with the value,
    the private state and the engine's state reached so far. -/
theorem run_bind (routine : Routine Request Reply ε σ α)
    (rest : α → Routine Request Reply ε σ β) (own : σ) (state : τ) :
    run answer (routine >>= rest) own state =
      match run answer routine own state with
      | (.ok value, own, state) => run answer (rest value) own state
      | (.error stop, own, state) => (.error stop, own, state) := by
  simp only [run, dialogue_bind, Dialogue.run_bind]
  rcases Dialogue.run answer (StateT.run (ExceptT.run routine) own) state with
    ⟨⟨outcome, own⟩, state⟩
  cases outcome with
  | ok value => rfl
  | error stop => rfl

theorem run_bind_ok {routine : Routine Request Reply ε σ α} {own after : σ} {state reached : τ}
    {value : α} (ran : run answer routine own state = (.ok value, after, reached))
    (rest : α → Routine Request Reply ε σ β) :
    run answer (routine >>= rest) own state = run answer (rest value) after reached := by
  rw [run_bind, ran]

theorem run_bind_error {routine : Routine Request Reply ε σ α} {own after : σ}
    {state reached : τ} {stop : ε} (ran : run answer routine own state = (.error stop, after, reached))
    (rest : α → Routine Request Reply ε σ β) :
    run answer (routine >>= rest) own state = (.error stop, after, reached) := by
  rw [run_bind, ran]

theorem run_map (f : α → β) (routine : Routine Request Reply ε σ α) (own : σ) (state : τ) :
    run answer (f <$> routine) own state =
      match run answer routine own state with
      | (.ok value, own, state) => (.ok (f value), own, state)
      | (.error stop, own, state) => (.error stop, own, state) := by
  rw [map_eq_pure_bind, run_bind]
  rcases run answer routine own state with ⟨_ | value, own, state⟩ <;> rfl

/-- A caught stop undoes nothing: the handler starts from the private state and the
    engine's state in which the routine stopped. -/
theorem run_tryCatch (routine : Routine Request Reply ε σ α)
    (handle : ε → Routine Request Reply ε σ α) (own : σ) (state : τ) :
    run answer (tryCatch routine handle) own state =
      match run answer routine own state with
      | (.ok value, own, state) => (.ok value, own, state)
      | (.error stop, own, state) => run answer (handle stop) own state := by
  simp only [run, dialogue_tryCatch, Dialogue.run_bind]
  rcases Dialogue.run answer (StateT.run (ExceptT.run routine) own) state with
    ⟨⟨outcome, own⟩, state⟩
  cases outcome with
  | ok value => rfl
  | error stop => rfl

theorem run_tryCatch_error {routine : Routine Request Reply ε σ α} {own after : σ}
    {state reached : τ} {stop : ε} (ran : run answer routine own state = (.error stop, after, reached))
    (handle : ε → Routine Request Reply ε σ α) :
    run answer (tryCatch routine handle) own state = run answer (handle stop) after reached := by
  rw [run_tryCatch, ran]

end Routine

end FrontEnd
