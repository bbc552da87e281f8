import FrontEnd.Dialogue
import Mathlib.Data.List.Induction

/-!
# Journals of conversations

A statement about every moment of a run needs more than the state at its end. The
journal of a dialogue lists the exchanges of one run with an engine, each with the
state before and after it. It is read off the same dialogue and the same engine that
the run uses, so there is nothing to keep in step.

`Uses` restricts what a routine may ask for, whatever the replies are. What every
exchange of allowed requests preserves then holds at every moment of the run:
`Logged.invariant` is that induction, made once for all engines. The property may
speak of the whole past, and so count or collect what has happened.
-/

namespace FrontEnd

/-- A request, the reply to it, and the state of the engine before and after. -/
structure Exchange (Request : Type) (Reply : Request → Type) (τ : Type) where
  request : Request
  reply : Reply request
  before : τ
  after : τ

variable {Request : Type} {Reply : Request → Type} {ε σ τ α β : Type}

/-- The exchange that an engine makes of a request. -/
def Exchange.of (answer : (request : Request) → τ → Reply request × τ) (request : Request)
    (state : τ) : Exchange Request Reply τ :=
  ⟨request, (answer request state).1, state, (answer request state).2⟩

abbrev Journal (Request : Type) (Reply : Request → Type) (τ : Type) :=
  List (Exchange Request Reply τ)

namespace Journal

/-- The state in which a journal ends that began in `state`. -/
def reached (journal : Journal Request Reply τ) (state : τ) : τ :=
  journal.foldl (fun _ exchange => exchange.after) state

@[simp] theorem reached_nil (state : τ) :
    reached ([] : Journal Request Reply τ) state = state := rfl

@[simp] theorem reached_cons (exchange : Exchange Request Reply τ)
    (journal : Journal Request Reply τ) (state : τ) :
    reached (exchange :: journal) state = reached journal exchange.after := rfl

theorem reached_append (past later : Journal Request Reply τ) (state : τ) :
    reached (past ++ later) state = reached later (reached past state) :=
  List.foldl_append

end Journal

/-- A journal that begins in a state and goes on without gaps: every exchange is the
    engine's answer to an allowed request, in the state that the one before it left. -/
inductive Logged (answer : (request : Request) → τ → Reply request × τ)
    (allowed : Request → Prop) : τ → Journal Request Reply τ → Prop where
  | nil (state : τ) : Logged answer allowed state []
  | cons {state : τ} {request : Request} {journal : Journal Request Reply τ}
      (permitted : allowed request)
      (later : Logged answer allowed (answer request state).2 journal) :
      Logged answer allowed state (.of answer request state :: journal)

namespace Logged

variable {answer : (request : Request) → τ → Reply request × τ} {allowed : Request → Prop}
  {state : τ} {past later : Journal Request Reply τ}

theorem of_append (logged : Logged answer allowed state (past ++ later)) :
    Logged answer allowed state past ∧ Logged answer allowed (past.reached state) later := by
  induction past generalizing state with
  | nil => exact ⟨.nil state, logged⟩
  | cons exchange past ih =>
      cases logged with
      | cons permitted rest => exact ⟨.cons permitted (ih rest).1, (ih rest).2⟩

theorem mono {other : Request → Prop} (weaker : ∀ request, allowed request → other request)
    (logged : Logged answer allowed state past) : Logged answer other state past := by
  induction logged with
  | nil state => exact .nil state
  | cons permitted _ ih => exact .cons (weaker _ permitted) ih

theorem allowed_of_mem (logged : Logged answer allowed state past)
    {exchange : Exchange Request Reply τ} (member : exchange ∈ past) :
    allowed exchange.request := by
  induction logged with
  | nil => cases member
  | cons permitted _ ih =>
      cases member with
      | head => exact permitted
      | tail _ later => exact ih later

theorem answered_of_mem (logged : Logged answer allowed state past)
    {exchange : Exchange Request Reply τ} (member : exchange ∈ past) :
    exchange.reply = (answer exchange.request exchange.before).1 ∧
      exchange.after = (answer exchange.request exchange.before).2 := by
  induction logged with
  | nil => cases member
  | cons _ _ ih =>
      cases member with
      | head => exact ⟨rfl, rfl⟩
      | tail _ later => exact ih later

theorem split {exchange : Exchange Request Reply τ}
    (logged : Logged answer allowed state (past ++ exchange :: later)) :
    exchange = .of answer exchange.request (past.reached state) := by
  cases logged.of_append.2 with
  | cons => rfl

/-- What the beginning has and every allowed exchange preserves, the end has. -/
theorem invariant {motive : Journal Request Reply τ → τ → Prop}
    (logged : Logged answer allowed state past) (initially : motive [] state)
    (step : ∀ earlier request before, allowed request → motive earlier before →
      motive (earlier ++ [.of answer request before]) (answer request before).2) :
    motive past (past.reached state) := by
  induction past using List.reverseRecOn with
  | nil => exact initially
  | append_singleton past exchange ih =>
      obtain ⟨before, last⟩ := logged.of_append
      cases last with
      | cons permitted _ =>
          rw [Journal.reached_append]
          exact step past _ _ permitted (ih before)

end Logged

namespace Dialogue

variable (answer : (request : Request) → τ → Reply request × τ)

/-- Every request of a conversation is allowed, on every branch of it. -/
def Uses (allowed : Request → Prop) : Dialogue Request Reply α → Prop
  | .done _ => True
  | .ask request next => allowed request ∧ ∀ reply, (next reply).Uses allowed

theorem Uses.mono {allowed other : Request → Prop} {dialogue : Dialogue Request Reply α}
    (uses : dialogue.Uses allowed) (weaker : ∀ request, allowed request → other request) :
    dialogue.Uses other := by
  induction dialogue with
  | done value => trivial
  | ask request next ih => exact ⟨weaker _ uses.1, fun reply => ih reply (uses.2 reply)⟩

theorem uses_true (dialogue : Dialogue Request Reply α) : dialogue.Uses fun _ => True := by
  induction dialogue with
  | done value => trivial
  | ask request next ih => exact ⟨trivial, ih⟩

theorem uses_bind {allowed : Request → Prop} {dialogue : Dialogue Request Reply α}
    {rest : α → Dialogue Request Reply β} (first : dialogue.Uses allowed)
    (second : ∀ value, (rest value).Uses allowed) : (dialogue.bind rest).Uses allowed := by
  induction dialogue with
  | done value => exact second value
  | ask request next ih => exact ⟨first.1, fun reply => ih reply (first.2 reply)⟩

/-- The exchanges of a conversation with an engine, in order. -/
def journal : Dialogue Request Reply α → τ → Journal Request Reply τ
  | .done _, _ => []
  | .ask request next, state =>
      .of answer request state ::
        (next (answer request state).1).journal (answer request state).2

theorem journal_bind (dialogue : Dialogue Request Reply α)
    (rest : α → Dialogue Request Reply β) (state : τ) :
    (dialogue.bind rest).journal answer state =
      dialogue.journal answer state ++
        (rest (dialogue.run answer state).1).journal answer (dialogue.run answer state).2 := by
  induction dialogue generalizing state with
  | done value => rfl
  | ask request next ih => exact congrArg (List.cons _) (ih _ _)

theorem reached_journal (dialogue : Dialogue Request Reply α) (state : τ) :
    (dialogue.journal answer state).reached state = (dialogue.run answer state).2 := by
  induction dialogue generalizing state with
  | done value => exact Journal.reached_nil state
  | ask request next ih =>
      rw [journal, Journal.reached_cons]
      exact ih _ _

theorem logged_journal {allowed : Request → Prop} {dialogue : Dialogue Request Reply α}
    (uses : dialogue.Uses allowed) (state : τ) :
    Logged answer allowed state (dialogue.journal answer state) := by
  induction dialogue generalizing state with
  | done value => exact .nil state
  | ask request next ih => exact .cons uses.1 (ih _ (uses.2 _) _)

end Dialogue

namespace Routine

/-- Whatever its private state, a routine makes allowed requests only. -/
def Uses (allowed : Request → Prop) (routine : Routine Request Reply ε σ α) : Prop :=
  ∀ own, Dialogue.Uses allowed (StateT.run (ExceptT.run routine) own)

section Uses

variable {allowed : Request → Prop}

theorem Uses.mono {other : Request → Prop} {routine : Routine Request Reply ε σ α}
    (uses : routine.Uses allowed) (weaker : ∀ request, allowed request → other request) :
    routine.Uses other :=
  fun own => (uses own).mono weaker

theorem uses_pure (value : α) : Uses allowed (pure value : Routine Request Reply ε σ α) :=
  fun _ => trivial

theorem uses_throw (stop : ε) : Uses allowed (throw stop : Routine Request Reply ε σ α) :=
  fun _ => trivial

theorem uses_ask {request : Request} (permitted : allowed request) :
    Uses allowed (ask request : Routine Request Reply ε σ (Reply request)) :=
  fun _ => ⟨permitted, fun _ => trivial⟩

theorem uses_bind {routine : Routine Request Reply ε σ α}
    {rest : α → Routine Request Reply ε σ β} (first : routine.Uses allowed)
    (second : ∀ value, (rest value).Uses allowed) : Uses allowed (routine >>= rest) := by
  intro own
  apply Dialogue.uses_bind (first own)
  rintro ⟨outcome, own⟩
  cases outcome with
  | ok value => exact second value own
  | error stop => trivial

theorem uses_map {f : α → β} {routine : Routine Request Reply ε σ α}
    (uses : routine.Uses allowed) : Uses allowed (f <$> routine) := by
  rw [map_eq_pure_bind]
  exact uses_bind uses fun value => uses_pure (f value)

theorem uses_ite {condition : Prop} [Decidable condition]
    {one two : Routine Request Reply ε σ α} (first : one.Uses allowed) (second : two.Uses allowed) :
    Uses allowed (if condition then one else two) := by
  split
  case isTrue => exact first
  case isFalse => exact second

theorem uses_tryCatch {routine : Routine Request Reply ε σ α}
    {handle : ε → Routine Request Reply ε σ α} (first : routine.Uses allowed)
    (second : ∀ stop, (handle stop).Uses allowed) :
    Uses allowed (tryCatch routine handle) := by
  intro own
  apply Dialogue.uses_bind (first own)
  rintro ⟨outcome, own⟩
  cases outcome with
  | ok value => trivial
  | error stop => exact second stop own

end Uses

variable (answer : (request : Request) → τ → Reply request × τ)

/-- The exchanges of a routine that starts with private state `own`. -/
def journal (routine : Routine Request Reply ε σ α) (own : σ) (state : τ) :
    Journal Request Reply τ :=
  Dialogue.journal answer (StateT.run (ExceptT.run routine) own) state

theorem journal_ask (request : Request) (own : σ) (state : τ) :
    journal answer (ask request : Routine Request Reply ε σ (Reply request)) own state =
      [.of answer request state] := rfl

theorem journal_bind (routine : Routine Request Reply ε σ α)
    (rest : α → Routine Request Reply ε σ β) (own : σ) (state : τ) :
    journal answer (routine >>= rest) own state =
      journal answer routine own state ++
        match run answer routine own state with
        | (.ok value, own, state) => journal answer (rest value) own state
        | (.error _, _, _) => [] := by
  simp only [journal, run, dialogue_bind, Dialogue.journal_bind]
  rcases Dialogue.run answer (StateT.run (ExceptT.run routine) own) state with
    ⟨⟨outcome, own⟩, state⟩
  cases outcome with
  | ok value => rfl
  | error stop => rfl

theorem reached_journal (routine : Routine Request Reply ε σ α) (own : σ) (state : τ) :
    (routine.journal answer own state).reached state = (routine.run answer own state).2.2 :=
  Dialogue.reached_journal answer _ state

theorem logged_journal {allowed : Request → Prop} {routine : Routine Request Reply ε σ α}
    (uses : routine.Uses allowed) (own : σ) (state : τ) :
    Logged answer allowed state (routine.journal answer own state) :=
  Dialogue.logged_journal answer (uses own) state

theorem run_invariant {answer : (request : Request) → τ → Reply request × τ}
    {allowed : Request → Prop} {motive : τ → Prop}
    (step : ∀ request before, allowed request → motive before → motive (answer request before).2)
    {routine : Routine Request Reply ε σ α} (uses : routine.Uses allowed) (own : σ) {state : τ}
    (initially : motive state) : motive (routine.run answer own state).2.2 := by
  rw [← reached_journal]
  exact (logged_journal answer uses own state).invariant (motive := fun _ now => motive now)
    initially fun _ => step

end Routine

end FrontEnd
