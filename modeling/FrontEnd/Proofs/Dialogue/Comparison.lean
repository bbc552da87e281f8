import FrontEnd.Proofs.Dialogue.Journal

/-!
# Comparing runs

Two ways in which runs of routines are set side by side. One routine may be held with an
engine in two states: as long as the engine cannot tell the states apart by what the routine
asks for, it gives the same replies, and the runs go on in step. Two routines may be held with
an engine in one state: a routine with a bound on its steps comes to what the same routine with
a larger bound comes to, unless it runs out of its bound.
-/

namespace FrontEnd

variable {Request : Type} {Reply : Request → Type} {ε σ τ α β : Type}
  {answer : (request : Request) → τ → Reply request × τ}

/-- An engine gives the same reply to a request in two states, and the states stay related. -/
def InStep (answer : (request : Request) → τ → Reply request × τ) (Related : τ → τ → Prop)
    (request : Request) : Prop :=
  ∀ one two, Related one two →
    (answer request one).1 = (answer request two).1 ∧
      Related (answer request one).2 (answer request two).2

theorem Dialogue.run_ask (request : Request) (next : Reply request → Dialogue Request Reply α)
    (state : τ) :
    (ask request next).run answer state =
      (next (answer request state).1).run answer (answer request state).2 := rfl

theorem Dialogue.run_inStep {Related : τ → τ → Prop} {dialogue : Dialogue Request Reply α}
    (uses : dialogue.Uses (InStep answer Related)) {one two : τ} (related : Related one two) :
    (dialogue.run answer one).1 = (dialogue.run answer two).1 ∧
      Related (dialogue.run answer one).2 (dialogue.run answer two).2 := by
  induction dialogue generalizing one two with
  | done value => exact ⟨rfl, related⟩
  | ask request next ih =>
      obtain ⟨replies, after⟩ := uses.1 one two related
      have later := ih (answer request one).1 (uses.2 _) after
      rw [run_ask, run_ask, ← replies]
      exact later

namespace Routine

theorem run_inStep {Related : τ → τ → Prop} {routine : Routine Request Reply ε σ α}
    (uses : routine.Uses (InStep answer Related)) (own : σ) {one two : τ}
    (related : Related one two) :
    (routine.run answer own one).1 = (routine.run answer own two).1 ∧
      (routine.run answer own one).2.1 = (routine.run answer own two).2.1 ∧
      Related (routine.run answer own one).2.2 (routine.run answer own two).2.2 := by
  obtain ⟨values, after⟩ := Dialogue.run_inStep (uses own) related
  exact ⟨congrArg (·.1) values, congrArg (·.2) values, after⟩

/-- Unless `bounded` stops because it is `exhausted`, `free` comes to the same. -/
def Approximates (answer : (request : Request) → τ → Reply request × τ) (exhausted : ε)
    (bounded free : Routine Request Reply ε σ α) : Prop :=
  ∀ own state, (run answer bounded own state).1 ≠ .error exhausted →
    run answer free own state = run answer bounded own state

namespace Approximates

variable {exhausted : ε} {bounded middle free : Routine Request Reply ε σ α}

theorem refl (routine : Routine Request Reply ε σ α) :
    Approximates answer exhausted routine routine :=
  fun _ _ _ => rfl

theorem trans (first : Approximates answer exhausted bounded middle)
    (second : Approximates answer exhausted middle free) :
    Approximates answer exhausted bounded free := by
  intro own state ends
  have same := first own state ends
  rw [second own state (by rw [same]; exact ends), same]

theorem throw (free : Routine Request Reply ε σ α) :
    Approximates answer exhausted (throw exhausted) free :=
  fun _ _ ends => absurd rfl ends

theorem bind {rest rest' : α → Routine Request Reply ε σ β}
    (first : Approximates answer exhausted bounded free)
    (second : ∀ value, Approximates answer exhausted (rest value) (rest' value)) :
    Approximates answer exhausted (bounded >>= rest) (free >>= rest') := by
  intro own state ends
  have same := first own state
  rw [run_bind] at ends
  rw [run_bind, run_bind]
  generalize run answer bounded own state = result at same ends
  obtain ⟨outcome, after, reached⟩ := result
  cases outcome with
  | ok value =>
      rw [same (by simp)]
      exact second value after reached ends
  | error stop =>
      have stays : (Except.error stop : Except ε α) ≠ .error exhausted := by simpa using ends
      rw [same stays]

theorem ite {condition : Prop} [Decidable condition] {bounded' free' : Routine Request Reply ε σ α}
    (first : Approximates answer exhausted bounded free)
    (second : Approximates answer exhausted bounded' free') :
    Approximates answer exhausted (if condition then bounded else bounded')
      (if condition then free else free') := by
  split
  case isTrue => exact first
  case isFalse => exact second

end Approximates

/-- A routine that is given for every bound on its steps comes to the same with a larger bound,
    unless it runs out of the smaller one. -/
def Grows (answer : (request : Request) → τ → Reply request × τ) (exhausted : ε)
    (routine : Nat → Routine Request Reply ε σ α) : Prop :=
  ∀ bound, Approximates answer exhausted (routine bound) (routine (bound + 1))

/-- What a routine comes to that is given for every bound on its steps: from some bound on it comes
    to just that, and with a smaller bound it does so too or runs out of it. -/
structure Settles (answer : (request : Request) → τ → Reply request × τ) (exhausted : ε)
    (routine : Nat → Routine Request Reply ε σ α) (own : σ) (state : τ)
    (result : Except ε α × σ × τ) : Prop where
  ends : result.1 ≠ .error exhausted
  sufficient : ∃ least, ∀ bound, least ≤ bound → run answer (routine bound) own state = result
  otherwise : ∀ bound, run answer (routine bound) own state = result ∨
    (run answer (routine bound) own state).1 = .error exhausted

theorem Settles.unique {exhausted : ε} {routine : Nat → Routine Request Reply ε σ α} {own : σ}
    {state : τ} {result result' : Except ε α × σ × τ}
    (one : Settles answer exhausted routine own state result)
    (two : Settles answer exhausted routine own state result') : result = result' := by
  obtain ⟨least, settled⟩ := one.sufficient
  obtain ⟨least', settled'⟩ := two.sufficient
  rw [← settled (max least least') (by omega), settled' (max least least') (by omega)]

namespace Grows

variable {exhausted : ε} {routine : Nat → Routine Request Reply ε σ α}

theorem approximates (grows : Grows answer exhausted routine) {less more : Nat}
    (larger : less ≤ more) : Approximates answer exhausted (routine less) (routine more) := by
  induction larger with
  | refl => exact .refl _
  | step _ ih => exact ih.trans (grows _)

theorem run_eq (grows : Grows answer exhausted routine) {bound other : Nat} {own : σ} {state : τ}
    (ends : (run answer (routine bound) own state).1 ≠ .error exhausted)
    (ends' : (run answer (routine other) own state).1 ≠ .error exhausted) :
    run answer (routine bound) own state = run answer (routine other) own state := by
  cases Nat.le_total bound other with
  | inl less => exact (grows.approximates less own state ends).symm
  | inr more => exact grows.approximates more own state ends'

/-- One bound that suffices shows what the routine comes to. -/
theorem settles (grows : Grows answer exhausted routine) {bound : Nat} {own : σ} {state : τ}
    {result : Except ε α × σ × τ} (ran : run answer (routine bound) own state = result)
    (ends : result.1 ≠ .error exhausted) :
    Settles answer exhausted routine own state result where
  ends := ends
  sufficient := by
    refine ⟨bound, fun larger enough => ?_⟩
    rw [← ran] at ends ⊢
    exact grows.approximates enough own state ends
  otherwise := by
    intro other
    by_cases out : (run answer (routine other) own state).1 = .error exhausted
    · exact .inr out
    · rw [← ran] at ends ⊢
      exact .inl (grows.run_eq out ends)

end Grows

end Routine

end FrontEnd
