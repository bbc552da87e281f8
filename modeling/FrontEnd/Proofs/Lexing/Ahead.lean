import FrontEnd.Lexing.Classifier

/-!
# The characters ahead

A lexical pass sees of its source the characters from the cursor on, and the lexeme
of the open token. `Lexing.steps` is the pass after some more characters, with the
line and the tokens as they were.
-/

namespace FrontEnd

namespace Lexing

variable {κ : Type}

/-- The characters from the cursor to the end of the source. -/
def ahead (lexing : Lexing κ) : List Char := lexing.source.toList.drop lexing.cursor

def steps (lexing : Lexing κ) (count : Nat) : Lexing κ :=
  { lexing with cursor := lexing.cursor + count, column := lexing.column + count }

def opened (lexing : Lexing κ) : Lexing κ :=
  { lexing with start := lexing.cursor, startColumn := lexing.column }

theorem step_steps (lexing : Lexing κ) (count : Nat) :
    lexing.step.steps count = lexing.steps (count + 1) := by
  simp only [steps, step, Nat.add_assoc, Nat.add_comm 1]

theorem ahead_steps {lexing : Lexing κ} {read rest : List Char}
    (here : lexing.ahead = read ++ rest) : (lexing.steps read.length).ahead = rest := by
  rw [ahead] at here
  rw [ahead, steps, ← List.drop_drop, here, List.drop_left]

theorem ahead_step {lexing : Lexing κ} {c : Char} {rest : List Char}
    (here : lexing.ahead = c :: rest) : lexing.step.ahead = rest := by
  have split : lexing.ahead = [c] ++ rest := here
  exact ahead_steps split

theorem getElem?_cursor (lexing : Lexing κ) :
    lexing.source[lexing.cursor]? = lexing.ahead.head? := by
  rw [ahead, List.head?_drop, Array.getElem?_toList]

theorem openToken_nil {lexing : Lexing κ} (here : lexing.ahead = []) :
    lexing.openToken = (none, lexing) := by
  rw [openToken, getElem?_cursor, here]
  rfl

theorem openToken_cons {lexing : Lexing κ} {c : Char} {rest : List Char}
    (here : lexing.ahead = c :: rest) : lexing.openToken = (some c, lexing.opened.step) := by
  rw [openToken, getElem?_cursor, here]
  rfl

theorem advanceIf_of_ahead (lexing : Lexing κ) (expected : Char → Bool) :
    lexing.advanceIf expected =
      if lexing.ahead.head?.any expected then (true, lexing.step) else (false, lexing) := by
  rw [advanceIf, getElem?_cursor]

/-- The lexeme is what has been stepped over since the token was opened. -/
theorem lexeme_steps {lexing : Lexing κ} {read rest : List Char}
    (here : lexing.ahead = read ++ rest) :
    (lexing.opened.steps read.length).lexeme = String.ofList read := by
  rw [ahead] at here
  simp only [lexeme, opened, steps, Array.toList_extract, List.extract_eq_take_drop,
    Nat.add_sub_cancel_left, here, List.take_left]

end Lexing

namespace Classifier

variable {κ ε σ α β : Type}

theorem on_pure (value : α) (own : σ) (lexing : Lexing κ) :
    (pure value : Classifier κ ε σ α).on own lexing = (.ok value, own, lexing) :=
  Routine.run_pure Lexing.answer value own lexing

theorem on_throw (stop : ε) (own : σ) (lexing : Lexing κ) :
    (throw stop : Classifier κ ε σ α).on own lexing = (.error stop, own, lexing) :=
  Routine.run_throw Lexing.answer stop own lexing

theorem on_bind_ok {routine : Classifier κ ε σ α} {own after : σ} {lexing reached : Lexing κ}
    {value : α} (ran : routine.on own lexing = (.ok value, after, reached))
    (rest : α → Classifier κ ε σ β) :
    (routine >>= rest).on own lexing = (rest value).on after reached :=
  Routine.run_bind_ok Lexing.answer ran rest

theorem on_bind_error {routine : Classifier κ ε σ α} {own after : σ} {lexing reached : Lexing κ}
    {stop : ε} (ran : routine.on own lexing = (.error stop, after, reached))
    (rest : α → Classifier κ ε σ β) :
    (routine >>= rest).on own lexing = (.error stop, after, reached) :=
  Routine.run_bind_error Lexing.answer ran rest

theorem on_advanceIf (expected : Char → Bool) (own : σ) (lexing : Lexing κ) :
    (advanceIf expected : Classifier κ ε σ Bool).on own lexing =
      (.ok (lexing.advanceIf expected).1, own, (lexing.advanceIf expected).2) := rfl

theorem on_lexeme (own : σ) (lexing : Lexing κ) :
    (lexeme : Classifier κ ε σ String).on own lexing = (.ok lexing.lexeme, own, lexing) := rfl

end Classifier

end FrontEnd
