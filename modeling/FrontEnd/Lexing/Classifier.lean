import FrontEnd.Dialogue
import FrontEnd.Lexing.Basic

/-!
# Classification routines

A language says what its characters mean by a routine that is handed each character
that opens a token. `Classifier` is the type of such routines and of everything built
around them: dialogues with a lexical pass. `Classifier.scan` is the pass itself, put
together from the same requests, so that a pass can be part of a larger routine.
-/

namespace FrontEnd

namespace Lexing

/-- What can be asked of a lexical pass. -/
inductive Request (κ : Type) where
  | isComplete
  | peek (offset : Int) (expected : Char → Bool)
  | advance
  | advanceIf (expected : Char → Bool)
  | markLine
  | lexeme
  | emit (kind : Option κ) (literal : Value)
  | assignSource (source : String)
  /-- Begin a pass; the reply is the number of characters ahead. -/
  | restart
  | openToken
  | reject (c : Char)
  | close

@[reducible] def Request.Reply {κ : Type} : Request κ → Type
  | .isComplete | .peek .. | .advanceIf _ => Bool
  | .advance => Except Fault Char
  | .lexeme => String
  | .markLine | .emit .. | .assignSource _ | .reject _ => Unit
  | .restart => Nat
  | .openToken => Option Char
  | .close => Lexed κ

/-- The engine: the reply to a request, and the pass after it. -/
def answer {κ : Type} : (request : Request κ) → Lexing κ → request.Reply × Lexing κ
  | .isComplete, lexing => (lexing.isComplete, lexing)
  | .peek offset expected, lexing => (lexing.peek offset expected, lexing)
  | .advance, lexing => lexing.advance
  | .advanceIf expected, lexing => lexing.advanceIf expected
  | .markLine, lexing => ((), lexing.markLine)
  | .lexeme, lexing => (lexing.lexeme, lexing)
  | .emit kind literal, lexing => ((), lexing.emit kind literal)
  | .assignSource source, lexing => ((), lexing.assignSource source)
  | .restart, lexing => (lexing.source.size, lexing.restart)
  | .openToken, lexing => lexing.openToken
  | .reject c, lexing => ((), lexing.reject c)
  | .close, lexing => lexing.close

end Lexing

/-- A dialogue with a lexical pass, with private state `σ` and early outcomes `ε`. -/
abbrev Classifier (κ ε σ : Type) := Routine (Lexing.Request κ) Lexing.Request.Reply ε σ

namespace Classifier

variable {κ ε σ α : Type}

def ask (request : Lexing.Request κ) : Classifier κ ε σ request.Reply := Routine.ask request

def isComplete : Classifier κ ε σ Bool := ask .isComplete

def peek (offset : Int) (expected : Char → Bool) : Classifier κ ε σ Bool :=
  ask (.peek offset expected)

/-- Consume the next character; there has to be one. -/
def advance : Classifier κ Fault σ Char := do
  match ← ask .advance with
  | .ok c => pure c
  | .error fault => throw fault

def advanceIf (expected : Char → Bool) : Classifier κ ε σ Bool :=
  ask (.advanceIf expected)

def markLine : Classifier κ ε σ Unit := ask .markLine

def lexeme : Classifier κ ε σ String := ask .lexeme

def emit (kind : Option κ) (literal : Value) : Classifier κ ε σ Unit :=
  ask (.emit kind literal)

def assignSource (source : String) : Classifier κ ε σ Unit :=
  ask (.assignSource source)

/-- At most `n` rounds of a pass. A round opens a token, has its first character
    classified, and records the character as unknown if the routine does not accept it. -/
def rounds (classify : Char → Classifier κ ε σ Bool) : Nat → Classifier κ ε σ Unit
  | 0 => pure ()
  | n + 1 => do
      match ← ask .openToken with
      | none => pure ()
      | some c =>
          unless ← classify c do ask (.reject c)
          rounds classify n

/-- A pass of at most `n` rounds from the beginning of the source. -/
def scanFor (n : Nat) (classify : Char → Classifier κ ε σ Bool) : Classifier κ ε σ (Lexed κ) := do
  let _ ← ask .restart
  rounds classify n
  ask .close

/-- A pass over the whole source. Every round consumes a character, so there are no more
    rounds than characters. -/
def scan (classify : Char → Classifier κ ε σ Bool) : Classifier κ ε σ (Lexed κ) := do
  let length ← ask .restart
  rounds classify length
  ask .close

abbrev on (routine : Classifier κ ε σ α) (own : σ) (lexing : Lexing κ) :
    Except ε α × σ × Lexing κ :=
  routine.run Lexing.answer own lexing

/-- One round: nothing without a character; else the routine's verdict on it decides
    whether it is recorded as unknown. -/
theorem on_rounds_succ (classify : Char → Classifier κ ε σ Bool) (n : Nat) (own : σ)
    (lexing : Lexing κ) :
    (rounds classify (n + 1)).on own lexing =
      match lexing.openToken with
      | (none, lexing) => (.ok (), own, lexing)
      | (some c, lexing) =>
          match (classify c).on own lexing with
          | (.ok true, own, lexing) => (rounds classify n).on own lexing
          | (.ok false, own, lexing) => (rounds classify n).on own (lexing.reject c)
          | (.error stop, own, lexing) => (.error stop, own, lexing) := by
  unfold on
  rw [rounds]
  simp only [ask, Routine.run_bind, Routine.run_ask, Lexing.answer]
  rcases lexing.openToken with ⟨_ | c, lexing⟩
  · rfl
  · simp only [Routine.run_bind]
    rcases Routine.run Lexing.answer (classify c) own lexing with ⟨_ | _ | _, own, lexing⟩ <;> rfl

theorem on_scanFor (n : Nat) (classify : Char → Classifier κ ε σ Bool) (own : σ)
    (lexing : Lexing κ) :
    (scanFor n classify).on own lexing =
      match (rounds classify n).on own lexing.restart with
      | (.ok _, own, lexing) => (.ok lexing.close.1, own, lexing.close.2)
      | (.error stop, own, lexing) => (.error stop, own, lexing) := by
  unfold on scanFor ask
  simp only [Routine.run_bind, Routine.run_ask, Lexing.answer]
  rcases Routine.run Lexing.answer (rounds classify n) own lexing.restart with
    ⟨stop | value, own, lexing⟩ <;> rfl

theorem on_scan (classify : Char → Classifier κ ε σ Bool) (own : σ) (lexing : Lexing κ) :
    (scan classify).on own lexing =
      match (rounds classify lexing.source.size).on own lexing.restart with
      | (.ok _, own, lexing) => (.ok lexing.close.1, own, lexing.close.2)
      | (.error stop, own, lexing) => (.error stop, own, lexing) :=
  on_scanFor lexing.source.size classify own lexing

end Classifier

end FrontEnd
