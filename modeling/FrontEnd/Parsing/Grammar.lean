import FrontEnd.Dialogue
import FrontEnd.Parsing.Lookahead
import FrontEnd.SignedIndex

/-!
# Grammars

A language's grammar is a set of routines that descend over a token sequence.
`Grammar` is the type of such routines: dialogues with a parse in progress. A routine
stops early in two ways. An abort is the grammar's own signal that the input cannot
be parsed; it unwinds to the enclosing `Grammar.parse`, which turns it into an
outcome without a tree. A fault is anything else and passes through.

A grammar may also recover by itself: record an error, skip to a token it can go on
with, and still build a tree.
-/

namespace FrontEnd

namespace Parsing

/-- What can be asked of a parse in progress. -/
inductive Request (κ : Type) where
  | isComplete
  | peek
  | hasPrevious
  | previous
  | cursor
  /-- A token of the sequence by its signed index. -/
  | tokenAt (index : Int)
  | check (kind : Option κ)
  | checkAt (offset : Int) (kind : Option κ)
  | checkSkipping (kind : Option κ) (skipped : List (Option κ))
  | checkRepeated (kind : Option κ) (count : Int)
  | checkSequential (kinds : List (Option κ))
  | nextOffset (kind : Option κ)
  | advance (count : Int)
  | seek (index : Nat)
  | accept (kinds : List (Option κ))
  | skip (kinds : List (Option κ))
  | skipUntil (kinds : List (Option κ))
  | consume (kind : Option κ) (message : String)
  | record (error : SyntaxError κ)
  | restart
  | abandon
  | errors

@[reducible] def Request.Reply {κ : Type} : Request κ → Type
  | .isComplete | .hasPrevious | .check _ | .checkAt .. | .checkSkipping .. | .checkRepeated ..
  | .checkSequential _ | .accept _ => Bool
  | .peek => Token κ
  | .previous => Except Fault (Token κ)
  | .cursor => Nat
  | .tokenAt _ | .advance _ => Option (Token κ)
  | .nextOffset _ => Option Nat
  | .consume .. => Except String (Token κ)
  | .seek _ | .skip _ | .skipUntil _ | .record _ | .restart | .abandon => Unit
  | .errors => Array (SyntaxError κ)

/-- The engine: the reply to a request, and the parse after it. -/
def answer {κ : Type} [DecidableEq κ] :
    (request : Request κ) → Parsing κ → request.Reply × Parsing κ
  | .isComplete, parsing => (parsing.isComplete, parsing)
  | .peek, parsing => (parsing.peek, parsing)
  | .hasPrevious, parsing => (parsing.hasPrevious, parsing)
  | .previous, parsing => (parsing.previous, parsing)
  | .cursor, parsing => (parsing.cursor, parsing)
  | .tokenAt index, parsing => (itemAt? parsing.tokens index, parsing)
  | .check kind, parsing => (parsing.check kind, parsing)
  | .checkAt offset kind, parsing => (parsing.checkAt offset kind, parsing)
  | .checkSkipping kind skipped, parsing => (parsing.checkSkipping kind skipped, parsing)
  | .checkRepeated kind count, parsing => (parsing.checkRepeated kind count, parsing)
  | .checkSequential kinds, parsing => (parsing.checkSequential kinds, parsing)
  | .nextOffset kind, parsing => (parsing.nextOffset kind, parsing)
  | .advance count, parsing => parsing.advance count
  | .seek index, parsing => ((), parsing.seek index)
  | .accept kinds, parsing => parsing.accept kinds
  | .skip kinds, parsing => ((), parsing.skip kinds)
  | .skipUntil kinds, parsing => ((), parsing.skipUntil kinds)
  | .consume kind message, parsing => parsing.consume kind message
  | .record error, parsing => ((), parsing.record error)
  | .restart, parsing => ((), parsing.restart)
  | .abandon, parsing => ((), parsing.abandon)
  | .errors, parsing => (parsing.errors, parsing)

end Parsing

/-- Why a grammar routine stops early. -/
inductive Stop where
  /-- The input cannot be parsed. -/
  | abort (message : String)
  /-- Something else went wrong. -/
  | fault (fault : Fault)
  deriving Repr, DecidableEq

/-- A dialogue with a parse in progress, with private state `σ`. -/
abbrev Grammar (κ σ : Type) := Routine (Parsing.Request κ) Parsing.Request.Reply Stop σ

namespace Grammar

variable {κ σ α : Type}

def ask (request : Parsing.Request κ) : Grammar κ σ request.Reply := Routine.ask request

/-- Stop because the input cannot be parsed. -/
def abort (message : String) : Grammar κ σ α := throw (.abort message)

def isComplete : Grammar κ σ Bool := ask .isComplete

def peek : Grammar κ σ (Token κ) := ask .peek

def hasPrevious : Grammar κ σ Bool := ask .hasPrevious

/-- The last consumed token; there has to be one. -/
def previous : Grammar κ σ (Token κ) := do
  match ← ask .previous with
  | .ok token => pure token
  | .error fault => throw (.fault fault)

def cursor : Grammar κ σ Nat := ask .cursor

/-- A token of the sequence by its signed index; there has to be one. -/
def tokenAt (index : Int) : Grammar κ σ (Token κ) := do
  match ← ask (.tokenAt index) with
  | some token => pure token
  | none => throw (.fault (.outOfRange "tuple"))

def check (kind : Option κ) : Grammar κ σ Bool := ask (.check kind)

def checkAt (offset : Int) (kind : Option κ) : Grammar κ σ Bool := ask (.checkAt offset kind)

def checkSkipping (kind : Option κ) (skipped : List (Option κ)) : Grammar κ σ Bool :=
  ask (.checkSkipping kind skipped)

def checkRepeated (kind : Option κ) (count : Int) : Grammar κ σ Bool :=
  ask (.checkRepeated kind count)

def checkSequential (kinds : List (Option κ)) : Grammar κ σ Bool := ask (.checkSequential kinds)

def nextOffset (kind : Option κ) : Grammar κ σ (Option Nat) := ask (.nextOffset kind)

def advance (count : Int) : Grammar κ σ (Option (Token κ)) := ask (.advance count)

def seek (index : Nat) : Grammar κ σ Unit := ask (.seek index)

def accept (kinds : List (Option κ)) : Grammar κ σ Bool := ask (.accept kinds)

def skip (kinds : List (Option κ)) : Grammar κ σ Unit := ask (.skip kinds)

def skipUntil (kinds : List (Option κ)) : Grammar κ σ Unit := ask (.skipUntil kinds)

/-- Consume a token of a kind, or record an error and abort. -/
def consume (kind : Option κ) (message : String) : Grammar κ σ (Token κ) := do
  match ← ask (.consume kind message) with
  | .ok token => pure token
  | .error message => abort message

def record (error : SyntaxError κ) : Grammar κ σ Unit := ask (.record error)

def fail (token : Token κ) (message : String) : Grammar κ σ α := do
  record { token := token, message := message }
  abort message

/-- A parse from the first token, with `root` as the grammar's entry. An abort ends here:
    the outcome then has no tree and at least one error. -/
def parse (root : Grammar κ σ α) : Grammar κ σ (Parsed κ α) := do
  ask .restart
  let ast ← tryCatch (some <$> root) fun
    | .abort _ => do
        ask .abandon
        pure none
    | .fault fault => throw (.fault fault)
  let errors ← ask .errors
  pure ⟨ast, errors⟩

abbrev on [DecidableEq κ] (routine : Grammar κ σ α) (own : σ) (parsing : Parsing κ) :
    Except Stop α × σ × Parsing κ :=
  routine.run Parsing.answer own parsing

variable [DecidableEq κ]

theorem on_accept (kinds : List (Option κ)) (own : σ) (parsing : Parsing κ) :
    (accept kinds : Grammar κ σ Bool).on own parsing =
      (.ok (parsing.accept kinds).1, own, (parsing.accept kinds).2) :=
  rfl

/-- A missing token leaves the cursor where it is and one more error. -/
theorem on_consume (kind : Option κ) (message : String) (own : σ) (parsing : Parsing κ) :
    (consume kind message : Grammar κ σ (Token κ)).on own parsing =
      if parsing.check kind then (.ok parsing.peek, own, parsing.step)
      else (.error (.abort message), own,
        parsing.record { token := parsing.peek, message := message }) := by
  unfold consume ask on
  simp only [Routine.run_bind, Routine.run_ask, Parsing.answer, Parsing.consume]
  by_cases found : parsing.check kind = true
  · simp only [found, if_true, Routine.run_pure]
  · simp only [found, Bool.false_eq_true, if_false]
    rfl

/-- An abort never leaves a parse; any other stop does. -/
theorem on_parse (root : Grammar κ σ α) (own : σ) (parsing : Parsing κ) :
    (parse root).on own parsing =
      match root.on own parsing.restart with
      | (.ok value, own, parsing) => (.ok ⟨some value, parsing.errors⟩, own, parsing)
      | (.error (.abort _), own, parsing) =>
          (.ok ⟨none, parsing.abandon.errors⟩, own, parsing.abandon)
      | (.error (.fault fault), own, parsing) => (.error (.fault fault), own, parsing) := by
  unfold parse ask on
  simp only [Routine.run_bind, Routine.run_tryCatch, Routine.run_map, Routine.run_ask,
    Parsing.answer]
  rcases Routine.run Parsing.answer root own parsing.restart with ⟨stop | value, own, parsing⟩
  · cases stop with
    | abort message =>
        simp only [Routine.run_bind, Routine.run_ask, Parsing.answer, Routine.run_pure]
    | fault fault => simp only [Routine.run_throw]
  · simp only [Routine.run_pure]

end Grammar

end FrontEnd
