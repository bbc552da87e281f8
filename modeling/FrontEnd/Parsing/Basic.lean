import FrontEnd.Fault
import FrontEnd.Parsing.Error

/-!
# A parse in progress

One cursor in a token sequence that is closed by an end token. The cursor never
moves past an end token, so there is always a current token: both facts are part of
the state. End tokens may also stand in the middle of a sequence; the cursor stops
at the first one it meets, while lookahead sees beyond it.
-/

namespace FrontEnd

/-- What a parse reports while it runs. -/
inductive ParsingRecord (κ : Type) where
  | recorded (error : SyntaxError κ)
  /-- A parse was abandoned at a token, with this many errors. -/
  | abandoned (token : Token κ) (errors : Nat)
  deriving Repr, DecidableEq

def ParsingRecord.text {κ : Type} [ToString κ] : ParsingRecord κ → String
  | recorded error =>
      "Line " ++ toString error.token.line ++ ": " ++ error.message ++
        " (found " ++ error.token.cited ++ ")"
  | abandoned token errors =>
      "Parse aborted at " ++ token.detailed ++ " with " ++ toString errors ++ " errors"

/-- The outcome of a parse: a tree, unless the parse was abandoned, and the errors. -/
structure Parsed (κ α : Type) where
  ast : Option α
  errors : Array (SyntaxError κ)
  deriving Repr, DecidableEq

def Parsed.hasErrors {κ α : Type} (parsed : Parsed κ α) : Bool := 0 < parsed.errors.size

/-- A cursor in a closed token sequence, and the errors recorded since the parse began. -/
structure Parsing (κ : Type) where
  tokens : Array (Token κ)
  cursor : Nat := 0
  errors : Array (SyntaxError κ) := #[]
  /-- Everything reported so far, over all parses. -/
  log : Array (ParsingRecord κ) := #[]
  cursor_lt : cursor < tokens.size
  closed : tokens.back?.any Token.isEnd = true

namespace Parsing

variable {κ : Type}

/-- A parse of a token sequence that has not begun. The sequence must end with an end
    token. -/
def ofTokens (tokens : Array (Token κ)) : Except Fault (Parsing κ) :=
  if closed : tokens.back?.any Token.isEnd = true then
    .ok
      { tokens := tokens
        cursor_lt := by
          rcases Nat.eq_zero_or_pos tokens.size with empty | inhabited
          · simp [Array.back?_eq_getElem?, empty] at closed
          · exact inhabited
        closed := closed }
  else .error .unterminated

def peek (parsing : Parsing κ) : Token κ :=
  getElem parsing.tokens parsing.cursor parsing.cursor_lt

def isComplete (parsing : Parsing κ) : Bool := parsing.peek.isEnd

def hasPrevious (parsing : Parsing κ) : Bool := 0 < parsing.cursor

/-- The token before the cursor. -/
def previous (parsing : Parsing κ) : Except Fault (Token κ) :=
  match parsing.cursor with
  | 0 => .error .nothingConsumed
  | before + 1 => .ok (parsing.tokens[before]?.getD parsing.peek)

/-- The token before the cursor, or the current one when there is none before it. -/
def lastToken (parsing : Parsing κ) : Token κ :=
  match parsing.previous with
  | .ok token => token
  | .error _ => parsing.peek

/-- A token that is no end token is not the last one. -/
theorem succ_cursor_lt (parsing : Parsing κ) (more : ¬ parsing.isComplete = true) :
    parsing.cursor + 1 < parsing.tokens.size := by
  have inside := parsing.cursor_lt
  rcases Nat.lt_or_ge (parsing.cursor + 1) parsing.tokens.size with behind | last
  · exact behind
  · refine absurd ?_ more
    have place : parsing.tokens.size - 1 = parsing.cursor := by omega
    have closed := parsing.closed
    rw [Array.back?_eq_getElem?, place, Array.getElem?_eq_getElem inside] at closed
    simpa [isComplete, peek] using closed

/-- Consume the current token, unless it is an end token. -/
def step (parsing : Parsing κ) : Parsing κ :=
  if more : parsing.isComplete = true then parsing
  else
    { parsing with
      cursor := parsing.cursor + 1
      cursor_lt := parsing.succ_cursor_lt more }

theorem step_of_isComplete {parsing : Parsing κ} (complete : parsing.isComplete = true) :
    parsing.step = parsing := by
  rw [step, dif_pos complete]

theorem cursor_step {parsing : Parsing κ} (more : ¬ parsing.isComplete = true) :
    parsing.step.cursor = parsing.cursor + 1 := by
  rw [step, dif_neg more]

@[simp] theorem tokens_step (parsing : Parsing κ) : parsing.step.tokens = parsing.tokens := by
  rw [step]; split <;> rfl

@[simp] theorem errors_step (parsing : Parsing κ) : parsing.step.errors = parsing.errors := by
  rw [step]; split <;> rfl

def steps : Nat → Parsing κ → Parsing κ
  | 0, parsing => parsing
  | count + 1, parsing => steps count parsing.step

/-- Consume `count` tokens, stopping at an end token, and give the last one consumed, if
    any was asked for. -/
def advance (parsing : Parsing κ) (count : Int) : Option (Token κ) × Parsing κ :=
  let after := parsing.steps count.toNat
  (if count ≤ 0 then none else some after.lastToken, after)

/-- Put the cursor on a token of the sequence; an index behind the last one moves
    nothing. -/
def seek (parsing : Parsing κ) (index : Nat) : Parsing κ :=
  if inside : index < parsing.tokens.size then
    { parsing with cursor := index, cursor_lt := inside }
  else parsing

def record (parsing : Parsing κ) (error : SyntaxError κ) : Parsing κ :=
  { parsing with
    errors := parsing.errors.push error
    log := parsing.log.push (.recorded error) }

def restart (parsing : Parsing κ) : Parsing κ :=
  { parsing with
    cursor := 0
    errors := #[]
    cursor_lt := Nat.zero_lt_of_lt parsing.cursor_lt }

/-- Settle a parse that was abandoned: it has at least one error. -/
def abandon (parsing : Parsing κ) : Parsing κ :=
  let settled :=
    if parsing.errors.isEmpty then parsing.record (.abandoned parsing.peek) else parsing
  { settled with log := settled.log.push (.abandoned settled.peek settled.errors.size) }

end Parsing

end FrontEnd
