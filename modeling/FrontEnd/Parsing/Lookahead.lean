import FrontEnd.Parsing.Basic

/-!
# Lookahead and conditional consumption

What a grammar can find out about the tokens around the cursor without moving it, and
the movements that depend on it. A kind is given as an option, as tokens hold it:
`none` asks for an end token.
-/

namespace FrontEnd.Parsing

variable {κ : Type} [DecidableEq κ]

/-- Whether the current token has a kind. An end token is never met this way, not even by
    its own kind. -/
def check (parsing : Parsing κ) (kind : Option κ) : Bool :=
  !parsing.isComplete && parsing.peek.kind == kind

def checkAny (parsing : Parsing κ) (kinds : List (Option κ)) : Bool :=
  kinds.any parsing.check

/-- Whether the token `offset` places from the cursor exists and has a kind. -/
def checkAt (parsing : Parsing κ) (offset : Int) (kind : Option κ) : Bool :=
  let index := (parsing.cursor : Int) + offset
  if index < 0 then false else parsing.tokens[index.toNat]?.any fun token => token.kind == kind

/-- The kinds of the tokens from the cursor to the end of the sequence. -/
def kindsAhead (parsing : Parsing κ) : List (Option κ) :=
  (parsing.tokens.toList.drop parsing.cursor).map Token.kind

omit [DecidableEq κ] in
@[simp] theorem kindsAhead_record (parsing : Parsing κ) (error : SyntaxError κ) :
    (parsing.record error).kindsAhead = parsing.kindsAhead := rfl

/-- Whether a kind comes next once tokens of the skipped kinds are ignored. -/
def checkSkipping (parsing : Parsing κ) (kind : Option κ) (skipped : List (Option κ)) : Bool :=
  let rest := parsing.kindsAhead.dropWhile fun ahead => ahead != kind && skipped.contains ahead
  rest.head? == some kind

def checkRepeated (parsing : Parsing κ) (kind : Option κ) (count : Int) : Bool :=
  count ≤ (parsing.kindsAhead.takeWhile (· == kind)).length

/-- Whether the next tokens have the given kinds, one by one. -/
def checkSequential (parsing : Parsing κ) (kinds : List (Option κ)) : Bool :=
  kinds.isPrefixOf parsing.kindsAhead

/-- The distance to the next token of a kind. -/
def nextOffset (parsing : Parsing κ) (kind : Option κ) : Option Nat :=
  parsing.kindsAhead.idxOf? kind

theorem not_isComplete_of_check {parsing : Parsing κ} {kind : Option κ}
    (found : parsing.check kind = true) : ¬ parsing.isComplete = true := by
  intro complete
  simp [check, complete] at found

theorem not_isComplete_of_checkAny {parsing : Parsing κ} {kinds : List (Option κ)}
    (found : parsing.checkAny kinds = true) : ¬ parsing.isComplete = true := by
  obtain ⟨kind, -, here⟩ := List.any_eq_true.1 found
  exact not_isComplete_of_check here

omit [DecidableEq κ] in
theorem step_shortens {parsing : Parsing κ} (more : ¬ parsing.isComplete = true) :
    parsing.step.tokens.size - parsing.step.cursor < parsing.tokens.size - parsing.cursor := by
  have inside := parsing.cursor_lt
  rw [tokens_step, cursor_step more]
  omega

def accept (parsing : Parsing κ) (kinds : List (Option κ)) : Bool × Parsing κ :=
  if parsing.checkAny kinds then (true, parsing.step) else (false, parsing)

/-- Consume tokens for as long as they have one of some kinds. -/
def skip (parsing : Parsing κ) (kinds : List (Option κ)) : Parsing κ :=
  if _found : parsing.checkAny kinds = true then parsing.step.skip kinds else parsing
termination_by parsing.tokens.size - parsing.cursor
decreasing_by exact step_shortens (not_isComplete_of_checkAny _found)

/-- Consume tokens up to the next one of some kinds or an end token. -/
def skipUntil (parsing : Parsing κ) (kinds : List (Option κ)) : Parsing κ :=
  if _stop : parsing.isComplete = true ∨ parsing.checkAny kinds = true then parsing
  else parsing.step.skipUntil kinds
termination_by parsing.tokens.size - parsing.cursor
decreasing_by exact step_shortens fun complete => _stop (.inl complete)

/-- Consume a token of a kind. If the current token has another one, that is an error with
    the given message; the reply is then the message. -/
def consume (parsing : Parsing κ) (kind : Option κ) (message : String) :
    Except String (Token κ) × Parsing κ :=
  if parsing.check kind then (.ok parsing.peek, parsing.step)
  else (.error message, parsing.record { token := parsing.peek, message := message })

end FrontEnd.Parsing
