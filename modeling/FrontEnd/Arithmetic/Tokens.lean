import FrontEnd.Arithmetic.Kind
import FrontEnd.Lexing.Classifier
import FrontEnd.Numeral

/-!
# The tokens of an arithmetic text

A longest run of digits is a number, the signs and the parentheses are tokens of
their own, blanks mean nothing, and a line feed also ends the line. No other
character is accepted.
-/

namespace FrontEnd.Arithmetic

/-- The kind of a one-character token. -/
def symbol? : Char → Option Kind
  | '+' => some .plus
  | '-' => some .minus
  | '(' => some .leftParen
  | ')' => some .rightParen
  | _ => none

/-- Whether a character separates tokens within a line. -/
def isBlank (c : Char) : Bool := c == ' ' || c == '\t' || c == '\r'

/-- Consume digits, at most `n` of them. -/
def digits : Nat → Classifier Kind Fault Unit Unit
  | 0 => pure ()
  | n + 1 => do if ← Classifier.advanceIf Text.isDigit then digits n

/-- Emit the current lexeme as a number. -/
def emitNumber : Classifier Kind Fault Unit Unit := do
  match Numeral.read (← Classifier.lexeme) with
  | .ok value => Classifier.emit (some .number) (.int value)
  | .error fault => throw fault

/-- Classify a character of a text that has `length` characters. -/
def classify (length : Nat) (c : Char) : Classifier Kind Fault Unit Bool := do
  if Text.isDigit c then
    digits length
    emitNumber
    pure true
  else if let some kind := symbol? c then
    Classifier.emit (some kind) .null
    pure true
  else if c = '\n' then
    Classifier.markLine
    pure true
  else pure (isBlank c)

/-- The tokens of a text, and the pass that found them. -/
def lex (source : String) : Except Fault (Lexed Kind) × Lexing Kind :=
  match (Classifier.scan (classify source.length)).on () (.ofSource source) with
  | (outcome, _, lexing) => (outcome, lexing)

end FrontEnd.Arithmetic
