import FrontEnd.Lexing.Basic
import FrontEnd.Parsing.Basic

/-!
# The log

What the two engines report while they run, in one sequence.
-/

namespace FrontEnd

/-- A record of either engine. -/
inductive LogRecord (κ : Type) where
  | lexing (record : LexingRecord)
  | parsing (record : ParsingRecord κ)
  deriving Repr, DecidableEq

namespace LogRecord

variable {κ : Type}

def text [ToString κ] : LogRecord κ → String
  | .lexing record => record.text
  | .parsing record => record.text

def ofLexing (lexing : Lexing κ) : Array (LogRecord κ) := lexing.log.map .lexing

def ofParsing (parsing : Parsing κ) : Array (LogRecord κ) := parsing.log.map .parsing

end LogRecord

end FrontEnd
