import FrontEnd.Arithmetic.Grammar
import FrontEnd.Arithmetic.Tokens
import FrontEnd.Log

/-!
# From a text to its expressions

Both steps of reading an arithmetic text, one after the other: the tokens of the
text, and the parse of those tokens. A parse is made also when the text has unknown
characters.
-/

namespace FrontEnd.Arithmetic

/-- The outcomes of both steps. -/
structure Analysis (α : Type) where
  lexed : Lexed Kind
  parsed : Parsed Kind α
  deriving Repr

/-- Read a text with a grammar, and give the log of both steps. -/
def analyse {α : Type} (root : Nat → Rule α) (source : String) :
    Except Stop (Analysis α) × Array (LogRecord Kind) :=
  match lex source with
  | (.error fault, lexing) => (.error (.fault fault), LogRecord.ofLexing lexing)
  | (.ok lexed, lexing) =>
      match Parsing.ofTokens lexed.tokens with
      | .error fault => (.error (.fault fault), LogRecord.ofLexing lexing)
      | .ok parsing =>
          match parseWith root parsing with
          | (outcome, parsing) =>
              (outcome.map (⟨lexed, ·⟩), LogRecord.ofLexing lexing ++ LogRecord.ofParsing parsing)

end FrontEnd.Arithmetic
