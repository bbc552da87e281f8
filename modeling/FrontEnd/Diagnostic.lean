import FrontEnd.Lexing.Basic
import FrontEnd.Parsing.Basic

/-!
# Diagnostics

The one shape in which errors are shown to whoever wrote the source, whether a
character or a token was at fault. A failed compilation is all its diagnostics
together, and its text lists their messages, one to a line, in order.
-/

namespace FrontEnd

/-- An error found while compiling, placed by line and position within the line. -/
structure Diagnostic where
  message : String
  start : Int
  stop : Int
  startLine : Int
  stopLine : Int
  code : Option String := none
  deriving Repr, DecidableEq

namespace Diagnostic

/-- What is shown: the code if there is one, the message, and the place on a second line. -/
def report (diagnostic : Diagnostic) : String :=
  let severity :=
    match diagnostic.code with
    | none | some "" => "ERROR"
    | some code => "ERROR[" ++ code ++ "]"
  severity ++ ": " ++ diagnostic.message ++ "\n  --> line " ++ toString diagnostic.startLine ++
    ", " ++ toString diagnostic.start ++ "-" ++ toString diagnostic.stop ++ "\n"

/-- The diagnostic for a character that was not classified. -/
def ofLexical (error : LexicalError) : Diagnostic where
  message := "Syntax error: " ++ error.message
  start := error.start
  stop := error.stop
  startLine := error.line
  stopLine := error.line
  code := some error.code

/-- The diagnostic for a syntax error. It quotes the token's lexeme, which an end token
    usually lacks. -/
def ofSyntax {κ : Type} (error : SyntaxError κ) : Diagnostic where
  message :=
    match error.token.lexeme with
    | none => "Syntax error: " ++ error.message
    | some lexeme => "Syntax error on token '" ++ lexeme ++ "': " ++ error.message
  start := error.token.start
  stop := error.token.stop
  startLine := error.token.line
  stopLine := error.token.line
  code := some error.code

end Diagnostic

/-- A compilation that failed, with everything that was found wrong. -/
structure Failure where
  diagnostics : List Diagnostic
  deriving Repr, DecidableEq

namespace Failure

def message (failure : Failure) : String :=
  "\n".intercalate (failure.diagnostics.map Diagnostic.message)

/-- Diagnostics amount to a failure if there are any. -/
def ofDiagnostics? (diagnostics : List Diagnostic) : Option Failure :=
  if diagnostics.isEmpty then none else some ⟨diagnostics⟩

end Failure

def Lexed.diagnostics {κ : Type} (lexed : Lexed κ) : List Diagnostic :=
  lexed.errors.toList.map .ofLexical

def Parsed.diagnostics {κ α : Type} (parsed : Parsed κ α) : List Diagnostic :=
  parsed.errors.toList.map .ofSyntax

inductive Outcome (κ α : Type) where
  | lexed (outcome : Lexed κ)
  | parsed (outcome : Parsed κ α)
  /-- Something of another type, which carries no errors. -/
  | other (typeName : String)

namespace Outcome

variable {κ α : Type}

def diagnostics : Outcome κ α → Except Fault (List Diagnostic)
  | .lexed outcome => .ok outcome.diagnostics
  | .parsed outcome => .ok outcome.diagnostics
  | .other typeName => .error (.uncollectable typeName)

/-- The failure that an outcome amounts to, if it has errors. -/
def failure? (outcome : Outcome κ α) : Except Fault (Option Failure) :=
  outcome.diagnostics.map Failure.ofDiagnostics?

end Outcome

end FrontEnd
