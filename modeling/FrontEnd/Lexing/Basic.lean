import FrontEnd.Fault
import FrontEnd.Lexing.Error
import FrontEnd.Token

/-!
# A lexical pass

The state of a walk over a source text and the operations a classification routine
has on it. Two coordinate systems run side by side: the absolute cursor, by which
lexemes are cut from the source, and a line counter with a column, by which places
are reported. The engine does not know what ends a line; a routine says so by
`markLine`.

The operations make sense at any time, also before the first pass and after one, and
the source may be exchanged under the cursor. So no relation between the cursor and
the length of the source is part of the state.
-/

namespace FrontEnd

/-- What a lexical pass reports while it runs. -/
inductive LexingRecord where
  /-- A character was not classified; `line` is the current line. -/
  | rejected (line : Nat) (message : String)
  /-- A pass ended with this many tokens, the end token counted, and errors. -/
  | finished (tokens errors : Nat)
  deriving Repr, DecidableEq

def LexingRecord.text : LexingRecord → String
  | rejected line message => "Line " ++ toString line ++ ": " ++ message
  | finished tokens errors =>
      "Scanned " ++ toString tokens ++ " tokens with " ++ toString errors ++ " errors"

/-- The outcome of a pass: every token, closed by an end token, and one error for each
    character that was not classified. -/
structure Lexed (κ : Type) where
  tokens : Array (Token κ)
  errors : Array LexicalError
  deriving Repr, DecidableEq

def Lexed.hasErrors {κ : Type} (lexed : Lexed κ) : Bool := 0 < lexed.errors.size

/-- The state of a walk over a source text. -/
structure Lexing (κ : Type) where
  source : Array Char
  /-- Offset at which the open token starts. -/
  start : Nat := 0
  cursor : Nat := 0
  /-- Column at which the open token starts. -/
  startColumn : Nat := 0
  /-- Number of characters consumed since the line began. -/
  column : Nat := 0
  line : Nat := 0
  tokens : Array (Token κ) := #[]
  errors : Array LexicalError := #[]
  /-- Everything reported so far, over all passes. -/
  log : Array LexingRecord := #[]
  deriving Repr

namespace Lexing

variable {κ : Type}

def ofSource (source : String) : Lexing κ := { source := source.toList.toArray }

def isComplete (lexing : Lexing κ) : Bool := lexing.source.size ≤ lexing.cursor

/-- Whether there is a character `offset` places after the cursor and it is as expected. -/
def peek (lexing : Lexing κ) (offset : Int) (expected : Char → Bool) : Bool :=
  let index := (lexing.cursor : Int) + offset
  if index < 0 then false else lexing.source[index.toNat]?.any expected

def step (lexing : Lexing κ) : Lexing κ :=
  { lexing with cursor := lexing.cursor + 1, column := lexing.column + 1 }

def advance (lexing : Lexing κ) : Except Fault Char × Lexing κ :=
  match lexing.source[lexing.cursor]? with
  | none => (.error (.exhausted lexing.cursor), lexing)
  | some c => (.ok c, lexing.step)

def advanceIf (lexing : Lexing κ) (expected : Char → Bool) : Bool × Lexing κ :=
  if lexing.source[lexing.cursor]?.any expected then (true, lexing.step) else (false, lexing)

/-- Begin a new line at the cursor. -/
def markLine (lexing : Lexing κ) : Lexing κ :=
  { lexing with line := lexing.line + 1, column := 0 }

/-- The text from the start of the open token to the cursor, as far as the source goes. -/
def lexeme (lexing : Lexing κ) : String :=
  String.ofList (lexing.source.extract lexing.start lexing.cursor).toList

def emit (lexing : Lexing κ) (kind : Option κ) (literal : Value) : Lexing κ :=
  { lexing with
    tokens := lexing.tokens.push
      { kind := kind
        lexeme := some lexing.lexeme
        literal := literal
        line := lexing.line
        start := lexing.startColumn
        stop := lexing.column
        offset := lexing.start } }

/-- Exchange the source; the place in it stays. -/
def assignSource (lexing : Lexing κ) (source : String) : Lexing κ :=
  { lexing with source := source.toList.toArray }

def restart (lexing : Lexing κ) : Lexing κ :=
  { source := lexing.source, log := lexing.log }

/-- Open a token at the cursor and consume its first character, if there is one. -/
def openToken (lexing : Lexing κ) : Option Char × Lexing κ :=
  match lexing.source[lexing.cursor]? with
  | none => (none, lexing)
  | some c =>
      (some c, { lexing with start := lexing.cursor, startColumn := lexing.column }.step)

/-- Record that the first character of the open token was not classified. The error
    starts where the token does and reaches to the current column, on the current line. -/
def reject (lexing : Lexing κ) (c : Char) : Lexing κ :=
  let error := LexicalError.unknownCharacter c lexing.line lexing.startColumn lexing.column
  { lexing with
    errors := lexing.errors.push error
    log := lexing.log.push (.rejected lexing.line error.message) }

def close (lexing : Lexing κ) : Lexed κ × Lexing κ :=
  let tokens := lexing.tokens.push (.endOfStream lexing.line lexing.column lexing.cursor)
  (⟨tokens, lexing.errors⟩,
    { lexing with
      tokens := tokens
      log := lexing.log.push (.finished tokens.size lexing.errors.size) })

end Lexing

end FrontEnd
