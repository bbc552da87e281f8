import FrontEnd.Lexing.Classifier
import FrontEnd.Numeral
import FrontEnd.Script.Run

/-!
# Scripted classification

A classification routine given as rules: the first rule that accepts a character says
what is done with it.
-/

namespace FrontEnd.Script

inductive Matcher where
  | digit
  | letter
  | any
  | none
  /-- The character that is the whole text; a text of another length has none. -/
  | char (text : String)
  /-- A character that occurs in the text. -/
  | within (text : String)
  | not (matcher : Matcher)
  deriving Repr, DecidableEq

def Matcher.accepts : Matcher → Char → Bool
  | digit, c => Text.isDigit c
  | letter, c => Text.isLetter c
  | any, _ => true
  | none, _ => false
  | char text, c => text == c.toString
  | within text, c => text.toList.contains c
  | not matcher, c => !matcher.accepts c

/-- Where the literal of an emitted token comes from. -/
inductive LiteralSource where
  | absent
  /-- The lexeme, read as a numeral. -/
  | numeral
  | lexeme
  /-- The lexeme without its first and last character. -/
  | inner
  | value (given : Value)
  deriving Repr

/-- The literal of a token with this lexeme. -/
def LiteralSource.literal (text : String) : LiteralSource → Except Fault Value
  | absent => .ok .null
  | numeral => (Numeral.read text).map fun value => .int value
  | lexeme => .ok (.text text)
  | inner => .ok (.text (String.ofList text.toList.tail.dropLast))
  | value given => .ok given

/-- What a script asks of a lexical pass. -/
inductive LexingPrimitive (κ : Type) where
  | scan
  | assignSource (source : String)
  | result (index : Int)
  | same (first second : Int)
  | isComplete
  | peek (offset : Int) (matcher : Matcher)
  | advance
  | advanceIf (matcher : Matcher)
  | markLine
  | lexeme
  | lexemeIn (texts : List String)
  | emit (kind : Option κ) (literal : LiteralSource)

/-- What is done with the characters that a condition accepts. -/
structure LexingRule (κ : Type) where
  matcher : Matcher
  actions : List (Action (LexingPrimitive κ))

/-- A scripted routine: its rules, and the action lists they can call. -/
structure LexingScript (κ : Type) where
  rules : List (LexingRule κ)
  named : Named (LexingPrimitive κ) := []

/-- A scripted dialogue with a lexical pass. -/
abbrev LexingPlay (κ : Type) := Play (Lexing.Request κ) Lexing.Request.Reply κ (Lexed κ)

namespace LexingScript

variable {κ : Type}

/-- A pass by the script's rules. A character is accepted if the actions of its rule leave
    with a value that counts as a yes. -/
def scan (script : LexingScript κ) (all : List (Action (LexingPrimitive κ)) → LexingPlay κ Unit) :
    Classifier κ Stop (Session κ (Lexed κ)) (Lexed κ) :=
  Classifier.scanFor stepLimit fun c =>
    match script.rules.find? fun rule => rule.matcher.accepts c with
    | none => pure false
    | some rule => do
        let value ← Play.toRoutine (all rule.actions)
        pure value.isTruthy

def perform [DecidableEq κ] (script : LexingScript κ) :
    Performer (Lexing.Request κ) Lexing.Request.Reply κ (Lexed κ) (LexingPrimitive κ) :=
  fun all primitive => do
    match primitive with
    | .scan =>
        let outcome ← Play.ofRoutine (script.scan all)
        Play.keep outcome
        pure (some (.lexed outcome))
    | .assignSource source =>
        Classifier.assignSource source
        pure (some .nothing)
    | .result index =>
        let outcome ← Play.resultAt index
        pure (some (.lexed outcome))
    | .same first second =>
        let one ← Play.resultAt first
        let other ← Play.resultAt second
        pure (some (.flag (one = other)))
    | .isComplete =>
        let complete ← Classifier.isComplete
        pure (some (.flag complete))
    | .peek offset matcher =>
        let seen ← Classifier.peek offset matcher.accepts
        pure (some (.flag seen))
    | .advance =>
        let c ← Classifier.advance.adapt fun fault => .stopped (.fault fault)
        pure (some (.text c.toString))
    | .advanceIf matcher =>
        let moved ← Classifier.advanceIf matcher.accepts
        pure (some (.flag moved))
    | .markLine =>
        Classifier.markLine
        pure (some .nothing)
    | .lexeme =>
        let lexeme ← Classifier.lexeme
        pure (some (.text lexeme))
    | .lexemeIn texts =>
        let lexeme ← Classifier.lexeme
        pure (some (.flag (texts.contains lexeme)))
    | .emit kind source =>
        let lexeme ← Classifier.lexeme
        match source.literal lexeme with
        | .ok literal =>
            Classifier.emit kind literal
            pure (some .nothing)
        | .error fault => Play.fault fault

/-- Run the steps of a script on one walk over a source. Gives, for every step, what was
    observed and the walk after it; and the walk at the end. -/
def play [DecidableEq κ] (script : LexingScript κ) (actions : List (Action (LexingPrimitive κ)))
    (lexing : Lexing κ) : List (Array (Observation κ) × Lexing κ) × Lexing κ :=
  match steps Lexing.answer script.perform script.named actions {} lexing with
  | (reports, _, lexing) => (reports, lexing)

/-- One pass over a source by the script's rules: its outcome, what was observed on the
    way, and the walk at the end. -/
def lex [DecidableEq κ] (script : LexingScript κ) (source : String) :
    Except Stop (Lexed κ) × Array (Observation κ) × Lexing κ :=
  let pass := script.scan fun actions =>
    actions.forM (run script.perform script.named stepLimit)
  match Classifier.on pass {} (.ofSource source) with
  | (outcome, session, lexing) => (outcome, session.observations, lexing)

end LexingScript

end FrontEnd.Script
