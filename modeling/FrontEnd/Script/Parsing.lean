import FrontEnd.Parsing.Grammar
import FrontEnd.Script.Run

/-!
# Scripted grammars

A grammar's entry given as actions. While they run they may take lexemes as pieces of
a tree and group pieces under a name; the tree is the value they leave with.
-/

namespace FrontEnd.Script

/-- The token that an error is placed on. -/
inductive Place (κ : Type) where
  | current
  | previous
  /-- A token of the sequence, by its signed index. -/
  | index (index : Int)
  | token (token : Token κ)
  deriving Repr

/-- What a script asks of a parse in progress. -/
inductive ParsingPrimitive (κ : Type) where
  /-- A whole parse with these actions as the grammar's entry. -/
  | parse (root : List (Action (ParsingPrimitive κ)))
  | result (index : Int)
  | same (first second : Int)
  | isComplete
  | peek
  | hasPrevious
  | previous
  | cursor
  | seek (index : Nat)
  | check (kind : Option κ)
  | checkAt (offset : Int) (kind : Option κ)
  | checkSkipping (kind : Option κ) (skipped : List (Option κ))
  | checkRepeated (kind : Option κ) (count : Int)
  | checkSequential (kinds : List (Option κ))
  | nextOffset (kind : Option κ)
  | advance (count : Int)
  | accept (kinds : List (Option κ))
  | skip (kinds : List (Option κ))
  | skipUntil (kinds : List (Option κ))
  | consume (kind : Option κ) (message : String)
  | record (place : Place κ) (message code : String)
  /-- Record an error; the abort that belongs to it is only observed. -/
  | error (place : Place κ) (message : String)
  | fail (place : Place κ) (message : String)
  | abort (message : String)
  /-- Take the lexeme of the last consumed token. -/
  | take
  /-- Group what some actions take under a name. -/
  | node (name : String) (body : List (Action (ParsingPrimitive κ)))
  /-- Leave the grammar with what has been taken. -/
  | leaveTaken

/-- The kept results of parses are compared as trees: no tree and the null tree are one. -/
def sameParsed {κ : Type} [DecidableEq κ] (one other : Parsed κ Value) : Bool :=
  one.ast.getD .null = other.ast.getD .null ∧ one.errors = other.errors

/-- A scripted dialogue with a parse in progress. -/
abbrev ParsingPlay (κ : Type) :=
  Play (Parsing.Request κ) Parsing.Request.Reply κ (Parsed κ Value)

/-- The routines of a scripted grammar, as the engine knows them. -/
abbrev ScriptedGrammar (κ : Type) := Grammar κ (Session κ (Parsed κ Value))

namespace ParsingPlay

variable {κ α : Type}

def tokenAt : Place κ → ScriptedGrammar κ (Token κ)
  | .current => Grammar.peek
  | .previous => Grammar.previous
  | .index index => Grammar.tokenAt index
  | .token token => pure token

def flag (routine : ScriptedGrammar κ Bool) : ScriptedGrammar κ (Option (Observation κ)) := do
  let value ← routine
  pure (some (.flag value))

/-- Observe that a routine was carried out. -/
def quiet (routine : ScriptedGrammar κ Unit) : ScriptedGrammar κ (Option (Observation κ)) := do
  routine
  pure (some .nothing)

/-- Observe the token that a routine gives. -/
def token (routine : ScriptedGrammar κ (Token κ)) : ScriptedGrammar κ (Option (Observation κ)) := do
  let token ← routine
  pure (some (.token token))

def perform [DecidableEq κ] :
    Performer (Parsing.Request κ) Parsing.Request.Reply κ (Parsed κ Value) (ParsingPrimitive κ) :=
  fun all primitive =>
    match primitive with
    | .parse root => do
        let (outcome, _) ← Play.apart (Play.ofRoutine (Grammar.parse (Play.toRoutine (all root))))
        Play.keep outcome
        pure (some (.parsed outcome))
    | .result index => do
        let outcome ← Play.resultAt index
        pure (some (.parsed outcome))
    | .same first second => do
        let one ← Play.resultAt first
        let other ← Play.resultAt second
        pure (some (.flag (sameParsed one other)))
    | .isComplete => Play.ofRoutine (flag Grammar.isComplete)
    | .peek => Play.ofRoutine (token Grammar.peek)
    | .hasPrevious => Play.ofRoutine (flag Grammar.hasPrevious)
    | .previous => Play.ofRoutine (token Grammar.previous)
    | .cursor => do
        let cursor ← Play.ofRoutine Grammar.cursor
        pure (some (.number cursor))
    | .seek index => Play.ofRoutine (quiet (Grammar.seek index))
    | .check kind => Play.ofRoutine (flag (Grammar.check kind))
    | .checkAt offset kind => Play.ofRoutine (flag (Grammar.checkAt offset kind))
    | .checkSkipping kind skipped => Play.ofRoutine (flag (Grammar.checkSkipping kind skipped))
    | .checkRepeated kind count => Play.ofRoutine (flag (Grammar.checkRepeated kind count))
    | .checkSequential kinds => Play.ofRoutine (flag (Grammar.checkSequential kinds))
    | .nextOffset kind => do
        let offset ← Play.ofRoutine (Grammar.nextOffset kind)
        pure (some (offset.elim .nothing .number))
    | .advance count => do
        let token ← Play.ofRoutine (Grammar.advance count)
        pure (some (token.elim .nothing .token))
    | .accept kinds => Play.ofRoutine (flag (Grammar.accept kinds))
    | .skip kinds => Play.ofRoutine (quiet (Grammar.skip kinds))
    | .skipUntil kinds => Play.ofRoutine (quiet (Grammar.skipUntil kinds))
    | .consume kind message => Play.ofRoutine (token (Grammar.consume kind message))
    | .record place message code => do
        let error : SyntaxError κ := ⟨← Play.ofRoutine (tokenAt place), message, code⟩
        Play.ofRoutine (Grammar.record error)
        pure (some (.syntaxError error))
    | .error place message => do
        let token ← Play.ofRoutine (tokenAt place)
        Play.ofRoutine (Grammar.record { token := token, message := message })
        pure (some (.text message))
    | .fail place message => do
        let token ← Play.ofRoutine (tokenAt place)
        Play.ofRoutine (Grammar.fail token message)
    | .abort message => Play.ofRoutine (Grammar.abort message)
    | .take => do
        let token ← Play.ofRoutine Grammar.previous
        Play.take (.ofText? token.lexeme)
        pure none
    | .node name body => do
        let (_, pieces) ← Play.apart (all body)
        Play.take (.list (.text name :: pieces.toList))
        pure none
    | .leaveTaken => do
        let session ← get
        throw (.left (.list session.taken.toList))

end ParsingPlay

/-- Run the steps of a script on one parse. Gives, for every step, what was observed and
    the parse after it; and the results kept and the parse at the end. -/
def playParsing {κ : Type} [DecidableEq κ] (named : Named (ParsingPrimitive κ))
    (actions : List (Action (ParsingPrimitive κ))) (parsing : Parsing κ) :
    List (Array (Observation κ) × Parsing κ) × Array (Parsed κ Value) × Parsing κ :=
  match steps Parsing.answer ParsingPlay.perform named actions {} parsing with
  | (reports, session, parsing) => (reports, session.kept, parsing)

end FrontEnd.Script
