import FrontEnd.Dialogue
import FrontEnd.Lexing.Basic
import FrontEnd.Parsing.Grammar
import FrontEnd.SignedIndex

/-!
# Sessions

What a script leaves behind while it runs: an observation for every primitive action
that succeeded and for every failure it caught, the results it can come back to, and
the pieces of the tree it is building.
-/

namespace FrontEnd.Script

/-- What a primitive action gave, or how an attempt failed. -/
inductive Observation (κ : Type) where
  | nothing
  | flag (value : Bool)
  | number (value : Nat)
  | text (value : String)
  | token (token : Token κ)
  | syntaxError (error : SyntaxError κ)
  | lexed (outcome : Lexed κ)
  | parsed (outcome : Parsed κ Value)
  | failed (stop : Stop)
  deriving Repr

/-- Whether an observation counts as a yes when it is used as a condition. -/
def Observation.isTruthy {κ : Type} : Observation κ → Bool
  | nothing => false
  | flag value => value
  | number value => value != 0
  | text value => value != ""
  | token _ | syntaxError _ | lexed _ | parsed _ | failed _ => true

/-- What a script has left behind; `ρ` is the type of the results it keeps. -/
structure Session (κ ρ : Type) where
  observations : Array (Observation κ) := #[]
  kept : Array ρ := #[]
  /-- The pieces taken for the tree node under construction. -/
  taken : Array Value := #[]

/-- How a script leaves its normal course. -/
inductive Signal where
  /-- The running routine ends with a value. -/
  | left (value : Value)
  | stopped (stop : Stop)

/-- A scripted dialogue with an engine. -/
abbrev Play (Request : Type) (Reply : Request → Type) (κ ρ : Type) :=
  Routine Request Reply Signal (Session κ ρ)

namespace Play

variable {Request : Type} {Reply : Request → Type} {κ ρ α : Type}

def fault (fault : Fault) : Play Request Reply κ ρ α := throw (.stopped (.fault fault))

def observe (observation : Observation κ) : Play Request Reply κ ρ Unit :=
  modify fun session => { session with observations := session.observations.push observation }

def keep (result : ρ) : Play Request Reply κ ρ Unit :=
  modify fun session => { session with kept := session.kept.push result }

def resultAt (index : Int) : Play Request Reply κ ρ ρ := do
  match itemAt? (← get).kept index with
  | some result => pure result
  | none => fault (.outOfRange "list")

/-- Add a piece to the node under construction. -/
def take (piece : Value) : Play Request Reply κ ρ Unit :=
  modify fun session => { session with taken := session.taken.push piece }

/-- Build a node of its own, and come back to the one under construction however that
    ends. Gives the pieces of the new node. -/
def apart (body : Play Request Reply κ ρ α) : Play Request Reply κ ρ (α × Array Value) := do
  let outer := (← get).taken
  let back : Play Request Reply κ ρ Unit := modify fun session => { session with taken := outer }
  modify fun session => { session with taken := #[] }
  let value ← tryCatch body fun signal => do
    back
    throw signal
  let inner := (← get).taken
  back
  pure (value, inner)

/-- Use a routine that knows nothing of scripts. -/
def ofRoutine (routine : Routine Request Reply Stop (Session κ ρ) α) :
    Play Request Reply κ ρ α :=
  routine.adapt .stopped

/-- The routine that a script amounts to. Its value is the one the script leaves with, null
    if the script runs to its end. -/
def toRoutine (body : Play Request Reply κ ρ Unit) :
    Routine Request Reply Stop (Session κ ρ) Value :=
  ExceptT.mk do
    match ← ExceptT.run body with
    | .ok () => pure (.ok .null)
    | .error (.left value) => pure (.ok value)
    | .error (.stopped stop) => pure (.error stop)

end Play

end FrontEnd.Script
