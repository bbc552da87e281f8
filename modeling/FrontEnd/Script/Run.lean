import FrontEnd.Script.Action
import FrontEnd.Script.Session

/-!
# Running a script

The control actions, over any engine. A script may repeat or call itself without end,
so it runs for a number of steps only; the number bounds the depth of its actions and
the repetitions of each loop.
-/

namespace FrontEnd.Script

variable {Request : Type} {Reply : Request → Type} {κ ρ π : Type}

/-- How an engine's primitive actions are performed. Some contain actions, which the
    first argument runs; some give nothing to observe. -/
abbrev Performer (Request : Type) (Reply : Request → Type) (κ ρ π : Type) :=
  (List (Action π) → Play Request Reply κ ρ Unit) → π →
    Play Request Reply κ ρ (Option (Observation κ))

/-- Perform a primitive action and observe what it gives; whether that counts as a yes. -/
def performed (seen : Play Request Reply κ ρ (Option (Observation κ))) :
    Play Request Reply κ ρ Bool := do
  match ← seen with
  | none => pure false
  | some observation =>
      Play.observe observation
      pure observation.isTruthy

/-- Run an action within a number of steps. -/
def run (perform : Performer Request Reply κ ρ π) (named : Named π) :
    Nat → Action π → Play Request Reply κ ρ Unit
  | 0, _ => Play.fault .outOfSteps
  | steps + 1, action => do
      let all (actions : List (Action π)) : Play Request Reply κ ρ Unit :=
        actions.forM (run perform named steps)
      match action with
      | .perform primitive =>
          let _ ← performed (perform all primitive)
      | .branch test yes no =>
          let seen ← performed (perform all test.primitive)
          if seen != test.negated then all yes else all no
      | .repeatWhile test body =>
          let seen ← performed (perform all test.primitive)
          if seen != test.negated then
            all body
            run perform named steps (.repeatWhile test body)
      | .call name =>
          match named.lookup name with
          | some actions => all actions
          | none => Play.fault (.unknownName name)
      | .attempt body =>
          tryCatch (all body) fun
            | .left value => throw (.left value)
            | .stopped stop => Play.observe (.failed stop)
      | .fail category text => Play.fault (.raised category text)
      | .leave value => throw (.left value)

/-- A number of steps that no script of a sensible size exhausts. -/
def stepLimit : Nat := 1000000000

/-- Run one step of a script: an action on its own, with nothing observed or taken yet.
    A failure that leaves the action is observed. -/
def step (perform : Performer Request Reply κ ρ π) (named : Named π) (action : Action π) :
    Play Request Reply κ ρ Unit := do
  modify fun session => { session with observations := #[], taken := #[] }
  tryCatch (run perform named stepLimit action) fun
    | .left _ => pure ()
    | .stopped stop => Play.observe (.failed stop)

/-- Run the steps of a script one after the other on one engine. Gives, for every step,
    what was observed and the engine's state after it; and the session and the engine's
    state at the end. -/
def steps {τ : Type} (answer : (request : Request) → τ → Reply request × τ)
    (perform : Performer Request Reply κ ρ π) (named : Named π) :
    List (Action π) → Session κ ρ → τ → List (Array (Observation κ) × τ) × Session κ ρ × τ
  | [], session, state => ([], session, state)
  | action :: rest, session, state =>
      match (step perform named action).run answer session state with
      | (_, session, state) =>
          match steps answer perform named rest session state with
          | (reports, final) => ((session.observations, state) :: reports, final)

end FrontEnd.Script
