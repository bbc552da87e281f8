import FrontEnd.Value

/-!
# Scripts

A routine can be given as data: a list of actions. The control actions are the same
for both engines; the primitive ones, `π`, are what a script asks its engine for.
-/

namespace FrontEnd.Script

/-- A primitive action used as a condition. -/
structure Test (π : Type) where
  primitive : π
  negated : Bool := false
  deriving Repr

/-- An action of a script. -/
inductive Action (π : Type) where
  /-- Ask the engine for something and observe what it gives. -/
  | perform (primitive : π)
  | branch (test : Test π) (yes no : List (Action π))
  | repeatWhile (test : Test π) (body : List (Action π))
  | call (name : String)
  /-- Do some actions; if they fail, observe the failure and go on. -/
  | attempt (body : List (Action π))
  | fail (category text : String)
  | leave (value : Value)

/-- The action lists that a script can call by name. -/
abbrev Named (π : Type) := List (String × List (Action π))

end FrontEnd.Script
