import FrontEnd.Text.Quoted

/-!
# Faults

What goes wrong when an engine or a routine is used outside its bounds, as opposed
to an error in the text being processed. Each fault is named for its cause, and
`Fault.message` is the only place that words it.
-/

namespace FrontEnd

/-- Why an operation gave up. -/
inductive Fault where
  /-- A character was asked for behind the last one. -/
  | exhausted (offset : Nat)
  /-- The last consumed token was asked for before any was consumed. -/
  | nothingConsumed
  | unterminated
  | oversizedNumeral (digits : Nat)
  | malformedNumeral (text : String)
  /-- Something that carries no errors was asked for its diagnostics. -/
  | uncollectable (typeName : String)
  /-- A kept result or a token was asked for by an index that names none. -/
  | outOfRange (subject : String)
  | unknownName (name : String)
  | raised (category text : String)
  | outOfSteps
  deriving Repr, DecidableEq

namespace Fault

def message : Fault → String
  | exhausted offset => "No character left to scan at offset " ++ toString offset
  | nothingConsumed => "No token has been consumed yet"
  | unterminated => "Token sequence must end with the end-of-stream token"
  | oversizedNumeral digits =>
      "Exceeds the limit (4300 digits) for integer string conversion: value has " ++
        toString digits ++ " digits; use sys.set_int_max_str_digits() to increase the limit"
  | malformedNumeral text => "invalid literal for int() with base 10: " ++ Text.quote text
  | uncollectable typeName => "Cannot collect compile errors from " ++ typeName
  | outOfRange subject => subject ++ " index out of range"
  | unknownName name => name
  | raised _ text => text
  | outOfSteps => "No steps are left to run the script"

end Fault

end FrontEnd
