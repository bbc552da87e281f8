import FrontEnd.Text.Printable

/-!
# Lexical errors

A character that no classification routine accepts becomes an error and the pass
goes on; nothing lexical is ever raised.
-/

namespace FrontEnd

/-- A character that could not be classified, with its place. -/
structure LexicalError where
  message : String
  line : Int
  /-- First position within the line. -/
  start : Int
  /-- Position after the last one. -/
  stop : Int
  code : String := "L001"
  deriving Repr, DecidableEq

namespace LexicalError

def codes : List (String × String) := [("L001", "Unknown character")]

/-- A code point as a standard name: at least four capital hexadecimal digits. -/
def codePointName (c : Char) : String :=
  let digits := (Nat.toDigits 16 c.toNat).map Char.toUpper
  "U+" ++ String.ofList (List.replicate (4 - digits.length) '0' ++ digits)

/-- The error for a character that is not classified. A character that cannot be shown
    is named by its code point. -/
def unknownCharacter (c : Char) (line start stop : Int) : LexicalError where
  message :=
    if Text.isPrintable c then "Unknown character '" ++ c.toString ++ "'."
    else "Unknown character " ++ codePointName c ++ "."
  line := line
  start := start
  stop := stop

def report (error : LexicalError) : String :=
  error.code ++ ": " ++ error.message ++ " (line " ++ toString error.line ++ ", " ++
    toString error.start ++ ":" ++ toString error.stop ++ ")"

end LexicalError

end FrontEnd
