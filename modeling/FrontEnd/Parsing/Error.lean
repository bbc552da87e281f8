import FrontEnd.Token

/-!
# Syntax errors

A syntax error belongs to the token at which it was noticed.
-/

namespace FrontEnd

/-- A syntax error and the token it was noticed at. -/
structure SyntaxError (κ : Type) where
  token : Token κ
  message : String
  code : String := "P001"
  deriving Repr, DecidableEq

namespace SyntaxError

variable {κ : Type}

/-- What the codes of syntax errors stand for. -/
def codes : List (String × String) :=
  [("P001", "Expected token not found"),
    ("P002", "Parse abandoned without a recorded error")]

/-- The error of a parse that was abandoned before any error was recorded. -/
def abandoned (token : Token κ) : SyntaxError κ :=
  ⟨token, "Unable to parse the token sequence.", "P002"⟩

/-- An error on one line, with its code and the token. -/
def report [ToString κ] (error : SyntaxError κ) : String :=
  error.code ++ ": " ++ error.message ++ " (found " ++ error.token.cited ++ ", line " ++
    toString error.token.line ++ ")"

end SyntaxError

end FrontEnd
