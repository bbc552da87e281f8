import FrontEnd.Value.Written

/-!
# Arithmetic expressions

The trees that the arithmetic grammar builds: numbers joined by addition and
subtraction.
-/

namespace FrontEnd.Arithmetic

inductive Expr where
  /-- A number, by the literal of its token. -/
  | number (literal : Value)
  | add (left right : Expr)
  | subtract (left right : Expr)
  deriving Repr, DecidableEq

/-- A tree written with the operator first and every operation in parentheses. -/
def Expr.written : Expr → String
  | number literal => literal.written
  | add left right => "(+ " ++ left.written ++ " " ++ right.written ++ ")"
  | subtract left right => "(- " ++ left.written ++ " " ++ right.written ++ ")"

end FrontEnd.Arithmetic
