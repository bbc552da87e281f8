/-!
# Kinds of tokens in arithmetic

The arithmetic language has five kinds of tokens. A token sequence may also hold
tokens of other languages, which its grammar refuses.
-/

namespace FrontEnd.Arithmetic

inductive Kind where
  | number
  | plus
  | minus
  | leftParen
  | rightParen
  /-- A kind that arithmetic does not know. -/
  | foreign (name : String)
  deriving Repr, DecidableEq

namespace Kind

def name : Kind → String
  | number => "NUMBER"
  | plus => "PLUS"
  | minus => "MINUS"
  | leftParen => "LEFT_PAREN"
  | rightParen => "RIGHT_PAREN"
  | foreign name => name

instance : ToString Kind := ⟨name⟩

def ofName (name : String) : Kind :=
  if name = "NUMBER" then number
  else if name = "PLUS" then plus
  else if name = "MINUS" then minus
  else if name = "LEFT_PAREN" then leftParen
  else if name = "RIGHT_PAREN" then rightParen
  else foreign name

theorem name_ofName (name : String) : (ofName name).name = name := by
  unfold ofName
  repeat' split
  all_goals simp_all [Kind.name]

end Kind

end FrontEnd.Arithmetic
