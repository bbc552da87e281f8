import FrontEnd.Value.Written

/-!
# Tokens

A token is a classified piece of text with its place: the line, the first and the
next position within the line, and the absolute offset of its first character. Each
language brings its own type `κ` of kinds; the missing kind marks the end token that
closes every token sequence.
-/

namespace FrontEnd

/-- A token of a language with kinds `κ`. -/
structure Token (κ : Type) where
  /-- The kind, or none for an end token. -/
  kind : Option κ
  /-- The text in the source, which an end token usually lacks. -/
  lexeme : Option String
  /-- The decoded value, such as the integer of a numeral. -/
  literal : Value
  line : Int
  start : Int
  /-- Position after the last one. -/
  stop : Int
  /-- Offset of the first character in the whole source. -/
  offset : Int := 0
  deriving Repr, DecidableEq

namespace Token

variable {κ : Type}

/-- The token placed after the last character. -/
def endOfStream (line position offset : Int) : Token κ :=
  ⟨none, none, .null, line, position, position, offset⟩

instance : Inhabited (Token κ) := ⟨endOfStream 0 0 0⟩

/-- Whether a token closes its sequence, whatever lexeme it has. -/
def isEnd (token : Token κ) : Bool := token.kind.isNone

@[simp] theorem isEnd_endOfStream (line position offset : Int) :
    (endOfStream line position offset : Token κ).isEnd = true := rfl

variable [ToString κ]

def kindName (token : Token κ) : String :=
  match token.kind with
  | none => "EOF"
  | some kind => toString kind

/-- A token as messages cite it: the kind and the lexeme, and the literal where it says
    more than the lexeme. -/
def cited (token : Token κ) : String :=
  if token.isEnd then "EOF"
  else
    let lexeme := Value.ofText? token.lexeme
    if token.literal ≠ .null ∧ token.literal ≠ lexeme then
      token.kindName ++ "(" ++ lexeme.written ++ " -> " ++ token.literal.written ++ ")"
    else token.kindName ++ "(" ++ lexeme.written ++ ")"

def detailed (token : Token κ) : String :=
  "Token(" ++ token.kindName ++ ", " ++ (Value.ofText? token.lexeme).written ++ ", " ++
    token.literal.written ++ ", line=" ++ toString token.line ++ ", " ++
    toString token.start ++ ":" ++ toString token.stop ++ ")"

end Token

end FrontEnd
