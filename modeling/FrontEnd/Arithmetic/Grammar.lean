import FrontEnd.Arithmetic.Expr
import FrontEnd.Arithmetic.Kind
import FrontEnd.Parsing.Grammar

/-!
# The grammar of arithmetic

An expression is a term followed by any number of signs and terms, grouped to the
left. A term is a number or an expression in parentheses.

There are two grammars. `entry` takes the whole input for one expression and aborts
at the first token that does not fit. `entries` takes a run of expressions, and
recovers from tokens between them that cannot start one.

The routines carry a bound on their depth. Every nested expression and every sign
consumes a token, so twice the number of tokens is never reached.
-/

namespace FrontEnd.Arithmetic

open Grammar

/-- A routine of the arithmetic grammar. -/
abbrev Rule := Grammar Kind Unit

mutual

/-- A term and the signed terms after it. -/
def expression : Nat → Rule Expr
  | 0 => throw (.fault .outOfSteps)
  | bound + 1 => do
      let left ← term bound
      operations bound left

/-- The signed terms after `left`, grouped to the left. -/
def operations : Nat → Expr → Rule Expr
  | 0, _ => throw (.fault .outOfSteps)
  | bound + 1, left => do
      if ← accept [some .plus, some .minus] then
        let sign ← previous
        let right ← term bound
        operations bound (if sign.kind = some .plus then left.add right else left.subtract right)
      else pure left

/-- A number or an expression in parentheses. -/
def term : Nat → Rule Expr
  | 0 => throw (.fault .outOfSteps)
  | bound + 1 => do
      if ← accept [some .leftParen] then
        let inner ← expression bound
        let _ ← consume (some .rightParen) "Expected ')' after expression."
        pure inner
      else
        let token ← consume (some .number) "Expected Number."
        pure (.number token.literal)

end

/-- One expression that is the whole input. -/
def entry (bound : Nat) : Rule Expr := do
  let expr ← expression bound
  if ← isComplete then pure expr
  else fail (← peek) "Expected end of input."

/-- Whether the current token can start an expression. -/
def atExpression : Rule Bool := do
  if ← check (some .number) then pure true else check (some .leftParen)

/-- The expressions up to the end token, after those already found, in at most `rounds`
    rounds. A round takes an expression, or records an error and passes over tokens up to
    the next one that can start an expression. -/
def entriesFrom (bound : Nat) : Nat → Array Expr → Rule (Array Expr)
  | 0, _ => throw (.fault .outOfSteps)
  | rounds + 1, found => do
      if ← isComplete then pure found
      else if ← atExpression then
        let expr ← expression bound
        entriesFrom bound rounds (found.push expr)
      else
        record { token := ← peek, message := "Expected expression." }
        let _ ← advance 1
        skipUntil [some .number, some .leftParen]
        entriesFrom bound rounds found

/-- A run of expressions. -/
def entries (bound : Nat) : Rule (Array Expr) := entriesFrom bound bound #[]

/-- A bound on the depth and on the rounds that no parse of these tokens reaches. -/
def boundFor (tokens : Array (Token Kind)) : Nat := 2 * tokens.size + 2

/-- Parse with a grammar whose entry takes a bound. -/
def parseWith {α : Type} (root : Nat → Rule α) (parsing : Parsing Kind) :
    Except Stop (Parsed Kind α) × Parsing Kind :=
  match (parse (root (boundFor parsing.tokens))).on () parsing with
  | (outcome, _, parsing) => (outcome, parsing)

/-- Parse one expression, aborting at the first error. -/
def parseExpr : Parsing Kind → Except Stop (Parsed Kind Expr) × Parsing Kind := parseWith entry

/-- Parse a run of expressions, recovering between them. -/
def parseExprs : Parsing Kind → Except Stop (Parsed Kind (Array Expr)) × Parsing Kind :=
  parseWith entries

end FrontEnd.Arithmetic
