import FrontEnd.Arithmetic.Expr
import FrontEnd.Arithmetic.Kind
import FrontEnd.Token

/-!
# Derivations of arithmetic

The grammar of arithmetic as a relation between tokens and trees, said without any
reading order:

    expression := term (("+" | "-") term)*
    term       := NUMBER | "(" expression ")"

A chain of signed terms is grouped to the left. The grammar is unambiguous, and it is
so in the middle of a text too: a term ends where it ends whatever follows, and an
expression does once no sign follows it.
-/

namespace FrontEnd.Arithmetic

/-- A sign, the tokens of the term after it and the tree of that term. -/
structure Signed where
  sign : Token Kind
  tokens : List (Token Kind)
  tree : Expr

namespace Signed

def HasSign (signed : Signed) : Prop :=
  signed.sign.kind = some .plus ∨ signed.sign.kind = some .minus

def spelled (signed : Signed) : List (Token Kind) := signed.sign :: signed.tokens

/-- The operation that the sign stands for, with what precedes it on the left. -/
def join (left : Expr) (signed : Signed) : Expr :=
  if signed.sign.kind = some .plus then left.add signed.tree else left.subtract signed.tree

end Signed

mutual

/-- The tokens are a term with this tree. -/
inductive Term : List (Token Kind) → Expr → Prop where
  | number {token : Token Kind} (numeral : token.kind = some .number) :
      Term [token] (.number token.literal)
  | parens {opening closing : Token Kind} {inner : List (Token Kind)} {tree : Expr}
      (opens : opening.kind = some .leftParen) (derived : Expression inner tree)
      (closes : closing.kind = some .rightParen) :
      Term (opening :: (inner ++ [closing])) tree

/-- The tokens are an expression with this tree. -/
inductive Expression : List (Token Kind) → Expr → Prop where
  | chain {first : List (Token Kind)} {left : Expr} {signed : List Signed}
      (head : Term first left) (signs : ∀ item ∈ signed, item.HasSign)
      (terms : ∀ item ∈ signed, Term item.tokens item.tree) :
      Expression (first ++ signed.flatMap Signed.spelled) (signed.foldl Signed.join left)

end

/-- A sequence of kinds that an expression is written with. -/
def Grammatical (kinds : List (Option Kind)) : Prop :=
  ∃ tokens tree, Expression tokens tree ∧ tokens.map Token.kind = kinds

/-- A beginning of an expression: something that can be completed to one. -/
def Completable (kinds : List (Option Kind)) : Prop := ∃ more, Grammatical (kinds ++ more)

/-- A beginning of an expression together with the end token behind it. -/
def Viable (kinds : List (Option Kind)) : Prop :=
  ∃ whole, Grammatical whole ∧ kinds <+: whole ++ [none]

def SignAhead (behind : List (Token Kind)) : Prop :=
  ∃ token rest, behind = token :: rest ∧ (token.kind = some .plus ∨ token.kind = some .minus)

theorem Expression.of_term {tokens : List (Token Kind)} {tree : Expr} (term : Term tokens tree) :
    Expression tokens tree := by
  have alone : Expression (tokens ++ [].flatMap Signed.spelled) ([].foldl Signed.join tree) :=
    .chain term (by simp) (by simp)
  simpa using alone

theorem Expression.extend {tokens : List (Token Kind)} {left : Expr} (signed : Signed)
    (derived : Expression tokens left) (sign : signed.HasSign)
    (term : Term signed.tokens signed.tree) :
    Expression (tokens ++ signed.spelled) (signed.join left) := by
  cases derived with
  | @chain first start items head signs terms =>
      have signs' : ∀ item ∈ items ++ [signed], item.HasSign := by
        simpa [or_imp, forall_and] using ⟨signs, sign⟩
      have terms' : ∀ item ∈ items ++ [signed], Term item.tokens item.tree := by
        simpa [or_imp, forall_and] using ⟨terms, term⟩
      simpa using Expression.chain head signs' terms'

/-- Induction over the terms of a derivation: a number, and parentheses around a chain of
    terms for which the statement holds. -/
@[elab_as_elim]
theorem Term.induct {motive : (tokens : List (Token Kind)) → (tree : Expr) → Term tokens tree → Prop}
    (number : ∀ {token : Token Kind} (numeral : token.kind = some .number),
      motive _ _ (.number numeral))
    (parens : ∀ {opening closing : Token Kind} {first : List (Token Kind)} {left : Expr}
      {signed : List Signed} (opens : opening.kind = some .leftParen)
      (closes : closing.kind = some .rightParen) (head : Term first left)
      (signs : ∀ item ∈ signed, item.HasSign) (terms : ∀ item ∈ signed, Term item.tokens item.tree),
      motive first left head →
      (∀ item (member : item ∈ signed), motive item.tokens item.tree (terms item member)) →
      motive _ _ (.parens opens (.chain head signs terms) closes))
    {tokens : List (Token Kind)} {tree : Expr} : (term : Term tokens tree) → motive tokens tree term
  | .number numeral => number numeral
  | .parens opens (.chain head signs terms) closes =>
      parens opens closes head signs terms (Term.induct number parens head)
        fun item member => Term.induct number parens (terms item member)

theorem not_signAhead_closing {token : Token Kind} (closes : token.kind = some .rightParen)
    (rest : List (Token Kind)) : ¬ SignAhead (token :: rest) := by
  rintro ⟨next, more, here, sign⟩
  obtain ⟨rfl, rfl⟩ := List.cons.inj here
  simp [closes] at sign

/-- Two chains of signed terms at the beginning of one text are equal when the terms of
    the first are determined by the text. -/
theorem chain_unique {signed others : List Signed} {rest other : List (Token Kind)}
    (determined : ∀ item ∈ signed, ∀ {tokens rest other tree}, Term tokens tree →
      item.tokens ++ rest = tokens ++ other → item.tokens = tokens ∧ item.tree = tree)
    (signs : ∀ item ∈ signed, item.HasSign) (signs' : ∀ item ∈ others, item.HasSign)
    (terms' : ∀ item ∈ others, Term item.tokens item.tree)
    (same : signed.flatMap Signed.spelled ++ rest = others.flatMap Signed.spelled ++ other)
    (ends : ¬ SignAhead rest) (ends' : ¬ SignAhead other) : signed = others := by
  induction signed generalizing others with
  | nil =>
      cases others with
      | nil => rfl
      | cons item others =>
          exact absurd ⟨item.sign, _, by simpa [Signed.spelled] using same,
            signs' item List.mem_cons_self⟩ ends
  | cons item signed ih =>
      obtain ⟨here, determined⟩ := List.forall_mem_cons.mp determined
      obtain ⟨sign, signs⟩ := List.forall_mem_cons.mp signs
      cases others with
      | nil =>
          exact absurd ⟨item.sign, _, by simpa [Signed.spelled] using same.symm, sign⟩ ends'
      | cons item' others =>
          obtain ⟨-, signs'⟩ := List.forall_mem_cons.mp signs'
          obtain ⟨term', terms'⟩ := List.forall_mem_cons.mp terms'
          simp only [List.flatMap_cons, Signed.spelled, List.cons_append, List.append_assoc,
            List.cons.injEq] at same
          obtain ⟨sameSign, same⟩ := same
          obtain ⟨sameTokens, sameTree⟩ := here term' same
          rw [sameTokens, List.append_cancel_left_eq] at same
          have sameItem : item = item' := by
            cases item; cases item'; simp_all
          have sameRest : signed = others := ih determined signs signs' terms' same
          rw [sameItem, sameRest]

theorem Term.unique {first second rest other : List (Token Kind)} {left right : Expr}
    (one : Term first left) (two : Term second right) (same : first ++ rest = second ++ other) :
    first = second ∧ left = right := by
  induction one using Term.induct generalizing second right rest other with
  | number numeral =>
      cases two with
      | number _ => simp_all
      | parens opens _ _ => simp_all
  | parens opens closes head signs _ headUnique termsUnique =>
      cases two with
      | number numeral => simp_all
      | parens _ derived closes' =>
          cases derived with
          | chain head' signs' terms' =>
              simp only [List.cons_append, List.append_assoc, List.cons.injEq] at same
              obtain ⟨rfl, same⟩ := same
              obtain ⟨rfl, rfl⟩ := headUnique head' same
              obtain rfl := chain_unique termsUnique signs signs' terms'
                (List.append_cancel_left same) (not_signAhead_closing closes _)
                (not_signAhead_closing closes' _)
              simp_all

/-- Two expressions at the beginning of one text are the same expression, unless one of
    them stops before a sign. -/
theorem Expression.unique {first second rest other : List (Token Kind)} {left right : Expr}
    (one : Expression first left) (two : Expression second right)
    (same : first ++ rest = second ++ other) (ends : ¬ SignAhead rest)
    (ends' : ¬ SignAhead other) : first = second ∧ left = right := by
  cases one with
  | chain head signs terms =>
      cases two with
      | chain head' signs' terms' =>
          simp only [List.append_assoc] at same
          obtain ⟨rfl, rfl⟩ := head.unique head' same
          obtain rfl := chain_unique (fun item member => (terms item member).unique) signs signs'
            terms' (List.append_cancel_left same) ends ends'
          exact ⟨rfl, rfl⟩

theorem Expression.tree_unique {tokens : List (Token Kind)} {left right : Expr}
    (one : Expression tokens left) (two : Expression tokens right) : left = right := by
  have nothing : ¬ SignAhead [] := by
    rintro ⟨_, _, here, -⟩
    exact absurd here (by simp)
  have same : tokens ++ [] = tokens ++ [] := rfl
  exact (one.unique two same nothing nothing).2

end FrontEnd.Arithmetic
