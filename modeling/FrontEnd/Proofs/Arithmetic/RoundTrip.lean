import FrontEnd.Proofs.Arithmetic.Acceptance
import FrontEnd.Proofs.Arithmetic.Analysis
import Mathlib.Algebra.Group.Nat.Defs

/-!
# Rendered trees are read back

The infix text of a tree has parentheses only around an operation that stands on the
right of another. Reading that text gives the tree again, and every tree that is read
from any text has such a text itself.

A text that is joined from two others by a symbol is cut at the symbol, wherever it
stands. So the derivation of a rendered tree follows the tree.
-/

namespace FrontEnd.Arithmetic

def Expr.isOperation : Expr → Bool
  | .number _ => false
  | .add .. | .subtract .. => true

/-- Put a text in parentheses if they are needed. -/
def enclose (needed : Bool) (text : String) : String :=
  if needed then "(" ++ text ++ ")" else text

/-- The infix text of a tree. -/
def Expr.render : Expr → String
  | .number literal => literal.written
  | .add left right => left.render ++ "+" ++ enclose right.isOperation right.render
  | .subtract left right => left.render ++ "-" ++ enclose right.isOperation right.render

/-- Every number of the tree is a natural one with no more digits than are converted. -/
def Expr.Renderable : Expr → Prop
  | .number literal => ∃ n : Nat, literal = .int n ∧ n < 10 ^ Numeral.digitLimit
  | .add left right | .subtract left right => left.Renderable ∧ right.Renderable

/-- A text is read as a tree when neither step finds an error. -/
def Reads (source : String) (tree : Expr) : Prop :=
  ∃ lexed, lexed.errors = #[] ∧ (analyse entry source).1 = .ok ⟨lexed, ⟨some tree, #[]⟩⟩

/-- No piece of a text that stands after `before` is unknown or too long. -/
structure Flawless (before text : List Char) : Prop where
  known : errorsIn before text = []
  short : ∀ piece ∈ pieces text, ¬ Oversized piece

variable {before left right text : List Char} {c : Char} {kind : Kind}

theorem flawless_nil (before : List Char) : Flawless before [] where
  known := rfl
  short := by simp [pieces]

theorem not_isDigit_of_symbol (symbol : symbols.lookup c = some kind) :
    Text.isDigit c = false := by
  rw [← symbol?_eq_lookup] at symbol
  unfold symbol? at symbol
  split at symbol
  case h_5 => cases symbol
  all_goals rfl

theorem tokensIn_around (symbol : symbols.lookup c = some kind) (before left right : List Char) :
    ∃ token, token.kind = some kind ∧ tokensIn before (left ++ c :: right) =
      tokensIn before left ++ token :: tokensIn (before ++ left ++ [c]) right := by
  have other := not_isDigit_of_symbol symbol
  have standsFor : meaning [c] = some (kind, .null) := by
    rw [meaning_single other, symbol, Option.map_some]
  obtain ⟨token, found, isKind⟩ :
      ∃ token, tokenOf (before ++ left, [c]) = some token ∧ token.kind = some kind := by
    rw [tokenOf, standsFor]
    exact ⟨_, rfl, rfl⟩
  refine ⟨token, isKind, ?_⟩
  rw [tokensIn, placed_around other, List.filterMap_append, List.filterMap_cons, found]
  rfl

theorem Flawless.around (symbol : symbols.lookup c = some kind) (one : Flawless before left)
    (two : Flawless (before ++ left ++ [c]) right) : Flawless before (left ++ c :: right) where
  known := by
    have other := not_isDigit_of_symbol symbol
    have known : errorOf (before ++ left, [c]) = none := by
      simp [errorOf, isUnknown, symbol]
    rw [errorsIn, placed_around other, List.filterMap_append, List.filterMap_cons, known]
    rw [← errorsIn, one.known, ← errorsIn, two.known, List.append_nil]
  short := by
    have other := not_isDigit_of_symbol symbol
    intro piece member
    rw [pieces_around other, List.mem_append, List.mem_cons] at member
    rcases member with inLeft | rfl | inRight
    · exact one.short piece inLeft
    · simp [Oversized, other]
    · exact two.short piece inRight

/-- Wherever the text stands, it has no flaw and its tokens derive the tree. -/
def Spells (derives : List (Token Kind) → Expr → Prop) (text : List Char) (tree : Expr) : Prop :=
  ∀ before, Flawless before text ∧ derives (tokensIn before text) tree

variable {tree rightTree : Expr}

theorem spells_numeral {n : Nat} (fits : n < 10 ^ Numeral.digitLimit) :
    Spells Term (Nat.toDigits 10 n) (.number (.int n)) := by
  intro before
  have digits : ∀ c ∈ Nat.toDigits 10 n, Text.isDigit c = true :=
    fun c member => Nat.isDigit_of_mem_toDigits (by decide) (by decide) member
  have whole : pieces (Nat.toDigits 10 n) = [Nat.toDigits 10 n] :=
    pieces_run digits Nat.toDigits_ne_nil
  have standsFor : meaning (Nat.toDigits 10 n) = some (.number, .int n) := by
    rw [meaning_run digits, Nat.ofDigitChars_ten_toDigits]
  refine ⟨⟨?_, ?_⟩, ?_⟩
  · have known := (token_proper standsFor before).2
    rw [errorsIn, whole, placed, placed, List.filterMap_cons, known]
    rfl
  · have short : (Nat.toDigits 10 n).length ≤ Numeral.digitLimit :=
      (Nat.length_toDigits_le_iff (by decide) (by decide)).mpr fits
    rw [whole]
    simp [Oversized, short]
  · rw [tokensIn, whole, placed, placed, List.filterMap_cons, tokenOf, standsFor]
    exact .number rfl

theorem Spells.parens (inner : Spells Expression text tree) :
    Spells Term ('(' :: (text ++ [')'])) tree := by
  intro before
  have leftParen : symbols.lookup '(' = some .leftParen := rfl
  have rightParen : symbols.lookup ')' = some .rightParen := rfl
  let inside := before ++ [] ++ ['(']
  obtain ⟨flawless, derived⟩ := inner inside
  obtain ⟨closing, closes, afterOpening⟩ := tokensIn_around rightParen inside text []
  obtain ⟨opening, opens, all⟩ := tokensIn_around leftParen before [] (text ++ [')'])
  have closed : Flawless inside (text ++ [')']) := flawless.around rightParen (flawless_nil _)
  have whole := (flawless_nil before).around leftParen closed
  refine ⟨whole, ?_⟩
  rw [List.nil_append] at all
  rw [all, afterOpening]
  exact .parens opens derived closes

theorem Spells.signed (symbol : symbols.lookup c = some kind) (isSign : kind = .plus ∨ kind = .minus)
    (one : Spells Expression left tree) (two : Spells Term right rightTree) :
    Spells Expression (left ++ c :: right)
      (if kind = .plus then tree.add rightTree else tree.subtract rightTree) := by
  intro before
  obtain ⟨flawless, derived⟩ := one before
  obtain ⟨flawless', term⟩ := two (before ++ left ++ [c])
  obtain ⟨sign, isKind, all⟩ := tokensIn_around symbol before left right
  refine ⟨flawless.around symbol flawless', ?_⟩
  have hasSign : sign.kind = some .plus ∨ sign.kind = some .minus := by
    simpa [isKind] using isSign
  have extended := derived.extend ⟨sign, tokensIn (before ++ left ++ [c]) right, rightTree⟩ hasSign term
  rw [all]
  simpa [Signed.join, Signed.spelled, isKind] using extended

theorem toList_written (n : Nat) : (Value.int n).written.toList = Nat.toDigits 10 n := by
  rw [Value.written, ← Nat.toList_repr]
  rfl

theorem spells_operand (renderable : tree.Renderable)
    (rendered : Spells Expression tree.render.toList tree) :
    Spells Term (enclose tree.isOperation tree.render).toList tree := by
  cases tree with
  | number literal =>
      obtain ⟨n, rfl, fits⟩ := renderable
      rw [Expr.isOperation, enclose, if_neg (by decide), Expr.render, toList_written]
      exact spells_numeral fits
  | add left right =>
      rw [Expr.isOperation, enclose, if_pos rfl]
      simpa using rendered.parens
  | subtract left right =>
      rw [Expr.isOperation, enclose, if_pos rfl]
      simpa using rendered.parens

theorem spells_render (renderable : tree.Renderable) :
    Spells Expression tree.render.toList tree := by
  induction tree with
  | number literal =>
      obtain ⟨n, rfl, fits⟩ := renderable
      intro before
      obtain ⟨flawless, term⟩ := spells_numeral fits before
      rw [Expr.render, toList_written]
      exact ⟨flawless, .of_term term⟩
  | add left right ihLeft ihRight =>
      have plus : symbols.lookup '+' = some .plus := rfl
      have operand := spells_operand renderable.2 (ihRight renderable.2)
      have joined := (ihLeft renderable.1).signed plus (.inl rfl) operand
      simpa [Expr.render] using joined
  | subtract left right ihLeft ihRight =>
      have minus : symbols.lookup '-' = some .minus := rfl
      have operand := spells_operand renderable.2 (ihRight renderable.2)
      have joined := (ihLeft renderable.1).signed minus (.inr rfl) operand
      simpa [Expr.render] using joined

theorem ofDigitChars_lt {run : List Char} (digits : ∀ c ∈ run, Text.isDigit c = true)
    (start : Nat) : Nat.ofDigitChars 10 run start < (start + 1) * 10 ^ run.length := by
  induction run generalizing start with
  | nil => simp
  | cons c run ih =>
      obtain ⟨isDigit, digits⟩ := List.forall_mem_cons.mp digits
      have digit : c.toNat - '0'.toNat ≤ 9 := by
        have small : c.toNat ≤ '9'.toNat := by
          simp only [Text.isDigit, Bool.and_eq_true, decide_eq_true_eq] at isDigit
          exact isDigit.2
        have zero : '0'.toNat = 48 := rfl
        have nine : '9'.toNat = 57 := rfl
        omega
      rw [Nat.ofDigitChars_cons, List.length_cons]
      calc Nat.ofDigitChars 10 run (10 * start + (c.toNat - '0'.toNat))
          < (10 * start + (c.toNat - '0'.toNat) + 1) * 10 ^ run.length := ih digits _
        _ ≤ (10 * (start + 1)) * 10 ^ run.length := Nat.mul_le_mul_right _ (by omega)
        _ = (start + 1) * 10 ^ (run.length + 1) := by
            rw [Nat.mul_comm 10, Nat.mul_assoc, ← Nat.pow_succ']

theorem number_of_meaning {piece : List Char} {literal : Value}
    (standsFor : meaning piece = some (.number, literal)) :
    (∀ c ∈ piece, Text.isDigit c = true) ∧ literal = .int (Nat.ofDigitChars 10 piece 0) := by
  unfold meaning at standsFor
  split at standsFor
  case isTrue digits =>
    refine ⟨by simpa using digits, ?_⟩
    cases standsFor
    rfl
  case isFalse =>
    split at standsFor
    case h_1 c =>
      rw [← symbol?_eq_lookup] at standsFor
      unfold symbol? at standsFor
      split at standsFor <;> cases standsFor
    case h_2 => cases standsFor

/-- Every number among the tokens is one that can be rendered. -/
def NumbersRenderable (tokens : List (Token Kind)) : Prop :=
  ∀ token ∈ tokens, token.kind = some .number → (Expr.number token.literal).Renderable

theorem Flawless.numbersRenderable (flawless : Flawless before text) :
    NumbersRenderable (tokensIn before text) := by
  intro token member numeral
  obtain ⟨place, placed, found⟩ := List.mem_filterMap.mp member
  obtain ⟨⟨kind, literal⟩, standsFor, rfl⟩ := Option.map_eq_some_iff.mp found
  obtain rfl : kind = .number := by simpa using numeral
  obtain ⟨digits, rfl⟩ := number_of_meaning standsFor
  have short := flawless.short place.2 (mem_of_mem_placed placed)
  refine ⟨_, rfl, ?_⟩
  calc Nat.ofDigitChars 10 place.2 0
      < (0 + 1) * 10 ^ place.2.length := ofDigitChars_lt digits 0
    _ ≤ 10 ^ Numeral.digitLimit := by
        rw [Oversized, List.all_eq_true, not_and, Nat.not_lt] at short
        rw [Nat.zero_add, Nat.one_mul]
        exact Nat.pow_le_pow_right (by decide) (short digits)

theorem renderable_foldl {signed : List Signed} (start : tree.Renderable)
    (terms : ∀ item ∈ signed, item.tree.Renderable) :
    (signed.foldl Signed.join tree).Renderable := by
  induction signed generalizing tree with
  | nil => exact start
  | cons item signed ih =>
      obtain ⟨term, terms⟩ := List.forall_mem_cons.mp terms
      have joined : (Signed.join tree item).Renderable := by
        unfold Signed.join
        split <;> exact ⟨start, term⟩
      exact ih joined terms

theorem renderable_chain {first : List (Token Kind)} {signed : List Signed}
    (numbers : NumbersRenderable (first ++ signed.flatMap Signed.spelled))
    (head : NumbersRenderable first → tree.Renderable)
    (terms : ∀ item ∈ signed, NumbersRenderable item.tokens → item.tree.Renderable) :
    (signed.foldl Signed.join tree).Renderable := by
  simp only [NumbersRenderable, List.mem_append, List.mem_flatMap] at numbers
  have start : tree.Renderable := head fun token member => numbers token (.inl member)
  apply renderable_foldl start
  intro item inChain
  apply terms item inChain
  intro token member
  exact numbers token (.inr ⟨item, inChain, List.mem_cons_of_mem _ member⟩)

theorem Term.renderable {tokens : List (Token Kind)} (term : Term tokens tree)
    (numbers : NumbersRenderable tokens) : tree.Renderable := by
  induction term using Term.induct with
  | number numeral => exact numbers _ List.mem_cons_self numeral
  | parens opens closes head signs terms ihHead ihTerms =>
      obtain ⟨-, numbers⟩ := List.forall_mem_cons.mp numbers
      exact renderable_chain (List.forall_mem_append.mp numbers).1 ihHead ihTerms

theorem Expression.renderable {tokens : List (Token Kind)} (derived : Expression tokens tree)
    (numbers : NumbersRenderable tokens) : tree.Renderable := by
  cases derived with
  | chain head signs terms =>
      apply renderable_chain numbers head.renderable
      intro item inChain
      exact (terms item inChain).renderable

/-- A text is read as a tree just when it has no flaw and its tokens derive the tree. -/
theorem reads_iff {source : String} : Reads source tree ↔
    Flawless [] source.toList ∧ Expression (tokensIn [] source.toList) tree := by
  by_cases short : ∀ piece ∈ pieces source.toList, ¬ Oversized piece
  · obtain ⟨parsing, tokens, analysed⟩ := analyse_of_short entry short
    have beforeEnd := beforeEnd_lexedAs source.toList
    rw [← tokens] at beforeEnd
    have builds : (parseWith entry parsing).1 = .ok ⟨some tree, #[]⟩ ↔
        Expression (tokensIn [] source.toList) tree := by
      rw [← beforeEnd]
      exact parseExpr_builds_iff
    have known : (lexedAs source.toList).errors = #[] ↔ errorsIn [] source.toList = [] := by
      simp [lexedAs]
    rw [← builds]
    constructor
    · rintro ⟨lexed, clean, outcome⟩
      rw [analysed] at outcome
      cases ran : (parseWith entry parsing).1 with
      | error stop =>
          rw [ran] at outcome
          cases outcome
      | ok parsed =>
          rw [ran] at outcome
          cases outcome
          exact ⟨⟨known.mp clean, short⟩, rfl⟩
    · rintro ⟨flawless, ran⟩
      refine ⟨lexedAs source.toList, known.mpr flawless.known, ?_⟩
      rw [analysed, ran]
      rfl
  · refine iff_of_false ?_ fun read => short read.1.short
    rintro ⟨lexed, -, outcome⟩
    push Not at short
    obtain ⟨count, refused⟩ := lex_of_long short
    have stopped : lex source = (.error (.oversizedNumeral count), (lex source).2) :=
      Prod.ext refused rfl
    rw [analyse, stopped] at outcome
    cases outcome

/-- The text of a tree is read as that tree, and the tree that is read from any text is read
    again from its own text. -/
theorem reads_render :
    (∀ tree : Expr, tree.Renderable → Reads tree.render tree) ∧
      ∀ (source : String) (tree : Expr), Reads source tree → Reads tree.render tree := by
  have back : ∀ tree : Expr, tree.Renderable → Reads tree.render tree := by
    intro tree renderable
    exact reads_iff.mpr (spells_render renderable [])
  constructor
  · exact back
  · intro source tree read
    obtain ⟨flawless, derived⟩ := reads_iff.mp read
    exact back tree (derived.renderable flawless.numbersRenderable)

/-- Parentheses on the right are kept, and do not come back twice. -/
theorem reads_render_grouped :
    let tree := Expr.subtract (.number (.int 1)) (.add (.number (.int 2)) (.number (.int 3)))
    tree.Renderable ∧ Reads "1-(2+3)" tree ∧ Reads tree.render tree := by
  intro tree
  have small : ∀ n < 10, n < 10 ^ Numeral.digitLimit := by
    intro n digit
    have power : 10 ^ 1 ≤ 10 ^ Numeral.digitLimit := Nat.pow_le_pow_right (by decide) (by decide)
    omega
  have renderable : tree.Renderable :=
    ⟨⟨1, rfl, small 1 (by decide)⟩, ⟨2, rfl, small 2 (by decide)⟩, ⟨3, rfl, small 3 (by decide)⟩⟩
  have rendered : tree.render = "1-(2+3)" := by decide
  have read : Reads "1-(2+3)" tree := rendered ▸ reads_render.1 tree renderable
  exact ⟨renderable, read, reads_render.2 "1-(2+3)" tree read⟩

end FrontEnd.Arithmetic
