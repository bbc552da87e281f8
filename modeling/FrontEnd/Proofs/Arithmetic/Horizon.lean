import FrontEnd.Proofs.Arithmetic.Acceptance
import FrontEnd.Proofs.Arithmetic.Recovery
import FrontEnd.Proofs.Parsing.Horizon

/-!
# The horizon of the arithmetic grammars

Both grammars make near requests only, so what is behind the first end token has no part in
their parses. There is one thing that does know of it: the bound on their depth, which is
counted from all tokens. But a larger bound never changes what a parse comes to that does not
run out of its bound, and no parse does.
-/

namespace FrontEnd.Arithmetic

open Grammar Parsing Routine

variable {bound : Nat}

/-- The three routines make near requests at one bound. -/
structure NearAt (bound : Nat) : Prop where
  term : (term bound).Uses Request.Near
  expression : (expression bound).Uses Request.Near
  operations : ∀ left, (operations bound left).Uses Request.Near

theorem NearAt.term_succ (below : NearAt bound) : (Arithmetic.term (bound + 1)).Uses Request.Near := by
  rw [Arithmetic.term]
  apply uses_bind (uses_ask trivial)
  intro opens
  apply uses_ite
  · apply uses_bind below.expression
    intro inner
    exact uses_bind (uses_consume trivial) fun _ => uses_pure inner
  · exact uses_bind (uses_consume trivial) fun token => uses_pure _

theorem NearAt.operations_succ (below : NearAt bound) (left : Expr) :
    (Arithmetic.operations (bound + 1) left).Uses Request.Near := by
  rw [Arithmetic.operations]
  apply uses_bind (uses_ask trivial)
  intro signed
  apply uses_ite _ (uses_pure left)
  apply uses_bind (uses_previous trivial)
  intro sign
  exact uses_bind below.term fun right => below.operations _

theorem nearAt (bound : Nat) : NearAt bound := by
  induction bound with
  | zero => exact ⟨uses_throw _, uses_throw _, fun _ => uses_throw _⟩
  | succ bound below =>
      constructor
      case term => exact below.term_succ
      case expression =>
        rw [Arithmetic.expression]
        exact uses_bind below.term below.operations
      case operations => exact below.operations_succ

theorem near_entry (bound : Nat) : (entry bound).Uses Request.Near := by
  rw [entry]
  apply uses_bind (nearAt bound).expression
  intro expr
  apply uses_bind (uses_ask trivial)
  intro complete
  apply uses_ite (uses_pure expr)
  exact uses_bind (uses_ask trivial) fun token => uses_fail (fun _ => trivial) token _

theorem near_atExpression : atExpression.Uses Request.Near := by
  rw [atExpression]
  apply uses_bind (uses_ask trivial)
  intro number
  exact uses_ite (uses_pure true) (uses_ask trivial)

theorem near_recoveryRound (bound : Nat) (found : Array Expr) :
    (recoveryRound bound found).Uses Request.Near := by
  rw [recoveryRound]
  apply uses_bind near_atExpression
  intro starts
  apply uses_ite (uses_bind (nearAt bound).expression fun expr => uses_pure _)
  apply uses_bind (uses_ask trivial)
  intro token
  apply uses_bind (uses_ask trivial)
  intro _
  apply uses_bind (uses_ask trivial)
  intro _
  exact uses_bind (uses_ask trivial) fun _ => uses_pure found

theorem near_entriesFrom (bound rounds : Nat) (found : Array Expr) :
    (entriesFrom bound rounds found).Uses Request.Near := by
  induction rounds generalizing found with
  | zero => exact uses_throw _
  | succ rounds ih =>
      rw [entriesFrom_succ]
      apply uses_bind (uses_ask trivial)
      intro complete
      exact uses_ite (uses_pure found) (uses_bind (near_recoveryRound bound found) ih)

/-- The three routines come to the same with a bound that is larger by one. -/
structure GrowsAt (bound : Nat) : Prop where
  term : Approximates answer Stop.outOfSteps (term bound) (term (bound + 1))
  expression : Approximates answer Stop.outOfSteps (expression bound) (expression (bound + 1))
  operations : ∀ left,
    Approximates answer Stop.outOfSteps (operations bound left) (operations (bound + 1) left)

theorem GrowsAt.term_succ (below : GrowsAt bound) :
    Approximates answer Stop.outOfSteps (Arithmetic.term (bound + 1))
      (Arithmetic.term (bound + 1 + 1)) := by
  rw [Arithmetic.term, Arithmetic.term]
  apply Approximates.bind (.refl _)
  intro opens
  exact .ite (.bind below.expression fun inner => .refl _) (.refl _)

theorem GrowsAt.operations_succ (below : GrowsAt bound) (left : Expr) :
    Approximates answer Stop.outOfSteps (Arithmetic.operations (bound + 1) left)
      (Arithmetic.operations (bound + 1 + 1) left) := by
  rw [Arithmetic.operations, Arithmetic.operations]
  apply Approximates.bind (.refl _)
  intro signed
  apply Approximates.ite _ (.refl _)
  apply Approximates.bind (.refl _)
  intro sign
  exact .bind below.term fun right => below.operations _

theorem growsAt (bound : Nat) : GrowsAt bound := by
  induction bound with
  | zero => exact ⟨.throw _, .throw _, fun _ => .throw _⟩
  | succ bound below =>
      constructor
      case term => exact below.term_succ
      case expression =>
        rw [Arithmetic.expression, Arithmetic.expression]
        exact .bind below.term below.operations
      case operations => exact below.operations_succ

theorem grows_entry : Grows answer Stop.outOfSteps entry := by
  intro bound
  rw [entry, entry]
  exact .bind (growsAt bound).expression fun expr => .refl _

theorem grows_recoveryRound (found : Array Expr) :
    Grows answer Stop.outOfSteps (recoveryRound · found) := by
  intro bound
  simp only [recoveryRound]
  apply Approximates.bind (.refl _)
  intro starts
  exact .ite (.bind (growsAt bound).expression fun expr => .refl _) (.refl _)

theorem approximates_entriesFrom (bound rounds : Nat) (found : Array Expr) :
    Approximates answer Stop.outOfSteps (entriesFrom bound rounds found)
      (entriesFrom (bound + 1) (rounds + 1) found) := by
  induction rounds generalizing found with
  | zero => exact .throw _
  | succ rounds ih =>
      rw [entriesFrom_succ, entriesFrom_succ]
      apply Approximates.bind (.refl _)
      intro complete
      exact .ite (.refl _) (.bind (grows_recoveryRound found bound) ih)

theorem grows_entries : Grows answer Stop.outOfSteps entries := by
  intro bound
  rw [entries, entries]
  exact approximates_entriesFrom bound bound #[]

theorem on_of_parseWith {α : Type} {root : Nat → Rule α} {parsing after : Parsing Kind}
    {outcome : Except Stop (Parsed Kind α)} (ran : parseWith root parsing = (outcome, after)) :
    (parse (root (boundFor parsing.tokens))).on () parsing = (outcome, (), after) := by
  rw [parseWith] at ran
  generalize (parse (root (boundFor parsing.tokens))).on () parsing = result at ran
  obtain ⟨outcome', ⟨⟩, after'⟩ := result
  simpa using ran

theorem parseWith_of_cut {α : Type} {root : Nat → Rule α} {long short after after' : Parsing Kind}
    {parsed parsed' : Parsed Kind α} (cut : CutAtEnd long short)
    (near : ∀ bound, (root bound).Uses Request.Near) (grows : Grows answer Stop.outOfSteps root)
    (ran : parseWith root long = (.ok parsed, after))
    (ran' : parseWith root short = (.ok parsed', after')) :
    parsed = parsed' ∧ after.cursor = after'.cursor := by
  have whole := on_of_parseWith ran
  have part := on_of_parseWith ran'
  have same := shown_parse_of_grows cut near grows () (boundFor long.tokens)
    (boundFor short.tokens) (by simp [whole]) (by simp [part])
  rw [whole, part] at same
  simp only [shown, Prod.mk.injEq, Except.ok.injEq] at same
  obtain ⟨parses, -, cursors, -⟩ := same
  exact ⟨parses, cursors⟩

/-- Nothing behind the first end token can influence a parse by near requests: it ends as on the
    sequence that is cut off there, or behind a later end token. This holds of every grammar, of
    one with a bound on its steps wherever the bound suffices, and of both arithmetic grammars. -/
theorem parses_ignore_behind :
    (∀ {κ σ α : Type} [DecidableEq κ] {long short : Parsing κ}, CutAtEnd long short → ∀ own : σ,
      (∀ root : Grammar κ σ α, root.Uses Request.Near →
        shown ((parse root).on own long) = shown ((parse root).on own short)) ∧
      ∀ root : Nat → Grammar κ σ α, (∀ bound, (root bound).Uses Request.Near) →
        Grows answer Stop.outOfSteps root → ∀ bound other,
          ((parse (root bound)).on own long).1 ≠ .error .outOfSteps →
          ((parse (root other)).on own short).1 ≠ .error .outOfSteps →
            shown ((parse (root bound)).on own long) = shown ((parse (root other)).on own short)) ∧
    ∀ {long short : Parsing Kind}, CutAtEnd long short →
      (∃ parsed after after', parseExpr long = (.ok parsed, after) ∧
        parseExpr short = (.ok parsed, after') ∧ after.cursor = after'.cursor) ∧
      ∃ parsed after after', parseExprs long = (.ok parsed, after) ∧
        parseExprs short = (.ok parsed, after') ∧ after.cursor = after'.cursor := by
  refine ⟨fun cut own => ⟨fun root near => ?_, fun root near grows bound other ends ends' => ?_⟩,
    fun {long short} cut => ⟨?_, ?_⟩⟩
  · exact shown_parse_of_cut cut near own
  · exact shown_parse_of_grows cut near grows own bound other ends ends'
  · obtain ⟨parsed, after, ran, -⟩ := parseExpr_errors_mem long
    obtain ⟨parsed', after', ran', -⟩ := parseExpr_errors_mem short
    obtain ⟨rfl, cursors⟩ := parseWith_of_cut cut near_entry grows_entry ran ran'
    exact ⟨parsed, after, after', ran, ran', cursors⟩
  · obtain ⟨parsed, after, ran, -⟩ := parseExprs_errors_mem long
    obtain ⟨parsed', after', ran', -⟩ := parseExprs_errors_mem short
    have near := fun bound => near_entriesFrom bound bound #[]
    obtain ⟨rfl, cursors⟩ := parseWith_of_cut cut near grows_entries ran ran'
    exact ⟨parsed, after, after', ran, ran', cursors⟩

/-- A number, and a closing parenthesis behind the first end token. -/
def beyond : Parsing Kind where
  tokens :=
    #[⟨some .number, some "1", .int 1, 0, 0, 1, 0⟩, .endOfStream 0 1 1,
      ⟨some .rightParen, some ")", .null, 0, 1, 2, 1⟩, .endOfStream 0 2 2]
  cursor_lt := by decide
  closed := by decide

def within : Parsing Kind where
  tokens := #[⟨some .number, some "1", .int 1, 0, 0, 1, 0⟩, .endOfStream 0 1 1]
  cursor_lt := by decide
  closed := by decide

theorem parses_ignore_behind_paren :
    CutAtEnd beyond within ∧
      shown ((parse (entry 2)).on () beyond) = shown ((parse (entry 2)).on () within) ∧
      shown ((parse (entry 5)).on () beyond) = shown ((parse (entry 7)).on () within) ∧
      (∃ parsed after after', parseExpr beyond = (.ok parsed, after) ∧
        parseExpr within = (.ok parsed, after') ∧ after.cursor = after'.cursor) ∧
      ∃ parsed after after', parseExprs beyond = (.ok parsed, after) ∧
        parseExprs within = (.ok parsed, after') ∧ after.cursor = after'.cursor := by
  have cut : CutAtEnd beyond within :=
    ⟨[⟨some .number, some "1", .int 1, 0, 0, 1, 0⟩], .endOfStream 0 1 1, _, rfl, rfl, rfl⟩
  have ends : ((parse (entry 5)).on () beyond).1.toOption.isSome = true := rfl
  have ends' : ((parse (entry 7)).on () within).1.toOption.isSome = true := rfl
  obtain ⟨general, arithmetic⟩ := parses_ignore_behind
  obtain ⟨one, many⟩ := general cut ()
  refine ⟨cut, one (entry 2) (near_entry 2), many entry near_entry grows_entry 5 7 ?_ ?_,
    arithmetic cut⟩
  · intro stopped
    rw [stopped] at ends
    cases ends
  · intro stopped
    rw [stopped] at ends'
    cases ends'

end FrontEnd.Arithmetic
