import FrontEnd.Arithmetic.Grammar
import FrontEnd.Proofs.Arithmetic.Context
import FrontEnd.Proofs.Parsing.Ahead

/-!
# The descent through an expression

What each routine of the arithmetic grammar does, wherever it is called: either it
reads tokens that derive its tree and stops behind them, or it aborts at the first
token that cannot come next, with the one error for that token. The three routines
call each other, so the three statements are proved together, by induction on the
bound on their depth.
-/

namespace FrontEnd.Arithmetic

open Grammar

/-- What a routine comes to that is called where an operand is due, or, for `due = false`,
    where one has just ended. `Shape read behind tree` is what is said of the tokens that
    it reads, of those that it leaves and of its tree. -/
inductive Outcome (Shape : List (Token Kind) → List (Token Kind) → Expr → Prop) (due : Bool)
    (parsing : Parsing Kind) : Except Stop Expr × Unit × Parsing Kind → Prop where
  | found {read behind : List (Token Kind)} {tree : Expr}
      (split : parsing.ahead = read ++ behind) (shape : Shape read behind tree) :
      Outcome Shape due parsing (.ok tree, (), parsing.steps read.length)
  /-- The first misfit does not depend on how many parentheses were open before. -/
  | stuck {read behind : List (Token Kind)} {token : Token Kind} {message : String}
      (split : parsing.ahead = read ++ token :: behind)
      (misfit : ∀ opened, ∃ context,
        Context.run ⟨opened, due⟩ (read.map Token.kind) = some context ∧
          context.admits token.kind = false ∧ context.complaint = message) :
      Outcome Shape due parsing (.error (.abort message), (),
        (parsing.steps read.length).record { token := token, message := message })

def TermShape (read _behind : List (Token Kind)) (tree : Expr) : Prop := Term read tree

def ExpressionShape (read behind : List (Token Kind)) (tree : Expr) : Prop :=
  Expression read tree ∧ ¬ SignAhead behind

/-- The tokens go on with an expression whose tree so far is `left`. -/
def ChainShape (left : Expr) (read behind : List (Token Kind)) (tree : Expr) : Prop :=
  (∀ done, Expression done left → Expression (done ++ read) tree) ∧ ¬ SignAhead behind

theorem Outcome.after {Shape Shape' : List (Token Kind) → List (Token Kind) → Expr → Prop}
    {due due' : Bool} {parsing : Parsing Kind} {done rest : List (Token Kind)}
    {result : Except Stop Expr × Unit × Parsing Kind} (deeper : Nat)
    (split : parsing.ahead = done ++ rest)
    (path : ∀ opened, Context.run ⟨opened, due⟩ (done.map Token.kind) =
      some ⟨opened + deeper, due'⟩)
    (shapes : ∀ {read behind tree}, Shape read behind tree → Shape' (done ++ read) behind tree)
    (outcome : Outcome Shape due' (parsing.steps done.length) result) :
    Outcome Shape' due parsing result := by
  have reached : (parsing.steps done.length).ahead = rest :=
    Parsing.ahead_steps split (Context.text_of_run (path 0))
  cases outcome with
  | @found read behind tree split' shape =>
      rw [← Parsing.steps_add, ← List.length_append]
      refine .found ?_ (shapes shape)
      rw [split, List.append_assoc, ← split', reached]
  | @stuck read behind token message split' misfit =>
      have whole : parsing.ahead = (done ++ read) ++ token :: behind := by
        rw [split, List.append_assoc, ← split', reached]
      rw [← Parsing.steps_add, ← List.length_append]
      apply Outcome.stuck whole
      intro opened
      obtain ⟨context, ran, refused, said⟩ := misfit (opened + deeper)
      refine ⟨context, ?_, refused, said⟩
      rw [List.map_append, Context.run_append, path opened, Option.bind_some, ran]

variable {bound : Nat} {parsing : Parsing Kind} {token : Token Kind} {rest : List (Token Kind)}

theorem isEnd_of_kind {kind : Kind} (known : token.kind = some kind) : token.isEnd = false := by
  rw [Token.isEnd, known]
  rfl

theorem on_operations_sign (left : Expr) (here : parsing.ahead = token :: rest)
    (sign : token.kind = some .plus ∨ token.kind = some .minus) :
    (operations (bound + 1) left).on () parsing =
      (do
        let right ← term bound
        operations bound (Signed.join left ⟨token, [], right⟩)).on () parsing.step := by
  have more : token.isEnd = false := by
    rcases sign with plus | minus
    · exact isEnd_of_kind plus
    · exact isEnd_of_kind minus
  have real : none ∉ [some Kind.plus, some .minus] := by simp
  have accepted := on_accept_of_ahead here real ()
  rw [if_pos (by simpa using sign)] at accepted
  rw [operations, on_bind_ok accepted, if_pos rfl, on_bind_ok (on_previous_step here more ())]
  rfl

theorem on_operations_end (left : Expr) (here : parsing.ahead = token :: rest)
    (noSign : ¬ (token.kind = some .plus ∨ token.kind = some .minus)) :
    (operations (bound + 1) left).on () parsing = (.ok left, (), parsing) := by
  have real : none ∉ [some Kind.plus, some .minus] := by simp
  have accepted := on_accept_of_ahead here real ()
  rw [if_neg (by simpa using noSign)] at accepted
  rw [operations, on_bind_ok accepted, if_neg (by decide), on_pure]

theorem on_term_parens (here : parsing.ahead = token :: rest)
    (opens : token.kind = some .leftParen) :
    (term (bound + 1)).on () parsing =
      (do
        let inner ← expression bound
        let _ ← consume (some .rightParen) "Expected ')' after expression."
        pure inner).on () parsing.step := by
  have real : none ∉ [some Kind.leftParen] := by simp
  have accepted := on_accept_of_ahead here real ()
  rw [if_pos (by simpa using opens)] at accepted
  rw [term, on_bind_ok accepted, if_pos rfl]

theorem on_term_operand (here : parsing.ahead = token :: rest)
    (noParen : token.kind ≠ some .leftParen) :
    (term (bound + 1)).on () parsing =
      if token.kind = some .number then (.ok (.number token.literal), (), parsing.step)
      else (.error (.abort "Expected Number."), (),
        parsing.record { token := token, message := "Expected Number." }) := by
  have real : none ∉ [some Kind.leftParen] := by simp
  have accepted := on_accept_of_ahead here real ()
  rw [if_neg (by simpa using noParen)] at accepted
  have consumed := on_consume_of_ahead here .number "Expected Number." ()
  rw [term, on_bind_ok accepted, if_neg (by decide)]
  by_cases numeral : token.kind = some .number
  · rw [if_pos numeral] at consumed ⊢
    rw [on_bind_ok consumed, on_pure]
  · rw [if_neg numeral] at consumed ⊢
    rw [on_bind_error consumed]

/-- What the three routines come to at one bound, given the tokens ahead that it is for. -/
structure Descends (bound : Nat) : Prop where
  term : ∀ parsing, 2 * parsing.ahead.length ≤ bound →
    Outcome TermShape true parsing ((term bound).on () parsing)
  expression : ∀ parsing, 2 * parsing.ahead.length + 1 ≤ bound →
    Outcome ExpressionShape true parsing ((expression bound).on () parsing)
  operations : ∀ left parsing, 2 * parsing.ahead.length ≤ bound →
    Outcome (ChainShape left) false parsing ((operations bound left).on () parsing)

theorem path_parens (opens : token.kind = some .leftParen) (opened : Nat) :
    Context.run ⟨opened, true⟩ ([token].map Token.kind) = some ⟨opened + 1, true⟩ := by
  rw [List.map_singleton, opens]
  rfl

theorem closing_outcome {read behind : List (Token Kind)} {tree : Expr}
    (here : parsing.ahead = token :: (read ++ behind)) (opens : token.kind = some .leftParen)
    (derived : Expression read tree) (ends : ¬ SignAhead behind) :
    Outcome TermShape true parsing ((do
      let _ ← consume (some .rightParen) "Expected ')' after expression."
      pure tree : Rule Expr).on () (parsing.steps (token :: read).length)) := by
  have path : ∀ opened, Context.run ⟨opened, true⟩ ((token :: read).map Token.kind) =
      some ⟨opened + 1, false⟩ := by
    intro opened
    rw [← List.singleton_append, List.map_append, Context.run_append, path_parens opens,
      Option.bind_some, Context.run_expression derived]
  have reached : (parsing.steps (token :: read).length).ahead = behind :=
    Parsing.ahead_steps here (Context.text_of_run (path 0))
  obtain ⟨closing, beyond, rfl⟩ := Parsing.exists_cons_of_ahead reached
  have consumed := on_consume_of_ahead reached .rightParen "Expected ')' after expression." ()
  by_cases closes : closing.kind = some .rightParen
  · have whole : parsing.ahead = (token :: (read ++ [closing])) ++ beyond := by
      simpa using here
    have place : (parsing.steps (token :: read).length).step =
        parsing.steps (token :: (read ++ [closing])).length := by
      rw [← List.cons_append, List.length_append, Parsing.steps_add]
      rfl
    rw [if_pos closes, place] at consumed
    rw [on_bind_ok consumed, on_pure]
    exact .found whole (.parens opens derived closes)
  · have split : parsing.ahead = (token :: read) ++ closing :: beyond := here
    have noSign : ¬ (closing.kind = some .plus ∨ closing.kind = some .minus) :=
      fun sign => ends ⟨closing, beyond, rfl, sign⟩
    rw [if_neg closes] at consumed
    rw [on_bind_error consumed]
    apply Outcome.stuck split
    intro opened
    exact ⟨_, path opened, Context.refuses_inside noSign closes opened, rfl⟩

theorem term_outcome (below : Descends bound) (parsing : Parsing Kind)
    (enough : 2 * parsing.ahead.length ≤ bound + 1) :
    Outcome TermShape true parsing ((term (bound + 1)).on () parsing) := by
  have here := parsing.ahead_eq_cons
  generalize parsing.peek = token at here
  by_cases opens : token.kind = some .leftParen
  · have text := isEnd_of_kind opens
    have inner := below.expression parsing.step (by
      have shorter := Parsing.length_ahead_step here text
      omega)
    rw [on_term_parens here opens]
    generalize ran : (expression bound).on () parsing.step = result at inner
    cases inner with
    | stuck split misfit =>
        rw [on_bind_error ran]
        exact .after 1 here (path_parens opens) id (.stuck split misfit)
    | found split shape =>
        rw [on_bind_ok ran]
        rw [Parsing.ahead_step here text] at split
        exact closing_outcome (split ▸ here) opens shape.1 shape.2
  · rw [on_term_operand here opens]
    by_cases numeral : token.kind = some .number
    · have split : parsing.ahead = [token] ++ _ := here
      rw [if_pos numeral]
      exact .found split (.number numeral)
    · have split : parsing.ahead = [] ++ token :: _ := here
      rw [if_neg numeral]
      apply Outcome.stuck split
      intro opened
      exact ⟨⟨opened, true⟩, rfl, Context.refuses_for_operand numeral opens opened, rfl⟩

theorem expression_outcome (below : Descends bound) (parsing : Parsing Kind)
    (enough : 2 * parsing.ahead.length + 1 ≤ bound + 1) :
    Outcome ExpressionShape true parsing ((expression (bound + 1)).on () parsing) := by
  have head := below.term parsing (by omega)
  rw [expression]
  generalize ran : (term bound).on () parsing = result at head
  cases head with
  | stuck split misfit =>
      rw [on_bind_error ran]
      exact .stuck split misfit
  | @found read behind left split term =>
      have path := Context.run_term term
      have reached := Parsing.ahead_steps split (Context.text_of_run (path 0))
      have rest := below.operations left (parsing.steps read.length) (by
        rw [reached]
        rw [split, List.length_append] at enough
        omega)
      rw [on_bind_ok ran]
      exact .after 0 split path (fun shape => ⟨shape.1 read (.of_term term), shape.2⟩) rest

theorem operations_outcome (below : Descends bound) (left : Expr) (parsing : Parsing Kind)
    (enough : 2 * parsing.ahead.length ≤ bound + 1) :
    Outcome (ChainShape left) false parsing ((operations (bound + 1) left).on () parsing) := by
  have here := parsing.ahead_eq_cons
  generalize parsing.peek = token at here
  by_cases sign : token.kind = some .plus ∨ token.kind = some .minus
  · have signPath : ∀ opened, Context.run ⟨opened, false⟩ ([token].map Token.kind) =
        some ⟨opened, true⟩ := by
      intro opened
      rw [List.map_singleton, Context.run_cons, Context.next_sign sign]
      rfl
    have text := Context.text_of_run (signPath 0) token List.mem_cons_self
    have shorter := Parsing.length_ahead_step here text
    have operand := below.term parsing.step (by omega)
    rw [on_operations_sign left here sign]
    generalize ran : (term bound).on () parsing.step = result at operand
    cases operand with
    | @stuck read behind _ _ split misfit =>
        rw [on_bind_error ran]
        exact .after 0 here signPath id (.stuck split misfit)
    | @found read behind right split term =>
        have path : ∀ opened, Context.run ⟨opened, false⟩ ((token :: read).map Token.kind) =
            some ⟨opened, false⟩ := by
          intro opened
          rw [← List.singleton_append, List.map_append, Context.run_append, signPath,
            Option.bind_some, Context.run_term term]
        have reached := Parsing.ahead_steps split (Context.text_of_run (Context.run_term term 0))
        have rest := below.operations (Signed.join left ⟨token, [], right⟩)
          (parsing.step.steps read.length) (by
            rw [reached]
            rw [shorter, split, List.length_append] at enough
            omega)
        rw [on_bind_ok ran]
        rw [Parsing.ahead_step here text] at split
        rw [split] at here
        refine .after 0 here path (fun shape => ⟨fun done derived => ?_, shape.2⟩) rest
        have longer := shape.1 _ (derived.extend ⟨token, read, right⟩ sign term)
        simpa [Signed.spelled] using longer
  · have split : parsing.ahead = [] ++ token :: _ := here
    have ends : ¬ SignAhead (token :: parsing.tokens.toList.drop (parsing.cursor + 1)) := by
      rintro ⟨_, _, same, found⟩
      obtain ⟨rfl, -⟩ := List.cons.inj same
      exact sign found
    rw [on_operations_end left here sign]
    exact .found split ⟨fun done derived => by simpa using derived, ends⟩

/-- Twice the number of tokens ahead is a bound that no routine reaches. -/
theorem descends (bound : Nat) : Descends bound := by
  induction bound with
  | zero =>
      have positive := fun parsing : Parsing Kind => parsing.length_ahead_pos
      constructor
      · intro parsing enough
        have ahead := positive parsing
        omega
      · intro parsing enough
        omega
      · intro left parsing enough
        have ahead := positive parsing
        omega
  | succ bound below =>
      exact ⟨term_outcome below, expression_outcome below, operations_outcome below⟩

theorem enough_bound (parsing : Parsing Kind) :
    2 * parsing.restart.ahead.length + 1 ≤ boundFor parsing.tokens := by
  rw [Parsing.ahead_restart, boundFor, Array.length_toList]
  omega

end FrontEnd.Arithmetic
