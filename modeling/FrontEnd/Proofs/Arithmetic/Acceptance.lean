import FrontEnd.Proofs.Arithmetic.Descent

/-!
# What the arithmetic grammar accepts

The grammar that takes one expression accepts exactly the texts that the grammar
derives, with the one tree that they have. Every other text gets one error, for the
first token with which no expression can begin any more.
-/

namespace FrontEnd.Arithmetic

open Grammar

/-- Up to its first end token, a sequence is an expression. -/
def Accepts (tokens read : List (Token Kind)) (tree : Expr) : Prop :=
  Expression read tree ∧ ∃ ending behind, ending.isEnd = true ∧ tokens = read ++ ending :: behind

/-- After `read`, which leads to a context, a sequence goes on with a misfit. -/
def Rejects (tokens read : List (Token Kind)) (token : Token Kind) (context : Context) : Prop :=
  Context.run ⟨0, true⟩ (read.map Token.kind) = some context ∧
    context.admits token.kind = false ∧ ∃ behind, tokens = read ++ token :: behind

theorem on_entry_found {bound : Nat} {parsing reached : Parsing Kind} {tree : Expr}
    {token : Token Kind} {rest : List (Token Kind)}
    (ran : (expression bound).on () parsing = (.ok tree, (), reached))
    (left : reached.ahead = token :: rest) :
    (entry bound).on () parsing =
      if token.isEnd then (.ok tree, (), reached)
      else (.error (.abort "Expected end of input."), (),
        reached.record { token := token, message := "Expected end of input." }) := by
  have looked := on_isComplete () reached
  rw [Parsing.isComplete_of_ahead left] at looked
  rw [entry, on_bind_ok ran, on_bind_ok looked]
  cases token.isEnd with
  | true => rw [if_pos rfl, if_pos rfl, on_pure]
  | false =>
      rw [if_neg Bool.false_ne_true, if_neg Bool.false_ne_true, on_bind_ok (on_peek () _), on_fail,
        Parsing.peek_of_ahead left]

theorem on_entry {bound : Nat} (parsing : Parsing Kind)
    (enough : 2 * parsing.ahead.length + 1 ≤ bound) :
    (∃ read tree, Accepts parsing.ahead read tree ∧
        (entry bound).on () parsing = (.ok tree, (), parsing.steps read.length)) ∨
      ∃ read token context, Rejects parsing.ahead read token context ∧
        (entry bound).on () parsing = (.error (.abort context.complaint), (),
          (parsing.steps read.length).record { token := token, message := context.complaint }) := by
  have outcome := (descends bound).expression parsing enough
  generalize ran : (expression bound).on () parsing = result at outcome
  cases outcome with
  | @stuck read behind token message split misfit =>
      obtain ⟨context, reached, refused, rfl⟩ := misfit 0
      refine .inr ⟨read, token, context, ⟨reached, refused, behind, split⟩, ?_⟩
      rw [entry, on_bind_error ran]
  | @found read behind tree split shape =>
      have path := Context.run_expression shape.1 0
      have left := Parsing.ahead_steps split (Context.text_of_run path)
      obtain ⟨token, rest, rfl⟩ := Parsing.exists_cons_of_ahead left
      have entered := on_entry_found ran left
      cases ends : token.isEnd with
      | true =>
          refine .inl ⟨read, tree, ⟨shape.1, token, rest, ends, split⟩, ?_⟩
          rw [entered, if_pos ends]
      | false =>
          have noSign : ¬ (token.kind = some .plus ∨ token.kind = some .minus) :=
            fun sign => shape.2 ⟨token, rest, rfl, sign⟩
          have noEnd : token.kind ≠ none := by
            intro ending
            simp [Token.isEnd, ending] at ends
          refine .inr ⟨read, token, ⟨0, false⟩,
            ⟨path, Context.refuses_outside noSign noEnd, rest, split⟩, ?_⟩
          rw [entered, ends]
          rfl

/-- A parse either builds the tree of the text before the first end token, or has one error,
    for the first misfit. -/
theorem parseExpr_cases (parsing : Parsing Kind) :
    (∃ read tree, Accepts parsing.tokens.toList read tree ∧
        parseExpr parsing = (.ok ⟨some tree, #[]⟩, parsing.restart.steps read.length)) ∨
      ∃ read token context, Rejects parsing.tokens.toList read token context ∧
        parseExpr parsing = (.ok ⟨none, #[{ token := token, message := context.complaint }]⟩,
          ((parsing.restart.steps read.length).record
            { token := token, message := context.complaint }).abandon) := by
  rcases on_entry parsing.restart (enough_bound parsing) with ⟨read, tree, accepts, ran⟩ |
    ⟨read, token, context, rejects, ran⟩
  · refine .inl ⟨read, tree, accepts, ?_⟩
    rw [parseExpr, parseWith, on_parse, ran]
    simp [Parsing.restart]
  · refine .inr ⟨read, token, context, rejects, ?_⟩
    rw [parseExpr, parseWith, on_parse, ran]
    simp [Parsing.restart, Parsing.abandon, Parsing.record]

theorem parseExpr_errors_mem (parsing : Parsing Kind) :
    ∃ parsed after, parseExpr parsing = (.ok parsed, after) ∧
      ∀ error ∈ parsed.errors.toList, error.token ∈ parsing.tokens.toList := by
  rcases parseExpr_cases parsing with ⟨read, tree, accepts, ran⟩ |
    ⟨read, token, context, ⟨_, _, behind, split⟩, ran⟩
  · exact ⟨_, _, ran, by simp⟩
  · refine ⟨_, _, ran, ?_⟩
    rw [split]
    simp

theorem Accepts.beforeEnd {tokens read : List (Token Kind)} {tree : Expr}
    (accepts : Accepts tokens read tree) : Token.beforeEnd tokens = read := by
  obtain ⟨derived, ending, behind, ends, rfl⟩ := accepts
  exact Token.beforeEnd_append (Context.text_of_expression derived) ends

theorem begins_text {read behind : List (Token Kind)} {token : Token Kind}
    (text : ∀ earlier ∈ read, earlier.isEnd = false) :
    read.map Token.kind ++ [token.kind] <+:
      (Token.beforeEnd (read ++ token :: behind)).map Token.kind ++ [none] := by
  cases ends : token.isEnd with
  | true =>
      have kind : token.kind = none := by
        simpa [Token.isEnd] using ends
      exact ⟨[], by rw [List.append_nil, Token.beforeEnd_append text ends, kind]⟩
  | false =>
      have longer : Token.beforeEnd (read ++ token :: behind) =
          read ++ token :: Token.beforeEnd behind := by
        rw [Token.beforeEnd, List.takeWhile_append_of_pos (by simpa using text),
          List.takeWhile_cons_of_pos (by simpa using ends)]
        rfl
      exact ⟨(Token.beforeEnd behind).map Token.kind ++ [none], by simp [longer]⟩

theorem Rejects.not_grammatical {tokens read : List (Token Kind)} {token : Token Kind}
    {context : Context} (rejects : Rejects tokens read token context) :
    ¬ Grammatical ((Token.beforeEnd tokens).map Token.kind) := by
  obtain ⟨ran, misfit, behind, rfl⟩ := rejects
  intro grammatical
  exact Context.misfit_stops ran misfit (begins_text (Context.text_of_run ran))
    (Context.run_grammatical grammatical)

/-- The contexts accept what the grammar derives. That they accept nothing else is what the
    parse of such a text shows: no token of it is a misfit. -/
theorem grammatical_iff_run {kinds : List (Option Kind)} :
    Grammatical kinds ↔ Context.run ⟨0, true⟩ kinds = some ⟨0, false⟩ := by
  constructor
  · exact Context.run_grammatical
  · intro ran
    let spelled := kinds.map fun kind => (⟨kind, none, .null, 0, 0, 0, 0⟩ : Token Kind)
    have kindsOf : spelled.map Token.kind = kinds := by
      simp [spelled, Function.comp_def]
    have text : ∀ token ∈ spelled, token.isEnd = false :=
      Context.text_of_run (by rw [kindsOf]; exact ran)
    have ends : (Token.endOfStream 0 0 0 : Token Kind).isEnd = true := rfl
    obtain ⟨parsing, -, tokens⟩ := Parsing.exists_ofTokens spelled ends
    have before : Token.beforeEnd parsing.tokens.toList = spelled := by
      rw [tokens, Token.beforeEnd_append text ends]
    rcases parseExpr_cases parsing with ⟨read, tree, accepts, -⟩ |
      ⟨read, token, context, ⟨reached, misfit, behind, split⟩, -⟩
    · have all : read = spelled := accepts.beforeEnd.symm.trans before
      exact ⟨read, tree, accepts.1, all ▸ kindsOf⟩
    · have begins := @begins_text read behind token (Context.text_of_run reached)
      rw [← split, before, kindsOf] at begins
      exact absurd ran (Context.misfit_stops reached misfit begins)

theorem completable_of_run {kinds : List (Option Kind)} {context : Context}
    (ran : Context.run ⟨0, true⟩ kinds = some context) : Completable kinds := by
  refine ⟨context.completion, grammatical_iff_run.mpr ?_⟩
  rw [Context.run_append, ran, Option.bind_some, Context.run_completion]

theorem Completable.shorten {shorter kinds : List (Option Kind)}
    (completable : Completable kinds) (begins : shorter <+: kinds) : Completable shorter := by
  obtain ⟨middle, rfl⟩ := begins
  obtain ⟨more, grammatical⟩ := completable
  exact ⟨middle ++ more, List.append_assoc .. ▸ grammatical⟩

theorem parseExpr_builds_iff {parsing : Parsing Kind} {tree : Expr} :
    (parseExpr parsing).1 = .ok ⟨some tree, #[]⟩ ↔
      Expression (Token.beforeEnd parsing.tokens.toList) tree := by
  rcases parseExpr_cases parsing with ⟨read, found, accepts, ran⟩ |
    ⟨read, token, context, rejects, ran⟩
  · have built : (parseExpr parsing).1 = .ok ⟨some tree, #[]⟩ ↔ found = tree := by
      simp [ran]
    rw [built, accepts.beforeEnd]
    constructor
    · rintro rfl
      exact accepts.1
    · intro derived
      exact accepts.1.tree_unique derived
  · have failed : (parseExpr parsing).1 ≠ .ok ⟨some tree, #[]⟩ := by
      simp [ran]
    apply iff_of_false failed
    intro derived
    exact rejects.not_grammatical ⟨_, tree, derived, rfl⟩

theorem Rejects.unique {tokens read read' : List (Token Kind)} {token token' : Token Kind}
    {context context' : Context} (one : Rejects tokens read token context)
    (two : Rejects tokens read' token' context') : token = token' ∧ context = context' := by
  obtain ⟨ran, misfit, behind, rfl⟩ := one
  obtain ⟨ran', misfit', behind', same⟩ := two
  obtain rfl := Context.misfit_unique ran misfit ran' misfit' same
  simp_all

theorem Rejects.parsed {parsing : Parsing Kind} {read : List (Token Kind)} {token : Token Kind}
    {context : Context} (rejects : Rejects parsing.tokens.toList read token context) :
    (parseExpr parsing).1 =
      .ok ⟨none, #[{ token := token, message := context.complaint }]⟩ := by
  rcases parseExpr_cases parsing with ⟨read', tree, accepts, ran⟩ |
    ⟨read', token', context', rejects', ran⟩
  · exact absurd ⟨read', tree, accepts.1, by rw [accepts.beforeEnd]⟩ rejects.not_grammatical
  · obtain ⟨rfl, rfl⟩ := rejects.unique rejects'
    exact congrArg Prod.fst ran

theorem Accepts.parsed {parsing : Parsing Kind} {read : List (Token Kind)} {tree : Expr}
    (accepts : Accepts parsing.tokens.toList read tree) :
    (parseExpr parsing).1 = .ok ⟨some tree, #[]⟩ := by
  apply parseExpr_builds_iff.mpr
  rw [accepts.beforeEnd]
  exact accepts.1

/-- A parse of one expression succeeds exactly on what the grammar derives before the first
    end token, and gives the tree that the derivation determines. It does so from any
    earlier parse of the sequence. -/
theorem parseExpr_succeeds_iff (parsing : Parsing Kind) :
    ∃ parsed after, parseExpr parsing = (.ok parsed, after) ∧
      (parsed.ast.isSome = true ∧ parsed.errors = #[] ↔
        Grammatical ((Token.beforeEnd parsing.tokens.toList).map Token.kind)) ∧
      ∀ tree, parsed.ast = some tree → parsed.errors = #[] →
        ∀ other, Expression (Token.beforeEnd parsing.tokens.toList) other ↔ other = tree := by
  rcases parseExpr_cases parsing with ⟨read, tree, accepts, ran⟩ |
    ⟨read, token, context, rejects, ran⟩
  · refine ⟨_, _, ran, ?_, ?_⟩
    · have grammatical : Grammatical ((Token.beforeEnd parsing.tokens.toList).map Token.kind) :=
        ⟨read, tree, accepts.1, by rw [accepts.beforeEnd]⟩
      simpa using grammatical
    · intro found built _ other
      obtain rfl : tree = found := by simpa using built
      rw [accepts.beforeEnd]
      constructor
      · intro derived
        exact derived.tree_unique accepts.1
      · rintro rfl
        exact accepts.1
  · refine ⟨_, _, ran, ?_, ?_⟩
    · simpa using rejects.not_grammatical
    · intro found built
      simp at built

/-- A parse of one expression that fails has no tree and one error, for the first token with
    which no expression and the end behind it can begin. All that precedes the token can be
    completed to an expression, and the message follows from how it ends. -/
theorem parseExpr_first_misfit (parsing : Parsing Kind) :
    ∃ parsed after, parseExpr parsing = (.ok parsed, after) ∧
      (parsed.ast = none ↔ parsed.errors ≠ #[]) ∧
      (¬ (parsed.ast.isSome = true ∧ parsed.errors = #[]) →
        parsed.ast = none ∧ ∃ before token behind message,
        parsing.tokens.toList = before ++ token :: behind ∧
        (∀ earlier ∈ before, earlier.isEnd = false) ∧
        parsed.errors = #[{ token := token, message := message, code := "P001" }] ∧
        ¬ Viable (before.map Token.kind ++ [token.kind]) ∧
        (∀ shorter, shorter <+: before.map Token.kind → Completable shorter) ∧
        (OperandDue (before.map Token.kind) → message = "Expected Number.") ∧
        (¬ OperandDue (before.map Token.kind) → ParenOpen (before.map Token.kind) →
          message = "Expected ')' after expression.") ∧
        (¬ OperandDue (before.map Token.kind) → ¬ ParenOpen (before.map Token.kind) →
          message = "Expected end of input.")) := by
  rcases parseExpr_cases parsing with ⟨read, tree, accepts, ran⟩ |
    ⟨read, token, context, ⟨reached, misfit, behind, split⟩, ran⟩
  · refine ⟨_, _, ran, by simp, ?_⟩
    intro failed
    simp at failed
  · refine ⟨_, _, ran, by simp, fun _ => ⟨rfl, ?_⟩⟩
    exact ⟨read, token, behind, context.complaint, split, Context.text_of_run reached, rfl,
      Context.not_viable reached misfit,
      fun shorter begins => (completable_of_run reached).shorten begins,
      Context.complaint_start reached⟩

end FrontEnd.Arithmetic
