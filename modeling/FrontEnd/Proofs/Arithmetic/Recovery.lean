import FrontEnd.Proofs.Arithmetic.Descent
import FrontEnd.Proofs.Arithmetic.Segments
import FrontEnd.Proofs.Parsing.Accounting
import Mathlib.Data.List.NodupEquivFin

/-!
# What recovery comes to

The grammar that takes a run of expressions goes over a text segment by segment: a round
either reads an expression or passes over all that cannot start one. So a parse that is
not abandoned has taken the whole text apart into its segments, with a tree for each
expression and an error for each run that was skipped. A parse is abandoned only within
an expression, and then the error for the first misfit is the last one.
-/

namespace FrontEnd.Arithmetic

open Grammar

variable {bound rounds : Nat} {found : Array Expr} {parsing : Parsing Kind} {token : Token Kind}
  {rest : List (Token Kind)}

/-- One round of the recovery loop. -/
def recoveryRound (bound : Nat) (found : Array Expr) : Rule (Array Expr) := do
  if ← atExpression then
    let expr ← expression bound
    pure (found.push expr)
  else
    record { token := ← peek, message := "Expected expression." }
    let _ ← advance 1
    skipUntil [some .number, some .leftParen]
    pure found

theorem entriesFrom_succ (bound rounds : Nat) (found : Array Expr) :
    entriesFrom bound (rounds + 1) found = (do
      if ← isComplete then pure found
      else
        let grown ← recoveryRound bound found
        entriesFrom bound rounds grown) := by
  rw [entriesFrom]
  congr 1
  funext complete
  cases complete with
  | true => rfl
  | false =>
      simp only [Bool.false_eq_true, if_false, recoveryRound, bind_assoc]
      congr 1
      funext starts
      cases starts <;> simp

theorem on_atExpression (here : parsing.ahead = token :: rest) :
    atExpression.on () parsing = (.ok (decide (Starts token)), (), parsing) := by
  rw [atExpression, on_bind_ok (on_check_of_ahead here .number ())]
  by_cases number : token.kind = some .number
  · rw [if_pos (decide_eq_true number), on_pure, decide_eq_true (.inl number)]
  · have starts : Starts token ↔ token.kind = some .leftParen := or_iff_right number
    rw [if_neg (by simpa using number), on_check_of_ahead here, decide_eq_decide.mpr starts]

theorem isEnd_of_starts (starts : Starts token) : token.isEnd = false := by
  rcases starts with number | paren
  · exact isEnd_of_kind number
  · exact isEnd_of_kind paren

theorem on_entriesFrom_end (here : parsing.ahead = token :: rest) (ends : token.isEnd = true) :
    (entriesFrom bound (rounds + 1) found).on () parsing = (.ok found, (), parsing) := by
  have looked := on_isComplete () parsing
  rw [Parsing.isComplete_of_ahead here, ends] at looked
  rw [entriesFrom, on_bind_ok looked, if_pos rfl, on_pure]

theorem on_entriesFrom_start (here : parsing.ahead = token :: rest) (starts : Starts token) :
    (entriesFrom bound (rounds + 1) found).on () parsing =
      (do
        let expr ← expression bound
        entriesFrom bound rounds (found.push expr)).on () parsing := by
  have looked := on_isComplete () parsing
  have seen := on_atExpression here
  rw [Parsing.isComplete_of_ahead here, isEnd_of_starts starts] at looked
  rw [decide_eq_true starts] at seen
  rw [entriesFrom, on_bind_ok looked, if_neg Bool.false_ne_true, on_bind_ok seen, if_pos rfl]

/-- The parse after a token that cannot start an expression, and all behind it that cannot
    either. -/
def skipStrange (parsing : Parsing Kind) : Parsing Kind :=
  (parsing.record { token := parsing.peek, message := "Expected expression." }).step.skipUntil
    [some .number, some .leftParen]

theorem on_recoveryRound_start (here : parsing.ahead = token :: rest) (starts : Starts token) :
    (recoveryRound bound found).on () parsing =
      (do
        let expr ← expression bound
        pure (found.push expr)).on () parsing := by
  have seen := on_atExpression here
  rw [decide_eq_true starts] at seen
  rw [recoveryRound, on_bind_ok seen, if_pos rfl]

theorem on_recoveryRound_strange (here : parsing.ahead = token :: rest) (strange : ¬ Starts token) :
    (recoveryRound bound found).on () parsing = (.ok found, (), skipStrange parsing) := by
  have seen := on_atExpression here
  rw [decide_eq_false strange] at seen
  rw [recoveryRound, on_bind_ok seen, if_neg Bool.false_ne_true]
  rfl

theorem on_entriesFrom_strange (here : parsing.ahead = token :: rest) (more : token.isEnd = false)
    (strange : ¬ Starts token) :
    (entriesFrom bound (rounds + 1) found).on () parsing =
      (entriesFrom bound rounds found).on () (skipStrange parsing) := by
  have looked := on_isComplete () parsing
  rw [Parsing.isComplete_of_ahead here, more] at looked
  rw [entriesFrom_succ, on_bind_ok looked, if_neg Bool.false_ne_true,
    on_bind_ok (on_recoveryRound_strange here strange)]

/-- What is passed over is a whole run, up to an end token or a token that can start an
    expression. -/
theorem skipStrange_passes (here : parsing.ahead = token :: rest) (more : token.isEnd = false)
    (strange : ¬ Starts token) :
    ∃ run next behind, parsing.ahead = token :: run ++ next :: behind ∧
      (∀ passed ∈ token :: run, passed.isEnd = false ∧ ¬ Starts passed) ∧
      (next.isEnd = true ∨ Starts next) ∧ (skipStrange parsing).ahead = next :: behind ∧
      (skipStrange parsing).errors =
        parsing.errors.push { token := token, message := "Expected expression." } := by
  obtain rfl : parsing.peek = token := Parsing.peek_of_ahead here
  let recorded := parsing.record { token := parsing.peek, message := "Expected expression." }
  have same : recorded.ahead = parsing.peek :: rest := here
  obtain ⟨run, next, behind, split, passed, stops, skipped⟩ :=
    Parsing.passesOver_skipUntil [some .number, some .leftParen] recorded.step
  have whole : parsing.ahead = parsing.peek :: run ++ next :: behind := by
    rw [Parsing.ahead_step same more] at split
    rw [here, split]
    rfl
  refine ⟨run, next, behind, whole, ?_, ?_, ?_, ?_⟩
  · refine List.forall_mem_cons.mpr ⟨⟨more, strange⟩, ?_⟩
    intro other member
    exact ⟨(passed other member).1, by simpa [Starts] using (passed other member).2⟩
  · simpa [Starts, or_iff_not_imp_left] using stops
  · rw [skipStrange, skipped]
    exact Parsing.ahead_steps split fun other member => (passed other member).1
  · rw [skipStrange, skipped, Parsing.errors_steps, Parsing.errors_step]
    rfl

/-- After `read`, which begins an expression, no expression goes on with the token. -/
structure Stuck (read : List (Token Kind)) (token : Token Kind) (message : String) : Prop where
  starts : ∀ first ∈ (read ++ [token]).head?, Starts first
  misfit : ∀ opened, ∃ context, Context.run ⟨opened, true⟩ (read.map Token.kind) = some context ∧
    context.admits token.kind = false ∧ context.complaint = message

/-- What the rounds come to from some place on, after the expressions that are found already. -/
inductive Recovers (found : Array Expr) (parsing : Parsing Kind) :
    Except Stop (Array Expr) × Unit × Parsing Kind → Prop where
  | finished {text behind : List (Token Kind)} {ending : Token Kind} {segments : List Segment}
      {built : Array Expr} {after : Parsing Kind} (split : parsing.ahead = text ++ ending :: behind)
      (inside : ∀ token ∈ text, token.isEnd = false) (ends : ending.isEnd = true)
      (splits : Splits text segments) (builds : built.toList = found.toList ++ trees segments)
      (errors : after.errors.toList = parsing.errors.toList ++ complaints segments) :
      Recovers found parsing (.ok built, (), after)
  | stuck {text read behind : List (Token Kind)} {token : Token Kind} {message : String}
      {segments : List Segment} {after : Parsing Kind}
      (split : parsing.ahead = text ++ (read ++ token :: behind))
      (inside : ∀ token ∈ text, token.isEnd = false) (splits : Splits text segments)
      (stops : Stuck read token message)
      (errors : after.errors.toList =
        parsing.errors.toList ++ (complaints segments ++ [{ token := token, message := message }])) :
      Recovers found parsing (.error (.abort message), (), after)

theorem not_signAhead_of_append {behind more : List (Token Kind)}
    (ends : ¬ SignAhead (behind ++ more)) : ¬ SignAhead behind := by
  rintro ⟨token, rest, rfl, sign⟩
  exact ends ⟨token, rest ++ more, rfl, sign⟩

namespace Recovers

variable {result : Except Stop (Array Expr) × Unit × Parsing Kind} {behind : List (Token Kind)}

theorem cons (segment : Segment) {more : Array Expr} {reached : Parsing Kind}
    (split : parsing.ahead = segment.tokens ++ behind) (left : reached.ahead = behind)
    (text : ∀ token ∈ segment.tokens, token.isEnd = false)
    (joins : ∀ {text beyond segments}, behind = text ++ beyond →
      (∀ token ∈ text, token.isEnd = false) → Splits text segments →
        Splits (segment.tokens ++ text) (segment :: segments))
    (grown : more.toList = found.toList ++ segment.tree?.toList)
    (recorded : reached.errors.toList = parsing.errors.toList ++ segment.complaint?.toList)
    (later : Recovers more reached result) : Recovers found parsing result := by
  cases later with
  | @finished rest beyond ending segments _ _ split' inside ends splits builds errors =>
      rw [left] at split'
      have whole : parsing.ahead = (segment.tokens ++ rest) ++ ending :: beyond := by
        rw [split, split', List.append_assoc]
      refine .finished whole (List.forall_mem_append.mpr ⟨text, inside⟩) ends
        (joins split' inside splits) ?_ ?_
      · rw [builds, grown, trees_cons, List.append_assoc]
      · rw [errors, recorded, complaints_cons, List.append_assoc]
  | @stuck rest read beyond last _ segments _ split' inside splits stops errors =>
      rw [left] at split'
      have whole : parsing.ahead = (segment.tokens ++ rest) ++ (read ++ last :: beyond) := by
        rw [split, split', List.append_assoc]
      refine .stuck whole (List.forall_mem_append.mpr ⟨text, inside⟩)
        (joins split' inside splits) stops ?_
      rw [errors, recorded, complaints_cons, List.append_assoc, List.append_assoc]

theorem expression {read : List (Token Kind)} {tree : Expr}
    (split : parsing.ahead = read ++ behind) (shape : ExpressionShape read behind tree)
    (later : Recovers (found.push tree) (parsing.steps read.length) result) :
    Recovers found parsing result := by
  have text := Context.text_of_expression shape.1
  have joins : ∀ {text beyond segments}, behind = text ++ beyond →
      (∀ token ∈ text, token.isEnd = false) → Splits text segments →
        Splits (read ++ text) (.expression read tree :: segments) := by
    rintro text beyond segments rfl inside splits
    exact .expression shape.1 (not_signAhead_of_append shape.2) splits
  have recorded : (parsing.steps read.length).errors.toList = parsing.errors.toList ++ [] := by
    rw [Parsing.errors_steps, List.append_nil]
  exact later.cons (.expression read tree) split (Parsing.ahead_steps split text) text joins
    Array.toList_push recorded

theorem skipped {run : List (Token Kind)} {next : Token Kind} {reached : Parsing Kind}
    (split : parsing.ahead = token :: run ++ next :: behind)
    (passed : ∀ passed ∈ token :: run, passed.isEnd = false ∧ ¬ Starts passed)
    (stops : next.isEnd = true ∨ Starts next) (left : reached.ahead = next :: behind)
    (recorded : reached.errors =
      parsing.errors.push { token := token, message := "Expected expression." })
    (later : Recovers found reached result) : Recovers found parsing result := by
  have kept : reached.errors.toList = parsing.errors.toList ++
      [{ token := token, message := "Expected expression." }] := by
    rw [recorded, Array.toList_push]
  refine later.cons (.skipped token run) split left (fun _ member => (passed _ member).1) ?_
    (List.append_nil _).symm kept
  intro rest beyond segments same inside splits
  refine .skipped (fun other member => (passed other member).2) ?_ splits
  -- The next segment begins with `next`, so it is an expression.
  cases splits with
  | nil => simp
  | expression => simp [Segment.isSkipped]
  | skipped strange _ _ =>
      obtain ⟨rfl, -⟩ := List.cons.inj same
      rcases stops with ends | starts
      · rw [inside next List.mem_cons_self] at ends
        cases ends
      · exact absurd starts (strange next List.mem_cons_self)

end Recovers

/-- What so many rounds come to, where they suffice for the tokens ahead. -/
def RoundsRecover (bound rounds : Nat) : Prop :=
  ∀ found parsing, 2 * parsing.ahead.length + 1 ≤ bound → parsing.ahead.length ≤ rounds →
    Recovers found parsing ((entriesFrom bound rounds found).on () parsing)

theorem round_start (later : RoundsRecover bound rounds) (here : parsing.ahead = token :: rest)
    (starts : Starts token) (enough : 2 * parsing.ahead.length + 1 ≤ bound)
    (room : parsing.ahead.length ≤ rounds + 1) :
    Recovers found parsing ((entriesFrom bound (rounds + 1) found).on () parsing) := by
  have outcome := (descends bound).expression parsing enough
  rw [on_entriesFrom_start here starts]
  generalize ran : (Arithmetic.expression bound).on () parsing = result at outcome
  cases outcome with
  | @stuck read behind other message split misfit =>
      have begins : ∀ first ∈ (read ++ [other]).head?, Starts first := by
        intro first member
        have same : parsing.ahead.head? = (read ++ [other]).head? := by simp [split]
        obtain rfl : token = first := by simpa [← same, here] using member
        exact starts
      rw [on_bind_error ran]
      refine .stuck split (by simp) .nil ⟨begins, misfit⟩ ?_
      simp [Parsing.record, complaints]
  | @found read behind tree split shape =>
      obtain ⟨first, more, rfl, -⟩ := shape.1.starts
      have reached := Parsing.ahead_steps split (Context.text_of_expression shape.1)
      have lengths := congrArg List.length split
      rw [List.length_append, List.length_cons] at lengths
      rw [on_bind_ok ran]
      exact .expression split shape (later _ _ (by rw [reached]; omega) (by rw [reached]; omega))

theorem round_strange (later : RoundsRecover bound rounds) (here : parsing.ahead = token :: rest)
    (more : token.isEnd = false) (strange : ¬ Starts token)
    (enough : 2 * parsing.ahead.length + 1 ≤ bound) (room : parsing.ahead.length ≤ rounds + 1) :
    Recovers found parsing ((entriesFrom bound (rounds + 1) found).on () parsing) := by
  obtain ⟨run, next, behind, split, passed, stops, left, recorded⟩ :=
    skipStrange_passes here more strange
  have lengths := congrArg List.length split
  rw [List.length_append, List.length_cons] at lengths
  rw [on_entriesFrom_strange here more strange]
  exact .skipped split passed stops left recorded
    (later _ _ (by rw [left]; omega) (by rw [left]; omega))

/-- Every round consumes a token, so as many rounds as there are tokens ahead suffice. -/
theorem recovers (bound rounds : Nat) : RoundsRecover bound rounds := by
  induction rounds with
  | zero =>
      intro found parsing _ room
      have positive := parsing.length_ahead_pos
      omega
  | succ rounds later =>
      intro found parsing enough room
      have here := parsing.ahead_eq_cons
      cases ends : parsing.peek.isEnd with
      | true =>
          rw [on_entriesFrom_end here ends]
          exact .finished here (by simp) ends .nil (List.append_nil _).symm
            (List.append_nil _).symm
      | false =>
          by_cases starts : Starts parsing.peek
          · exact round_start later here starts enough room
          · exact round_strange later here ends starts enough room

theorem Recovers.errors_sublist {outcome : Except Stop (Array Expr)} {after : Parsing Kind}
    (recovers : Recovers found parsing (outcome, (), after)) :
    ∃ new, after.errors.toList = parsing.errors.toList ++ new ∧
      (new.map SyntaxError.token).Sublist parsing.ahead := by
  cases recovers with
  | finished split inside ends splits builds errors =>
      refine ⟨_, errors, ?_⟩
      rw [split]
      exact splits.complaints_sublist.trans (List.sublist_append_left _ _)
  | stuck split inside splits stops errors =>
      refine ⟨_, errors, ?_⟩
      rw [split, List.map_append]
      exact splits.complaints_sublist.append (List.singleton_sublist.mpr (by simp))

theorem parseWith_of_ok {α : Type} {root : Nat → Rule α} {value : α} {after : Parsing Kind}
    (ran : (root (boundFor parsing.tokens)).on () parsing.restart = (.ok value, (), after)) :
    parseWith root parsing = (.ok ⟨some value, after.errors⟩, after) := by
  rw [parseWith, on_parse, ran]

theorem parseWith_of_abort {α : Type} {root : Nat → Rule α} {message : String}
    {after : Parsing Kind} {earlier : List (SyntaxError Kind)} {last : SyntaxError Kind}
    (ran : (root (boundFor parsing.tokens)).on () parsing.restart =
      (.error (.abort message), (), after))
    (errors : after.errors.toList = earlier ++ [last]) :
    parseWith root parsing = (.ok ⟨none, after.errors⟩, after.abandon) := by
  have reported : after.abandon.errors = after.errors := by
    apply Array.ext'
    rw [Parsing.errors_abandon, errors, Parsing.explained_concat]
  rw [parseWith, on_parse, ran, ← reported]

theorem Recovers.parsed {outcome : Except Stop (Array Expr)} {reached after : Parsing Kind}
    (recovers : Recovers found reached (outcome, (), after))
    (ran : (entries (boundFor parsing.tokens)).on () parsing.restart = (outcome, (), after)) :
    ∃ after', parseExprs parsing = (.ok ⟨outcome.toOption, after.errors⟩, after') := by
  cases recovers with
  | finished => exact ⟨after, parseWith_of_ok ran⟩
  | stuck split inside splits stops errors =>
      rw [← List.append_assoc] at errors
      exact ⟨after.abandon, parseWith_of_abort ran errors⟩

/-- The result of the parse can be told at any place that the rounds have come to. -/
theorem parseExprs_recovers_from {found : Array Expr} {reached : Parsing Kind}
    {passed : List (Token Kind)} (split : parsing.restart.ahead = passed ++ reached.ahead)
    (room : parsing.tokens.size ≤ rounds)
    (leads : (entries (boundFor parsing.tokens)).on () parsing.restart =
      (entriesFrom (boundFor parsing.tokens) rounds found).on () reached) :
    ∃ outcome last after, Recovers found reached (outcome, (), last) ∧
      parseExprs parsing = (.ok ⟨outcome.toOption, last.errors⟩, after) := by
  have enough := enough_bound parsing
  have size : parsing.restart.ahead.length = parsing.tokens.size := Array.length_toList
  have lengths := congrArg List.length split
  rw [List.length_append] at lengths
  have recovered := recovers (boundFor parsing.tokens) rounds found reached (by omega) (by omega)
  rw [← leads] at recovered
  generalize ran : (entries (boundFor parsing.tokens)).on () parsing.restart = result at recovered
  obtain ⟨outcome, ⟨⟩, last⟩ := result
  obtain ⟨after, parsed⟩ := recovered.parsed ran
  exact ⟨outcome, last, after, recovered, parsed⟩

theorem parseExprs_recovers (parsing : Parsing Kind) :
    ∃ outcome last after, Recovers #[] parsing.restart (outcome, (), last) ∧
      parseExprs parsing = (.ok ⟨outcome.toOption, last.errors⟩, after) := by
  have room : parsing.tokens.size ≤ boundFor parsing.tokens := by
    rw [boundFor]
    omega
  exact parseExprs_recovers_from (List.nil_append _).symm room rfl

theorem parseExprs_errors_sublist {parsed : Parsed Kind (Array Expr)} {after : Parsing Kind}
    (ran : parseExprs parsing = (.ok parsed, after)) :
    (parsed.errors.toList.map SyntaxError.token).Sublist parsing.tokens.toList := by
  obtain ⟨outcome, reached, _, recovered, ran'⟩ := parseExprs_recovers parsing
  obtain ⟨new, errors, sublist⟩ := recovered.errors_sublist
  obtain ⟨rfl, -⟩ : parsed = ⟨outcome.toOption, reached.errors⟩ ∧ after = _ := by
    simpa using ran.symm.trans ran'
  rw [show reached.errors.toList = new from errors]
  exact sublist

theorem parseExprs_errors_mem (parsing : Parsing Kind) :
    ∃ parsed after, parseExprs parsing = (.ok parsed, after) ∧
      ∀ error ∈ parsed.errors.toList, error.token ∈ parsing.tokens.toList := by
  obtain ⟨outcome, last, after, -, ran⟩ := parseExprs_recovers parsing
  refine ⟨_, after, ran, ?_⟩
  intro error member
  exact (parseExprs_errors_sublist ran).subset (List.mem_map_of_mem member)

/-- A parse either takes the text before the first end token apart into its segments, or is
    abandoned within an expression. -/
theorem parseExprs_cases (parsing : Parsing Kind) :
    (∃ segments after, Splits (Token.beforeEnd parsing.tokens.toList) segments ∧
        parseExprs parsing =
          (.ok ⟨some (trees segments).toArray, (complaints segments).toArray⟩, after)) ∨
      ∃ text read token behind message segments after,
        parsing.tokens.toList = text ++ (read ++ token :: behind) ∧
        (∀ earlier ∈ text, earlier.isEnd = false) ∧ Splits text segments ∧
        Stuck read token message ∧
        parseExprs parsing =
          (.ok ⟨none, (complaints segments ++ [SyntaxError.mk token message "P001"]).toArray⟩,
            after) := by
  obtain ⟨outcome, reached, after, recovered, parsed⟩ := parseExprs_recovers parsing
  cases recovered with
  | @finished text behind ending segments built _ split inside ends splits builds errors =>
      have whole : Token.beforeEnd parsing.tokens.toList = text := by
        rw [← Parsing.ahead_restart, split, Token.beforeEnd_append inside ends]
      obtain rfl : built = (trees segments).toArray := Array.ext' builds
      have reported : reached.errors = (complaints segments).toArray := Array.ext' errors
      rw [reported] at parsed
      exact .inl ⟨segments, after, whole ▸ splits, parsed⟩
  | @stuck text read behind token message segments _ split inside splits stops errors =>
      have reported : reached.errors =
          (complaints segments ++ [SyntaxError.mk token message "P001"]).toArray :=
        Array.ext' errors
      rw [reported] at parsed
      exact .inr ⟨text, read, token, behind, message, segments, after, split, inside, splits,
        stops, parsed⟩

theorem Stuck.message {read : List (Token Kind)} {message : String}
    (stuck : Stuck read token message) :
    message = "Expected Number." ∨ message = "Expected ')' after expression." := by
  obtain ⟨context, ran, -⟩ := stuck.misfit 0
  obtain ⟨inner, ran', -, said⟩ := stuck.misfit 1
  have same : inner = context.deeper := Option.some.inj (ran'.symm.trans (Context.run_deeper ran))
  rw [← said, same]
  exact context.complaint_deeper

/-- Errors that are reported for tokens of a sequence, each behind the one before. -/
def InOrder (tokens : List (Token Kind)) (errors : List (SyntaxError Kind)) : Prop :=
  ∃ place : Nat → Nat, StrictMono place ∧
    ∀ index error, errors[index]? = some error → tokens[place index]? = some error.token

theorem inOrder_of_sublist {tokens : List (Token Kind)} {errors : List (SyntaxError Kind)}
    (sublist : (errors.map SyntaxError.token).Sublist tokens) : InOrder tokens errors := by
  obtain ⟨place, found⟩ := List.sublist_iff_exists_orderEmbedding_getElem?_eq.mp sublist
  refine ⟨place, place.strictMono, ?_⟩
  intro index error here
  rw [← found, List.getElem?_map, here, Option.map_some]

/-- A parse of a run of expressions that gives a list has taken the text before the first end
    token apart in the only way there is, and has lost no number of it. One that gives none has
    errors for runs that were skipped and, behind them, one for a misfit in an expression. -/
theorem parseExprs_partitions (parsing : Parsing Kind) :
    ∃ parsed after, parseExprs parsing = (.ok parsed, after) ∧
      (∀ found, parsed.ast = some found → ∃ segments,
        Splits (Token.beforeEnd parsing.tokens.toList) segments ∧
        (∀ other, Splits (Token.beforeEnd parsing.tokens.toList) other → other = segments) ∧
        segments.flatMap Segment.tokens = Token.beforeEnd parsing.tokens.toList ∧
        (∀ segment ∈ segments, segment.tokens ≠ []) ∧
        found.toList = trees segments ∧ parsed.errors.toList = complaints segments ∧
        found.toList.flatMap Expr.numbers = numerals (Token.beforeEnd parsing.tokens.toList)) ∧
      (parsed.ast = none → ∃ text segments token message,
        text <+: Token.beforeEnd parsing.tokens.toList ∧ Splits text segments ∧
        parsed.errors.toList =
          complaints segments ++ [SyntaxError.mk token message "P001"] ∧
        (message = "Expected Number." ∨ message = "Expected ')' after expression.") ∧
        InOrder parsing.tokens.toList parsed.errors.toList) := by
  rcases parseExprs_cases parsing with ⟨segments, after, splits, ran⟩ |
    ⟨text, read, token, behind, message, segments, after, split, inside, splits, stuck, ran⟩
  · refine ⟨_, after, ran, ?_, by simp⟩
    intro found list
    obtain rfl : (trees segments).toArray = found := Option.some.inj list
    exact ⟨segments, splits, fun other splits' => splits'.unique splits rfl, splits.tokens_eq,
      splits.tokens_ne_nil, rfl, rfl, splits.numbers_eq⟩
  · refine ⟨_, after, ran, by simp, fun _ => ?_⟩
    have begins : text <+: Token.beforeEnd parsing.tokens.toList := by
      rw [split, Token.beforeEnd, List.takeWhile_append_of_pos (by simpa using inside)]
      exact List.prefix_append _ _
    exact ⟨text, segments, token, message, begins, splits, rfl, stuck.message,
      inOrder_of_sublist (parseExprs_errors_sublist ran)⟩

end FrontEnd.Arithmetic
