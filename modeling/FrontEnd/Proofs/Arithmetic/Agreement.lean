import FrontEnd.Proofs.Arithmetic.Acceptance
import FrontEnd.Proofs.Arithmetic.Recovery

/-!
# The two grammars side by side

The grammar for one expression and the grammar for a run of them begin with the same
descent. What they do behind it differs: the first one takes any further token for an
error, the second one goes on. So there are only a few ways in which their results can
go together, and in all of them the first one has an error at least as early.
-/

namespace FrontEnd.Arithmetic

open Grammar

variable {parsing : Parsing Kind} {token : Token Kind} {rest : List (Token Kind)}

/-- How the results of the two parses of a sequence go together, where the parse of one
    expression stops at a place. -/
inductive SideBySide (tokens : List (Token Kind)) :
    Nat → Parsed Kind Expr → Parsed Kind (Array Expr) → Prop where
  /-- There is one expression and nothing behind it. -/
  | single (place : Nat) (tree : Expr) : SideBySide tokens place ⟨some tree, #[]⟩ ⟨some #[tree], #[]⟩
  /-- There is a misfit in the first expression. -/
  | misfit {place : Nat} {error : SyntaxError Kind} (here : tokens[place]? = some error.token) :
      SideBySide tokens place ⟨none, #[error]⟩ ⟨none, #[error]⟩
  /-- There is no expression and nothing else. -/
  | empty {ending : Token Kind} {behind : List (Token Kind)} (here : tokens = ending :: behind)
      (ends : ending.isEnd = true) :
      SideBySide tokens 0 ⟨none, #[{ token := ending, message := "Expected Number." }]⟩ ⟨some #[], #[]⟩
  /-- There is something strange before the first expression. -/
  | strange {first : Token Kind} {behind : List (Token Kind)} {many : Parsed Kind (Array Expr)}
      (here : tokens = first :: behind) (strange : ¬ Starts first) (reported : many.errors ≠ #[])
      (later : (many.errors.toList.map SyntaxError.token).Sublist tokens) :
      SideBySide tokens 0 ⟨none, #[{ token := first, message := "Expected Number." }]⟩ many
  /-- There is something behind the first expression. -/
  | longer {read behind : List (Token Kind)} {next : Token Kind} {many : Parsed Kind (Array Expr)}
      (here : tokens = read ++ next :: behind) (more : ∀ tree, many ≠ ⟨some #[tree], #[]⟩)
      (later : (many.errors.toList.map SyntaxError.token).Sublist (next :: behind)) :
      SideBySide tokens read.length
        ⟨none, #[{ token := next, message := "Expected end of input." }]⟩ many

/-- The two parses of a sequence have results that go together. -/
def Agrees (parsing : Parsing Kind) : Prop :=
  ∃ single many after after', parseExpr parsing = (.ok single, after) ∧
    parseExprs parsing = (.ok many, after') ∧
    SideBySide parsing.tokens.toList after.cursor single many

theorem parseWith_of_misfit {α : Type} {root : Nat → Rule α} {reached : Parsing Kind}
    {message : String} (fresh : reached.errors = #[])
    (ran : (root (boundFor parsing.tokens)).on () parsing.restart =
      (.error (.abort message), (), reached.record { token := token, message := message })) :
    ∃ after, parseWith root parsing = (.ok ⟨none, #[{ token := token, message := message }]⟩, after) ∧
      after.cursor = reached.cursor := by
  let last : SyntaxError Kind := { token := token, message := message }
  have recorded : (reached.record last).errors = #[last] := by
    rw [Parsing.record, fresh]
    rfl
  have errors : (reached.record last).errors.toList = [] ++ [last] := by
    rw [recorded]
    rfl
  refine ⟨(reached.record last).abandon, ?_, Parsing.cursor_abandon _⟩
  rw [← recorded]
  exact parseWith_of_abort ran errors

theorem not_starts_of_isEnd (ends : token.isEnd = true) : ¬ Starts token := by
  intro starts
  rw [isEnd_of_starts starts] at ends
  cases ends

theorem on_expression_strange {bound : Nat} (here : parsing.ahead = token :: rest)
    (strange : ¬ Starts token) (enough : 2 * parsing.ahead.length + 1 ≤ bound) :
    (expression bound).on () parsing = (.error (.abort "Expected Number."), (),
      parsing.record { token := token, message := "Expected Number." }) := by
  have positive := parsing.length_ahead_pos
  obtain ⟨below, rfl⟩ : ∃ below, bound = below + 2 := ⟨bound - 2, by omega⟩
  obtain ⟨noNumber, noParen⟩ := not_or.mp strange
  have stuck : (term (below + 1)).on () parsing = _ := on_term_operand here noParen
  rw [if_neg noNumber] at stuck
  rw [expression, on_bind_error stuck]

theorem agrees_of_not_starts (here : parsing.restart.ahead = token :: rest)
    (strange : ¬ Starts token) : Agrees parsing := by
  have enough := enough_bound parsing
  have descent := on_expression_strange here strange enough
  have entered : (entry (boundFor parsing.tokens)).on () parsing.restart = _ :=
    on_bind_error descent _
  obtain ⟨after, single, cursor⟩ := parseWith_of_misfit rfl entered
  cases ends : token.isEnd with
  | true =>
      have ran : (entries (boundFor parsing.tokens)).on () parsing.restart = _ :=
        on_entriesFrom_end here ends
      refine ⟨_, _, after, _, single, parseWith_of_ok ran, ?_⟩
      rw [cursor]
      exact .empty here ends
  | false =>
      obtain ⟨run, next, behind, split, -, -, left, recorded⟩ :=
        skipStrange_passes here ends strange
      rw [← left] at split
      obtain ⟨outcome, last, after', recovered, many⟩ :=
        parseExprs_recovers_from split (show _ ≤ 2 * parsing.tokens.size + 1 by omega)
          (on_entriesFrom_strange here ends strange)
      obtain ⟨later, errors, -⟩ := recovered.errors_sublist
      have reported : last.errors ≠ #[] := by
        rintro nothing
        simp [nothing, recorded] at errors
      refine ⟨_, _, after, after', single, many, ?_⟩
      rw [cursor]
      exact .strange here strange reported (parseExprs_errors_sublist many)

theorem Splits.eq_nil_of_silent {text : List (Token Kind)} {segments : List Segment}
    (splits : Splits text segments) (noTrees : trees segments = [])
    (silent : complaints segments = []) : text = [] := by
  cases splits with
  | nil => rfl
  | expression => simp [trees_cons, Segment.tree?] at noTrees
  | skipped => simp [complaints_cons, Segment.complaint?] at silent

/-- Where the text goes on, the rounds find something more, or else report something. -/
theorem Recovers.more {found built : Array Expr} {after : Parsing Kind}
    (recovers : Recovers found parsing (.ok built, (), after))
    (here : parsing.ahead = token :: rest) (more : token.isEnd = false)
    (silent : after.errors = parsing.errors) : found.size < built.size := by
  cases recovers with
  | @finished text behind ending segments _ _ split inside ends splits builds errors =>
      rw [silent, List.self_eq_append_right] at errors
      have lengths := congrArg List.length builds
      rw [List.length_append, Array.length_toList, Array.length_toList] at lengths
      have something : trees segments ≠ [] := by
        intro nothing
        -- The rounds would have read no text at all, and stopped at `token`.
        rw [splits.eq_nil_of_silent nothing errors, here] at split
        obtain ⟨rfl, -⟩ := List.cons.inj split
        rw [more] at ends
        cases ends
      have positive := List.length_pos_iff.mpr something
      omega

theorem cursor_restart_steps {read behind : List (Token Kind)}
    (split : parsing.restart.ahead = read ++ behind)
    (text : ∀ earlier ∈ read, earlier.isEnd = false) :
    (parsing.restart.steps read.length).cursor = read.length := by
  rw [Parsing.cursor_steps split text]
  exact Nat.zero_add _

theorem agrees_of_stuck {read behind : List (Token Kind)} {message : String}
    (starts : Starts parsing.restart.peek)
    (split : parsing.restart.ahead = read ++ token :: behind)
    (text : ∀ earlier ∈ read, earlier.isEnd = false)
    (ran : (expression (boundFor parsing.tokens)).on () parsing.restart =
      (.error (.abort message), (),
        (parsing.restart.steps read.length).record { token := token, message := message })) :
    Agrees parsing := by
  have fresh : (parsing.restart.steps read.length).errors = #[] := Parsing.errors_steps _ _
  have entered : (entry (boundFor parsing.tokens)).on () parsing.restart = _ := on_bind_error ran _
  have enteredMany : (entries (boundFor parsing.tokens)).on () parsing.restart = _ :=
    (on_entriesFrom_start parsing.restart.ahead_eq_cons starts).trans (on_bind_error ran _)
  obtain ⟨after, single, cursor⟩ := parseWith_of_misfit fresh entered
  obtain ⟨after', many, -⟩ := parseWith_of_misfit fresh enteredMany
  have whole : parsing.tokens.toList = read ++ token :: behind := split
  refine ⟨_, _, after, after', single, many, .misfit ?_⟩
  rw [cursor, cursor_restart_steps split text, whole, List.getElem?_append_right le_rfl, Nat.sub_self]
  rfl

theorem agrees_of_found {read behind : List (Token Kind)} {tree : Expr}
    (starts : Starts parsing.restart.peek)
    (split : parsing.restart.ahead = read ++ token :: behind)
    (text : ∀ earlier ∈ read, earlier.isEnd = false)
    (ran : (expression (boundFor parsing.tokens)).on () parsing.restart =
      (.ok tree, (), parsing.restart.steps read.length)) : Agrees parsing := by
  have fresh : (parsing.restart.steps read.length).errors = #[] := Parsing.errors_steps _ _
  have left := Parsing.ahead_steps split text
  have entered := on_entry_found ran left
  have enteredMany : (entries (boundFor parsing.tokens)).on () parsing.restart = _ :=
    (on_entriesFrom_start parsing.restart.ahead_eq_cons starts).trans (on_bind_ok ran _)
  -- The descent is over for both, and the next token is where they part.
  cases ends : token.isEnd with
  | true =>
      rw [if_pos ends] at entered
      rw [on_entriesFrom_end left ends] at enteredMany
      refine ⟨_, _, _, _, parseWith_of_ok entered, parseWith_of_ok enteredMany, ?_⟩
      rw [fresh]
      exact .single _ tree
  | false =>
      rw [ends, if_neg Bool.false_ne_true] at entered
      obtain ⟨after, single, cursor⟩ := parseWith_of_misfit fresh entered
      obtain ⟨outcome, last, after', recovered, many⟩ :=
        parseExprs_recovers_from (left ▸ split) (show _ ≤ 2 * parsing.tokens.size + 1 by omega)
          enteredMany
      obtain ⟨later, errors, sublist⟩ := recovered.errors_sublist
      refine ⟨_, _, after, after', single, many, ?_⟩
      rw [cursor, cursor_restart_steps split text]
      refine .longer split ?_ ?_
      · rintro other same
        obtain ⟨list, silent⟩ : outcome.toOption = some #[other] ∧ last.errors = #[] := by
          simpa using same
        cases outcome with
        | error stop => cases list
        | ok built =>
            obtain rfl : built = #[other] := Option.some.inj list
            have larger := recovered.more left ends (silent.trans fresh.symm)
            simp at larger
      · rw [← left]
        rw [fresh] at errors
        rwa [show last.errors.toList = later from errors]

theorem agrees_of_starts (starts : Starts parsing.restart.peek) : Agrees parsing := by
  have outcome := (descends (boundFor parsing.tokens)).expression parsing.restart
    (enough_bound parsing)
  generalize ran : (expression (boundFor parsing.tokens)).on () parsing.restart = result
    at outcome
  cases outcome with
  | stuck split misfit =>
      obtain ⟨context, path, -⟩ := misfit 0
      exact agrees_of_stuck starts split (Context.text_of_run path) ran
  | @found read behind tree split shape =>
      have text := Context.text_of_expression shape.1
      obtain ⟨token, rest, rfl⟩ :=
        Parsing.exists_cons_of_ahead (Parsing.ahead_steps split text)
      exact agrees_of_found starts split text ran

theorem agrees (parsing : Parsing Kind) : Agrees parsing := by
  by_cases starts : Starts parsing.restart.peek
  · exact agrees_of_starts starts
  · exact agrees_of_not_starts parsing.restart.ahead_eq_cons starts

namespace SideBySide

variable {tokens : List (Token Kind)} {place : Nat} {single : Parsed Kind Expr}
  {many : Parsed Kind (Array Expr)}

theorem same_tree (agrees : SideBySide tokens place single many) (tree : Expr) :
    single = ⟨some tree, #[]⟩ ↔ many = ⟨some #[tree], #[]⟩ := by
  cases agrees with
  | single place found => simp
  | misfit here => simp
  | empty here ends => simp
  | strange here strange reported later =>
      apply iff_of_false (by simp)
      rintro rfl
      exact reported rfl
  | longer here more later => exact iff_of_false (by simp) (more tree)

theorem same_misfit (agrees : SideBySide tokens place single many) {error : SyntaxError Kind}
    (reported : error ∈ single.errors) (inside : error.message = "Expected Number." ∨
      error.message = "Expected ')' after expression.")
    (starts : ∀ first ∈ tokens.head?, Starts first) :
    single = ⟨none, #[error]⟩ ∧ many = ⟨none, #[error]⟩ := by
  cases agrees with
  | single place found => simp at reported
  | misfit here =>
      obtain rfl : error = _ := Array.eq_of_mem_singleton reported
      exact ⟨rfl, rfl⟩
  | empty here ends => exact absurd (starts _ (here ▸ rfl)) (not_starts_of_isEnd ends)
  | strange here strange _ later => exact absurd (starts _ (here ▸ rfl)) strange
  | longer here more later =>
      obtain rfl : error = _ := Array.eq_of_mem_singleton reported
      simp at inside

theorem behind (agrees : SideBySide tokens place single many) :
    (many.errors.toList.map SyntaxError.token).Sublist (tokens.drop place) := by
  cases agrees with
  | single place found => exact List.nil_sublist _
  | misfit here =>
      obtain ⟨inside, found⟩ := List.getElem?_eq_some_iff.mp here
      rw [List.drop_eq_getElem_cons inside, found]
      exact List.singleton_sublist.mpr List.mem_cons_self
  | empty here ends => exact List.nil_sublist _
  | strange here strange reported later => exact later
  | longer here more later => rwa [here, List.drop_left]

theorem reported_at (agrees : SideBySide tokens place single many) (errors : many.errors ≠ #[]) :
    ∃ error, single.errors = #[error] ∧ tokens[place]? = some error.token := by
  cases agrees with
  | single place found => exact absurd rfl errors
  | misfit here => exact ⟨_, rfl, here⟩
  | empty here ends => exact absurd rfl errors
  | strange here strange reported later => exact ⟨_, rfl, by rw [here]; rfl⟩
  | longer here more later =>
      refine ⟨_, rfl, ?_⟩
      rw [here, List.getElem?_append_right le_rfl, Nat.sub_self]
      rfl

theorem not_later (agrees : SideBySide tokens place single many) (errors : many.errors ≠ #[]) :
    ∃ error first index, single.errors = #[error] ∧ many.errors[0]? = some first ∧
      tokens[place]? = some error.token ∧ tokens[index]? = some first.token ∧ place ≤ index := by
  obtain ⟨error, alone, here⟩ := agrees.reported_at errors
  obtain ⟨first, rest, listed⟩ := List.exists_cons_of_ne_nil
    (show many.errors.toList ≠ [] by simpa using errors)
  have member : first.token ∈ many.errors.toList.map SyntaxError.token := by
    rw [listed]
    exact List.mem_cons_self
  obtain ⟨offset, found⟩ := List.getElem?_of_mem (agrees.behind.subset member)
  rw [List.getElem?_drop] at found
  refine ⟨error, first, place + offset, alone, ?_, here, found, Nat.le_add_right _ _⟩
  rw [← Array.getElem?_toList, listed]
  rfl

end SideBySide

/-- One expression is found exactly when it is the whole run. Where the sequence begins like an
    expression, a misfit in it is what both parses report. The parse of a run reports nothing
    before the token at which the other one stopped. -/
theorem parses_agree (parsing : Parsing Kind) :
    ∃ single many after after', parseExpr parsing = (.ok single, after) ∧
      parseExprs parsing = (.ok many, after') ∧
      (∀ tree, single = ⟨some tree, #[]⟩ ↔ many = ⟨some #[tree], #[]⟩) ∧
      (∀ error ∈ single.errors, error.message = "Expected Number." ∨
        error.message = "Expected ')' after expression." →
        (∀ first ∈ parsing.tokens.toList.head?, Starts first) →
          single = ⟨none, #[error]⟩ ∧ many = ⟨none, #[error]⟩) ∧
      (many.errors ≠ #[] → ∃ error first index,
        single.errors = #[error] ∧ many.errors[0]? = some first ∧
        parsing.tokens.toList[after.cursor]? = some error.token ∧
        parsing.tokens.toList[index]? = some first.token ∧ after.cursor ≤ index) ∧
      (many.errors.toList.map SyntaxError.token).Sublist
        (parsing.tokens.toList.drop after.cursor) := by
  obtain ⟨single, many, after, after', ran, ranMany, sideBySide⟩ := agrees parsing
  exact ⟨single, many, after, after', ran, ranMany, sideBySide.same_tree,
    fun _ reported inside starts => sideBySide.same_misfit reported inside starts,
    sideBySide.not_later, sideBySide.behind⟩

end FrontEnd.Arithmetic
