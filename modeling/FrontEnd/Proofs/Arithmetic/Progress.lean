import FrontEnd.Proofs.Arithmetic.Horizon

/-!
# Progress of the arithmetic grammars

Every call of a term or of an expression consumes a token or aborts, and so does every round of
the recovery loop. None consumes an end token. So the tokens before the first end token are a
measure for the calls that are nested and for the rounds of both loops: all of them end, whatever
the bound on their steps would allow, and the recovery loop takes no more rounds than there are
such tokens.
-/

namespace FrontEnd.Arithmetic

open Grammar
open Parsing (Inside)

variable {found : Array Expr} {parsing : Parsing Kind}

/-- What a routine comes to at all bounds on its steps that suffice. -/
abbrev Ends {α : Type} (routine : Nat → Rule α) (parsing : Parsing Kind)
    (result : Except Stop α × Unit × Parsing Kind) : Prop :=
  Routine.Settles Parsing.answer Stop.outOfSteps routine () parsing result

/-- What a call comes to that makes progress: it returns at least so many tokens further on, or
    aborts with one more error, for the token under the cursor. -/
inductive Progress (least : Nat) (parsing : Parsing Kind) :
    Except Stop Expr × Unit × Parsing Kind → Prop where
  | returned {tree : Expr} {after : Parsing Kind} (forward : parsing.cursor + least ≤ after.cursor)
      (inside : Inside parsing.tokens after) (errors : after.errors = parsing.errors) :
      Progress least parsing (.ok tree, (), after)
  | aborted {message : String} {after : Parsing Kind} (forward : parsing.cursor ≤ after.cursor)
      (inside : Inside parsing.tokens after)
      (errors : after.errors =
        parsing.errors.push { token := after.peek, message := message }) :
      Progress least parsing (.error (.abort message), (), after)

variable {Shape : List (Token Kind) → List (Token Kind) → Expr → Prop} {due : Bool}
  {result : Except Stop Expr × Unit × Parsing Kind}

theorem Outcome.ends (outcome : Outcome Shape due parsing result) :
    result.1 ≠ .error .outOfSteps := by
  cases outcome <;> simp

theorem Outcome.progress {least : Nat} (inside : Inside parsing.tokens parsing)
    (forward : ∀ {read behind tree}, parsing.ahead = read ++ behind → Shape read behind tree →
      parsing.cursor + least ≤ (parsing.steps read.length).cursor)
    (outcome : Outcome Shape due parsing result) : Progress least parsing result := by
  cases outcome with
  | @found read behind tree split shape =>
      have onward := Parsing.onward_steps read.length parsing
      exact .returned (forward split shape) (inside.onward onward) (Parsing.errors_steps _ _)
  | @stuck read behind token message split misfit =>
      let error : SyntaxError Kind := { token := token, message := message }
      obtain ⟨context, ran, -⟩ := misfit 0
      have reached := Parsing.ahead_steps split (Context.text_of_run ran)
      have here : ((parsing.steps read.length).record error).peek = token := Parsing.peek_of_ahead reached
      have onward := (Parsing.onward_steps read.length parsing).trans (Parsing.onward_record error _)
      refine .aborted onward.cursor (inside.onward onward) ?_
      rw [here, Parsing.record, Parsing.errors_steps]

/-- A call that ends and makes progress. -/
def Progresses (least : Nat) (routine : Nat → Rule Expr) (parsing : Parsing Kind) : Prop :=
  ∃ result, Ends routine parsing result ∧ Progress least parsing result

theorem term_progresses (inside : Inside parsing.tokens parsing) : Progresses 1 term parsing := by
  have outcome := (descends _).term parsing (Nat.le_refl _)
  refine ⟨_, Routine.Grows.settles (fun bound => (growsAt bound).term) rfl outcome.ends,
    outcome.progress inside ?_⟩
  intro read behind tree split term
  obtain ⟨first, rest, rfl, -⟩ := Term.starts term
  rw [Parsing.cursor_steps split (Context.text_of_run (Context.run_term term 0))]
  simp

theorem expression_progresses (inside : Inside parsing.tokens parsing) :
    Progresses 1 expression parsing := by
  have outcome := (descends _).expression parsing (Nat.le_refl _)
  refine ⟨_, Routine.Grows.settles (fun bound => (growsAt bound).expression) rfl outcome.ends,
    outcome.progress inside ?_⟩
  intro read behind tree split shape
  obtain ⟨first, rest, rfl, -⟩ := shape.1.starts
  rw [Parsing.cursor_steps split (Context.text_of_expression shape.1)]
  simp

theorem operations_progresses (inside : Inside parsing.tokens parsing) (left : Expr) :
    Progresses 0 (operations · left) parsing := by
  have outcome := (descends _).operations left parsing (Nat.le_refl _)
  refine ⟨_, Routine.Grows.settles (fun bound => (growsAt bound).operations left) rfl outcome.ends,
    outcome.progress inside ?_⟩
  intro read behind tree split shape
  exact (Parsing.onward_steps read.length parsing).cursor

/-- What a round comes to that makes progress: it moves the cursor forward, or aborts with one
    more error, for the token under the cursor. -/
inductive RoundProgress (parsing : Parsing Kind) :
    Except Stop (Array Expr) × Unit × Parsing Kind → Prop where
  | moved {grown : Array Expr} {after : Parsing Kind} (forward : parsing.cursor < after.cursor)
      (inside : Inside parsing.tokens after) : RoundProgress parsing (.ok grown, (), after)
  | aborted {message : String} {after : Parsing Kind} (inside : Inside parsing.tokens after)
      (errors : after.errors =
        parsing.errors.push { token := after.peek, message := message }) :
      RoundProgress parsing (.error (.abort message), (), after)

theorem round_of_starts (starts : Starts parsing.peek) (inside : Inside parsing.tokens parsing)
    (found : Array Expr) :
    ∃ result, Ends (recoveryRound · found) parsing result ∧ RoundProgress parsing result := by
  obtain ⟨inner, ends, progress⟩ := expression_progresses inside
  obtain ⟨bound, settled⟩ := ends.sufficient
  have ran : (expression bound).on () parsing = inner := settled bound (Nat.le_refl bound)
  have round : (recoveryRound bound found).on () parsing = _ :=
    on_recoveryRound_start parsing.ahead_eq_cons starts
  cases progress with
  | returned forward inside errors =>
      rw [on_bind_ok ran, on_pure] at round
      exact ⟨_, (grows_recoveryRound found).settles round (by simp), .moved forward inside⟩
  | aborted forward inside errors =>
      rw [on_bind_error ran] at round
      exact ⟨_, (grows_recoveryRound found).settles round (by simp), .aborted inside errors⟩

theorem round_of_strange (more : ¬ parsing.isComplete = true) (strange : ¬ Starts parsing.peek)
    (inside : Inside parsing.tokens parsing) (found : Array Expr) :
    ∃ result, Ends (recoveryRound · found) parsing result ∧ RoundProgress parsing result := by
  have ran : (recoveryRound 0 found).on () parsing = (.ok found, (), skipStrange parsing) :=
    on_recoveryRound_strange parsing.ahead_eq_cons strange
  let recorded := parsing.record { token := parsing.peek, message := "Expected expression." }
  have stepped : recorded.step.cursor = parsing.cursor + 1 := Parsing.cursor_step more
  have skipped : Parsing.Onward recorded.step (skipStrange parsing) := Parsing.onward_skipUntil _ _
  have onward : Parsing.Onward parsing (skipStrange parsing) :=
    ((Parsing.onward_record _ parsing).trans (Parsing.onward_step recorded)).trans skipped
  refine ⟨_, (grows_recoveryRound found).settles ran (by simp), .moved ?_ (inside.onward onward)⟩
  have further := skipped.cursor
  omega

theorem recoveryRound_progresses (inside : Inside parsing.tokens parsing)
    (more : ¬ parsing.isComplete = true) (found : Array Expr) :
    ∃ result, Ends (recoveryRound · found) parsing result ∧ RoundProgress parsing result := by
  by_cases starts : Starts parsing.peek
  · exact round_of_starts starts inside found
  · exact round_of_strange more starts inside found

/-- The recovery loop from some place on, after the expressions that are found already, with the
    number of its rounds and what it comes to. There is no bound on the rounds. -/
inductive Loops : Array Expr → Parsing Kind → Nat →
    Except Stop (Array Expr) × Unit × Parsing Kind → Prop where
  | done {found : Array Expr} {parsing : Parsing Kind} (complete : parsing.isComplete = true) :
      Loops found parsing 0 (.ok found, (), parsing)
  | stopped {found : Array Expr} {parsing after : Parsing Kind} {stop : Stop}
      (more : ¬ parsing.isComplete = true)
      (round : Ends (recoveryRound · found) parsing (.error stop, (), after)) :
      Loops found parsing 1 (.error stop, (), after)
  | next {found grown : Array Expr} {parsing after : Parsing Kind} {count : Nat}
      {result : Except Stop (Array Expr) × Unit × Parsing Kind}
      (more : ¬ parsing.isComplete = true)
      (round : Ends (recoveryRound · found) parsing (.ok grown, (), after))
      (later : Loops grown after count result) : Loops found parsing (count + 1) result

theorem cursor_lt_of_not_isComplete {tokens : Array (Token Kind)} (inside : Inside tokens parsing)
    (more : ¬ parsing.isComplete = true) : parsing.cursor < tokens.findIdx Token.isEnd := by
  apply Nat.lt_of_le_of_ne inside.cursor
  intro last
  have here := inside.here
  rw [last] at here
  obtain ⟨present, same⟩ := Array.getElem?_eq_some_iff.mp here
  have ends : parsing.peek.isEnd = true := same ▸ Array.findIdx_getElem
  exact more ends

theorem RoundProgress.of_ends {result : Except Stop (Array Expr) × Unit × Parsing Kind}
    (inside : Inside parsing.tokens parsing) (more : ¬ parsing.isComplete = true)
    (ends : Ends (recoveryRound · found) parsing result) : RoundProgress parsing result := by
  obtain ⟨settled, ends', progress⟩ := recoveryRound_progresses inside more found
  obtain rfl := ends.unique ends'
  exact progress

/-- Every round moves the cursor towards the first end token, so there is a last round. -/
theorem exists_loops {tokens : Array (Token Kind)} (found : Array Expr) (parsing : Parsing Kind)
    (inside : Inside tokens parsing) : ∃ count result, Loops found parsing count result := by
  by_cases complete : parsing.isComplete = true
  · exact ⟨0, _, .done complete⟩
  · have before := cursor_lt_of_not_isComplete inside complete
    obtain ⟨result, ends, progress⟩ :=
      recoveryRound_progresses (inside.same ▸ inside) complete found
    cases progress with
    | aborted => exact ⟨1, _, .stopped complete ends⟩
    | @moved grown after forward inside' =>
        rw [inside.same] at inside'
        obtain ⟨count, result, later⟩ := exists_loops grown after inside'
        exact ⟨count + 1, result, .next complete ends later⟩
termination_by tokens.findIdx Token.isEnd - parsing.cursor
decreasing_by omega

namespace Loops

variable {count : Nat} {result : Except Stop (Array Expr) × Unit × Parsing Kind}

theorem ends (loops : Loops found parsing count result) : result.1 ≠ .error .outOfSteps := by
  induction loops with
  | done => simp
  | stopped _ round => exact fun out => round.ends (by simpa using out)
  | next _ _ _ ih => exact ih

theorem count_le {tokens : Array (Token Kind)} (loops : Loops found parsing count result)
    (inside : Inside tokens parsing) : parsing.cursor + count ≤ tokens.findIdx Token.isEnd := by
  induction loops with
  | done => exact inside.cursor
  | stopped more _ => exact cursor_lt_of_not_isComplete inside more
  | next more round _ ih =>
      have progress := RoundProgress.of_ends (inside.same ▸ inside) more round
      cases progress with
      | moved forward inside' =>
          have fewer := ih (inside.same ▸ inside')
          omega

/-- The loop of the grammar is this one, once it may take more rounds than this one takes. -/
theorem on_entriesFrom (loops : Loops found parsing count result) :
    ∃ least, ∀ bound, least ≤ bound → ∀ rounds, count < rounds →
      (entriesFrom bound rounds found).on () parsing = result := by
  induction loops with
  | @done found parsing complete =>
      refine ⟨0, fun bound _ rounds some => ?_⟩
      obtain ⟨rounds, rfl⟩ := Nat.exists_eq_add_of_lt some
      rw [entriesFrom_succ, on_bind_ok (on_isComplete () parsing), if_pos complete, on_pure]
  | @stopped found parsing after stop more round =>
      obtain ⟨least, settled⟩ := round.sufficient
      refine ⟨least, fun bound enough rounds some => ?_⟩
      obtain ⟨rounds, rfl⟩ := Nat.exists_eq_add_of_lt some
      rw [entriesFrom_succ, on_bind_ok (on_isComplete () parsing), if_neg more,
        on_bind_error (settled bound enough)]
  | @next found grown parsing after count result more round later ih =>
      obtain ⟨least, settled⟩ := round.sufficient
      obtain ⟨least', finishes⟩ := ih
      refine ⟨max least least', fun bound enough rounds some => ?_⟩
      obtain ⟨rounds, rfl⟩ := Nat.exists_eq_add_of_lt some
      rw [entriesFrom_succ, on_bind_ok (on_isComplete () parsing), if_neg more,
        on_bind_ok (settled bound (by omega))]
      exact finishes bound (by omega) _ (by omega)

end Loops

theorem length_beforeEnd (tokens : Array (Token Kind)) :
    (Token.beforeEnd tokens.toList).length = tokens.findIdx Token.isEnd := by
  obtain ⟨tokens⟩ := tokens
  rw [List.findIdx_toArray, Token.beforeEnd]
  induction tokens with
  | nil => rfl
  | cons token rest ih =>
      cases ends : token.isEnd <;> simp_all [List.findIdx_cons]

theorem inside_restart (parsing : Parsing Kind) : Inside parsing.tokens parsing.restart :=
  Parsing.inside_of_le rfl (Nat.zero_le _)

theorem entry_ends (parsing : Parsing Kind) : ∃ result, Ends entry parsing.restart result ∧
    (entry (boundFor parsing.tokens)).on () parsing.restart = result := by
  rcases on_entry parsing.restart (enough_bound parsing) with ⟨read, tree, -, ran⟩ |
    ⟨read, token, context, -, ran⟩
  · exact ⟨_, grows_entry.settles ran (by simp), ran⟩
  · exact ⟨_, grows_entry.settles ran (by simp), ran⟩

theorem Recovers.ends {result : Except Stop (Array Expr) × Unit × Parsing Kind}
    (recovers : Recovers found parsing result) : result.1 ≠ .error .outOfSteps := by
  cases recovers <;> simp

theorem entries_ends {count : Nat} {result : Except Stop (Array Expr) × Unit × Parsing Kind}
    (loops : Loops #[] parsing.restart count result) : Ends entries parsing.restart result ∧
      (entries (boundFor parsing.tokens)).on () parsing.restart = result := by
  obtain ⟨least, finishes⟩ := loops.on_entriesFrom
  have ran : (entries (max least (count + 1))).on () parsing.restart = result :=
    finishes _ (by omega) _ (by omega)
  have settled : Ends entries parsing.restart result := grows_entries.settles ran loops.ends
  have room : parsing.restart.ahead.length ≤ boundFor parsing.tokens := by
    have enough := enough_bound parsing
    omega
  -- At the grammar's own bound it does not run out of steps, so it comes to the same there.
  have recovered := recovers (boundFor parsing.tokens) (boundFor parsing.tokens) #[]
    parsing.restart (enough_bound parsing) room
  exact ⟨settled, (settled.otherwise _).resolve_right recovered.ends⟩

/-- Every routine of the grammars ends wherever no end token has been consumed. A term, an
    expression or a round of the recovery loop moves the cursor forward or aborts, so both
    grammars end within their own bounds, and the loop takes no more rounds than there are tokens
    before the first end token. -/
theorem grammars_progress :
    (∀ parsing : Parsing Kind, Inside parsing.tokens parsing →
      Progresses 1 term parsing ∧ Progresses 1 expression parsing ∧
      (∀ left, Progresses 0 (operations · left) parsing) ∧
      (¬ parsing.isComplete = true → ∀ found, ∃ result,
        Ends (recoveryRound · found) parsing result ∧ RoundProgress parsing result)) ∧
    ∀ parsing : Parsing Kind,
      (∃ result, Ends entry parsing.restart result ∧
        (entry (boundFor parsing.tokens)).on () parsing.restart = result) ∧
      (∃ count result, Loops #[] parsing.restart count result) ∧
      ∀ count result, Loops #[] parsing.restart count result →
        count ≤ (Token.beforeEnd parsing.tokens.toList).length ∧
        Ends entries parsing.restart result ∧
        (entries (boundFor parsing.tokens)).on () parsing.restart = result := by
  refine ⟨fun parsing inside => ⟨?_, ?_, ?_, ?_⟩, fun parsing => ⟨entry_ends parsing, ?_, ?_⟩⟩
  · exact term_progresses inside
  · exact expression_progresses inside
  · exact operations_progresses inside
  · exact recoveryRound_progresses inside
  · exact exists_loops #[] parsing.restart (inside_restart parsing)
  · intro count result loops
    have few := loops.count_le (inside_restart parsing)
    have start : parsing.restart.cursor = 0 := rfl
    rw [start, Nat.zero_add, ← length_beforeEnd] at few
    exact ⟨few, entries_ends loops⟩

/-- On a number before the first of two end tokens, every routine comes further, and the recovery
    loop takes one round. -/
theorem grammars_progress_beyond :
    Inside beyond.tokens beyond ∧ ¬ beyond.isComplete = true ∧
      Progresses 1 term beyond ∧ Progresses 1 expression beyond ∧
      (∃ result, Ends (recoveryRound · #[]) beyond result ∧ RoundProgress beyond result) ∧
      ∃ count result, Loops #[] beyond.restart count result ∧ count ≤ 1 ∧
        (entries (boundFor beyond.tokens)).on () beyond.restart = result := by
  have inside : Inside beyond.tokens beyond := Parsing.inside_of_le rfl (Nat.zero_le _)
  have more : ¬ beyond.isComplete = true := by decide
  obtain ⟨calls, grammars⟩ := grammars_progress
  obtain ⟨term, expression, -, round⟩ := calls beyond inside
  obtain ⟨-, ⟨count, result, loops⟩, ends⟩ := grammars beyond
  obtain ⟨few, -, ran⟩ := ends count result loops
  exact ⟨inside, more, term, expression, round more #[], count, result, loops, few, ran⟩

end FrontEnd.Arithmetic
