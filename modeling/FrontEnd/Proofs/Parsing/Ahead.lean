import FrontEnd.Parsing.Grammar

/-!
# The tokens ahead

What a grammar can do with a parse in progress depends on the cursor only through
the tokens from it to the end of the sequence. `Parsing.ahead` is that list; here is
what every operation of the expression grammars says about it and does to it.

`Grammar.on_bind_ok` and `Grammar.on_bind_error` then take a grammar routine apart
step by step, so that no later proof has to open a dialogue.
-/

namespace FrontEnd

/-- The tokens before the first end token. -/
def Token.beforeEnd {κ : Type} (tokens : List (Token κ)) : List (Token κ) :=
  tokens.takeWhile fun token => !token.isEnd

theorem Token.beforeEnd_append {κ : Type} {read behind : List (Token κ)} {token : Token κ}
    (text : ∀ earlier ∈ read, earlier.isEnd = false) (ends : token.isEnd = true) :
    Token.beforeEnd (read ++ token :: behind) = read := by
  rw [beforeEnd, List.takeWhile_append_of_pos (by simpa using text),
    List.takeWhile_cons_of_neg (by simpa using ends), List.append_nil]

namespace Parsing

variable {κ : Type}

theorem exists_ofTokens (before : List (Token κ)) {last : Token κ} (ends : last.isEnd = true) :
    ∃ parsing : Parsing κ, ofTokens (before ++ [last]).toArray = .ok parsing ∧
      parsing.tokens.toList = before ++ [last] := by
  have closed : (before ++ [last]).toArray.back?.any Token.isEnd = true := by
    simp [ends]
  rw [ofTokens, dif_pos closed]
  exact ⟨_, rfl, rfl⟩

theorem exists_end (parsing : Parsing κ) : ∃ ending behind, ending.isEnd = true ∧
    parsing.tokens.toList = Token.beforeEnd parsing.tokens.toList ++ ending :: behind := by
  obtain ⟨last, back, closes⟩ := (Option.any_eq_true ..).mp parsing.closed
  have inside : last ∈ parsing.tokens.toList := (Array.mem_of_back? back).val
  have found : (parsing.tokens.toList.find? Token.isEnd).isSome = true :=
    List.find?_isSome.mpr ⟨last, inside, closes⟩
  obtain ⟨ending, first⟩ := Option.isSome_iff_exists.mp found
  obtain ⟨ends, text, behind, split, proper⟩ := List.find?_eq_some_iff_append.mp first
  refine ⟨ending, behind, ends, ?_⟩
  rw [split, Token.beforeEnd_append (by simpa using proper) ends]

/-- The tokens from the cursor to the end of the sequence. -/
def ahead (parsing : Parsing κ) : List (Token κ) := parsing.tokens.toList.drop parsing.cursor

theorem ahead_eq_cons (parsing : Parsing κ) :
    parsing.ahead = parsing.peek :: parsing.tokens.toList.drop (parsing.cursor + 1) := by
  have inside : parsing.cursor < parsing.tokens.toList.length := by
    simpa using parsing.cursor_lt
  rw [ahead, List.drop_eq_getElem_cons inside]
  rfl

theorem exists_cons_of_ahead {parsing : Parsing κ} {behind : List (Token κ)}
    (here : parsing.ahead = behind) : ∃ token rest, behind = token :: rest :=
  ⟨_, _, here ▸ ahead_eq_cons parsing⟩

theorem length_ahead (parsing : Parsing κ) :
    parsing.ahead.length = parsing.tokens.size - parsing.cursor := by
  simp [ahead]

theorem length_ahead_pos (parsing : Parsing κ) : 0 < parsing.ahead.length := by
  have inside := parsing.cursor_lt
  rw [length_ahead]
  omega

@[simp] theorem ahead_restart (parsing : Parsing κ) :
    parsing.restart.ahead = parsing.tokens.toList := rfl

theorem peek_of_ahead {parsing : Parsing κ} {token : Token κ} {rest : List (Token κ)}
    (here : parsing.ahead = token :: rest) : parsing.peek = token := by
  rw [ahead_eq_cons] at here
  exact (List.cons.inj here).1

theorem isComplete_of_ahead {parsing : Parsing κ} {token : Token κ} {rest : List (Token κ)}
    (here : parsing.ahead = token :: rest) : parsing.isComplete = token.isEnd := by
  rw [isComplete, peek_of_ahead here]

theorem ahead_step {parsing : Parsing κ} {token : Token κ} {rest : List (Token κ)}
    (here : parsing.ahead = token :: rest) (more : token.isEnd = false) :
    parsing.step.ahead = rest := by
  have open_ : ¬ parsing.isComplete = true := by
    simp [isComplete_of_ahead here, more]
  rw [ahead, tokens_step, cursor_step open_]
  rw [ahead_eq_cons] at here
  exact (List.cons.inj here).2

theorem length_ahead_step {parsing : Parsing κ} {token : Token κ} {rest : List (Token κ)}
    (here : parsing.ahead = token :: rest) (more : token.isEnd = false) :
    parsing.ahead.length = parsing.step.ahead.length + 1 := by
  rw [ahead_step here more, here, List.length_cons]

theorem previous_step {parsing : Parsing κ} {token : Token κ} {rest : List (Token κ)}
    (here : parsing.ahead = token :: rest) (more : token.isEnd = false) :
    parsing.step.previous = .ok token := by
  have open_ : ¬ parsing.isComplete = true := by
    simp [isComplete_of_ahead here, more]
  have found : parsing.tokens[parsing.cursor]? = some token := by
    rw [← peek_of_ahead here]
    exact Array.getElem?_eq_getElem parsing.cursor_lt
  rw [previous, cursor_step open_, tokens_step]
  simp only [found, Option.getD_some]

theorem steps_add (first second : Nat) (parsing : Parsing κ) :
    parsing.steps (first + second) = (parsing.steps first).steps second := by
  induction first generalizing parsing with
  | zero => rw [Nat.zero_add, steps]
  | succ first ih => rw [Nat.succ_add, steps, steps, ih]

@[simp] theorem tokens_steps (count : Nat) (parsing : Parsing κ) :
    (parsing.steps count).tokens = parsing.tokens := by
  induction count generalizing parsing with
  | zero => rfl
  | succ count ih => rw [steps, ih, tokens_step]

@[simp] theorem errors_steps (count : Nat) (parsing : Parsing κ) :
    (parsing.steps count).errors = parsing.errors := by
  induction count generalizing parsing with
  | zero => rfl
  | succ count ih => rw [steps, ih, errors_step]

/-- Stepping over tokens that are no end tokens leaves what was behind them. -/
theorem ahead_steps {parsing : Parsing κ} {read behind : List (Token κ)}
    (split : parsing.ahead = read ++ behind) (text : ∀ token ∈ read, token.isEnd = false) :
    (parsing.steps read.length).ahead = behind := by
  induction read generalizing parsing with
  | nil => exact split
  | cons token read ih =>
      obtain ⟨more, text⟩ := List.forall_mem_cons.mp text
      have stepped : parsing.step.ahead = read ++ behind := ahead_step split more
      exact ih stepped text

theorem cursor_steps {parsing : Parsing κ} {read behind : List (Token κ)}
    (split : parsing.ahead = read ++ behind) (text : ∀ token ∈ read, token.isEnd = false) :
    (parsing.steps read.length).cursor = parsing.cursor + read.length := by
  induction read generalizing parsing with
  | nil => rfl
  | cons token read ih =>
      obtain ⟨more, text⟩ := List.forall_mem_cons.mp text
      have open_ : ¬ parsing.isComplete = true := by
        simp [isComplete_of_ahead split, more]
      rw [List.length_cons, steps, ih (ahead_step split more) text, cursor_step open_]
      omega

theorem cursor_abandon (parsing : Parsing κ) : parsing.abandon.cursor = parsing.cursor := by
  unfold abandon
  by_cases unexplained : parsing.errors.isEmpty = true
  · rw [if_pos unexplained]
    rfl
  · rw [if_neg unexplained]

variable [DecidableEq κ]

theorem check_of_ahead {parsing : Parsing κ} {token : Token κ} {rest : List (Token κ)}
    (here : parsing.ahead = token :: rest) (kind : κ) :
    parsing.check (some kind) = decide (token.kind = some kind) := by
  rw [check, isComplete_of_ahead here, peek_of_ahead here, Token.isEnd, Bool.eq_iff_iff]
  cases token.kind with
  | none => simp
  | some found => simp

theorem checkAny_iff_of_ahead {parsing : Parsing κ} {token : Token κ} {rest : List (Token κ)}
    (here : parsing.ahead = token :: rest) {kinds : List (Option κ)} :
    parsing.checkAny kinds = true ↔ token.kind ∈ kinds ∧ token.isEnd = false := by
  simp [checkAny, check, isComplete_of_ahead here, peek_of_ahead here]

theorem checkAny_of_ahead {parsing : Parsing κ} {token : Token κ} {rest : List (Token κ)}
    (here : parsing.ahead = token :: rest) {kinds : List (Option κ)} (real : none ∉ kinds) :
    parsing.checkAny kinds = decide (token.kind ∈ kinds) := by
  rw [Bool.eq_iff_iff, checkAny_iff_of_ahead here, decide_eq_true_iff, and_iff_left_iff_imp]
  intro member
  obtain ⟨kind, known⟩ := Option.ne_none_iff_exists'.mp (ne_of_mem_of_not_mem member real)
  simp [Token.isEnd, known]

omit [DecidableEq κ] in
/-- From `before` to `after`, a run of tokens is passed over that all have a property. It is
    the longest one: an end token or a token without the property comes next. -/
def PassesOver (property : Token κ → Prop) (before after : Parsing κ) : Prop :=
  ∃ run next rest, before.ahead = run ++ next :: rest ∧
    (∀ token ∈ run, token.isEnd = false ∧ property token) ∧
    (next.isEnd = true ∨ ¬ property next) ∧ after = before.steps run.length

namespace PassesOver

variable {property : Token κ → Prop} {before after : Parsing κ}

omit [DecidableEq κ] in
theorem nothing (stops : before.peek.isEnd = true ∨ ¬ property before.peek) :
    PassesOver property before before :=
  ⟨[], before.peek, _, before.ahead_eq_cons, by simp, stops, rfl⟩

omit [DecidableEq κ] in
theorem step (more : before.peek.isEnd = false) (has : property before.peek)
    (later : PassesOver property before.step after) : PassesOver property before after := by
  obtain ⟨run, next, rest, split, passed, stops, reached⟩ := later
  have here := before.ahead_eq_cons
  rw [ahead_step here more] at split
  rw [split] at here
  exact ⟨before.peek :: run, next, rest, here, List.forall_mem_cons.mpr ⟨⟨more, has⟩, passed⟩,
    stops, reached⟩

end PassesOver

theorem passesOver_skip (kinds : List (Option κ)) (parsing : Parsing κ) :
    PassesOver (fun token => token.kind ∈ kinds) parsing (parsing.skip kinds) := by
  fun_induction skip parsing kinds with
  | case1 parsing found ih =>
      obtain ⟨member, more⟩ := (checkAny_iff_of_ahead parsing.ahead_eq_cons).mp found
      exact .step more member ih
  | case2 parsing other =>
      apply PassesOver.nothing
      rw [checkAny_iff_of_ahead parsing.ahead_eq_cons] at other
      cases ends : parsing.peek.isEnd with
      | true => exact .inl rfl
      | false => exact .inr fun member => other ⟨member, ends⟩

theorem passesOver_skipUntil (kinds : List (Option κ)) (parsing : Parsing κ) :
    PassesOver (fun token => token.kind ∉ kinds) parsing (parsing.skipUntil kinds) := by
  fun_induction skipUntil parsing kinds with
  | case1 parsing stop =>
      apply PassesOver.nothing
      cases stop with
      | inl complete => exact .inl complete
      | inr found =>
          obtain ⟨member, -⟩ := (checkAny_iff_of_ahead parsing.ahead_eq_cons).mp found
          exact .inr fun other => other member
  | case2 parsing other ih =>
      obtain ⟨more, notFound⟩ := not_or.mp other
      have proper : parsing.peek.isEnd = false := Bool.not_eq_true _ ▸ more
      refine .step proper (fun member => notFound ?_) ih
      exact (checkAny_iff_of_ahead parsing.ahead_eq_cons).mpr ⟨member, proper⟩

end Parsing

namespace Grammar

variable {κ σ α β : Type} [DecidableEq κ]

theorem on_pure (value : α) (own : σ) (parsing : Parsing κ) :
    (pure value : Grammar κ σ α).on own parsing = (.ok value, own, parsing) :=
  Routine.run_pure Parsing.answer value own parsing

theorem on_bind_ok {routine : Grammar κ σ α} {own after : σ} {parsing reached : Parsing κ}
    {value : α} (ran : routine.on own parsing = (.ok value, after, reached))
    (rest : α → Grammar κ σ β) :
    (routine >>= rest).on own parsing = (rest value).on after reached :=
  Routine.run_bind_ok Parsing.answer ran rest

theorem on_bind_error {routine : Grammar κ σ α} {own after : σ} {parsing reached : Parsing κ}
    {stop : Stop} (ran : routine.on own parsing = (.error stop, after, reached))
    (rest : α → Grammar κ σ β) :
    (routine >>= rest).on own parsing = (.error stop, after, reached) :=
  Routine.run_bind_error Parsing.answer ran rest

theorem on_accept_of_ahead {parsing : Parsing κ} {token : Token κ} {rest : List (Token κ)}
    (here : parsing.ahead = token :: rest) {kinds : List (Option κ)} (real : none ∉ kinds)
    (own : σ) :
    (accept kinds : Grammar κ σ Bool).on own parsing =
      if token.kind ∈ kinds then (.ok true, own, parsing.step) else (.ok false, own, parsing) := by
  rw [on_accept, Parsing.accept, Parsing.checkAny_of_ahead here real]
  by_cases found : token.kind ∈ kinds
  · rw [if_pos (decide_eq_true found), if_pos found]
  · rw [if_neg (by simpa using found), if_neg found]

theorem on_consume_of_ahead {parsing : Parsing κ} {token : Token κ} {rest : List (Token κ)}
    (here : parsing.ahead = token :: rest) (kind : κ) (message : String) (own : σ) :
    (consume (some kind) message : Grammar κ σ (Token κ)).on own parsing =
      if token.kind = some kind then (.ok token, own, parsing.step)
      else (.error (.abort message), own,
        parsing.record { token := token, message := message }) := by
  rw [on_consume, Parsing.check_of_ahead here, Parsing.peek_of_ahead here]
  by_cases found : token.kind = some kind
  · rw [if_pos (decide_eq_true found), if_pos found]
  · rw [if_neg (by simpa using found), if_neg found]

theorem on_previous_step {parsing : Parsing κ} {token : Token κ} {rest : List (Token κ)}
    (here : parsing.ahead = token :: rest) (more : token.isEnd = false) (own : σ) :
    (previous : Grammar κ σ (Token κ)).on own parsing.step = (.ok token, own, parsing.step) := by
  have asked : (ask .previous : Grammar κ σ _).on own parsing.step =
      (.ok (.ok token), own, parsing.step) := by
    rw [← Parsing.previous_step here more]
    exact Routine.run_ask Parsing.answer .previous own parsing.step
  rw [previous, on_bind_ok asked, on_pure]

theorem on_check_of_ahead {parsing : Parsing κ} {token : Token κ} {rest : List (Token κ)}
    (here : parsing.ahead = token :: rest) (kind : κ) (own : σ) :
    (check (some kind) : Grammar κ σ Bool).on own parsing =
      (.ok (decide (token.kind = some kind)), own, parsing) := by
  rw [← Parsing.check_of_ahead here]
  exact Routine.run_ask Parsing.answer (.check (some kind)) own parsing

theorem on_isComplete (own : σ) (parsing : Parsing κ) :
    (isComplete : Grammar κ σ Bool).on own parsing = (.ok parsing.isComplete, own, parsing) := rfl

theorem on_peek (own : σ) (parsing : Parsing κ) :
    (peek : Grammar κ σ (Token κ)).on own parsing = (.ok parsing.peek, own, parsing) := rfl

theorem on_fail (token : Token κ) (message : String) (own : σ) (parsing : Parsing κ) :
    (fail token message : Grammar κ σ α).on own parsing =
      (.error (.abort message), own,
        parsing.record { token := token, message := message }) := rfl

end Grammar

end FrontEnd
