import FrontEnd.Proofs.Dialogue.Comparison
import FrontEnd.Proofs.Parsing.Skipping

/-!
# The horizon of a parse

The first end token is as far as a parse gets that never seeks. Whether it also is as far as the
parse can see depends on what its grammar asks for. Near requests do not see behind an end
token: they concern the tokens up to the cursor, or they look ahead for kinds among which the
end kind is not, so that an end token stops the search.

A sequence and what remains of it when it is cut off behind an end token are therefore the same
to a grammar that makes near requests only. The runs on both go on abreast, with equal replies,
and each operation of a parse keeps them abreast.
-/

namespace FrontEnd

namespace Parsing

variable {κ : Type} {long short : Parsing κ}

/-- What does not reach behind the next end token. -/
def Request.Near : Request κ → Prop
  | .tokenAt _ | .checkAt .. | .nextOffset _ | .seek _ => False
  | .checkSkipping _ skipped => none ∉ skipped
  | .checkRepeated kind _ => kind ≠ none
  | .checkSequential kinds => none ∉ kinds
  | _ => True

/-- The tokens of `short` are those of `long` up to the first end token, or up to a later one. -/
def CutAtEnd (long short : Parsing κ) : Prop :=
  ∃ text ending behind, ending.isEnd = true ∧
    long.tokens.toList = text ++ ending :: behind ∧ short.tokens.toList = text ++ [ending]

/-- Two parses that have come equally far, one of them in a sequence that is cut off. -/
structure Abreast (long short : Parsing κ) : Prop where
  tokens : CutAtEnd long short
  cursor : long.cursor = short.cursor
  errors : long.errors = short.errors

theorem CutAtEnd.restart (cut : CutAtEnd long short) : Abreast long.restart short.restart :=
  ⟨cut, rfl, rfl⟩

theorem prefix_before_none_iff {kinds run behind : List (Option κ)} (real : none ∉ kinds) :
    kinds <+: run ++ none :: behind ↔ kinds <+: run := by
  induction kinds generalizing run with
  | nil => simp
  | cons kind kinds ih =>
      obtain ⟨proper, real⟩ : none ≠ kind ∧ none ∉ kinds := by simpa using real
      cases run with
      | nil => simp [List.cons_prefix_cons, proper.symm]
      | cons first run => simp [List.cons_prefix_cons, ih real]

namespace Abreast

theorem split (abreast : Abreast long short) : ∃ text ending behind,
    short.cursor ≤ text.length ∧ ending.isEnd = true ∧
      long.tokens.toList = text ++ ending :: behind ∧ short.tokens.toList = text ++ [ending] := by
  obtain ⟨text, ending, behind, ends, whole, cut⟩ := abreast.tokens
  have present := short.cursor_lt
  have size : short.tokens.size = text.length + 1 := by simp [← Array.length_toList, cut]
  exact ⟨text, ending, behind, by omega, ends, whole, cut⟩

theorem ahead (abreast : Abreast long short) : ∃ run ending behind,
    ending.isEnd = true ∧ long.ahead = run ++ ending :: behind ∧ short.ahead = run ++ [ending] := by
  obtain ⟨text, ending, behind, place, ends, whole, cut⟩ := abreast.split
  refine ⟨text.drop short.cursor, ending, behind, ends, ?_, ?_⟩
  · rw [Parsing.ahead, whole, abreast.cursor, List.drop_append_of_le_length place]
  · rw [Parsing.ahead, cut, List.drop_append_of_le_length place]

theorem peek (abreast : Abreast long short) : long.peek = short.peek := by
  obtain ⟨run, ending, behind, -, whole, cut⟩ := abreast.ahead
  cases run with
  | nil => rw [peek_of_ahead whole, peek_of_ahead cut]
  | cons token run => rw [peek_of_ahead whole, peek_of_ahead cut]

theorem isComplete (abreast : Abreast long short) : long.isComplete = short.isComplete := by
  rw [Parsing.isComplete, Parsing.isComplete, abreast.peek]

theorem getElem?_tokens (abreast : Abreast long short) {index : Nat}
    (before : index < short.cursor) : long.tokens[index]? = short.tokens[index]? := by
  obtain ⟨text, ending, behind, place, -, whole, cut⟩ := abreast.split
  have inside : index < text.length := Nat.lt_of_lt_of_le before place
  rw [← Array.getElem?_toList, ← Array.getElem?_toList, whole, cut,
    List.getElem?_append_left inside, List.getElem?_append_left inside]

theorem previous (abreast : Abreast long short) : long.previous = short.previous := by
  unfold Parsing.previous
  rw [abreast.cursor]
  cases place : short.cursor with
  | zero => rfl
  | succ before =>
      have passed : before < short.cursor := by omega
      simp only [abreast.getElem?_tokens passed, abreast.peek]

theorem lastToken (abreast : Abreast long short) : long.lastToken = short.lastToken := by
  rw [Parsing.lastToken, Parsing.lastToken, abreast.previous, abreast.peek]

theorem step (abreast : Abreast long short) : Abreast long.step short.step := by
  by_cases complete : short.isComplete = true
  · rw [step_of_isComplete complete, step_of_isComplete (abreast.isComplete.trans complete)]
    exact abreast
  · have more : ¬ long.isComplete = true := by rwa [abreast.isComplete]
    constructor
    case tokens => simpa [CutAtEnd] using abreast.tokens
    case cursor => rw [cursor_step more, cursor_step complete, abreast.cursor]
    case errors => simpa using abreast.errors

theorem steps (abreast : Abreast long short) (count : Nat) :
    Abreast (long.steps count) (short.steps count) := by
  induction count generalizing long short with
  | zero => exact abreast
  | succ count ih => exact ih abreast.step

theorem record (abreast : Abreast long short) (error : SyntaxError κ) :
    Abreast (long.record error) (short.record error) :=
  ⟨abreast.tokens, abreast.cursor, congrArg (Array.push · error) abreast.errors⟩

theorem abandon (abreast : Abreast long short) : Abreast long.abandon short.abandon := by
  constructor
  case tokens =>
    rw [CutAtEnd, (onward_abandon long).tokens, (onward_abandon short).tokens]
    exact abreast.tokens
  case cursor => rw [cursor_abandon, cursor_abandon, abreast.cursor]
  case errors =>
    apply Array.ext'
    rw [errors_abandon, errors_abandon, abreast.errors, abreast.peek]

variable [DecidableEq κ]

theorem check (abreast : Abreast long short) (kind : Option κ) :
    long.check kind = short.check kind := by
  rw [Parsing.check, Parsing.check, abreast.isComplete, abreast.peek]

theorem checkAny (abreast : Abreast long short) (kinds : List (Option κ)) :
    long.checkAny kinds = short.checkAny kinds := by
  rw [Parsing.checkAny, Parsing.checkAny, funext abreast.check]

omit [DecidableEq κ] in
theorem kindsAhead (abreast : Abreast long short) : ∃ kinds behind,
    long.kindsAhead = kinds ++ none :: behind ∧ short.kindsAhead = kinds ++ [none] := by
  obtain ⟨run, ending, behind, ends, whole, cut⟩ := abreast.ahead
  have last : ending.kind = none := by simpa [Token.isEnd] using ends
  exact ⟨run.map Token.kind, behind.map Token.kind, by simp [kindsAhead_eq, whole, last],
    by simp [kindsAhead_eq, cut, last]⟩

theorem checkSkipping (abreast : Abreast long short) (kind : Option κ)
    {skipped : List (Option κ)} (real : none ∉ skipped) :
    long.checkSkipping kind skipped = short.checkSkipping kind skipped := by
  obtain ⟨kinds, behind, whole, cut⟩ := abreast.kindsAhead
  have stops : searchPasses kind skipped none = false := by simp [searchPasses, real]
  simp [checkSkipping_eq, whole, cut, ← List.find?_not_eq_head?_dropWhile, stops]

theorem checkSequential (abreast : Abreast long short) {kinds : List (Option κ)}
    (real : none ∉ kinds) : long.checkSequential kinds = short.checkSequential kinds := by
  obtain ⟨run, behind, whole, cut⟩ := abreast.kindsAhead
  rw [Bool.eq_iff_iff, Parsing.checkSequential, Parsing.checkSequential,
    List.isPrefixOf_iff_prefix, List.isPrefixOf_iff_prefix, whole, cut,
    prefix_before_none_iff real, prefix_before_none_iff real]

theorem checkRepeated (abreast : Abreast long short) {kind : Option κ} (proper : kind ≠ none)
    (count : Int) : long.checkRepeated kind count = short.checkRepeated kind count := by
  have real : none ∉ List.replicate count.toNat kind :=
    fun member => proper (List.eq_of_mem_replicate member).symm
  rw [checkRepeated_eq, checkRepeated_eq, abreast.checkSequential real]

theorem accept (abreast : Abreast long short) (kinds : List (Option κ)) :
    (long.accept kinds).1 = (short.accept kinds).1 ∧
      Abreast (long.accept kinds).2 (short.accept kinds).2 := by
  rw [Parsing.accept, Parsing.accept, abreast.checkAny]
  split
  case isTrue => exact ⟨rfl, abreast.step⟩
  case isFalse => exact ⟨rfl, abreast⟩

theorem consume (abreast : Abreast long short) (kind : Option κ) (message : String) :
    (long.consume kind message).1 = (short.consume kind message).1 ∧
      Abreast (long.consume kind message).2 (short.consume kind message).2 := by
  rw [Parsing.consume, Parsing.consume, abreast.check, abreast.peek]
  split
  case isTrue => exact ⟨rfl, abreast.step⟩
  case isFalse => exact ⟨rfl, abreast.record _⟩

theorem skip (abreast : Abreast long short) (kinds : List (Option κ)) :
    Abreast (long.skip kinds) (short.skip kinds) := by
  fun_induction Parsing.skip short kinds generalizing long with
  | case1 short found ih =>
      rw [Parsing.skip, dif_pos ((abreast.checkAny kinds).trans found)]
      exact ih abreast.step
  | case2 short other =>
      rw [Parsing.skip, dif_neg (by rwa [abreast.checkAny])]
      exact abreast

theorem skipUntil (abreast : Abreast long short) (kinds : List (Option κ)) :
    Abreast (long.skipUntil kinds) (short.skipUntil kinds) := by
  fun_induction Parsing.skipUntil short kinds generalizing long with
  | case1 short stop =>
      rw [Parsing.skipUntil, dif_pos (by rwa [abreast.isComplete, abreast.checkAny])]
      exact abreast
  | case2 short other ih =>
      rw [Parsing.skipUntil, dif_neg (by rwa [abreast.isComplete, abreast.checkAny])]
      exact ih abreast.step

end Abreast

/-- Near requests get equal replies in parses that are abreast, and leave them so. -/
theorem inStep_of_near [DecidableEq κ] {request : Request κ} (near : request.Near) :
    InStep answer Abreast request := by
  intro long short abreast
  cases request with
  | isComplete => exact ⟨abreast.isComplete, abreast⟩
  | peek => exact ⟨abreast.peek, abreast⟩
  | hasPrevious => exact ⟨congrArg (fun cursor => decide (0 < cursor)) abreast.cursor, abreast⟩
  | previous => exact ⟨abreast.previous, abreast⟩
  | cursor => exact ⟨abreast.cursor, abreast⟩
  | check kind => exact ⟨abreast.check kind, abreast⟩
  | checkSkipping kind skipped => exact ⟨abreast.checkSkipping kind near, abreast⟩
  | checkRepeated kind count => exact ⟨abreast.checkRepeated near count, abreast⟩
  | checkSequential kinds => exact ⟨abreast.checkSequential near, abreast⟩
  | advance count =>
      have after := abreast.steps count.toNat
      refine ⟨?_, after⟩
      simp only [answer, advance, after.lastToken]
  | accept kinds => exact abreast.accept kinds
  | skip kinds => exact ⟨rfl, abreast.skip kinds⟩
  | skipUntil kinds => exact ⟨rfl, abreast.skipUntil kinds⟩
  | consume kind message => exact abreast.consume kind message
  | record error => exact ⟨rfl, abreast.record error⟩
  | restart => exact ⟨rfl, abreast.tokens.restart⟩
  | abandon => exact ⟨rfl, abreast.abandon⟩
  | errors => exact ⟨abreast.errors, abreast⟩
  | tokenAt | checkAt | nextOffset | seek => cases near

end Parsing

/-- How a routine stops that runs out of its bound. -/
abbrev Stop.outOfSteps : Stop := .fault .outOfSteps

open Parsing

namespace Grammar

variable {κ σ α : Type}

/-- What a run shows of itself: how it ends, its private state, the cursor and the errors. -/
def shown (result : Except Stop α × σ × Parsing κ) :
    Except Stop α × σ × Nat × Array (SyntaxError κ) :=
  (result.1, result.2.1, result.2.2.cursor, result.2.2.errors)

variable [DecidableEq κ] {long short : Parsing κ}

theorem shown_parse_of_cut (cut : CutAtEnd long short) {root : Grammar κ σ α}
    (near : root.Uses Request.Near) (own : σ) :
    shown ((parse root).on own long) = shown ((parse root).on own short) := by
  obtain ⟨outcomes, owns, after⟩ :=
    Routine.run_inStep (near.mono fun _ => inStep_of_near) own cut.restart
  rw [on_parse, on_parse]
  unfold on at *
  generalize Routine.run answer root own long.restart = one at *
  generalize Routine.run answer root own short.restart = two at *
  obtain ⟨outcome, last, reached⟩ := one
  obtain ⟨outcome', last', reached'⟩ := two
  simp only at outcomes owns after
  subst outcomes owns
  cases outcome with
  | ok value => simp [shown, after.cursor, after.errors]
  | error stop =>
      cases stop with
      | abort message => simp [shown, after.abandon.cursor, after.abandon.errors]
      | fault fault => simp [shown, after.cursor, after.errors]

theorem grows_parse {root : Nat → Grammar κ σ α} (grows : Routine.Grows answer Stop.outOfSteps root) :
    Routine.Grows answer Stop.outOfSteps fun bound => parse (root bound) := by
  intro bound own parsing ends
  have same := grows bound own parsing.restart
  have small : Routine.run answer (parse (root bound)) own parsing = _ :=
    on_parse (root bound) own parsing
  have large : Routine.run answer (parse (root (bound + 1))) own parsing = _ :=
    on_parse (root (bound + 1)) own parsing
  rw [small] at ends
  rw [small, large]
  unfold on at *
  generalize Routine.run answer (root bound) own parsing.restart = result at *
  obtain ⟨outcome, after, reached⟩ := result
  cases outcome with
  | ok value => rw [same (by simp)]
  | error stop =>
      cases stop with
      | abort message => rw [same (by simp)]
      | fault fault =>
          have stays : (Except.error (.fault fault) : Except Stop α) ≠ .error .outOfSteps := by
            simpa using ends
          rw [same stays]

/-- A grammar that loops or calls itself is given for every bound on its steps. Where it ends at
    all, a parse by it shows nothing of what is behind an end token. -/
theorem shown_parse_of_grows (cut : CutAtEnd long short) {root : Nat → Grammar κ σ α}
    (near : ∀ bound, (root bound).Uses Request.Near)
    (grows : Routine.Grows answer Stop.outOfSteps root) (own : σ) (bound other : Nat)
    (ends : ((parse (root bound)).on own long).1 ≠ .error .outOfSteps)
    (ends' : ((parse (root other)).on own short).1 ≠ .error .outOfSteps) :
    shown ((parse (root bound)).on own long) = shown ((parse (root other)).on own short) := by
  have same := shown_parse_of_cut cut (near bound) own
  have outcomes : ((parse (root bound)).on own long).1 = ((parse (root bound)).on own short).1 :=
    congrArg (·.1) same
  rw [outcomes] at ends
  exact same.trans (congrArg shown ((grows_parse grows).run_eq ends ends'))

end Grammar

end FrontEnd
