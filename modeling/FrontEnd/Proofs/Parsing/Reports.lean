import FrontEnd.Proofs.Parsing.Accounting

/-!
# What a parse reports

Within a parse, errors and log change together: whoever records an error, a missing token, the
grammar itself or the handler of an abort, it is added to both. So the log holds the errors of
the parse in their order, and behind them at most that the parse was abandoned.
-/

namespace FrontEnd

/-- What the log says of an error. -/
def SyntaxError.logged {κ : Type} [ToString κ] (error : SyntaxError κ) : String :=
  "Line " ++ toString error.token.line ++ ": " ++ error.message ++
    " (found " ++ error.token.cited ++ ")"

/-- What a parse with this result logs, by how its grammar ended: a line for each error, in order,
    and then, just if the grammar has aborted, the current token and how many errors there are. -/
inductive Parsed.ToldBy {κ α : Type} [ToString κ] (parsed : Parsed κ α) (current : Token κ)
    (records : Array (ParsingRecord κ)) : Except Stop α → Prop where
  | completed {value : α} (tree : parsed.ast = some value)
      (lines : records.toList.map ParsingRecord.text =
        parsed.errors.toList.map SyntaxError.logged) : ToldBy parsed current records (.ok value)
  | aborted {message : String} (noTree : parsed.ast = none)
      (lines : records.toList.map ParsingRecord.text =
        parsed.errors.toList.map SyntaxError.logged ++
          ["Parse aborted at " ++ current.detailed ++ " with " ++ toString parsed.errors.size ++
            " errors"]) : ToldBy parsed current records (.error (.abort message))

namespace Parsing

variable {κ : Type} {parsing : Parsing κ} {earlier : Array (ParsingRecord κ)}

theorem log_step (parsing : Parsing κ) : parsing.step.log = parsing.log := by
  rw [step]
  split <;> rfl

theorem log_steps (count : Nat) (parsing : Parsing κ) : (parsing.steps count).log = parsing.log := by
  induction count generalizing parsing with
  | zero => rfl
  | succ count ih => rw [steps, ih, log_step]

theorem reports_cases [DecidableEq κ] {request : Request κ} (within : request.isFrame = false)
    (before : Parsing κ) :
    ((answer request before).2.errors = before.errors ∧
      (answer request before).2.log = before.log) ∨
      ∃ error, (answer request before).2 = before.record error := by
  cases request with
  | restart | abandon => cases within
  | record error => exact .inr ⟨error, rfl⟩
  | advance count => exact .inl ⟨errors_steps _ before, log_steps _ before⟩
  | seek index =>
      left
      simp only [answer, seek]
      split <;> exact ⟨rfl, rfl⟩
  | accept kinds =>
      left
      simp only [answer, accept]
      split
      · exact ⟨errors_step before, log_step before⟩
      · exact ⟨rfl, rfl⟩
  | skip kinds =>
      obtain ⟨run, -, -, -, -, -, reached⟩ := passesOver_skip kinds before
      exact .inl ⟨errors_skip kinds before, by rw [answer, reached, log_steps]⟩
  | skipUntil kinds =>
      obtain ⟨run, -, -, -, -, -, reached⟩ := passesOver_skipUntil kinds before
      exact .inl ⟨errors_skipUntil kinds before, by rw [answer, reached, log_steps]⟩
  | consume kind message =>
      simp only [answer, consume]
      split
      · exact .inl ⟨errors_step before, log_step before⟩
      · exact .inr ⟨_, rfl⟩
  | _ => exact .inl ⟨rfl, rfl⟩

/-- Since the log was this one, it has grown by a record for each error, in their order. -/
def Tells (earlier : Array (ParsingRecord κ)) (parsing : Parsing κ) : Prop :=
  parsing.log = earlier ++ parsing.errors.map .recorded

theorem tells_restart (parsing : Parsing κ) : Tells parsing.log parsing.restart := by
  simp [Tells, restart]

theorem Tells.record (tells : Tells earlier parsing) (error : SyntaxError κ) :
    Tells earlier (parsing.record error) := by
  have grown : parsing.log = earlier ++ parsing.errors.map .recorded := tells
  simp [Tells, Parsing.record, grown]

theorem Tells.answer [DecidableEq κ] {request : Request κ} (within : request.isFrame = false)
    (tells : Tells earlier parsing) : Tells earlier (Parsing.answer request parsing).2 := by
  rcases reports_cases within parsing with ⟨errors, log⟩ | ⟨error, recorded⟩
  · have grown : parsing.log = earlier ++ parsing.errors.map .recorded := tells
    rw [Tells, log, errors, grown]
  · rw [recorded]
    exact tells.record error

theorem Tells.abandon (tells : Tells earlier parsing) :
    parsing.abandon.log = (earlier ++ parsing.abandon.errors.map ParsingRecord.recorded).push
      (.abandoned parsing.abandon.peek parsing.abandon.errors.size) := by
  unfold Parsing.abandon
  by_cases unexplained : parsing.errors.isEmpty = true
  · rw [if_pos unexplained]
    exact congrArg (Array.push · _) (tells.record _)
  · rw [if_neg unexplained]
    exact congrArg (Array.push · _) tells

theorem map_text_recorded [ToString κ] (errors : Array (SyntaxError κ)) :
    (errors.map ParsingRecord.recorded).toList.map ParsingRecord.text =
      errors.toList.map SyntaxError.logged := by
  rw [Array.toList_map, List.map_map]
  rfl

end Parsing

namespace Grammar

open Parsing

variable {κ σ α : Type} [DecidableEq κ]

theorem tells_on {root : Grammar κ σ α} (uses : root.Uses fun request => request.isFrame = false)
    (own : σ) {earlier : Array (ParsingRecord κ)} {parsing : Parsing κ} (tells : Tells earlier parsing) :
    Tells earlier (root.on own parsing).2.2 :=
  Routine.run_invariant (fun _ _ within tells => tells.answer within) uses own tells

/-- A parse logs what its result tells, unless its grammar begins or abandons another one. -/
theorem toldBy_parse [ToString κ] {root : Grammar κ σ α}
    (uses : root.Uses fun request => request.isFrame = false) {own after : σ}
    {parsing final : Parsing κ} {parsed : Parsed κ α}
    (ran : (parse root).on own parsing = (.ok parsed, after, final)) :
    ∃ records, final.log = parsing.log ++ records ∧
      parsed.ToldBy final.peek records (root.on own parsing.restart).1 := by
  have tells := tells_on uses own (tells_restart parsing)
  rw [on_parse] at ran
  rcases ended : root.on own parsing.restart with ⟨stop | value, last, reached⟩
  · rw [ended] at ran tells
    cases stop with
    | fault fault => cases ran
    | abort message =>
        cases ran
        have log := tells.abandon
        rw [Array.push_append] at log
        refine ⟨_, log, .aborted rfl ?_⟩
        rw [Array.toList_push, List.map_append, map_text_recorded]
        rfl
  · rw [ended] at ran tells
    cases ran
    exact ⟨_, tells, .completed rfl (map_text_recorded final.errors)⟩

end Grammar

end FrontEnd
