import FrontEnd.Proofs.Lexing.Call

/-!
# What a pass reports

Within a pass, errors and log change together and at one place only: a character that is
rejected is added to both. So every error is of the same form, and the log says what the
errors say, whatever the classification routine does in between.
-/

namespace FrontEnd

namespace LexicalError

/-- The error for some character that was not classified, at some place. -/
def IsUnknown (error : LexicalError) : Prop :=
  ∃ c line start stop, error = unknownCharacter c line start stop

/-- What the log says of an error. -/
def logged (error : LexicalError) : String := "Line " ++ toString error.line ++ ": " ++ error.message

end LexicalError

/-- What a pass with this result logs: a line for each error, in order, and then how many tokens
    and errors there are. -/
def Lexed.ToldBy {κ : Type} (lexed : Lexed κ) (records : Array LexingRecord) : Prop :=
  records.toList.map LexingRecord.text = lexed.errors.toList.map LexicalError.logged ++
    ["Scanned " ++ toString lexed.tokens.size ++ " tokens with " ++ toString lexed.errors.size ++
      " errors"]

namespace Lexing

variable {κ : Type}

/-- What frames a pass, as opposed to what happens within one. -/
def Request.isFrame : Request κ → Bool
  | .restart | .close => true
  | _ => false

theorem Request.isFrame_of_isPrimitive (request : Request κ) (primitive : request.isPrimitive = true) :
    request.isFrame = false := by
  cases request with
  | restart | close => cases primitive
  | _ => rfl

/-- All that a request within a pass can do to its errors and its log. -/
theorem reports_cases {request : Request κ} (within : request.isFrame = false) (before : Lexing κ) :
    ((answer request before).2.errors = before.errors ∧
      (answer request before).2.log = before.log) ∨
      ∃ c, (answer request before).2 = before.reject c := by
  cases request with
  | restart | close => cases within
  | reject c => exact .inr ⟨c, rfl⟩
  | openToken =>
      left
      cases next : before.source[before.cursor]? <;> simp [answer, openToken, next, step]
  | advance =>
      left
      cases next : before.source[before.cursor]? <;> simp [answer, advance, next, step]
  | advanceIf expected =>
      left
      cases met : before.source[before.cursor]?.any expected <;>
        simp [answer, advanceIf, met, step]
  | _ => exact .inl ⟨rfl, rfl⟩

/-- All errors are for characters that were not classified. -/
def OnlyUnknown (lexing : Lexing κ) : Prop := ∀ error ∈ lexing.errors, error.IsUnknown

theorem onlyUnknown_restart (lexing : Lexing κ) : OnlyUnknown lexing.restart := by
  simp [OnlyUnknown, restart]

theorem OnlyUnknown.answer (request : Request κ) {before : Lexing κ} (only : OnlyUnknown before) :
    OnlyUnknown (Lexing.answer request before).2 := by
  cases frame : request.isFrame with
  | true =>
      cases request with
      | restart => exact onlyUnknown_restart before
      | close => exact only
      | _ => cases frame
  | false =>
      rcases reports_cases frame before with ⟨errors, -⟩ | ⟨c, rejected⟩
      · simpa [OnlyUnknown, errors] using only
      · rw [rejected]
        intro error member
        rcases Array.mem_push.mp member with earlier | rfl
        · exact only error earlier
        · exact ⟨_, _, _, _, rfl⟩

/-- Since the log was this one, it has grown by a line for each error, in their order. -/
def Tells (earlier : Array LexingRecord) (lexing : Lexing κ) : Prop :=
  ∃ records, lexing.log = earlier ++ records ∧
    records.toList.map LexingRecord.text = lexing.errors.toList.map LexicalError.logged

theorem tells_restart (lexing : Lexing κ) : Tells lexing.log lexing.restart :=
  ⟨#[], by simp [restart]⟩

theorem Tells.answer {earlier : Array LexingRecord} {request : Request κ}
    (within : request.isFrame = false) {before : Lexing κ} (tells : Tells earlier before) :
    Tells earlier (Lexing.answer request before).2 := by
  obtain ⟨records, grown, texts⟩ := tells
  rcases reports_cases within before with ⟨errors, log⟩ | ⟨c, rejected⟩
  · exact ⟨records, log.trans grown, by rw [errors, texts]⟩
  · rw [rejected]
    let error := LexicalError.unknownCharacter c before.line before.startColumn before.column
    have line : LexingRecord.text (.rejected before.line error.message) = error.logged := rfl
    refine ⟨records.push (.rejected before.line error.message), ?_, ?_⟩
    · simp [reject, grown, error]
    · simp [reject, texts, line, error]

end Lexing

namespace Classifier

open Lexing

variable {κ ε σ α : Type} {classify : Char → Classifier κ ε σ Bool}

theorem onlyUnknown_on (routine : Classifier κ ε σ α) (own : σ) {lexing : Lexing κ}
    (only : OnlyUnknown lexing) : OnlyUnknown (routine.on own lexing).2.2 :=
  Routine.run_invariant (fun request _ _ only => only.answer request)
    (fun _ => Dialogue.uses_true _) own only

theorem tells_on {routine : Classifier κ ε σ α} (uses : routine.Uses fun request => request.isFrame = false)
    (own : σ) {earlier : Array LexingRecord} {lexing : Lexing κ} (tells : Tells earlier lexing) :
    Tells earlier (routine.on own lexing).2.2 :=
  Routine.run_invariant (fun _ _ within tells => tells.answer within) uses own tells

/-- A pass with a classification routine: one over the whole source, or one of at most so many
    rounds, which goes on where the routine has exchanged the source for a longer one. -/
def IsPass (classify : Char → Classifier κ ε σ Bool) (routine : Classifier κ ε σ (Lexed κ)) : Prop :=
  routine = scan classify ∨ ∃ n, routine = scanFor n classify

theorem IsPass.closes {routine : Classifier κ ε σ (Lexed κ)} (pass : IsPass classify routine)
    {own after : σ} {lexing final : Lexing κ} {lexed : Lexed κ}
    (ran : routine.on own lexing = (.ok lexed, after, final)) :
    ∃ n reached, ((rounds classify n).on own lexing.restart).2.2 = reached ∧
      lexed = reached.close.1 ∧ final = reached.close.2 := by
  obtain ⟨n, same⟩ : ∃ n, routine.on own lexing = (scanFor n classify).on own lexing := by
    rcases pass with rfl | ⟨n, rfl⟩
    · exact ⟨_, (on_scan classify own lexing).trans (on_scanFor _ classify own lexing).symm⟩
    · exact ⟨n, rfl⟩
  rw [same, on_scanFor] at ran
  rcases rest : (rounds classify n).on own lexing.restart with ⟨stop | value, last, reached⟩
  · rw [rest] at ran
    cases ran
  · rw [rest] at ran
    cases ran
    exact ⟨n, reached, congrArg (fun result => result.2.2) rest, rfl, rfl⟩

theorem IsPass.onlyUnknown {routine : Classifier κ ε σ (Lexed κ)} (pass : IsPass classify routine)
    {own after : σ} {lexing final : Lexing κ} {lexed : Lexed κ}
    (ran : routine.on own lexing = (.ok lexed, after, final)) :
    ∀ error ∈ lexed.errors, error.IsUnknown := by
  obtain ⟨n, reached, rfl, rfl, -⟩ := pass.closes ran
  exact onlyUnknown_on (rounds classify n) own (onlyUnknown_restart lexing)

/-- A pass logs what its result tells, unless its routine begins or closes another one. -/
theorem IsPass.toldBy {routine : Classifier κ ε σ (Lexed κ)} (pass : IsPass classify routine)
    (uses : ∀ c, (classify c).Uses fun request => request.isFrame = false)
    {own after : σ} {lexing final : Lexing κ} {lexed : Lexed κ}
    (ran : routine.on own lexing = (.ok lexed, after, final)) :
    ∃ records, final.log = lexing.log ++ records ∧ lexed.ToldBy records := by
  obtain ⟨n, reached, came, rfl, rfl⟩ := pass.closes ran
  have within : (rounds classify n).Uses fun request => request.isFrame = false := by
    apply uses_rounds_of
    case opens => rfl
    case rejects => exact fun _ => rfl
    case uses => exact uses
  obtain ⟨records, grown, texts⟩ := came ▸ tells_on within own (tells_restart lexing)
  refine ⟨records.push (.finished reached.close.1.tokens.size reached.errors.size), ?_, ?_⟩
  · simp [close, grown]
  · simp [Lexed.ToldBy, close, texts, LexingRecord.text]

end Classifier

end FrontEnd
