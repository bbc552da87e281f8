import FrontEnd.Proofs.Dialogue.Journal
import FrontEnd.Proofs.Parsing.Ahead

/-!
# Where the cursor can be

Every operation of a parse leads onward: the cursor moves over tokens that are no end
tokens, or stays, and errors are only added behind those already there. Two requests are
no such operations. A restart, which begins every parse, goes back to the first token
without errors; `seek` puts the cursor anywhere.

A grammar that never seeks therefore stays before the first end token, however its
parses are nested and wherever its routines stop.
-/

namespace FrontEnd

namespace Parsing

variable {κ : Type}

abbrev Exchange (κ : Type) := FrontEnd.Exchange (Request κ) Request.Reply (Parsing κ)

abbrev Journal (κ : Type) := FrontEnd.Journal (Request κ) Request.Reply (Parsing κ)

/-- What only looks at a parse. -/
def Request.isLook : Request κ → Bool
  | .isComplete | .peek | .hasPrevious | .previous | .cursor | .tokenAt _ | .check _
  | .checkAt .. | .checkSkipping .. | .checkRepeated .. | .checkSequential _ | .nextOffset _
  | .errors => true
  | .advance _ | .seek _ | .accept _ | .skip _ | .skipUntil _ | .consume .. | .record _
  | .restart | .abandon => false

def Request.isSeek : Request κ → Bool
  | .seek _ => true
  | _ => false

/-- `after` is reached from `before` within one parse and without passing an end token. -/
structure Onward (before after : Parsing κ) : Prop where
  tokens : after.tokens = before.tokens
  cursor : before.cursor ≤ after.cursor
  text : ∀ index token, before.cursor ≤ index → index < after.cursor →
    before.tokens[index]? = some token → token.isEnd = false
  errors : before.errors.toList <+: after.errors.toList

namespace Onward

variable {before middle after : Parsing κ}

theorem refl (parsing : Parsing κ) : Onward parsing parsing where
  tokens := rfl
  cursor := Nat.le_refl _
  text _ _ reached passed := absurd passed (Nat.not_lt_of_le reached)
  errors := List.prefix_rfl

theorem trans (first : Onward before middle) (second : Onward middle after) :
    Onward before after where
  tokens := second.tokens.trans first.tokens
  cursor := Nat.le_trans first.cursor second.cursor
  text := by
    intro index token reached passed found
    rcases Nat.lt_or_ge index middle.cursor with early | late
    · exact first.text index token reached early found
    · rw [← first.tokens] at found
      exact second.text index token late passed found
  errors := first.errors.trans second.errors

end Onward

theorem getElem?_cursor (parsing : Parsing κ) :
    parsing.tokens[parsing.cursor]? = some parsing.peek :=
  Array.getElem?_eq_getElem parsing.cursor_lt

theorem onward_step (parsing : Parsing κ) : Onward parsing parsing.step := by
  by_cases complete : parsing.isComplete = true
  · rw [step_of_isComplete complete]
    exact .refl parsing
  · constructor
    case tokens => exact tokens_step parsing
    case cursor =>
      rw [cursor_step complete]
      exact Nat.le_succ _
    case text =>
      intro index token reached passed found
      rw [cursor_step complete] at passed
      have here : index = parsing.cursor := by omega
      rw [here, getElem?_cursor] at found
      cases found
      exact Bool.eq_false_iff.mpr complete
    case errors => simp

theorem onward_steps (count : Nat) (parsing : Parsing κ) :
    Onward parsing (parsing.steps count) := by
  induction count generalizing parsing with
  | zero => exact .refl parsing
  | succ count ih => exact (onward_step parsing).trans (ih parsing.step)

theorem onward_record (error : SyntaxError κ) (parsing : Parsing κ) :
    Onward parsing (parsing.record error) where
  tokens := rfl
  cursor := Nat.le_refl _
  text _ _ reached passed := absurd passed (Nat.not_lt_of_le reached)
  errors := ⟨[error], Array.toList_push.symm⟩

theorem onward_abandon (parsing : Parsing κ) : Onward parsing parsing.abandon := by
  by_cases unexplained : parsing.errors.isEmpty = true
  · have recorded := onward_record (.abandoned parsing.peek) parsing
    unfold abandon
    rw [if_pos unexplained]
    exact ⟨recorded.tokens, recorded.cursor, recorded.text, recorded.errors⟩
  · have same := Onward.refl parsing
    unfold abandon
    rw [if_neg unexplained]
    exact ⟨same.tokens, same.cursor, same.text, same.errors⟩

variable [DecidableEq κ]

theorem onward_accept (kinds : List (Option κ)) (parsing : Parsing κ) :
    Onward parsing (parsing.accept kinds).2 := by
  rw [accept]
  split
  case isTrue => exact onward_step parsing
  case isFalse => exact .refl parsing

theorem onward_consume (kind : Option κ) (message : String) (parsing : Parsing κ) :
    Onward parsing (parsing.consume kind message).2 := by
  rw [consume]
  split
  case isTrue => exact onward_step parsing
  case isFalse => exact onward_record _ parsing

theorem onward_skip (kinds : List (Option κ)) (parsing : Parsing κ) :
    Onward parsing (parsing.skip kinds) := by
  fun_induction skip parsing kinds with
  | case1 parsing found ih => exact (onward_step parsing).trans ih
  | case2 parsing other => exact .refl parsing

theorem onward_skipUntil (kinds : List (Option κ)) (parsing : Parsing κ) :
    Onward parsing (parsing.skipUntil kinds) := by
  fun_induction skipUntil parsing kinds with
  | case1 parsing stop => exact .refl parsing
  | case2 parsing other ih => exact (onward_step parsing).trans ih

theorem answer_of_isLook {request : Request κ} (look : request.isLook = true)
    (parsing : Parsing κ) : (answer request parsing).2 = parsing := by
  cases request with
  | advance | seek | accept | skip | skipUntil | consume | record | restart | abandon => cases look
  | _ => rfl

theorem onward_answer {request : Request κ} (resumes : request ≠ .restart)
    (moves : request.isSeek = false) (parsing : Parsing κ) :
    Onward parsing (answer request parsing).2 := by
  cases request with
  | advance count => exact onward_steps _ parsing
  | seek index => cases moves
  | accept kinds => exact onward_accept kinds parsing
  | skip kinds => exact onward_skip kinds parsing
  | skipUntil kinds => exact onward_skipUntil kinds parsing
  | consume kind message => exact onward_consume kind message parsing
  | record error => exact onward_record error parsing
  | restart => exact absurd rfl resumes
  | abandon => exact onward_abandon parsing
  | _ => exact .refl parsing

theorem cursor_accept (kinds : List (Option κ)) (parsing : Parsing κ) :
    (parsing.accept kinds).2.cursor =
      parsing.cursor + if (parsing.accept kinds).1 = true then 1 else 0 := by
  rw [accept]
  split
  case isTrue found => exact cursor_step (not_isComplete_of_checkAny found)
  case isFalse => rfl

theorem errors_accept (kinds : List (Option κ)) (parsing : Parsing κ) :
    (parsing.accept kinds).2.errors = parsing.errors := by
  rw [accept]
  split
  case isTrue => exact errors_step parsing
  case isFalse => rfl

theorem consume_of_error {kind : Option κ} {message missing : String} {parsing : Parsing κ}
    (missed : (parsing.consume kind message).1 = .error missing) :
    (parsing.consume kind message).2 =
      parsing.record { token := parsing.peek, message := message } := by
  rw [consume] at missed ⊢
  split
  case isTrue found =>
    rw [if_pos found] at missed
    cases missed
  case isFalse => rfl

/-- A parse of these tokens that has consumed no end token: the cursor is on one of them,
    at most on the first end token. -/
structure Inside (tokens : Array (Token κ)) (parsing : Parsing κ) : Prop where
  same : parsing.tokens = tokens
  cursor : parsing.cursor ≤ tokens.findIdx Token.isEnd
  here : tokens[parsing.cursor]? = some parsing.peek
  text : ∀ index token, index < parsing.cursor → tokens[index]? = some token →
    token.isEnd = false

omit [DecidableEq κ] in
theorem inside_of_le {tokens : Array (Token κ)} {parsing : Parsing κ}
    (same : parsing.tokens = tokens) (cursor : parsing.cursor ≤ tokens.findIdx Token.isEnd) :
    Inside tokens parsing where
  same := same
  cursor := cursor
  here := by
    rw [← same]
    exact getElem?_cursor parsing
  text := by
    intro index token before found
    obtain ⟨present, rfl⟩ := Array.getElem?_eq_some_iff.mp found
    exact Array.not_of_lt_findIdx (Nat.lt_of_lt_of_le before cursor)

omit [DecidableEq κ] in
theorem Inside.onward {tokens : Array (Token κ)} {before after : Parsing κ}
    (inside : Inside tokens before) (onward : Onward before after) : Inside tokens after := by
  have same := onward.tokens.trans inside.same
  apply inside_of_le same
  -- Otherwise the first end token would be among those that were passed.
  by_contra behind
  have passed : tokens.findIdx Token.isEnd < after.cursor := Nat.lt_of_not_le behind
  have present : tokens.findIdx Token.isEnd < tokens.size := by
    rw [← same]
    exact Nat.lt_trans (same ▸ passed) after.cursor_lt
  have ends : (tokens[tokens.findIdx Token.isEnd]).isEnd = true := Array.findIdx_getElem
  have text := onward.text _ tokens[tokens.findIdx Token.isEnd] inside.cursor passed (by
    rw [inside.same]
    exact Array.getElem?_eq_getElem present)
  rw [ends] at text
  cases text

theorem Inside.answer {tokens : Array (Token κ)} {parsing : Parsing κ} {request : Request κ}
    (inside : Inside tokens parsing) (moves : request.isSeek = false) :
    Inside tokens (answer request parsing).2 := by
  by_cases begins : request = .restart
  · subst begins
    exact inside_of_le inside.same (Nat.zero_le _)
  · exact inside.onward (onward_answer begins moves parsing)

omit [DecidableEq κ] in
theorem inside_of_ofTokens {tokens : Array (Token κ)} {parsing : Parsing κ}
    (accepted : ofTokens tokens = .ok parsing) : Inside tokens parsing := by
  rw [ofTokens] at accepted
  split at accepted
  case isTrue =>
    cases accepted
    exact inside_of_le rfl (Nat.zero_le _)
  case isFalse => cases accepted

/-- Nothing goes back before a parse begins anew. -/
theorem onward_of_logged {parsing : Parsing κ} {journal : Journal κ}
    (logged : Logged answer (fun request => request.isSeek = false) parsing journal)
    (resumes : ∀ exchange ∈ journal, exchange.request ≠ .restart) :
    Onward parsing (journal.reached parsing) := by
  induction logged with
  | nil parsing => exact .refl parsing
  | cons moves _ ih =>
      obtain ⟨first, later⟩ := List.forall_mem_cons.mp resumes
      exact (onward_answer first moves _).trans (ih later)

/-- What holds of a run over these tokens that begins in `parsing`: at every moment,
    between any two moments with no start of a parse between them, and of every exchange. -/
structure Safe (tokens : Array (Token κ)) (parsing : Parsing κ) (journal : Journal κ) :
    Prop where
  inside : ∀ past : Journal κ, past <+: journal → Inside tokens (past.reached parsing)
  onward : ∀ past middle later : Journal κ, journal = past ++ middle ++ later →
    (∀ exchange ∈ middle, exchange.request ≠ .restart) →
      Onward (past.reached parsing) (middle.reached (past.reached parsing))
  looks : ∀ exchange ∈ journal, exchange.request.isLook = true → exchange.after = exchange.before
  accepts : ∀ kinds took before after, ⟨.accept kinds, took, before, after⟩ ∈ journal →
    after.cursor = before.cursor + (if took = true then 1 else 0) ∧ after.errors = before.errors
  misses : ∀ kind message missing before after,
    ⟨.consume kind message, .error missing, before, after⟩ ∈ journal →
      after.cursor = before.cursor ∧
        after.errors = before.errors.push { token := before.peek, message := message }

end Parsing

open Parsing

namespace Grammar

variable {κ σ α : Type}

theorem uses_parse {allowed : Parsing.Request κ → Prop} {root : Grammar κ σ α}
    (uses : root.Uses allowed) (starts : allowed .restart) (settles : allowed .abandon)
    (looks : allowed .errors) : (parse root).Uses allowed := by
  apply Routine.uses_bind (Routine.uses_ask starts)
  intro _
  refine Routine.uses_bind (Routine.uses_tryCatch (Routine.uses_map uses) ?_) ?_
  · intro stop
    cases stop with
    | abort message =>
        exact Routine.uses_bind (Routine.uses_ask settles) fun _ => Routine.uses_pure _
    | fault fault => exact Routine.uses_throw _
  · intro ast
    exact Routine.uses_bind (Routine.uses_ask looks) fun _ => Routine.uses_pure _

variable [DecidableEq κ]

/-- A run of a routine that never seeks, from the first token of any sequence that can be
    parsed. -/
theorem safe_of_uses {tokens : Array (Token κ)} {parsing : Parsing κ}
    (accepted : Parsing.ofTokens tokens = .ok parsing) {routine : Grammar κ σ α}
    (uses : routine.Uses fun request => request.isSeek = false) (own : σ) :
    Safe tokens parsing (routine.journal answer own parsing) := by
  have logged := Routine.logged_journal answer uses own parsing
  constructor
  case inside =>
    rintro past ⟨later, split⟩
    rw [← split] at logged
    apply logged.of_append.1.invariant (motive := fun _ now => Inside tokens now)
    · exact inside_of_ofTokens accepted
    · intro _ request before moves inside
      exact inside.answer moves
  case onward =>
    intro past middle later split resumes
    rw [split] at logged
    exact onward_of_logged logged.of_append.1.of_append.2 resumes
  case looks =>
    intro exchange member look
    exact (logged.answered_of_mem member).2.trans (answer_of_isLook look exchange.before)
  case accepts =>
    intro kinds took before after member
    obtain ⟨took, settled⟩ : took = (before.accept kinds).1 ∧ after = (before.accept kinds).2 :=
      logged.answered_of_mem member
    rw [took, settled]
    exact ⟨cursor_accept kinds before, errors_accept kinds before⟩
  case misses =>
    intro kind message missing before after member
    obtain ⟨missed, settled⟩ : .error missing = (before.consume kind message).1 ∧
        after = (before.consume kind message).2 := logged.answered_of_mem member
    rw [settled, consume_of_error missed.symm]
    exact ⟨rfl, rfl⟩

/-- Two parses of a sequence with an end token in the middle, the second inside the first.
    The outer one goes on where the inner one stopped. -/
def nested : Grammar Unit Unit (Parsed Unit Unit) :=
  parse do
    let _ ← accept [some ()]
    let _ ← parse (advance 3 : Grammar Unit Unit _)
    let _ ← consume (some ()) "Expected a word."
    pure ()

def twoWords : Array (Token Unit) :=
  #[⟨some (), some "a", .null, 0, 0, 1, 0⟩, .endOfStream 0 1 1,
    ⟨some (), some "b", .null, 0, 1, 2, 1⟩, .endOfStream 0 2 2]

theorem safe_of_uses_nested :
    ∃ parsing : Parsing Unit, Parsing.ofTokens twoWords = .ok parsing ∧
      (nested.Uses fun request => request.isSeek = false) ∧
      Safe twoWords parsing (nested.journal answer () parsing) := by
  have uses : nested.Uses fun request => request.isSeek = false := by
    refine uses_parse (Routine.uses_bind (Routine.uses_ask rfl) fun _ => ?_) rfl rfl rfl
    refine Routine.uses_bind (uses_parse (Routine.uses_ask rfl) rfl rfl rfl) fun _ => ?_
    refine Routine.uses_bind (Routine.uses_bind (Routine.uses_ask rfl) ?_) fun _ =>
      Routine.uses_pure ()
    intro found
    cases found with
    | ok token => exact Routine.uses_pure token
    | error message => exact Routine.uses_throw _
  obtain ⟨parsing, accepted, -⟩ := Parsing.exists_ofTokens
    (twoWords.toList.take 3) (Token.isEnd_endOfStream 0 2 2)
  exact ⟨parsing, accepted, uses, safe_of_uses accepted uses ()⟩

end Grammar

end FrontEnd
