import FrontEnd.Proofs.Dialogue.Journal
import FrontEnd.Proofs.Lexing.Ahead
import Mathlib.Data.List.DropRight

/-!
# The history of a lexical pass

What has happened in a lexical pass up to some moment is read off the journal of the
routine that drives it: the characters consumed, the lines marked, the tokens emitted.
`Moved` says where both coordinate systems stand after any such past, and `Kept` what
a past made of primitive requests leaves of the open token.
-/

namespace FrontEnd.Lexing

variable {κ : Type}

abbrev Exchange (κ : Type) := FrontEnd.Exchange (Request κ) Request.Reply (Lexing κ)

abbrev Journal (κ : Type) := FrontEnd.Journal (Request κ) Request.Reply (Lexing κ)

/-- What a classification routine may ask for while it has the pass: neither another pass,
    nor another source. -/
def Request.isPrimitive : Request κ → Bool
  | .isComplete | .peek .. | .advance | .advanceIf _ | .markLine | .lexeme | .emit .. => true
  | .assignSource _ | .restart | .openToken | .reject _ | .close => false

/-- What happens within one pass over one source. -/
def Request.isWithinPass : Request κ → Bool
  | .assignSource _ | .restart => false
  | _ => true

theorem Request.isWithinPass_of_isPrimitive (request : Request κ)
    (primitive : request.isPrimitive = true) : request.isWithinPass = true := by
  cases request with
  | assignSource | restart => exact primitive
  | _ => rfl

/-- The character that an exchange consumed, if any. -/
def Exchange.consumed : Exchange κ → List Char
  | ⟨.openToken, some c, _, _⟩ => [c]
  | ⟨.advance, .ok c, _, _⟩ => [c]
  | ⟨.advanceIf _, true, before, _⟩ => before.source[before.cursor]?.toList
  | _ => []

def Exchange.isMark : Exchange κ → Bool
  | ⟨.markLine, _, _, _⟩ => true
  | _ => false

/-- The tokens that an exchange added. -/
def Exchange.emitted (exchange : Exchange κ) : List (Token κ) :=
  exchange.after.tokens.toList.drop exchange.before.tokens.size

def Journal.consumed (journal : Journal κ) : List Char := journal.flatMap Exchange.consumed

def Journal.marks (journal : Journal κ) : Nat := journal.countP Exchange.isMark

/-- What a journal holds after its last mark, or all of it without one. -/
def Journal.sinceMark (journal : Journal κ) : Journal κ :=
  journal.rtakeWhile fun exchange => !Exchange.isMark exchange

def Journal.emitted (journal : Journal κ) : List (Token κ) := journal.flatMap Exchange.emitted

namespace Journal

@[simp] theorem consumed_nil : consumed ([] : Journal κ) = [] := rfl

@[simp] theorem consumed_append (past later : Journal κ) :
    consumed (past ++ later) = consumed past ++ consumed later :=
  List.flatMap_append

@[simp] theorem consumed_singleton (exchange : Exchange κ) :
    consumed [exchange] = exchange.consumed :=
  List.flatMap_singleton ..

@[simp] theorem emitted_append (past later : Journal κ) :
    emitted (past ++ later) = emitted past ++ emitted later :=
  List.flatMap_append

@[simp] theorem emitted_singleton (exchange : Exchange κ) :
    emitted [exchange] = exchange.emitted :=
  List.flatMap_singleton ..

@[simp] theorem marks_append (past later : Journal κ) :
    marks (past ++ later) = marks past + marks later :=
  List.countP_append

@[simp] theorem marks_singleton (exchange : Exchange κ) :
    marks [exchange] = if Exchange.isMark exchange then 1 else 0 :=
  List.countP_singleton

theorem sinceMark_concat (past : Journal κ) (exchange : Exchange κ) :
    sinceMark (past ++ [exchange]) =
      if Exchange.isMark exchange then [] else sinceMark past ++ [exchange] := by
  rw [sinceMark, List.rtakeWhile_concat]
  cases Exchange.isMark exchange with
  | true => rfl
  | false => rfl

theorem sinceMark_of_marks_eq_zero {journal : Journal κ} (unmarked : marks journal = 0) :
    sinceMark journal = journal := by
  rw [sinceMark, List.rtakeWhile_eq_self_iff]
  intro exchange member
  have plain := List.countP_eq_zero.mp unmarked exchange member
  simpa using plain

theorem length_consumed_sinceMark_le (journal : Journal κ) :
    (consumed (sinceMark journal)).length ≤ (consumed journal).length := by
  obtain ⟨before, split⟩ : sinceMark journal <:+ journal := List.rtakeWhile_suffix _ _
  have lengths := congrArg (fun whole => (consumed whole).length) split
  simp only [consumed_append, List.length_append] at lengths
  omega

end Journal

/-- How an exchange within a pass moves it in both coordinate systems. -/
structure Exchange.Moves (exchange : Exchange κ) : Prop where
  source : exchange.after.source = exchange.before.source
  ahead : exchange.before.ahead = Exchange.consumed exchange ++ exchange.after.ahead
  cursor : exchange.after.cursor = exchange.before.cursor + (Exchange.consumed exchange).length
  line : exchange.after.line =
    exchange.before.line + if Exchange.isMark exchange then 1 else 0
  column : exchange.after.column =
    if Exchange.isMark exchange then 0
    else exchange.before.column + (Exchange.consumed exchange).length

theorem Exchange.moves_character {exchange : Exchange κ} {c : Char} {rest : List Char}
    (here : exchange.before.ahead = c :: rest) (consumed : Exchange.consumed exchange = [c])
    (unmarked : Exchange.isMark exchange = false)
    (place : exchange.after.source = exchange.before.source ∧
      exchange.after.cursor = exchange.before.cursor + 1 ∧
      exchange.after.line = exchange.before.line ∧
      exchange.after.column = exchange.before.column + 1) : Exchange.Moves exchange := by
  obtain ⟨source, cursor, line, column⟩ := place
  have behind : exchange.after.ahead = rest := by
    rw [← ahead_step here, ahead, ahead, source, cursor]
    rfl
  constructor
  · exact source
  · rw [consumed, behind]
    exact here
  · rw [consumed]
    exact cursor
  · rw [unmarked]
    exact line
  · rw [unmarked, consumed]
    exact column

theorem Exchange.moves_of (request : Request κ) (within : request.isWithinPass = true)
    (before : Lexing κ) : Exchange.Moves (.of answer request before) := by
  cases request with
  | assignSource | restart => cases within
  | isComplete | peek | lexeme | emit | reject | close =>
      exact ⟨rfl, rfl, rfl, rfl, rfl⟩
  | markLine => exact ⟨rfl, rfl, rfl, rfl, rfl⟩
  | openToken =>
      cases here : before.ahead with
      | nil =>
          have same : before.openToken = (none, before) := openToken_nil here
          simp only [FrontEnd.Exchange.of, answer, same]
          exact ⟨rfl, rfl, rfl, rfl, rfl⟩
      | cons c rest =>
          have moved : before.openToken = (some c, before.opened.step) := openToken_cons here
          simp only [FrontEnd.Exchange.of, answer, moved]
          exact moves_character here rfl rfl ⟨rfl, rfl, rfl, rfl⟩
  | advance =>
      cases here : before.ahead with
      | nil =>
          have same : before.advance = (.error (.exhausted before.cursor), before) := by
            rw [Lexing.advance, getElem?_cursor, here]
            rfl
          simp only [FrontEnd.Exchange.of, answer, same]
          exact ⟨rfl, rfl, rfl, rfl, rfl⟩
      | cons c rest =>
          have moved : before.advance = (.ok c, before.step) := by
            rw [Lexing.advance, getElem?_cursor, here]
            rfl
          simp only [FrontEnd.Exchange.of, answer, moved]
          exact moves_character here rfl rfl ⟨rfl, rfl, rfl, rfl⟩
  | advanceIf expected =>
      by_cases met : before.ahead.head?.any expected = true
      · obtain ⟨c, rest, here⟩ : ∃ c rest, before.ahead = c :: rest := by
          cases here : before.ahead with
          | nil => simp [here] at met
          | cons c rest => exact ⟨c, rest, rfl⟩
        have moved : before.advanceIf expected = (true, before.step) := by
          rw [advanceIf_of_ahead, if_pos met]
        have next : before.source[before.cursor]? = some c := by
          rw [getElem?_cursor, here]
          rfl
        simp only [FrontEnd.Exchange.of, answer, moved]
        apply moves_character here _ rfl ⟨rfl, rfl, rfl, rfl⟩
        rw [Exchange.consumed, next]
        rfl
      · have same : before.advanceIf expected = (false, before) := by
          rw [advanceIf_of_ahead, if_neg met]
        simp only [FrontEnd.Exchange.of, answer, same]
        exact ⟨rfl, rfl, rfl, rfl, rfl⟩

/-- Where a pass stands after a past that began at `begun`. The line counts the marks, and
    the column what was consumed since the last one. -/
structure Moved (begun : Lexing κ) (past : Journal κ) (now : Lexing κ) : Prop where
  source : now.source = begun.source
  ahead : begun.ahead = past.consumed ++ now.ahead
  cursor : now.cursor = begun.cursor + past.consumed.length
  line : now.line = begun.line + past.marks
  column : now.column =
    if past.marks = 0 then begun.column + past.consumed.length
    else past.sinceMark.consumed.length

theorem Moved.step {begun : Lexing κ} {past : Journal κ} {exchange : Exchange κ}
    (moved : Moved begun past exchange.before) (moves : Exchange.Moves exchange) :
    Moved begun (past ++ [exchange]) exchange.after := by
  constructor
  · exact moves.source.trans moved.source
  · rw [moved.ahead, moves.ahead, Journal.consumed_append, Journal.consumed_singleton,
      List.append_assoc]
  · rw [moves.cursor, moved.cursor, Journal.consumed_append, Journal.consumed_singleton,
      List.length_append, Nat.add_assoc]
  · rw [moves.line, moved.line, Journal.marks_append, Journal.marks_singleton, Nat.add_assoc]
  · rw [moves.column, moved.column, Journal.marks_append, Journal.marks_singleton,
      Journal.sinceMark_concat]
    cases Exchange.isMark exchange with
    | true => simp only [if_true, Nat.add_one_ne_zero, if_false, Journal.consumed_nil, List.length_nil]
    | false =>
        simp only [Bool.false_eq_true, if_false, Nat.add_zero, Journal.consumed_append,
          Journal.consumed_singleton, List.length_append]
        split
        · exact Nat.add_assoc _ _ _
        · rfl

/-- Both coordinate systems are right at every moment of a pass. -/
theorem moved_of_logged {begun : Lexing κ} {past : Journal κ}
    (logged : Logged answer (fun request => request.isWithinPass = true) begun past) :
    Moved begun past (past.reached begun) := by
  apply logged.invariant (motive := Moved begun)
  · exact ⟨rfl, rfl, rfl, rfl, rfl⟩
  · intro earlier request before within moved
    exact moved.step (Exchange.moves_of request within before)

/-- What a past of primitive requests leaves alone, and the tokens that it adds. -/
structure Kept (begun : Lexing κ) (past : Journal κ) (now : Lexing κ) : Prop where
  start : now.start = begun.start
  startColumn : now.startColumn = begun.startColumn
  errors : now.errors = begun.errors
  tokens : now.tokens.toList = begun.tokens.toList ++ past.emitted

/-- All that a classification routine can do to a pass: go elsewhere, or emit. -/
theorem primitive_cases {request : Request κ} (primitive : request.isPrimitive = true)
    (before : Lexing κ) :
    (∃ cursor line column, (answer request before).2 =
        { before with cursor := cursor, line := line, column := column }) ∨
      ∃ kind literal, request = .emit kind literal := by
  cases request with
  | assignSource | restart | openToken | reject | close => cases primitive
  | isComplete | peek | lexeme => exact .inl ⟨before.cursor, before.line, before.column, rfl⟩
  | markLine => exact .inl ⟨before.cursor, before.line + 1, 0, rfl⟩
  | emit kind literal => exact .inr ⟨kind, literal, rfl⟩
  | advance =>
      left
      simp only [answer, advance]
      cases before.source[before.cursor]? with
      | none => exact ⟨before.cursor, before.line, before.column, rfl⟩
      | some c => exact ⟨before.cursor + 1, before.line, before.column + 1, rfl⟩
  | advanceIf expected =>
      left
      simp only [answer, advanceIf]
      split
      · exact ⟨before.cursor + 1, before.line, before.column + 1, rfl⟩
      · exact ⟨before.cursor, before.line, before.column, rfl⟩

theorem Exchange.emitted_emit (kind : Option κ) (literal : Value) (before : Lexing κ) :
    Exchange.emitted (.of answer (.emit kind literal) before) =
      [⟨kind, some before.lexeme, literal, before.line, before.startColumn, before.column,
        before.start⟩] := by
  simp [Exchange.emitted, FrontEnd.Exchange.of, answer, emit]

theorem Exchange.emitted_elsewhere {request : Request κ} {before : Lexing κ}
    {cursor line column : Nat} (elsewhere : (answer request before).2 =
      { before with cursor := cursor, line := line, column := column }) :
    Exchange.emitted (.of answer request before) = [] := by
  rw [Exchange.emitted, FrontEnd.Exchange.of, elsewhere, ← Array.length_toList, List.drop_length]

theorem Kept.step {begun before : Lexing κ} {past : Journal κ} {request : Request κ}
    (primitive : request.isPrimitive = true) (kept : Kept begun past before) :
    Kept begun (past ++ [.of answer request before]) (answer request before).2 := by
  have emitted := Journal.emitted_append past [.of answer request before]
  rw [Journal.emitted_singleton] at emitted
  obtain ⟨cursor, line, column, elsewhere⟩ | ⟨kind, literal, rfl⟩ :=
    primitive_cases primitive before
  · rw [Exchange.emitted_elsewhere elsewhere, List.append_nil] at emitted
    rw [elsewhere]
    exact ⟨kept.start, kept.startColumn, kept.errors, emitted ▸ kept.tokens⟩
  · rw [Exchange.emitted_emit] at emitted
    refine ⟨kept.start, kept.startColumn, kept.errors, ?_⟩
    rw [emitted, ← List.append_assoc, ← kept.tokens]
    exact Array.toList_push

theorem kept_of_logged {begun : Lexing κ} {past : Journal κ}
    (logged : Logged answer (fun request => request.isPrimitive = true) begun past) :
    Kept begun past (past.reached begun) := by
  apply logged.invariant (motive := Kept begun)
  · exact ⟨rfl, rfl, rfl, (List.append_nil _).symm⟩
  · intro earlier request before primitive kept
    exact kept.step primitive

/-- A token that spans what has been consumed since the open token started. It begins in
    the column where that did, and is otherwise placed where the pass stands. -/
structure Spans (now : Lexing κ) (token : Token κ) : Prop where
  lexeme : token.lexeme = some now.lexeme
  line : token.line = now.line
  start : token.start = now.startColumn
  stop : token.stop = now.column
  offset : token.offset = now.start

theorem spans_of_mem_emitted {request : Request κ} (primitive : request.isPrimitive = true)
    {before : Lexing κ} {token : Token κ}
    (member : token ∈ Exchange.emitted (.of answer request before)) : Spans before token := by
  obtain ⟨cursor, line, column, elsewhere⟩ | ⟨kind, literal, rfl⟩ :=
    primitive_cases primitive before
  · rw [Exchange.emitted_elsewhere elsewhere] at member
    cases member
  · rw [Exchange.emitted_emit, List.mem_singleton] at member
    subst member
    exact ⟨rfl, rfl, rfl, rfl, rfl⟩

end FrontEnd.Lexing
