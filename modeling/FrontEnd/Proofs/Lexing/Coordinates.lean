import FrontEnd.Proofs.Lexing.Partition

/-!
# Lines and columns of a pass

The engine counts lines as the routine marks them, and columns from the last mark. A
token or an error takes its first column from the moment its call began, and its line
and last column from the moment it is made. So it spans just what was consumed if its
call had marked no line by then, and otherwise it is placed on a later line and its two
columns belong to different lines.
-/

namespace FrontEnd

open Lexing Classifier

variable {κ ε σ : Type} {classify : Char → Classifier κ ε σ Bool}

namespace Lexing

theorem Journal.consumed_sinceMark_cons {exchange : Lexing.Exchange κ}
    (nothing : Exchange.consumed exchange = []) (unmarked : Exchange.isMark exchange = false)
    (past : Journal κ) :
    consumed (sinceMark (exchange :: past)) = consumed (sinceMark past) := by
  induction past using List.reverseRecOn with
  | nil =>
      have whole : sinceMark ([exchange] : Journal κ) = [exchange] := by
        apply sinceMark_of_marks_eq_zero
        rw [marks_singleton, unmarked]
        rfl
      rw [whole, consumed_singleton, nothing]
      rfl
  | append_singleton past last ih =>
      rw [← List.cons_append, sinceMark_concat, sinceMark_concat]
      cases Exchange.isMark last with
      | true => rfl
      | false =>
          simp only [Bool.false_eq_true, if_false, consumed_append]
          rw [ih]

namespace Call

variable {call : Call κ} {rest : List Char} {past : Journal κ}

/-- The column reached in a call runs on from its first character until a line is marked,
    and then counts what the call consumed since. -/
theorem MadeBy.column (made : call.MadeBy classify) (primitive : Primitive classify)
    (begins : past <+: call.journal) :
    (past.reached call.opened).column =
      if past.marks = 0 then call.entry.column + (past.consumed.length + 1)
      else past.sinceMark.consumed.length := by
  have opened : call.opened.column = call.entry.column + 1 := rfl
  rw [(made.moved primitive begins).column, opened, Nat.add_assoc, Nat.add_comm 1]

theorem MadeBy.line (made : call.MadeBy classify) (primitive : Primitive classify)
    (begins : past <+: call.journal) :
    (past.reached call.opened).line = call.entry.line + past.marks :=
  (made.moved primitive begins).line

end Call

end Lexing

/-- At every moment of a pass the line is the number of lines marked since it began, and
    the column the number of characters consumed since the last mark. -/
theorem counters_of_scan (primitive : Primitive classify) (lexing : Lexing κ) (own : σ)
    {past : Lexing.Journal κ} (begun : past ≠ [])
    (begins : past <+: (scan classify).journal answer own lexing) :
    (past.reached lexing).line = past.marks ∧
      (past.reached lexing).column = past.sinceMark.consumed.length := by
  have logged := logged_pass primitive lexing.source.size own lexing.restart
  rw [journal_scan] at begins
  obtain ⟨later, split⟩ := begins
  cases past with
  | nil => exact absurd rfl begun
  | cons first past =>
      obtain ⟨rfl, rest⟩ := List.cons.inj split
      rw [← rest] at logged
      have moved := moved_of_logged logged.of_append.1
      have marks : Journal.marks (.of answer .restart lexing :: past) = Journal.marks past :=
        List.countP_cons_of_neg Bool.false_ne_true
      have since : Journal.consumed (Journal.sinceMark (.of answer .restart lexing :: past)) =
          Journal.consumed (Journal.sinceMark past) :=
        Journal.consumed_sinceMark_cons rfl rfl past
      rw [marks, since]
      constructor
      · exact moved.line.trans (Nat.zero_add _)
      · apply moved.column.trans
        split
        case isTrue unmarked =>
          rw [Journal.sinceMark_of_marks_eq_zero unmarked]
          exact Nat.zero_add _
        case isFalse => rfl

/-- Where a token is placed that was emitted when its call, which consumed its first
    character at `entry`, had marked so many lines. -/
structure Placed (entry : Lexing κ) (marks : Nat) (token : Token κ) : Prop where
  line : token.line = entry.line + marks
  start : token.start = entry.column
  whole_iff : token.stop - token.start = token.extent ↔ marks = 0
  broken : 0 < marks → token.stop - token.start < token.extent

theorem Lexing.Call.MadeBy.placed_at {call : Call κ} {rest : List Char}
    (made : call.MadeBy classify) (primitive : Primitive classify)
    (here : call.entry.ahead = call.first :: rest) {past later : Lexing.Journal κ}
    {exchange : Lexing.Exchange κ} (split : call.journal = past ++ exchange :: later)
    {token : Token κ} (member : token ∈ Exchange.emitted exchange) :
    Placed call.entry past.marks token := by
  have begins : past <+: call.journal := ⟨exchange :: later, split.symm⟩
  have spans := made.spans primitive split member
  have line := spans.line
  have start : token.start = call.entry.column := by
    rw [spans.start, (made.kept primitive begins).startColumn]
    rfl
  have stop := spans.stop
  rw [made.line primitive begins] at line
  obtain ⟨-, extent⟩ := made.extent primitive here split member
  have column := made.column primitive begins
  have short : 0 < past.marks → token.stop - token.start < token.extent := by
    intro marked
    have bound := Journal.length_consumed_sinceMark_le past
    rw [if_neg (Nat.ne_of_gt marked)] at column
    rw [start, stop, extent, column]
    omega
  refine ⟨line, start, ⟨?_, ?_⟩, short⟩
  · intro whole
    by_contra marked
    have shorter := short (Nat.pos_of_ne_zero marked)
    omega
  · intro unmarked
    rw [if_pos unmarked] at column
    rw [start, stop, extent, column]
    omega

/-- The coordinates of a pass whose routine returns: those of the pass at every moment, and
    those of its tokens, which are whole just when their call had marked no line. -/
theorem scan_coordinates (primitive : Primitive classify) (lexing : Lexing κ)
    (returns : Returns classify lexing.source) (own : σ) :
    (∀ past : Lexing.Journal κ, past ≠ [] →
      past <+: (scan classify).journal answer own lexing →
        (past.reached lexing).line = past.marks ∧
          (past.reached lexing).column = past.sinceMark.consumed.length) ∧
    ∃ lexed after final calls, (scan classify).on own lexing = (.ok lexed, after, final) ∧
      Journal.calls ((scan classify).journal answer own lexing) = calls ∧
      (∃ line column offset, lexed.tokens.toList =
        calls.flatMap Call.tokens ++ [.endOfStream line column offset]) ∧
      ∀ call ∈ calls, call.MadeBy classify ∧
        ∀ (past later : Lexing.Journal κ) (exchange : Lexing.Exchange κ),
          call.journal = past ++ exchange :: later →
            ∀ token ∈ exchange.emitted, Placed call.entry past.marks token := by
  refine ⟨fun past => counters_of_scan primitive lexing own, ?_⟩
  obtain ⟨after, final, ran, -, course⟩ := scan_course primitive lexing returns own
  refine ⟨_, after, _, _, ran, rfl, ⟨final.line, final.column, final.cursor, ?_⟩, ?_⟩
  · rw [Lexing.close, Array.toList_push, (course.progress primitive).tokens]
    rfl
  · intro call member
    obtain ⟨made, -, rest, here⟩ := course.entry_of_mem primitive member
    refine ⟨made, ?_⟩
    intro past later exchange split token emitted
    exact made.placed_at primitive here split emitted

theorem scan_coordinates_pairs :
    Primitive pairs ∧ Returns pairs #['a', 'b', 'c'] ∧
      (∀ past : Lexing.Journal Unit, past ≠ [] →
        past <+: (scan pairs).journal answer () { source := #['a', 'b', 'c'], column := 7 } →
          (past.reached { source := #['a', 'b', 'c'], column := 7 }).line = past.marks ∧
            (past.reached { source := #['a', 'b', 'c'], column := 7 }).column =
              past.sinceMark.consumed.length) ∧
      ∃ lexed after final calls,
        (scan pairs).on () { source := #['a', 'b', 'c'], column := 7 } =
            (.ok lexed, after, final) ∧
          Journal.calls ((scan pairs).journal answer ()
            { source := #['a', 'b', 'c'], column := 7 }) = calls ∧
          (∃ line column offset, lexed.tokens.toList =
            calls.flatMap Call.tokens ++ [.endOfStream line column offset]) ∧
          ∀ call ∈ calls, call.MadeBy pairs ∧
            ∀ (past later : Lexing.Journal Unit) (exchange : Lexing.Exchange Unit),
              call.journal = past ++ exchange :: later →
                ∀ token ∈ exchange.emitted, Placed call.entry past.marks token :=
  ⟨primitive_pairs, returns_pairs _, scan_coordinates primitive_pairs _ (returns_pairs _) ()⟩

/-- Where the error of a rejected call is placed. It begins where the character handed over
    was consumed, and is that character alone just if its call did nothing more. -/
structure Rejection (call : Call κ) : Prop where
  start : call.error.start = call.entry.column
  line : call.error.line = call.entry.line + call.journal.marks
  whole : call.journal.marks = 0 →
    call.error.stop = call.error.start + (call.segment.length : Int)
  broken : 0 < call.journal.marks →
    call.error.stop = (call.journal.sinceMark.consumed.length : Int)
  alone_iff : call.error.line = call.entry.line ∧ call.error.stop = call.error.start + 1 ↔
    call.journal.marks = 0 ∧ call.journal.consumed = []

theorem Lexing.Call.MadeBy.rejection {call : Call κ} (made : call.MadeBy classify)
    (primitive : Primitive classify) : Rejection call := by
  have line : call.error.line = call.left.line := rfl
  rw [Call.left, made.line primitive List.prefix_rfl] at line
  have start : call.error.start = call.entry.column := rfl
  have stop : call.error.stop = call.left.column := rfl
  rw [Call.left, made.column primitive List.prefix_rfl] at stop
  have whole : call.journal.marks = 0 →
      call.error.stop = call.error.start + (call.segment.length : Int) := by
    intro unmarked
    rw [stop, if_pos unmarked, start]
    rfl
  refine ⟨start, line, whole, ?_, ?_, ?_⟩
  · intro marked
    rw [stop, if_neg (Nat.ne_of_gt marked)]
  · rintro ⟨same, one⟩
    have unmarked : call.journal.marks = 0 := by omega
    refine ⟨unmarked, ?_⟩
    have wide := whole unmarked
    rw [one, Call.segment, List.length_cons] at wide
    exact List.eq_nil_of_length_eq_zero (by omega)
  · rintro ⟨unmarked, nothing⟩
    refine ⟨by omega, ?_⟩
    rw [whole unmarked, Call.segment, nothing]
    rfl

/-- The errors of a pass whose routine returns are those of the rejected calls, in order. Each
    covers the line and columns from the character that was handed over to the place where the
    routine left the pass. -/
theorem scan_errors (primitive : Primitive classify) (lexing : Lexing κ)
    (returns : Returns classify lexing.source) (own : σ) :
    ∃ lexed after final calls, (scan classify).on own lexing = (.ok lexed, after, final) ∧
      Journal.calls ((scan classify).journal answer own lexing) = calls ∧
      lexed.errors.toList = (calls.filter Call.rejected).map Call.error ∧
      ∀ call ∈ calls, call.MadeBy classify ∧ Rejection call := by
  obtain ⟨after, final, ran, -, course⟩ := scan_course primitive lexing returns own
  refine ⟨_, after, _, _, ran, rfl, (course.progress primitive).errors, ?_⟩
  intro call member
  have made := course.made_of_mem member
  exact ⟨made, made.rejection primitive⟩

theorem scan_errors_pairs :
    Primitive pairs ∧ Returns pairs #['a', 'b', 'c'] ∧
      ∃ lexed after final calls,
        (scan pairs).on () { source := #['a', 'b', 'c'] } = (.ok lexed, after, final) ∧
          Journal.calls ((scan pairs).journal answer () { source := #['a', 'b', 'c'] }) = calls ∧
          lexed.errors.toList = (calls.filter Call.rejected).map Call.error ∧
          ∀ call ∈ calls, call.MadeBy pairs ∧ Rejection call :=
  ⟨primitive_pairs, returns_pairs _, scan_errors primitive_pairs _ (returns_pairs _) ()⟩

/-- A routine that consumes a second character before it rejects the first. -/
def lookingFurther (_ : Char) : Classifier Unit Fault Unit Bool := do
  let _ ← advanceIf fun _ => true
  pure false

/-- An error may be wider than the character that was rejected. -/
theorem error_wider_than_character :
    Primitive lookingFurther ∧ Returns lookingFurther #['#', '!'] ∧
      ((scan lookingFurther).on () { source := #['#', '!'] }).1.toOption.map
          (fun lexed => lexed.errors.toList) =
        some [.unknownCharacter '#' 0 0 2] := by
  refine ⟨?_, ?_, by decide +kernel⟩
  · intro c
    exact Routine.uses_bind (Routine.uses_ask rfl) fun _ => Routine.uses_pure false
  · intro c own lexing _ _
    exact ⟨_, _, _, rfl⟩

end FrontEnd
