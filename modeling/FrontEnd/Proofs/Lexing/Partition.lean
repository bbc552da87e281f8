import FrontEnd.Proofs.Lexing.Call
import Mathlib.Algebra.BigOperators.Group.List.Basic

/-!
# A pass partitions its source

Whatever a classification routine does with the characters it is handed, the pass
itself loses and repeats nothing: the segments of its calls are the source, and every
token is a piece of the source that begins where the segment of its call does.
-/

namespace FrontEnd

/-- The number of characters in a token's lexeme. -/
def Token.extent {κ : Type} (token : Token κ) : Nat := token.lexeme.elim 0 String.length

namespace Lexing

variable {κ ε σ : Type} {classify : Char → Classifier κ ε σ Bool}

theorem lexeme_congr {one other : Lexing κ} (source : one.source = other.source)
    (start : one.start = other.start) (cursor : one.cursor = other.cursor) :
    one.lexeme = other.lexeme := by
  rw [lexeme, lexeme, source, start, cursor]

namespace Call

variable {call : Call κ} {rest : List Char} {past : Journal κ}

theorem exists_emission {token : Token κ} (member : token ∈ call.tokens) :
    ∃ past exchange rest, call.journal = past ++ exchange :: rest ∧
      token ∈ Exchange.emitted exchange := by
  obtain ⟨exchange, inside, emitted⟩ := List.mem_flatMap.mp member
  obtain ⟨past, rest, split⟩ := List.append_of_mem inside
  exact ⟨past, exchange, rest, split, emitted⟩

section

variable (made : call.MadeBy classify) (primitive : Classifier.Primitive classify)

include made primitive

theorem MadeBy.spans {exchange : Lexing.Exchange κ} {later : Journal κ}
    (split : call.journal = past ++ exchange :: later) {token : Token κ}
    (member : token ∈ Exchange.emitted exchange) : Spans (past.reached call.opened) token := by
  have logged := made.logged primitive
  rw [split] at logged
  have permitted : exchange.request.isPrimitive = true :=
    logged.allowed_of_mem (List.mem_append_right past List.mem_cons_self)
  rw [logged.split] at member
  exact spans_of_mem_emitted permitted member

variable (here : call.entry.ahead = call.first :: rest)

include here

theorem MadeBy.ahead_entry (begins : past <+: call.journal) :
    call.entry.ahead = (call.first :: past.consumed) ++ (past.reached call.opened).ahead := by
  have opened : call.opened.ahead = rest := ahead_step here
  rw [here, ← opened, (made.moved primitive begins).ahead]
  rfl

theorem MadeBy.lexeme_eq (begins : past <+: call.journal) :
    (past.reached call.opened).lexeme = String.ofList (call.first :: past.consumed) := by
  have moved := made.moved primitive begins
  rw [← lexeme_steps (made.ahead_entry primitive here begins)]
  apply lexeme_congr
  · exact moved.source
  · exact (made.kept primitive begins).start
  · rw [moved.cursor, List.length_cons, Nat.add_comm _ 1]
    exact Nat.add_assoc _ _ _

theorem MadeBy.bounds (begins : past <+: call.journal) :
    (past.reached call.opened).start < (past.reached call.opened).cursor ∧
      (past.reached call.opened).cursor ≤ call.entry.source.size := by
  have moved := made.moved primitive begins
  have start : (past.reached call.opened).start = call.entry.cursor :=
    (made.kept primitive begins).start
  have cursor : (past.reached call.opened).cursor =
      call.entry.cursor + 1 + past.consumed.length := moved.cursor
  have lengths := congrArg List.length (made.ahead_entry primitive here begins)
  simp only [ahead, List.length_drop, Array.length_toList, List.length_append,
    List.length_cons] at lengths
  omega

theorem MadeBy.extent {exchange : Lexing.Exchange κ} {later : Journal κ}
    (split : call.journal = past ++ exchange :: later) {token : Token κ}
    (member : token ∈ Exchange.emitted exchange) :
    token.lexeme = some (String.ofList (call.first :: past.consumed)) ∧
      token.extent = past.consumed.length + 1 := by
  have begins : past <+: call.journal := ⟨exchange :: later, split.symm⟩
  have lexeme := (made.spans primitive split member).lexeme
  rw [made.lexeme_eq primitive here begins] at lexeme
  refine ⟨lexeme, ?_⟩
  rw [Token.extent, lexeme, Option.elim_some, String.length_ofList, List.length_cons]

/-- Later tokens of a call are not shorter, since they begin at the same place. -/
theorem MadeBy.growing (begins : past <+: call.journal) :
    past.emitted.Pairwise (fun one other => one.extent ≤ other.extent) ∧
      ∀ token ∈ past.emitted, token.extent ≤ past.consumed.length + 1 := by
  -- The bound on all earlier tokens is what the order of the last one rests on.
  induction past using List.reverseRecOn with
  | nil =>
      refine ⟨.nil, ?_⟩
      intro token member
      cases member
  | append_singleton past exchange ih =>
      obtain ⟨later, split⟩ := begins
      rw [List.append_assoc] at split
      obtain ⟨sorted, bounded⟩ := ih ⟨_, split⟩
      have extent : ∀ token ∈ Exchange.emitted exchange,
          token.extent = (Journal.consumed past).length + 1 :=
        fun _ member => (made.extent primitive here split.symm member).2
      simp only [Journal.emitted_append, Journal.emitted_singleton, Journal.consumed_append,
        List.length_append]
      constructor
      · rw [List.pairwise_append]
        refine ⟨sorted, ?_, ?_⟩
        · apply List.pairwise_of_forall_mem_list
          intro one first other second
          rw [extent one first, extent other second]
        · intro one first other second
          rw [extent other second]
          exact bounded one first
      · intro token member
        rcases List.mem_append.mp member with before | last
        · have bound := bounded token before
          omega
        · have exact_ := extent token last
          omega

theorem MadeBy.placed {token : Token κ} (member : token ∈ call.tokens) :
    token.offset = call.entry.cursor ∧ token.extent ≤ call.segment.length := by
  have bound := (made.growing primitive here List.prefix_rfl).2 token member
  obtain ⟨past, exchange, later, split, emitted⟩ := exists_emission member
  have begins : past <+: call.journal := ⟨exchange :: later, split.symm⟩
  refine ⟨?_, bound⟩
  rw [(made.spans primitive split emitted).offset, (made.kept primitive begins).start]
  rfl

end

end Call

namespace Course

variable {begun final : Lexing κ} {calls : List (Call κ)}

theorem entry {earlier later : List (Call κ)} {call : Call κ}
    (course : Course classify begun (earlier ++ call :: later) final)
    (primitive : Classifier.Primitive classify) :
    call.MadeBy classify ∧ call.entry.source = begun.source ∧
      call.entry.cursor = begun.cursor + (earlier.flatMap Call.segment).length ∧
        ∃ rest, call.entry.ahead = call.first :: rest := by
  obtain ⟨before, made, here, -⟩ := course.split
  have progress := before.progress primitive
  exact ⟨made, progress.source, progress.cursor, here⟩

theorem entry_of_mem (course : Course classify begun calls final)
    (primitive : Classifier.Primitive classify) {call : Call κ} (member : call ∈ calls) :
    call.MadeBy classify ∧ call.entry.source = begun.source ∧
      ∃ rest, call.entry.ahead = call.first :: rest := by
  obtain ⟨earlier, later, rfl⟩ := List.append_of_mem member
  obtain ⟨made, source, -, here⟩ := course.entry primitive
  exact ⟨made, source, here⟩

theorem length_le (course : Course classify begun calls final)
    (primitive : Classifier.Primitive classify) : calls.length ≤ begun.ahead.length := by
  have segments : calls.length ≤ (calls.flatMap Call.segment).length := by
    rw [List.length_flatMap]
    have sizes : ∀ size ∈ calls.map fun call => call.segment.length, 1 ≤ size := by
      intro size member
      obtain ⟨call, -, rfl⟩ := List.mem_map.mp member
      exact Nat.le_add_left _ _
    simpa using List.length_le_sum_of_one_le _ sizes
  have lengths := congrArg List.length (course.progress primitive).ahead
  rw [List.length_append] at lengths
  omega

theorem inside (course : Course classify begun calls final)
    (primitive : Classifier.Primitive classify) {call : Call κ} (member : call ∈ calls)
    {past : Journal κ} (begins : past <+: call.journal) :
    (past.reached call.opened).start < (past.reached call.opened).cursor ∧
      (past.reached call.opened).cursor ≤ begun.source.size ∧
      (past.reached call.opened).lexeme = String.ofList (call.first :: past.consumed) ∧
      call.first :: past.consumed <+: call.segment := by
  obtain ⟨made, source, rest, here⟩ := course.entry_of_mem primitive member
  obtain ⟨opened, bounded⟩ := made.bounds primitive here begins
  rw [source] at bounded
  refine ⟨opened, bounded, made.lexeme_eq primitive here begins, ?_⟩
  obtain ⟨more, split⟩ := begins
  refine ⟨Journal.consumed more, ?_⟩
  rw [Call.segment, ← split, Journal.consumed_append]
  rfl

theorem cut {earlier later : List (Call κ)} {call : Call κ}
    (course : Course classify begun (earlier ++ call :: later) final)
    (primitive : Classifier.Primitive classify) {token : Token κ} (member : token ∈ call.tokens) :
    token.offset = begun.cursor + (earlier.flatMap Call.segment).length ∧
      ∃ text, token.lexeme = some (String.ofList text) ∧ text ≠ [] ∧
        (begun.ahead.drop (earlier.flatMap Call.segment).length).take token.extent = text := by
  obtain ⟨made, source, cursor, rest, here⟩ := course.entry primitive
  refine ⟨?_, ?_⟩
  · rw [(made.placed primitive here member).1, cursor]
    rfl
  · obtain ⟨past, exchange, more, split, emitted⟩ := Call.exists_emission member
    obtain ⟨lexeme, extent⟩ := made.extent primitive here split emitted
    refine ⟨_, lexeme, List.cons_ne_nil _ _, ?_⟩
    have ahead := made.ahead_entry primitive here ⟨exchange :: more, split.symm⟩
    rw [Lexing.ahead, source, cursor, ← List.drop_drop] at ahead
    have length : token.extent = (call.first :: Journal.consumed past).length := extent
    rw [length]
    exact (congrArg (List.take _) ahead).trans List.take_left

/-- A token of a call ends within what the call consumed, and later calls begin behind it. -/
theorem apart (course : Course classify begun calls final)
    (primitive : Classifier.Primitive classify) :
    calls.Pairwise fun one other => ∀ first ∈ one.tokens, ∀ second ∈ other.tokens,
      first.offset + (first.extent : Int) ≤ second.offset := by
  induction course with
  | stop => exact .nil
  | @call call calls final rest here made later ih =>
      refine .cons ?_ ih
      intro other member first inFirst second inSecond
      obtain ⟨earlier, behind, rfl⟩ := List.append_of_mem member
      obtain ⟨otherMade, -, cursor, _, there⟩ := later.entry primitive
      obtain ⟨begins, ends⟩ := made.placed primitive here inFirst
      obtain ⟨behind, -⟩ := otherMade.placed primitive there inSecond
      have settled := (made.progress primitive here).cursor
      rw [List.flatMap_singleton] at settled
      omega

end Course

/-- How the calls of a pass and its tokens lie in the source. -/
structure Partition (source : List Char) (calls : List (Call κ)) (tokens : List (Token κ)) :
    Prop where
  /-- The segments of the calls, none of them empty, are the source. -/
  covers : calls.flatMap Call.segment = source
  segment_ne_nil : ∀ call ∈ calls, call.segment ≠ []
  few : calls.length ≤ source.length
  /-- At every moment of a call the open token is not empty and inside the source, and its
      lexeme is what the call has consumed so far. -/
  inside : ∀ call ∈ calls, ∀ past : Journal κ, past <+: call.journal →
    (past.reached call.opened).start < (past.reached call.opened).cursor ∧
      (past.reached call.opened).cursor ≤ source.length ∧
      (past.reached call.opened).lexeme = String.ofList (call.first :: past.consumed) ∧
      call.first :: past.consumed <+: call.segment
  /-- The tokens are those of the calls, in order, and an end token. -/
  tokens_eq : ∃ line column,
    tokens = calls.flatMap Call.tokens ++ [.endOfStream line column source.length]
  /-- A token begins where the segment of its call does, and its lexeme is the piece of the
      source there. -/
  cut : ∀ earlier call later, calls = earlier ++ call :: later → ∀ token ∈ call.tokens,
    token.offset = (earlier.flatMap Call.segment).length ∧
      ∃ text, token.lexeme = some (String.ofList text) ∧ text ≠ [] ∧
        (source.drop (earlier.flatMap Call.segment).length).take token.extent = text
  /-- The tokens of one call do not get shorter. -/
  growing : ∀ call ∈ calls, call.tokens.Pairwise fun one other => one.extent ≤ other.extent
  /-- The tokens of different calls do not overlap. -/
  apart : calls.Pairwise fun one other => ∀ first ∈ one.tokens, ∀ second ∈ other.tokens,
    first.offset + (first.extent : Int) ≤ second.offset

end Lexing

open Lexing Classifier

variable {κ ε σ : Type} {classify : Char → Classifier κ ε σ Bool}

/-- A pass whose routine returns comes to its end, from any earlier state of it. Its calls
    are made of the routine, and partition the source. -/
theorem scan_partitions (primitive : Primitive classify) (lexing : Lexing κ)
    (returns : Returns classify lexing.source) (own : σ) :
    ∃ lexed after final, (scan classify).on own lexing = (.ok lexed, after, final) ∧
      (∀ call ∈ Journal.calls ((scan classify).journal answer own lexing),
        call.MadeBy classify) ∧
      Partition lexing.source.toList
        (Journal.calls ((scan classify).journal answer own lexing)) lexed.tokens.toList := by
  obtain ⟨after, final, ran, exhausted, course⟩ := scan_course primitive lexing returns own
  generalize Journal.calls ((scan classify).journal answer own lexing) = calls at course
  have progress := course.progress primitive
  have covers : calls.flatMap Call.segment = lexing.source.toList := by
    have ahead := progress.ahead
    rw [exhausted, List.append_nil] at ahead
    exact ahead.symm
  refine ⟨final.close.1, after, final.close.2, ran, fun _ => course.made_of_mem, ?_⟩
  constructor
  case covers => exact covers
  case segment_ne_nil => exact fun call _ => List.cons_ne_nil _ _
  case few => exact course.length_le primitive
  case inside => exact fun _ member _ begins => course.inside primitive member begins
  case tokens_eq =>
    refine ⟨final.line, final.column, ?_⟩
    have cursor : final.cursor = lexing.source.toList.length := by
      rw [progress.cursor, covers]
      exact Nat.zero_add _
    have tokens := progress.tokens
    rw [Lexing.close, Array.toList_push, tokens, cursor]
    rfl
  case cut =>
    rintro earlier call later rfl token member
    obtain ⟨offset, piece⟩ := course.cut primitive member
    exact ⟨offset.trans (Int.zero_add _), piece⟩
  case growing =>
    intro call member
    obtain ⟨made, -, rest, here⟩ := course.entry_of_mem primitive member
    exact (made.growing primitive here List.prefix_rfl).1
  case apart => exact course.apart primitive

/-- Three characters in pairs, after a pass over them that was given up in the middle. -/
theorem scan_partitions_pairs :
    Primitive pairs ∧ Returns pairs #['a', 'b', 'c'] ∧
      ∃ lexed after final,
        (scan pairs).on () { source := #['a', 'b', 'c'], start := 1, cursor := 2, line := 4 } =
            (.ok lexed, after, final) ∧
          (∀ call ∈ Journal.calls ((scan pairs).journal answer ()
              { source := #['a', 'b', 'c'], start := 1, cursor := 2, line := 4 }),
            call.MadeBy pairs) ∧
          Partition ['a', 'b', 'c']
            (Journal.calls ((scan pairs).journal answer ()
              { source := #['a', 'b', 'c'], start := 1, cursor := 2, line := 4 }))
            lexed.tokens.toList :=
  ⟨primitive_pairs, returns_pairs _, scan_partitions primitive_pairs _ (returns_pairs _) ()⟩

end FrontEnd
