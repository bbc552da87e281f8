import FrontEnd.Proofs.Lexing.History

/-!
# The calls of a pass

A pass hands each character that opens a token to the classification routine. From the
journal of the pass one reads off these calls: `Journal.calls` cuts it where a token is
opened. `Course` says what a whole pass is in terms of them, and `scan_course` that a
pass whose routine always returns is just that.
-/

namespace FrontEnd

namespace Lexing

variable {κ ε σ : Type}

/-- A call of the classification routine: the character handed over, the pass before that
    character was consumed, what the routine asked for, and its verdict. -/
structure Call (κ : Type) where
  first : Char
  entry : Lexing κ
  journal : Journal κ
  rejected : Bool

namespace Call

/-- The pass as the routine finds it. -/
def opened (call : Call κ) : Lexing κ := call.entry.opened.step

/-- The pass as the routine leaves it. -/
def left (call : Call κ) : Lexing κ := call.journal.reached call.opened

/-- The pass when the verdict is settled. -/
def settled (call : Call κ) : Lexing κ :=
  if call.rejected then call.left.reject call.first else call.left

/-- The character handed over and all that the routine consumed. -/
def segment (call : Call κ) : List Char := call.first :: call.journal.consumed

def tokens (call : Call κ) : List (Token κ) := call.journal.emitted

/-- A call is what the engine makes of the routine, and its verdict the routine's own. -/
def MadeBy (classify : Char → Classifier κ ε σ Bool) (call : Call κ) : Prop :=
  ∃ own after,
    (classify call.first).on own call.opened = (.ok (!call.rejected), after, call.left) ∧
      (classify call.first).journal answer own call.opened = call.journal

end Call

/-- The character with which an exchange opened a token. -/
def Exchange.opens? : Exchange κ → Option Char
  | ⟨.openToken, reply, _, _⟩ => reply
  | _ => none

def Exchange.isReject : Exchange κ → Bool
  | ⟨.reject _, _, _, _⟩ => true
  | _ => false

/-- The calls in a journal. A call extends over the primitive exchanges after the one that
    opened the token, and the exchange behind them shows whether it was rejected. -/
def Journal.calls : Journal κ → List (Call κ)
  | [] => []
  | exchange :: rest =>
      match Exchange.opens? exchange with
      | none => Journal.calls rest
      | some c =>
          { first := c
            entry := exchange.before
            journal := rest.takeWhile fun exchange => exchange.request.isPrimitive
            rejected := (rest.dropWhile fun exchange =>
              exchange.request.isPrimitive).head?.any Exchange.isReject } :: Journal.calls rest

theorem Journal.calls_of_opens {exchange : Exchange κ} (rest : Journal κ)
    (closed : Exchange.opens? exchange = none) : calls (exchange :: rest) = calls rest := by
  rw [calls, closed]

theorem Exchange.opens?_of_isPrimitive {exchange : Exchange κ}
    (primitive : exchange.request.isPrimitive = true) : Exchange.opens? exchange = none := by
  obtain ⟨request, reply, before, after⟩ := exchange
  cases request with
  | openToken => cases primitive
  | _ => rfl

theorem Journal.calls_primitive {journal : Journal κ}
    (primitive : ∀ exchange ∈ journal, exchange.request.isPrimitive = true) (rest : Journal κ) :
    calls (journal ++ rest) = calls rest := by
  induction journal with
  | nil => rfl
  | cons exchange journal ih =>
      obtain ⟨here, further⟩ := List.forall_mem_cons.mp primitive
      rw [List.cons_append, calls_of_opens _ (Exchange.opens?_of_isPrimitive here), ih further]

theorem Journal.calls_call {exchange next : Exchange κ} {c : Char} {journal rest : Journal κ}
    (opens : Exchange.opens? exchange = some c)
    (primitive : ∀ exchange ∈ journal, exchange.request.isPrimitive = true)
    (ends : next.request.isPrimitive = false) :
    calls (exchange :: (journal ++ next :: rest)) =
      ⟨c, exchange.before, journal, Exchange.isReject next⟩ :: calls (next :: rest) := by
  have behind : ¬ next.request.isPrimitive = true := by
    rw [ends]
    exact Bool.false_ne_true
  have taken : (next :: rest).takeWhile (fun exchange => exchange.request.isPrimitive) = [] :=
    List.takeWhile_cons_of_neg behind
  have dropped : (next :: rest).dropWhile (fun exchange => exchange.request.isPrimitive) =
      next :: rest := List.dropWhile_cons_of_neg behind
  rw [calls, opens, calls_primitive primitive, List.takeWhile_append_of_pos primitive, taken,
    List.append_nil, List.dropWhile_append_of_pos primitive, dropped]
  rfl

/-- The pass has just handed a character over: it was consumed last, and begins the open
    token. -/
structure Hands (lexing : Lexing κ) (c : Char) : Prop where
  first : lexing.source[lexing.start]? = some c
  cursor : lexing.cursor = lexing.start + 1

end Lexing

namespace Classifier

open Lexing

variable {κ ε σ : Type}

/-- A routine that acts on the pass through primitive requests only. -/
def Primitive (classify : Char → Classifier κ ε σ Bool) : Prop :=
  ∀ c, (classify c).Uses fun request => request.isPrimitive = true

/-- A routine that returns whenever a pass over the source can call it. -/
def Returns (classify : Char → Classifier κ ε σ Bool) (source : Array Char) : Prop :=
  ∀ c own (lexing : Lexing κ), lexing.source = source → lexing.Hands c →
    ∃ verdict after reached, (classify c).on own lexing = (.ok verdict, after, reached)

/-- Characters two by two. The first is emitted alone, and again with the second one, which
    begins a new line; a character that is left over is rejected. -/
def pairs (first : Char) : Classifier Unit Fault Unit Bool := do
  emit (some ()) (.text first.toString)
  let second ← tryCatch (some <$> advance) fun _ => pure none
  markLine
  emit (some ()) .null
  pure second.isSome

theorem primitive_pairs : Primitive pairs := by
  intro first
  have advances : (advance : Classifier Unit Fault Unit Char).Uses
      fun request => request.isPrimitive = true := by
    refine Routine.uses_bind (Routine.uses_ask rfl) ?_
    rintro (fault | c)
    · exact Routine.uses_throw fault
    · exact Routine.uses_pure c
  refine Routine.uses_bind (Routine.uses_ask rfl) fun _ => ?_
  refine Routine.uses_bind (Routine.uses_tryCatch (Routine.uses_map advances)
    fun _ => Routine.uses_pure none) fun second => ?_
  refine Routine.uses_bind (Routine.uses_ask rfl) fun _ => ?_
  exact Routine.uses_bind (Routine.uses_ask rfl) fun _ => Routine.uses_pure _

theorem returns_pairs (source : Array Char) : Returns pairs source := by
  intro first own lexing _ _
  unfold on pairs advance
  simp only [emit, markLine, ask, Routine.run_bind, Routine.run_tryCatch, Routine.run_map,
    Routine.run_ask, answer]
  rcases (lexing.emit (some ()) (.text first.toString)).advance with ⟨fault | c, moved⟩
  · exact ⟨_, _, _, rfl⟩
  · exact ⟨_, _, _, rfl⟩

theorem journal_rounds_succ (classify : Char → Classifier κ ε σ Bool) (n : Nat) (own : σ)
    (lexing : Lexing κ) :
    (rounds classify (n + 1)).journal answer own lexing =
      .of answer .openToken lexing ::
        match lexing.openToken with
        | (none, _) => []
        | (some c, lexing) =>
            (classify c).journal answer own lexing ++
              match (classify c).on own lexing with
              | (.ok true, own, lexing) => (rounds classify n).journal answer own lexing
              | (.ok false, own, lexing) =>
                  .of answer (.reject c) lexing ::
                    (rounds classify n).journal answer own (lexing.reject c)
              | (.error _, _, _) => [] := by
  unfold on
  rw [rounds]
  simp only [ask, Routine.journal_bind, Routine.run_ask, Routine.journal_ask, answer]
  rcases lexing.openToken with ⟨_ | c, lexing⟩
  · rfl
  · simp only [Routine.journal_bind]
    rcases Routine.run answer (classify c) own lexing with ⟨_ | _ | _, own, lexing⟩ <;> rfl

/-- What a pass does once it has restarted. -/
def pass (classify : Char → Classifier κ ε σ Bool) (n : Nat) : Classifier κ ε σ (Lexed κ) := do
  rounds classify n
  ask .close

theorem journal_pass (classify : Char → Classifier κ ε σ Bool) (n : Nat) (own : σ)
    (lexing : Lexing κ) :
    (pass classify n).journal answer own lexing =
      (rounds classify n).journal answer own lexing ++
        match (rounds classify n).on own lexing with
        | (.ok _, _, lexing) => [.of answer .close lexing]
        | (.error _, _, _) => [] := by
  unfold on pass
  simp only [ask, Routine.journal_bind, Routine.journal_ask]
  rcases Routine.run answer (rounds classify n) own lexing with ⟨stop | value, own, lexing⟩ <;> rfl

theorem journal_scan (classify : Char → Classifier κ ε σ Bool) (own : σ) (lexing : Lexing κ) :
    (scan classify).journal answer own lexing =
      .of answer .restart lexing ::
        (pass classify lexing.source.size).journal answer own lexing.restart := by
  rw [scan, ask, Routine.journal_bind]
  rfl

end Classifier

namespace Lexing

variable {κ ε σ : Type} {classify : Char → Classifier κ ε σ Bool} {call : Call κ}

namespace Call

theorem MadeBy.logged (made : call.MadeBy classify) (primitive : Classifier.Primitive classify) :
    Logged answer (fun request => request.isPrimitive = true) call.opened call.journal := by
  obtain ⟨own, after, -, asked⟩ := made
  rw [← asked]
  exact Routine.logged_journal answer (primitive call.first) own call.opened

theorem MadeBy.moved (made : call.MadeBy classify) (primitive : Classifier.Primitive classify)
    {past : Journal κ} (begins : past <+: call.journal) :
    Moved call.opened past (past.reached call.opened) := by
  obtain ⟨rest, split⟩ := begins
  have logged := made.logged primitive
  rw [← split] at logged
  exact moved_of_logged (logged.of_append.1.mono Request.isWithinPass_of_isPrimitive)

theorem MadeBy.kept (made : call.MadeBy classify) (primitive : Classifier.Primitive classify)
    {past : Journal κ} (begins : past <+: call.journal) :
    Kept call.opened past (past.reached call.opened) := by
  obtain ⟨rest, split⟩ := begins
  have logged := made.logged primitive
  rw [← split] at logged
  exact kept_of_logged logged.of_append.1

/-- The error for the character of a rejected call. -/
def error (call : Call κ) : LexicalError :=
  .unknownCharacter call.first call.left.line call.entry.column call.left.column

end Call

/-- What calls do to a pass, all together. -/
structure Progress (begun : Lexing κ) (calls : List (Call κ)) (final : Lexing κ) : Prop where
  source : final.source = begun.source
  ahead : begun.ahead = calls.flatMap Call.segment ++ final.ahead
  cursor : final.cursor = begun.cursor + (calls.flatMap Call.segment).length
  tokens : final.tokens.toList = begun.tokens.toList ++ calls.flatMap Call.tokens
  errors : final.errors.toList = begun.errors.toList ++ (calls.filter Call.rejected).map Call.error

theorem Call.MadeBy.progress (made : call.MadeBy classify)
    (primitive : Classifier.Primitive classify) {rest : List Char}
    (here : call.entry.ahead = call.first :: rest) :
    Progress call.entry [call] call.settled := by
  have moved := made.moved primitive List.prefix_rfl
  have kept := made.kept primitive List.prefix_rfl
  have opened : call.opened.ahead = rest := ahead_step here
  have settled : call.settled.source = call.left.source ∧ call.settled.cursor = call.left.cursor ∧
      call.settled.tokens = call.left.tokens ∧
      call.settled.errors.toList =
        call.left.errors.toList ++ if call.rejected then [call.error] else [] := by
    rw [Call.settled]
    cases call.rejected with
    | false => exact ⟨rfl, rfl, rfl, (List.append_nil _).symm⟩
    | true =>
        refine ⟨rfl, rfl, rfl, ?_⟩
        rw [if_pos rfl, if_pos rfl, Call.error, ← show call.left.startColumn = call.entry.column
          from kept.startColumn]
        exact Array.toList_push
  obtain ⟨source, cursor, tokens, errors⟩ := settled
  have ahead : call.settled.ahead = call.left.ahead := by
    rw [Lexing.ahead, Lexing.ahead, source, cursor]
  constructor
  · exact source.trans moved.source
  · rw [here, ← opened, ahead, List.flatMap_singleton]
    exact congrArg (List.cons call.first) moved.ahead
  · rw [cursor, List.flatMap_singleton, Call.segment, List.length_cons, Nat.add_comm _ 1,
      ← Nat.add_assoc]
    exact moved.cursor
  · rw [tokens, List.flatMap_singleton]
    exact kept.tokens
  · rw [errors, show call.left.errors = call.entry.errors from kept.errors]
    cases rejected : call.rejected with
    | false => simp [rejected]
    | true => simp [rejected]

theorem Progress.trans {begun middle final : Lexing κ} {calls later : List (Call κ)}
    (first : Progress begun calls middle) (second : Progress middle later final) :
    Progress begun (calls ++ later) final := by
  constructor
  · exact second.source.trans first.source
  · rw [first.ahead, second.ahead, List.flatMap_append, List.append_assoc]
  · rw [second.cursor, first.cursor, List.flatMap_append, List.length_append, Nat.add_assoc]
  · rw [second.tokens, first.tokens, List.flatMap_append, List.append_assoc]
  · rw [second.errors, first.errors, List.filter_append, List.map_append, List.append_assoc]

/-- The calls that take a pass from one state to another: each is handed the next character,
    and the next call finds the pass as this one left it. -/
inductive Course (classify : Char → Classifier κ ε σ Bool) :
    Lexing κ → List (Call κ) → Lexing κ → Prop where
  | stop (lexing : Lexing κ) : Course classify lexing [] lexing
  | call {call : Call κ} {calls : List (Call κ)} {final : Lexing κ} {rest : List Char}
      (here : call.entry.ahead = call.first :: rest) (made : call.MadeBy classify)
      (later : Course classify call.settled calls final) :
      Course classify call.entry (call :: calls) final

namespace Course

variable {begun final : Lexing κ} {calls : List (Call κ)}

theorem of_close {closing : Lexing.Exchange κ} (closes : closing.request = .close)
    (lexing : Lexing κ) : Course classify lexing (Journal.calls [closing]) lexing := by
  have unopened : Exchange.opens? closing = none := by
    obtain ⟨request, reply, before, after⟩ := closing
    cases closes
    rfl
  rw [Journal.calls_of_opens _ unopened]
  exact .stop lexing

theorem progress (course : Course classify begun calls final)
    (primitive : Classifier.Primitive classify) : Progress begun calls final := by
  induction course with
  | stop lexing => exact ⟨rfl, rfl, rfl, (List.append_nil _).symm, (List.append_nil _).symm⟩
  | call here made _ ih => exact (made.progress primitive here).trans ih

theorem made_of_mem (course : Course classify begun calls final) (member : call ∈ calls) :
    call.MadeBy classify := by
  induction course with
  | stop => cases member
  | call _ made _ ih =>
      cases member with
      | head => exact made
      | tail _ later => exact ih later

theorem split {earlier later : List (Call κ)}
    (course : Course classify begun (earlier ++ call :: later) final) :
    Course classify begun earlier call.entry ∧ call.MadeBy classify ∧
      (∃ rest, call.entry.ahead = call.first :: rest) ∧
      Course classify call.settled later final := by
  induction earlier generalizing begun with
  | nil =>
      cases course with
      | call here made rest => exact ⟨.stop call.entry, made, ⟨_, here⟩, rest⟩
  | cons first earlier ih =>
      cases course with
      | call here made rest =>
          obtain ⟨before, after⟩ := ih rest
          exact ⟨.call here made before, after⟩

end Course

end Lexing

namespace Classifier

open Lexing

variable {κ ε σ : Type} {classify : Char → Classifier κ ε σ Bool}

theorem uses_rounds_of {allowed : Lexing.Request κ → Prop} (opens : allowed .openToken)
    (rejects : ∀ c, allowed (.reject c)) (uses : ∀ c, (classify c).Uses allowed) (n : Nat) :
    (rounds classify n).Uses allowed := by
  induction n with
  | zero => exact Routine.uses_pure ()
  | succ n ih =>
      refine Routine.uses_bind (Routine.uses_ask opens) ?_
      rintro (_ | c)
      · exact Routine.uses_pure ()
      · refine Routine.uses_bind (uses c) ?_
        rintro (_ | _)
        · exact Routine.uses_bind (Routine.uses_ask (rejects c)) fun _ => ih
        · exact ih

theorem uses_rounds (primitive : Primitive classify) (n : Nat) :
    (rounds classify n).Uses fun request => request.isWithinPass = true := by
  apply uses_rounds_of
  case opens => rfl
  case rejects => exact fun _ => rfl
  case uses => exact fun c => (primitive c).mono Request.isWithinPass_of_isPrimitive

theorem logged_pass (primitive : Primitive classify) (n : Nat) (own : σ) (lexing : Lexing κ) :
    Logged answer (fun request => request.isWithinPass = true) lexing
      ((pass classify n).journal answer own lexing) := by
  apply Routine.logged_journal
  exact Routine.uses_bind (uses_rounds primitive n) fun _ => Routine.uses_ask rfl

/-- Whatever follows the rounds, they begin with neither a primitive request nor a
    rejection, so that the call before them is told from them. -/
theorem rounds_begin (n : Nat) (own : σ) (lexing : Lexing κ) {closing : Lexing.Exchange κ}
    (closes : closing.request = .close) :
    ∃ next rest, (rounds classify n).journal answer own lexing ++ [closing] = next :: rest ∧
      next.request.isPrimitive = false ∧ Exchange.isReject next = false := by
  cases n with
  | zero =>
      refine ⟨closing, [], rfl, ?_, ?_⟩
      · rw [closes]
        rfl
      · obtain ⟨request, reply, before, after⟩ := closing
        cases closes
        rfl
  | succ n =>
      rw [journal_rounds_succ]
      exact ⟨_, _, rfl, rfl, rfl⟩

/-- One round is one call, and the rounds after it find the pass as the call left it. -/
theorem round_call (primitive : Primitive classify) {lexing : Lexing κ}
    (returns : Returns classify lexing.source) {c : Char} {rest : List Char}
    (here : lexing.ahead = c :: rest) (own : σ) :
    ∃ (call : Call κ) (after : σ), call.entry = lexing ∧ call.first = c ∧ call.MadeBy classify ∧
      ∀ n, (rounds classify (n + 1)).on own lexing = (rounds classify n).on after call.settled ∧
        ∀ closing : Lexing.Exchange κ, closing.request = .close →
          Journal.calls ((rounds classify (n + 1)).journal answer own lexing ++ [closing]) =
            call :: Journal.calls
              ((rounds classify n).journal answer after call.settled ++ [closing]) := by
  have hands : lexing.opened.step.Hands c := by
    refine ⟨?_, rfl⟩
    have next := getElem?_cursor lexing
    rw [here] at next
    exact next
  obtain ⟨verdict, after, reached, ran⟩ := returns c own lexing.opened.step rfl hands
  have ended : ((classify c).journal answer own lexing.opened.step).reached lexing.opened.step =
      reached := by
    rw [Routine.reached_journal, show Routine.run answer (classify c) own _ = _ from ran]
  have moves := openToken_cons here
  have opens : Exchange.opens? (.of answer .openToken lexing) = some c :=
    congrArg Prod.fst moves
  have primitives : ∀ exchange ∈ (classify c).journal answer own lexing.opened.step,
      exchange.request.isPrimitive = true := by
    intro exchange member
    exact (Routine.logged_journal answer (primitive c) own lexing.opened.step).allowed_of_mem member
  let call : Call κ := ⟨c, lexing, (classify c).journal answer own lexing.opened.step, !verdict⟩
  have left : call.left = reached := ended
  refine ⟨call, after, rfl, rfl, ⟨own, after, ?_, rfl⟩, ?_⟩
  · rw [left]
    exact ran.trans (by rw [Bool.not_not])
  · intro n
    rw [on_rounds_succ, journal_rounds_succ]
    simp only [moves, ran]
    -- The exchange behind the call is the next round's, or the rejection itself.
    cases verdict with
    | true =>
        have settled : call.settled = reached := left
        refine ⟨by rw [settled], ?_⟩
        intro closing closes
        obtain ⟨follows, more, begins, frame, accepted⟩ := rounds_begin n after reached closes
        rw [settled, begins, List.cons_append, List.append_assoc, begins,
          Journal.calls_call opens primitives frame, accepted]
        rfl
    | false =>
        have settled : call.settled = reached.reject c := congrArg (Lexing.reject · c) left
        refine ⟨by rw [settled], ?_⟩
        intro closing closes
        rw [settled, List.cons_append, List.append_assoc, List.cons_append,
          Journal.calls_call opens primitives rfl]
        rfl

/-- The rounds of a pass are the calls in its journal, one after the other, until nothing is
    ahead. -/
theorem rounds_course (primitive : Primitive classify) (n : Nat) (own : σ) (lexing : Lexing κ)
    (returns : Returns classify lexing.source) (enough : lexing.ahead.length ≤ n) :
    ∃ after final, (rounds classify n).on own lexing = (.ok (), after, final) ∧
      final.ahead = [] ∧ ∀ closing : Lexing.Exchange κ, closing.request = .close →
        Course classify lexing
          (Journal.calls ((rounds classify n).journal answer own lexing ++ [closing])) final := by
  -- Every call consumes at least the character it is handed, so the rounds suffice.
  induction n generalizing own lexing with
  | zero =>
      have nothing : lexing.ahead = [] := List.eq_nil_of_length_eq_zero (Nat.le_zero.mp enough)
      exact ⟨own, lexing, rfl, nothing, fun _ closes => .of_close closes lexing⟩
  | succ n ih =>
      cases here : lexing.ahead with
      | nil =>
          have stays := openToken_nil here
          have unopened : Exchange.opens? (.of answer .openToken lexing) = none :=
            congrArg Prod.fst stays
          rw [on_rounds_succ, journal_rounds_succ, stays]
          refine ⟨own, lexing, rfl, here, ?_⟩
          intro closing closes
          rw [List.cons_append, Journal.calls_of_opens _ unopened]
          exact .of_close closes lexing
      | cons c rest =>
          obtain ⟨call, after, rfl, rfl, made, next⟩ := round_call primitive returns here own
          have progress := made.progress primitive here
          have shorter : call.settled.ahead.length ≤ n := by
            have lengths := congrArg List.length progress.ahead
            rw [List.flatMap_singleton, Call.segment, List.length_append, List.length_cons] at lengths
            omega
          obtain ⟨last, final, ran, exhausted, course⟩ :=
            ih after call.settled (progress.source ▸ returns) shorter
          obtain ⟨runs, calls⟩ := next n
          refine ⟨last, final, runs.trans ran, exhausted, ?_⟩
          intro closing closes
          rw [calls closing closes]
          exact .call here made (course closing closes)

/-- A pass whose routine always returns comes to its end, and is the course of its calls. -/
theorem scan_course (primitive : Primitive classify) (lexing : Lexing κ)
    (returns : Returns classify lexing.source) (own : σ) :
    ∃ after final, (scan classify).on own lexing = (.ok final.close.1, after, final.close.2) ∧
      final.ahead = [] ∧
      Course classify lexing.restart
        (Journal.calls ((scan classify).journal answer own lexing)) final := by
  have enough : lexing.restart.ahead.length ≤ lexing.source.size := by
    simp [ahead, restart]
  obtain ⟨after, final, ran, exhausted, course⟩ :=
    rounds_course primitive lexing.source.size own lexing.restart returns enough
  refine ⟨after, final, ?_, exhausted, ?_⟩
  · rw [on_scan, ran]
  · rw [journal_scan, Journal.calls_of_opens _ rfl, journal_pass, ran]
    exact course _ rfl

end Classifier

end FrontEnd
