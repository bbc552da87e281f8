import FrontEnd.Arithmetic.Tokens
import FrontEnd.Proofs.Arithmetic.Lines
import FrontEnd.Proofs.Lexing.Ahead

/-!
# A pass cuts a text into its pieces

One round of a lexical pass over an arithmetic text consumes one piece: `munch` is
the pass after it. `At` ties both coordinate systems of the pass to the text that has
been consumed, and every piece keeps it. So the tokens and errors of a whole pass are
those of `lexedAs`, unless a run of digits is too long.
-/

namespace FrontEnd.Arithmetic

open Classifier

/-- The pass after a character that is no token. -/
def passOver (lexing : Lexing Kind) (c : Char) : Lexing Kind :=
  if c = '\n' then lexing.markLine else if isUnknown c then lexing.reject c else lexing

/-- The pass after the next piece. -/
def munch (lexing : Lexing Kind) (piece : List Char) : Lexing Kind :=
  let moved := lexing.opened.steps piece.length
  match meaning piece, piece with
  | some (kind, literal), _ => moved.emit (some kind) literal
  | none, [c] => passOver moved c
  | none, _ => moved

variable {length bound : Nat} {lexing : Lexing Kind} {c : Char} {run rest : List Char}

theorem on_digits (here : lexing.ahead = run ++ rest)
    (inside : ∀ d ∈ run, Text.isDigit d = true) (ends : ∀ d ∈ rest.head?, Text.isDigit d = false)
    (enough : run.length ≤ bound) :
    (digits bound).on () lexing = (.ok (), (), lexing.steps run.length) := by
  induction run generalizing lexing bound with
  | nil =>
      cases bound with
      | zero => rfl
      | succ bound =>
          have stopped : lexing.advanceIf Text.isDigit = (false, lexing) := by
            rw [Lexing.advanceIf_of_ahead, here, List.nil_append, if_neg]
            cases rest with
            | nil => simp
            | cons d rest => simpa using ends d rfl
          have looked : (advanceIf Text.isDigit : Classifier Kind Fault Unit Bool).on () lexing =
              (.ok false, (), lexing) := by
            rw [on_advanceIf, stopped]
          rw [digits, on_bind_ok looked]
          rfl
  | cons d run ih =>
      obtain ⟨digit, inside⟩ := List.forall_mem_cons.mp inside
      cases bound with
      | zero => simp at enough
      | succ bound =>
          have moved : lexing.advanceIf Text.isDigit = (true, lexing.step) := by
            rw [Lexing.advanceIf_of_ahead, here, if_pos]
            simpa using digit
          have looked : (advanceIf Text.isDigit : Classifier Kind Fault Unit Bool).on () lexing =
              (.ok true, (), lexing.step) := by
            rw [on_advanceIf, moved]
          have stepped : lexing.step.ahead = run ++ rest := Lexing.ahead_step here
          have further := ih stepped inside (Nat.le_of_succ_le_succ enough)
          rw [digits, on_bind_ok looked, if_pos rfl, further, Lexing.step_steps]
          rfl

theorem read_digits (inhabited : run ≠ []) (inside : ∀ d ∈ run, Text.isDigit d = true) :
    Numeral.read (String.ofList run) =
      if Numeral.digitLimit < run.length then .error (.oversizedNumeral run.length)
      else .ok (Nat.ofDigitChars 10 run 0) := by
  have proper : ((String.ofList run).isEmpty ||
      !(String.ofList run).toList.all Text.isDigit) = false := by
    simpa using ⟨inhabited, inside⟩
  rw [Numeral.read, String.length_ofList, proper, if_neg Bool.false_ne_true, String.toList_ofList]
  rw [Numeral.value, Nat.ofDigitChars_eq_foldl]

theorem on_emitNumber (text : lexing.lexeme = String.ofList run) (inhabited : run ≠ [])
    (inside : ∀ d ∈ run, Text.isDigit d = true) :
    emitNumber.on () lexing =
      if Numeral.digitLimit < run.length then
        (.error (.oversizedNumeral run.length), (), lexing)
      else (.ok (), (), lexing.emit (some .number) (.int (Nat.ofDigitChars 10 run 0))) := by
  have looked : (lexeme : Classifier Kind Fault Unit String).on () lexing =
      (.ok (String.ofList run), (), lexing) := by
    rw [on_lexeme, text]
  rw [emitNumber, on_bind_ok looked, read_digits inhabited inside]
  by_cases long : Numeral.digitLimit < run.length
  · rw [if_pos long, if_pos long, on_throw]
  · rw [if_neg long, if_neg long]
    rfl

theorem meaning_run (inside : ∀ d ∈ run, Text.isDigit d = true) :
    meaning run = some (.number, .int (Nat.ofDigitChars 10 run 0)) := by
  unfold meaning
  rw [if_pos (by simpa using inside)]

theorem meaning_single (other : Text.isDigit c = false) :
    meaning [c] = (symbols.lookup c).map fun kind => (kind, .null) := by
  unfold meaning
  rw [if_neg (by simp [other])]

theorem munch_token {piece : List Char} {kind : Kind} {literal : Value}
    (standsFor : meaning piece = some (kind, literal)) :
    munch lexing piece = (lexing.opened.steps piece.length).emit (some kind) literal := by
  unfold munch
  rw [standsFor]

theorem munch_nothing (nothing : meaning [c] = none) :
    munch lexing [c] = passOver lexing.opened.step c := by
  unfold munch
  rw [nothing]
  rfl

theorem on_classify_digit (here : lexing.ahead = (c :: run) ++ rest)
    (inside : ∀ d ∈ c :: run, Text.isDigit d = true)
    (ends : ∀ d ∈ rest.head?, Text.isDigit d = false) (enough : run.length ≤ length) :
    (classify length c).on () lexing.opened.step =
      if Numeral.digitLimit < (c :: run).length then
        (.error (.oversizedNumeral (c :: run).length), (), lexing.opened.steps (c :: run).length)
      else (.ok true, (), munch lexing (c :: run)) := by
  have stepped : lexing.opened.step.ahead = run ++ rest := Lexing.ahead_step here
  obtain ⟨digit, further⟩ := List.forall_mem_cons.mp inside
  have consumed : (digits length).on () lexing.opened.step =
      (.ok (), (), lexing.opened.steps (c :: run).length) := by
    rw [on_digits stepped further ends enough, Lexing.step_steps]
    rfl
  have emitted := on_emitNumber (Lexing.lexeme_steps here) (List.cons_ne_nil c run) inside
  rw [classify, if_pos digit, on_bind_ok consumed]
  by_cases long : Numeral.digitLimit < (c :: run).length
  · rw [if_pos long] at emitted ⊢
    rw [on_bind_error emitted]
  · rw [if_neg long] at emitted ⊢
    rw [on_bind_ok emitted, on_pure, munch_token (meaning_run inside)]

theorem symbol?_eq_lookup (c : Char) : symbol? c = symbols.lookup c := by
  unfold symbol?
  split
  case h_5 plus minus opening closing =>
    symm
    rw [List.lookup_eq_none_iff]
    simpa [symbols] using ⟨plus, minus, opening, closing⟩
  all_goals rfl

theorem on_classify_other (other : Text.isDigit c = false) :
    (classify length c).on () lexing.opened.step =
        (.ok true, (), munch lexing [c]) ∨
      (classify length c).on () lexing.opened.step = (.ok false, (), lexing.opened.step) ∧
        munch lexing [c] = lexing.opened.step.reject c := by
  have unfolded : (classify length c).on () lexing.opened.step =
      match symbols.lookup c with
      | some kind => (.ok true, (), lexing.opened.step.emit (some kind) .null)
      | none =>
          if c = '\n' then (.ok true, (), lexing.opened.step.markLine)
          else (.ok (isBlank c), (), lexing.opened.step) := by
    rw [classify, if_neg (by simp [other]), symbol?_eq_lookup]
    cases symbols.lookup c with
    | some kind => rfl
    | none =>
        by_cases feed : c = '\n'
        · simp only [if_pos feed]
          rfl
        · simp only [if_neg feed]
          rfl
  have standsFor := meaning_single other
  rw [unfolded]
  cases symbol : symbols.lookup c with
  | some kind =>
      rw [symbol] at standsFor
      exact .inl (by rw [munch_token standsFor]; rfl)
  | none =>
      rw [symbol] at standsFor
      rw [munch_nothing standsFor, passOver]
      by_cases feed : c = '\n'
      · exact .inl (by simp only [if_pos feed])
      · have blank : isUnknown c = !isBlank c := by
          rw [Bool.eq_iff_iff]
          simp [isUnknown, isBlank, blanks, other, symbol, feed, and_assoc]
        simp only [if_neg feed, blank]
        cases isBlank c with
        | true => exact .inl rfl
        | false => exact .inr ⟨rfl, rfl⟩

theorem on_rounds_run (here : lexing.ahead = run ++ rest) (inhabited : run ≠ [])
    (inside : ∀ d ∈ run, Text.isDigit d = true) (ends : ∀ d ∈ rest.head?, Text.isDigit d = false)
    (enough : run.length ≤ length) (short : run.length ≤ Numeral.digitLimit) :
    (rounds (classify length) (bound + 1)).on () lexing =
      (rounds (classify length) bound).on () (munch lexing run) := by
  cases run with
  | nil => exact absurd rfl inhabited
  | cons c run =>
      have classified := on_classify_digit here inside ends (Nat.le_of_succ_le enough)
      rw [if_neg (Nat.not_lt.mpr short)] at classified
      rw [on_rounds_succ, Lexing.openToken_cons here]
      simp only [classified]

theorem on_rounds_oversized (here : lexing.ahead = run ++ rest) (inhabited : run ≠ [])
    (inside : ∀ d ∈ run, Text.isDigit d = true) (ends : ∀ d ∈ rest.head?, Text.isDigit d = false)
    (enough : run.length ≤ length) (long : Numeral.digitLimit < run.length) :
    (rounds (classify length) (bound + 1)).on () lexing =
      (.error (.oversizedNumeral run.length), (), lexing.opened.steps run.length) := by
  cases run with
  | nil => exact absurd rfl inhabited
  | cons c run =>
      have classified := on_classify_digit here inside ends (Nat.le_of_succ_le enough)
      rw [if_pos long] at classified
      rw [on_rounds_succ, Lexing.openToken_cons here]
      simp only [classified]

theorem on_rounds_single (here : lexing.ahead = c :: rest) (other : Text.isDigit c = false) :
    (rounds (classify length) (bound + 1)).on () lexing =
      (rounds (classify length) bound).on () (munch lexing [c]) := by
  rw [on_rounds_succ, Lexing.openToken_cons here]
  rcases @on_classify_other length lexing c other with
    accepted | ⟨refused, recorded⟩
  · simp only [accepted]
  · simp only [refused, recorded]

/-- The pass has consumed `before` and has `rest` ahead, and both coordinate systems agree
    with that. -/
structure At (lexing : Lexing Kind) (before rest : List Char) : Prop where
  source : lexing.source.toList = before ++ rest
  cursor : lexing.cursor = before.length
  line : lexing.line = lineAfter before
  column : lexing.column = columnAfter before

theorem At.ahead {before : List Char} (here : At lexing before rest) : lexing.ahead = rest := by
  rw [Lexing.ahead, here.source, here.cursor, List.drop_left]

theorem source_munch (lexing : Lexing Kind) (piece : List Char) :
    (munch lexing piece).source = lexing.source := by
  unfold munch passOver
  split
  · rfl
  · split
    · rfl
    · split <;> rfl
  · rfl

theorem cursor_munch (lexing : Lexing Kind) (piece : List Char) :
    (munch lexing piece).cursor = lexing.cursor + piece.length := by
  unfold munch passOver
  split
  · rfl
  · split
    · rfl
    · split <;> rfl
  · rfl

theorem At.munched {before piece : List Char} (here : At lexing before (piece ++ rest))
    (line : (munch lexing piece).line = lineAfter (before ++ piece))
    (column : (munch lexing piece).column = columnAfter (before ++ piece)) :
    At (munch lexing piece) (before ++ piece) rest where
  source := by rw [source_munch, here.source, List.append_assoc]
  cursor := by rw [cursor_munch, here.cursor, List.length_append]
  line := line
  column := column

/-- What a round over a piece adds to the tokens and errors, and where it leads. -/
structure Munched (lexing : Lexing Kind) (before piece rest : List Char) : Prop where
  reached : At (munch lexing piece) (before ++ piece) rest
  tokens : (munch lexing piece).tokens.toList =
    lexing.tokens.toList ++ (tokenOf (before, piece)).toList
  errors : (munch lexing piece).errors.toList =
    lexing.errors.toList ++ (errorOf (before, piece)).toList

/-- No token holds a line feed, and none is an unknown character. -/
theorem token_proper {piece : List Char} {kind : Kind} {literal : Value}
    (standsFor : meaning piece = some (kind, literal)) (before : List Char) :
    '\n' ∉ piece ∧ errorOf (before, piece) = none := by
  cases inside : piece.all Text.isDigit with
  | true =>
      rw [List.all_eq_true] at inside
      refine ⟨fun member => absurd (inside _ member) (by decide), ?_⟩
      unfold errorOf
      split
      case h_1 c single =>
        have digit : Text.isDigit c = true := inside c (by simp_all)
        rw [if_neg (by simp [isUnknown, digit])]
      case h_2 => rfl
  | false =>
      unfold meaning at standsFor
      rw [if_neg (by simp [inside])] at standsFor
      split at standsFor
      case h_1 c =>
        obtain ⟨known, symbol, -⟩ := Option.map_eq_some_iff.mp standsFor
        have noFeed : '\n' ≠ c := by
          rintro rfl
          cases symbol
        exact ⟨by simpa using noFeed, by simp [errorOf, isUnknown, symbol]⟩
      case h_2 => cases standsFor

theorem munched_token {before piece : List Char} (here : At lexing before (piece ++ rest))
    {kind : Kind} {literal : Value} (standsFor : meaning piece = some (kind, literal)) :
    Munched lexing before piece rest := by
  obtain ⟨noFeed, noError⟩ := token_proper standsFor before
  have text := Lexing.lexeme_steps here.ahead
  have taken : munch lexing piece = _ := munch_token standsFor
  refine ⟨here.munched ?_ ?_, ?_, ?_⟩
  · rw [taken, lineAfter_append before noFeed]
    exact here.line
  · rw [taken, columnAfter_append before noFeed, ← here.column]
    rfl
  · rw [taken, tokenOf, standsFor]
    simp only [Lexing.emit, text, Array.toList_push, Option.map_some, Option.toList_some]
    simp [Lexing.steps, Lexing.opened, here.line, here.column, here.cursor]
  · rw [taken, noError]
    simp [Lexing.emit, Lexing.steps, Lexing.opened]

theorem munched_nothing {before : List Char} (here : At lexing before ([c] ++ rest))
    (nothing : meaning [c] = none) : Munched lexing before [c] rest := by
  have taken : munch lexing [c] = _ := munch_nothing nothing
  have noToken : tokenOf (before, [c]) = none := by
    rw [tokenOf, nothing, Option.map_none]
  rw [passOver] at taken
  by_cases feed : c = '\n'
  · subst feed
    rw [if_pos rfl] at taken
    have noError : errorOf (before, ['\n']) = none := by
      simp [errorOf, isUnknown, blanks]
    refine ⟨here.munched ?_ ?_, ?_, ?_⟩
    · rw [taken, lineAfter, List.count_append, ← lineAfter, ← here.line]
      rfl
    · rw [taken, columnAfter, List.reverse_append]
      rfl
    · rw [taken, noToken]
      simp [Lexing.markLine, Lexing.step, Lexing.opened]
    · rw [taken, noError]
      simp [Lexing.markLine, Lexing.step, Lexing.opened]
  · have noFeed : '\n' ∉ [c] := by
      simpa using Ne.symm feed
    rw [if_neg feed] at taken
    refine ⟨here.munched ?_ ?_, ?_, ?_⟩
    · rw [lineAfter_append before noFeed, ← here.line, taken]
      split <;> rfl
    · rw [columnAfter_append before noFeed, ← here.column, taken]
      split <;> rfl
    · rw [noToken, taken]
      split <;> simp [Lexing.reject, Lexing.step, Lexing.opened]
    · rw [taken, errorOf]
      cases unknown : isUnknown c with
      | true => simp [unknown, Lexing.reject, Lexing.step, Lexing.opened, here.line, here.column]
      | false => simp [unknown, Lexing.step, Lexing.opened]

theorem munched_single {before : List Char} (here : At lexing before (c :: rest)) :
    Munched lexing before [c] rest := by
  cases standsFor : meaning [c] with
  | some found => exact munched_token here standsFor
  | none => exact munched_nothing here standsFor

/-- The rounds of a pass come to the end of the text, with the tokens and errors of its
    pieces. -/
def Exhausts (length bound : Nat) (lexing : Lexing Kind) (before rest : List Char) : Prop :=
  ∃ after, (rounds (classify length) bound).on () lexing = (.ok (), (), after) ∧
    At after (before ++ rest) [] ∧
    after.tokens.toList = lexing.tokens.toList ++ tokensIn before rest ∧
    after.errors.toList = lexing.errors.toList ++ errorsIn before rest

theorem Exhausts.cons {before piece : List Char}
    (round : (rounds (classify length) (bound + 1)).on () lexing =
      (rounds (classify length) bound).on () (munch lexing piece))
    (munched : Munched lexing before piece rest) (cut : pieces (piece ++ rest) = piece :: pieces rest)
    (tail : Exhausts length bound (munch lexing piece) (before ++ piece) rest) :
    Exhausts length (bound + 1) lexing before (piece ++ rest) := by
  obtain ⟨after, ran, reached, tokens, errors⟩ := tail
  refine ⟨after, round.trans ran, List.append_assoc .. ▸ reached, ?_, ?_⟩
  · rw [tokens, munched.tokens, tokensIn, tokensIn, cut, placed, List.filterMap_cons]
    cases tokenOf (before, piece) <;> simp
  · rw [errors, munched.errors, errorsIn, errorsIn, cut, placed, List.filterMap_cons]
    cases errorOf (before, piece) <;> simp

theorem exhausts {before : List Char} (here : At lexing before rest)
    (enough : rest.length ≤ bound) (room : rest.length ≤ length)
    (short : ∀ piece ∈ pieces rest, ¬ Oversized piece) :
    Exhausts length bound lexing before rest := by
  induction rest using piecewise generalizing lexing before bound with
  | nil =>
      have done : lexing.openToken = (none, lexing) := Lexing.openToken_nil here.ahead
      refine ⟨lexing, ?_, by simpa using here, (List.append_nil _).symm,
        (List.append_nil _).symm⟩
      cases bound with
      | zero => rfl
      | succ bound => rw [on_rounds_succ, done]
  | run run rest inhabited inside ends ih =>
      have cut := pieces_run_append inside inhabited ends
      have positive := List.length_pos_iff.mpr inhabited
      rw [List.length_append] at enough room
      rw [cut, List.forall_mem_cons] at short
      obtain ⟨proper, short⟩ := short
      obtain ⟨bound, rfl⟩ : ∃ fewer, bound = fewer + 1 := ⟨bound - 1, by omega⟩
      have fits : run.length ≤ Numeral.digitLimit := by
        rw [Oversized, List.all_eq_true, not_and] at proper
        exact Nat.not_lt.mp (proper inside)
      have munched := munched_token here (meaning_run inside)
      exact .cons (on_rounds_run here.ahead inhabited inside ends (by omega) fits) munched cut
        (ih munched.reached (by omega) (by omega) short)
  | single c rest other ih =>
      have cut := pieces_single other rest
      rw [List.length_cons] at enough room
      rw [cut, List.forall_mem_cons] at short
      obtain ⟨bound, rfl⟩ : ∃ fewer, bound = fewer + 1 := ⟨bound - 1, by omega⟩
      have munched := munched_single here
      exact .cons (on_rounds_single here.ahead other) munched cut
        (ih munched.reached (by omega) (by omega) short.2)

theorem overflows {before : List Char} (here : At lexing before rest)
    (enough : rest.length ≤ bound) (room : rest.length ≤ length)
    (long : ∃ piece ∈ pieces rest, Oversized piece) :
    ∃ count after, (rounds (classify length) bound).on () lexing =
      (.error (.oversizedNumeral count), (), after) := by
  induction rest using piecewise generalizing lexing before bound with
  | nil =>
      obtain ⟨piece, member, -⟩ := long
      cases member
  | run run rest inhabited inside ends ih =>
      have positive := List.length_pos_iff.mpr inhabited
      rw [List.length_append] at enough room
      obtain ⟨bound, rfl⟩ : ∃ fewer, bound = fewer + 1 := ⟨bound - 1, by omega⟩
      by_cases tooLong : Numeral.digitLimit < run.length
      · exact ⟨_, _, on_rounds_oversized here.ahead inhabited inside ends (by omega) tooLong⟩
      · obtain ⟨piece, member, oversized⟩ := long
        rw [pieces_run_append inside inhabited ends] at member
        rcases List.mem_cons.mp member with rfl | later
        · exact absurd oversized.2 tooLong
        · have munched := munched_token here (meaning_run inside)
          rw [on_rounds_run here.ahead inhabited inside ends (by omega) (Nat.not_lt.mp tooLong)]
          exact ih munched.reached (by omega) (by omega) ⟨piece, later, oversized⟩
  | single c rest other ih =>
      rw [List.length_cons] at enough room
      obtain ⟨bound, rfl⟩ : ∃ fewer, bound = fewer + 1 := ⟨bound - 1, by omega⟩
      obtain ⟨piece, member, oversized⟩ := long
      rw [pieces_single other] at member
      rcases List.mem_cons.mp member with rfl | later
      · have digit := oversized.1
        simp [other] at digit
      · rw [on_rounds_single here.ahead other]
        exact ih (munched_single here).reached (by omega) (by omega)
          ⟨piece, later, oversized⟩

theorem size_ofSource (source : String) :
    (Lexing.ofSource source : Lexing Kind).source.size = source.length := by
  rw [Lexing.ofSource, List.size_toArray, String.length_toList]

theorem at_restart (source : String) :
    At (Lexing.ofSource source : Lexing Kind).restart [] source.toList where
  source := by simp [Lexing.restart, Lexing.ofSource]
  cursor := rfl
  line := rfl
  column := rfl

theorem lex_of_short {source : String}
    (short : ∀ piece ∈ pieces source.toList, ¬ Oversized piece) :
    (lex source).1 = .ok (lexedAs source.toList) := by
  have room : source.toList.length ≤ source.length := String.length_toList.le
  obtain ⟨after, ran, reached, tokens, errors⟩ :=
    exhausts (at_restart source) room room short
  have closed : after.close.1 = lexedAs source.toList := by
    have outcome : after.tokens = (tokensIn [] source.toList).toArray ∧
        after.errors = (errorsIn [] source.toList).toArray :=
      ⟨Array.ext' tokens, Array.ext' errors⟩
    rw [Lexing.close, lexedAs, outcome.1, outcome.2, reached.line, reached.column,
      reached.cursor, List.nil_append]
  rw [lex, on_scan, size_ofSource, ran, ← closed]

theorem lex_of_long {source : String} (long : ∃ piece ∈ pieces source.toList, Oversized piece) :
    ∃ count, (lex source).1 = .error (.oversizedNumeral count) := by
  have room : source.toList.length ≤ source.length := String.length_toList.le
  obtain ⟨count, after, ran⟩ := overflows (at_restart source) room room long
  exact ⟨count, by rw [lex, on_scan, size_ofSource, ran]⟩

/-- A pass over an arithmetic text is refused just when the text has too many digits in a
    row. Every other text is cut into its pieces, and its tokens and errors are what the
    pieces stand for. -/
theorem lex_cuts_pieces (source : String) :
    ((∃ count, (lex source).1 = .error (.oversizedNumeral count)) ↔
      ∃ run, run <:+: source.toList ∧ run.all Text.isDigit = true ∧
        Numeral.digitLimit < run.length) ∧
    ((¬ ∃ run, run <:+: source.toList ∧ run.all Text.isDigit = true ∧
        Numeral.digitLimit < run.length) →
      (lex source).1 = .ok (lexedAs source.toList)) := by
  have short : (¬ ∃ piece ∈ pieces source.toList, Oversized piece) →
      (lex source).1 = .ok (lexedAs source.toList) := by
    intro none
    apply lex_of_short
    intro piece member tooLong
    exact none ⟨piece, member, tooLong⟩
  rw [← exists_oversized_iff]
  refine ⟨⟨?_, lex_of_long⟩, short⟩
  rintro ⟨count, refused⟩
  by_contra none
  rw [short none] at refused
  cases refused

end FrontEnd.Arithmetic
