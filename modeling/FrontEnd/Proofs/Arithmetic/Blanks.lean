import FrontEnd.Proofs.Arithmetic.Composition
import FrontEnd.Proofs.Arithmetic.Placement
import FrontEnd.Proofs.Arithmetic.UnknownCharacters

/-!
# Blanks in a text

Blanks that are put between two texts move what is behind them and change nothing else, unless
they part two numbers that would be one. So both grammars give the same trees for a text with
and without them, and report the same errors, at the same tokens.
-/

namespace FrontEnd.Arithmetic

variable {front gap back : List Char} {token : Token Kind} {c : Char}

def Blank (text : List Char) : Prop := ∀ c ∈ text, c ∈ blanks

theorem of_mem_blanks (blank : c ∈ blanks) :
    Text.isDigit c = false ∧ symbols.lookup c = none ∧ isUnknown c = false := by
  simp only [blanks, List.mem_cons, List.not_mem_nil, or_false] at blank
  rcases blank with rfl | rfl | rfl | rfl <;> exact ⟨rfl, rfl, rfl⟩

theorem contents_blank (blank : Blank gap) : contents gap = [] := by
  induction gap with
  | nil => rfl
  | cons c gap ih =>
      obtain ⟨first, blank⟩ := List.forall_mem_cons.mp blank
      obtain ⟨other, noSymbol, -⟩ := of_mem_blanks first
      rw [contents_cons other, contents_single other noSymbol, ih blank, List.nil_append]

theorem tokensIn_blank (blank : Blank gap) (before : List Char) : tokensIn before gap = [] := by
  rw [← List.length_eq_zero_iff, length_tokensIn, contents_blank blank, List.length_nil]

theorem errorsIn_blank (blank : Blank gap) (before : List Char) : errorsIn before gap = [] := by
  rw [← List.length_eq_zero_iff, length_errorsIn, List.countP_eq_zero]
  intro c member
  simp [of_mem_blanks (blank c member)]

theorem not_startsWithDigit_blank (blank : Blank gap) : ¬ StartsWithDigit gap := by
  rintro ⟨c, first, digit⟩
  simp [of_mem_blanks (blank c (List.mem_of_head? first))] at digit

theorem not_endsInDigit_blank (blank : Blank gap) : ¬ EndsInDigit gap := by
  rintro ⟨c, last, digit⟩
  simp [of_mem_blanks (blank c (List.mem_of_getLast? last))] at digit

theorem not_fuses_blank (blank : Blank gap) : ¬ Fuses front gap :=
  fun fuses => not_startsWithDigit_blank blank fuses.2

theorem not_fuses_gap (blank : Blank gap) (apart : ¬ Fuses front back) :
    ¬ Fuses (front ++ gap) back := by
  rintro ⟨ends, starts⟩
  by_cases empty : gap = []
  · simp_all [Fuses]
  · exact not_endsInDigit_blank blank (endsInDigit_of_append ends empty)

theorem tokensIn_append_blank (blank : Blank gap) (before front : List Char) :
    tokensIn before (front ++ gap) = tokensIn before front := by
  rw [tokensIn_append (not_fuses_blank blank), tokensIn_blank blank, List.append_nil]

theorem errorsIn_append_blank (blank : Blank gap) (before front : List Char) :
    errorsIn before (front ++ gap) = errorsIn before front := by
  rw [errorsIn_append (not_fuses_blank blank), errorsIn_blank blank, List.append_nil]

theorem not_oversized_blank (blank : Blank gap) : ∀ piece ∈ pieces gap, ¬ Oversized piece := by
  rintro piece member ⟨digits, long⟩
  obtain ⟨c, rest, rfl⟩ : ∃ c rest, piece = c :: rest :=
    List.exists_cons_of_length_pos (Nat.zero_lt_of_lt long)
  have inside : c ∈ gap := by
    rw [← flatten_pieces gap]
    exact List.mem_flatten.mpr ⟨_, member, List.mem_cons_self⟩
  simp [of_mem_blanks (blank c inside)] at digits

theorem not_oversized_gap (blank : Blank gap) (apart : ¬ Fuses front back)
    (fits : DigitsFit (front ++ back)) :
    ∀ piece ∈ pieces (front ++ gap ++ back), ¬ Oversized piece := by
  have within := fits.not_oversized
  rw [pieces_append_of_apart apart] at within
  rw [pieces_append_of_apart (not_fuses_gap blank apart),
    pieces_append_of_apart (not_fuses_blank blank)]
  obtain ⟨inFront, inBack⟩ := List.forall_mem_append.mp within
  simpa [or_imp, forall_and] using ⟨inFront, not_oversized_blank blank, inBack⟩

/-- The place of a token of two texts when there is a gap between them. -/
def pushToken (front gap : List Char) (token : Token Kind) : Token Kind :=
  if token.offset < front.length then token
  else
    -- Only the rest of the line in which the gap begins moves sideways.
    let columns : Int :=
      if token.line = lineAfter front then columnAfter (front ++ gap) - columnAfter front else 0
    { token with
      line := token.line + lineAfter gap
      start := token.start + columns
      stop := token.stop + columns
      offset := token.offset + gap.length }

theorem pushToken_moves (front gap : List Char) : Moves (pushToken front gap) where
  kind token := by unfold pushToken; split <;> rfl
  literal token := by unfold pushToken; split <;> rfl

theorem pushToken_shifted (inside : 0 ≤ token.offset) :
    pushToken front gap (shiftToken front token) = shiftToken (front ++ gap) token := by
  have behind : ¬ (shiftToken front token).offset < front.length := by
    simp [shiftToken]
    omega
  rw [pushToken, if_neg behind]
  by_cases line : token.line = 0
  · simp [line, shiftToken, shiftColumn, lineAfter_concat]
    omega
  · simp [line, shiftToken, shiftColumn, lineAfter_concat]
    omega

theorem offset_of_mem_tokensIn (member : token ∈ tokensIn [] front) :
    0 ≤ token.offset ∧ token.offset < front.length := by
  obtain ⟨before, piece, after, rfl, inhabited, -, found⟩ := exists_place_of_mem_tokensIn member
  obtain ⟨standsFor, -, rfl⟩ := Option.map_eq_some_iff.mp found
  have positive := List.length_pos_iff.mpr inhabited
  simp
  omega

theorem offset_nonneg (member : token ∈ (lexedAs back).tokens.toList) : 0 ≤ token.offset := by
  rw [toList_tokens_lexedAs, List.mem_append, List.mem_singleton] at member
  rcases member with within | rfl
  · exact (offset_of_mem_tokensIn within).1
  · exact Int.natCast_nonneg back.length

theorem tokens_lexedAs_gap (blank : Blank gap) (apart : ¬ Fuses front back) :
    (lexedAs (front ++ gap ++ back)).tokens.toList =
      (lexedAs (front ++ back)).tokens.toList.map (pushToken front gap) := by
  have kept : ∀ token ∈ tokensIn [] front, pushToken front gap token = token :=
    fun token member => if_pos (offset_of_mem_tokensIn member).2
  have pushed : ∀ token ∈ (lexedAs back).tokens.toList,
      shiftToken (front ++ gap) token = pushToken front gap (shiftToken front token) :=
    fun token member => (pushToken_shifted (offset_nonneg member)).symm
  rw [tokens_lexedAs_append apart, tokens_lexedAs_append (not_fuses_gap blank apart),
    properTokens_lexedAs, properTokens_lexedAs, tokensIn_append_blank blank, List.map_append,
    List.map_map, List.map_congr_left pushed, List.map_congr_left kept, List.map_id']
  rfl

theorem messages_lexedAs_gap (blank : Blank gap) (apart : ¬ Fuses front back) :
    (lexedAs (front ++ gap ++ back)).errors.toList.map LexicalError.message =
      (lexedAs (front ++ back)).errors.toList.map LexicalError.message := by
  have same : (lexedAs (front ++ gap)).errors = (lexedAs front).errors := by
    simp only [lexedAs, errorsIn_append_blank blank]
  rw [errors_lexedAs_append apart, errors_lexedAs_append (not_fuses_gap blank apart), same]
  simp [shiftError]

/-- An error and what becomes of it when there is a gap behind `front`. -/
structure Displaced (front gap : List Char) (error moved : SyntaxError Kind) : Prop where
  message : moved.message = error.message
  code : moved.code = error.code
  kind : moved.token.kind = error.token.kind
  lexeme : moved.token.lexeme = error.token.lexeme
  literal : moved.token.literal = error.token.literal
  offset : moved.token.offset =
    if error.token.offset < front.length then error.token.offset
    else error.token.offset + gap.length

theorem displaced_moveError (front gap : List Char) (error : SyntaxError Kind) :
    Displaced front gap error (moveError (pushToken front gap) error) := by
  constructor <;> by_cases before : error.token.offset < front.length <;>
    simp [moveError, pushToken, before]

/-- Two analyses that differ in nothing but what a gap behind `front` moves. -/
structure AgreeUpToGap {α : Type} (front gap : List Char) (one two : Analysis α) : Prop where
  ast : two.parsed.ast = one.parsed.ast
  lexical : two.lexed.errors.toList.map LexicalError.message =
    one.lexed.errors.toList.map LexicalError.message
  syntactic : List.Forall₂ (Displaced front gap) one.parsed.errors.toList two.parsed.errors.toList

theorem analyses_agree {α : Type} {root : Nat → Rule α} (ignores : IgnoresPlaces root)
    {front gap back : String} (blank : Blank gap.toList)
    (apart : ¬ Fuses front.toList back.toList) (fits : DigitsFit (front ++ back).toList) :
    ∃ one two, (analyse root (front ++ back)).1 = .ok one ∧
      (analyse root (front ++ gap ++ back)).1 = .ok two ∧
      AgreeUpToGap front.toList gap.toList one two := by
  have short := fits.not_oversized
  have short' : ∀ piece ∈ pieces (front ++ gap ++ back).toList, ¬ Oversized piece := by
    simp only [String.toList_append] at fits ⊢
    exact not_oversized_gap blank apart fits
  obtain ⟨parsing, tokens, analysed⟩ := analyse_of_short root short
  obtain ⟨moved, tokens', analysed'⟩ := analyse_of_short root short'
  have same : moved.tokens.toList =
      parsing.tokens.toList.map (pushToken front.toList gap.toList) := by
    rw [tokens, tokens']
    simpa only [String.toList_append] using tokens_lexedAs_gap blank apart
  obtain ⟨parsed, ran, ran'⟩ := ignores (pushToken_moves _ _) same
  rw [ran] at analysed
  rw [ran'] at analysed'
  refine ⟨_, _, analysed, analysed', rfl, ?_, ?_⟩
  · simpa only [String.toList_append] using messages_lexedAs_gap blank apart
  · simpa [moveParsed, List.forall₂_map_right_iff, List.forall₂_same] using
      fun error _ => displaced_moveError front.toList gap.toList error

/-- Blanks that do not part a number change nothing that either grammar says of a text, apart
    from the places of the tokens behind them. -/
theorem analyse_gap (front gap back : String) (blank : Blank gap.toList)
    (apart : ¬ Fuses front.toList back.toList) (fits : DigitsFit (front ++ back).toList) :
    (∃ one two, (analyse entry (front ++ back)).1 = .ok one ∧
      (analyse entry (front ++ gap ++ back)).1 = .ok two ∧
      AgreeUpToGap front.toList gap.toList one two) ∧
    ∃ one two, (analyse entries (front ++ back)).1 = .ok one ∧
      (analyse entries (front ++ gap ++ back)).1 = .ok two ∧
      AgreeUpToGap front.toList gap.toList one two :=
  ⟨analyses_agree entry_ignoresPlaces blank apart fits,
    analyses_agree entries_ignoresPlaces blank apart fits⟩

/-- The gap ends a line. The error behind it moves to the next one, and stays an error for the
    same token. -/
theorem analyse_gap_line :
    let front := "1#+"
    let gap := " \n"
    let back := "2)"
    Blank gap.toList ∧ ¬ Fuses front.toList back.toList ∧ DigitsFit (front ++ back).toList ∧
    (∃ one two, (analyse entry (front ++ back)).1 = .ok one ∧
      (analyse entry (front ++ gap ++ back)).1 = .ok two ∧
      AgreeUpToGap front.toList gap.toList one two ∧
      (one.parsed.errors.toList.map fun error => error.token.offset) = [4] ∧
      (two.parsed.errors.toList.map fun error => error.token.offset) = [6]) ∧
    ∃ one two, (analyse entries (front ++ back)).1 = .ok one ∧
      (analyse entries (front ++ gap ++ back)).1 = .ok two ∧
      AgreeUpToGap front.toList gap.toList one two ∧
      two.parsed.ast = some #[.add (.number (.int 1)) (.number (.int 2))] := by
  intro front gap back
  have blank : Blank gap.toList := by simp [gap, Blank, blanks]
  have apart : ¬ Fuses front.toList back.toList := by decide
  have fits : DigitsFit (front ++ back).toList := DigitsFit.of_short (by decide)
  obtain ⟨⟨one, two, ran, ran', agree⟩, many, manyMoved, ranMany, ranMany', agree'⟩ :=
    analyse_gap front gap back blank apart fits
  have offset : ((analyse entry (front ++ back)).1.toOption.map fun analysis =>
      analysis.parsed.errors.toList.map fun error => error.token.offset) = some [4] := by
    decide +kernel
  have offset' : ((analyse entry (front ++ gap ++ back)).1.toOption.map fun analysis =>
      analysis.parsed.errors.toList.map fun error => error.token.offset) = some [6] := by
    decide +kernel
  have list : ((analyse entries (front ++ gap ++ back)).1.toOption.map fun analysis =>
      analysis.parsed.ast) = some (some #[.add (.number (.int 1)) (.number (.int 2))]) := by
    decide +kernel
  rw [ran] at offset
  rw [ran'] at offset'
  rw [ranMany'] at list
  exact ⟨blank, apart, fits,
    ⟨one, two, ran, ran', agree, Option.some.inj offset, Option.some.inj offset'⟩,
    many, manyMoved, ranMany, ranMany', agree', Option.some.inj list⟩

end FrontEnd.Arithmetic
