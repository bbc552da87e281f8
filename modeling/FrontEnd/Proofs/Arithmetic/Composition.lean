import FrontEnd.Proofs.Arithmetic.Analysis
import FrontEnd.Proofs.Arithmetic.Contents

/-!
# Texts one after the other

The tokens and errors of a text behind another one are its own, shifted: offsets by the
length of the text before it, lines by the line feeds of that text, and columns, on the
first line only, by the length of the line that the text before it has begun. So a pass
over two texts can be put together from a pass over each of them, unless a run of digits
goes on over the cut.
-/

namespace FrontEnd.Arithmetic

variable {before left right text : List Char}

/-- A column of some line, when the first line continues the last one of `before`. -/
def shiftColumn (before : List Char) (line column : Int) : Int :=
  if line = 0 then column + columnAfter before else column

def shiftToken (before : List Char) (token : Token Kind) : Token Kind :=
  { token with
    line := token.line + lineAfter before
    start := shiftColumn before token.line token.start
    stop := shiftColumn before token.line token.stop
    offset := token.offset + before.length }

def shiftError (before : List Char) (error : LexicalError) : LexicalError :=
  { error with
    line := error.line + lineAfter before
    start := shiftColumn before error.line error.start
    stop := shiftColumn before error.line error.stop }

theorem shiftColumn_columnAfter (before text : List Char) (further : Int) :
    shiftColumn before (lineAfter text) (columnAfter text + further) =
      columnAfter (before ++ text) + further := by
  rw [shiftColumn, columnAfter_concat]
  by_cases line : lineAfter text = 0
  · simp [line]
    omega
  · simp [line]

theorem shiftColumn_start (before text : List Char) :
    shiftColumn before (lineAfter text) (columnAfter text) = columnAfter (before ++ text) := by
  simpa using shiftColumn_columnAfter before text 0

theorem lineAfter_shifted (before text : List Char) :
    (lineAfter text + lineAfter before : Int) = lineAfter (before ++ text) := by
  rw [lineAfter_concat]
  omega

theorem length_shifted (before text : List Char) :
    (text.length + before.length : Int) = (before ++ text).length := by
  rw [List.length_append]
  omega

theorem shiftToken_endOfStream (before text : List Char) :
    shiftToken before (.endOfStream (lineAfter text) (columnAfter text) text.length) =
      .endOfStream (lineAfter (before ++ text)) (columnAfter (before ++ text))
        (before ++ text).length := by
  simp only [shiftToken, Token.endOfStream, shiftColumn_start, lineAfter_shifted, length_shifted]

theorem tokenOf_behind (before : List Char) (place : List Char × List Char) :
    tokenOf (before ++ place.1, place.2) = (tokenOf place).map (shiftToken before) := by
  obtain ⟨text, piece⟩ := place
  cases standsFor : meaning piece with
  | none => simp [tokenOf, standsFor]
  | some found =>
      simp only [tokenOf, standsFor, Option.map_some, shiftToken, shiftColumn_start,
        shiftColumn_columnAfter, lineAfter_shifted, length_shifted]

theorem errorOf_behind (before : List Char) (place : List Char × List Char) :
    errorOf (before ++ place.1, place.2) = (errorOf place).map (shiftError before) := by
  obtain ⟨text, piece⟩ := place
  rcases piece with _ | ⟨c, _ | ⟨d, rest⟩⟩
  · rfl
  · cases unknown : isUnknown c with
    | false => simp [errorOf, unknown]
    | true =>
        simp [errorOf, unknown, shiftError, LexicalError.unknownCharacter, shiftColumn_start,
          shiftColumn_columnAfter, lineAfter_shifted]
  · rfl

theorem placed_behind (before text : List Char) (cut : List (List Char)) :
    placed (before ++ text) cut =
      (placed text cut).map fun place => (before ++ place.1, place.2) := by
  induction cut generalizing text with
  | nil => rfl
  | cons piece cut ih => simp [placed, ← ih]

theorem tokensIn_behind (before text : List Char) :
    tokensIn before text = (tokensIn [] text).map (shiftToken before) := by
  have places := placed_behind before [] (pieces text)
  rw [List.append_nil] at places
  simp only [tokensIn, places, List.filterMap_map, List.map_filterMap]
  exact List.filterMap_congr fun place _ => tokenOf_behind before place

theorem errorsIn_behind (before text : List Char) :
    errorsIn before text = (errorsIn [] text).map (shiftError before) := by
  have places := placed_behind before [] (pieces text)
  rw [List.append_nil] at places
  simp only [errorsIn, places, List.filterMap_map, List.map_filterMap]
  exact List.filterMap_congr fun place _ => errorOf_behind before place

theorem tokensIn_append (apart : ¬ Fuses left right) (before : List Char) :
    tokensIn before (left ++ right) = tokensIn before left ++ tokensIn (before ++ left) right := by
  simp [tokensIn, pieces_append_of_apart apart, placed_append, flatten_pieces]

theorem errorsIn_append (apart : ¬ Fuses left right) (before : List Char) :
    errorsIn before (left ++ right) = errorsIn before left ++ errorsIn (before ++ left) right := by
  simp [errorsIn, pieces_append_of_apart apart, placed_append, flatten_pieces]

/-- The tokens of an outcome that are no end tokens. -/
def properTokens (lexed : Lexed Kind) : List (Token Kind) :=
  lexed.tokens.toList.filter fun token => !token.isEnd

theorem properTokens_lexedAs (text : List Char) :
    properTokens (lexedAs text) = tokensIn [] text := by
  have proper : ∀ token ∈ tokensIn [] text, (!token.isEnd) = true := by
    intro token member
    simp [isEnd_of_mem_tokensIn member]
  rw [properTokens, toList_tokens_lexedAs, List.filter_append, List.filter_eq_self.mpr proper]
  simp

theorem tokens_lexedAs_append (apart : ¬ Fuses left right) :
    (lexedAs (left ++ right)).tokens.toList =
      properTokens (lexedAs left) ++ (lexedAs right).tokens.toList.map (shiftToken left) := by
  rw [properTokens_lexedAs, toList_tokens_lexedAs, toList_tokens_lexedAs, tokensIn_append apart,
    List.nil_append, tokensIn_behind left, List.map_append, List.map_singleton,
    shiftToken_endOfStream, List.append_assoc]

theorem errors_lexedAs_append (apart : ¬ Fuses left right) :
    (lexedAs (left ++ right)).errors.toList =
      (lexedAs left).errors.toList ++ (lexedAs right).errors.toList.map (shiftError left) := by
  simp only [lexedAs]
  rw [errorsIn_append apart, List.nil_append, errorsIn_behind left]

theorem length_properTokens_fused (fuses : Fuses left right) :
    (properTokens (lexedAs (left ++ right))).length + 1 =
      (properTokens (lexedAs left)).length + (properTokens (lexedAs right)).length := by
  simpa [properTokens_lexedAs, length_tokensIn] using length_contents_fused fuses

/-- A pass over two texts, one after the other, finds what a pass over the first one finds, and
    behind it, shifted, what a pass over the second one finds. If the first text ends and the
    second one begins with a digit, the two numbers at the cut become one token. -/
theorem lex_append (left right : String) (fits : DigitsFit (left ++ right).toList) :
    ∃ first second whole, (lex left).1 = .ok first ∧ (lex right).1 = .ok second ∧
      (lex (left ++ right)).1 = .ok whole ∧
      (¬ Fuses left.toList right.toList →
        whole.tokens.toList =
            properTokens first ++ second.tokens.toList.map (shiftToken left.toList) ∧
          whole.errors.toList =
            first.errors.toList ++ second.errors.toList.map (shiftError left.toList)) ∧
      (Fuses left.toList right.toList →
        (properTokens whole).length + 1 =
          (properTokens first).length + (properTokens second).length) := by
  have split : (left ++ right).toList = left.toList ++ right.toList := String.toList_append
  have whole := lex_of_short fits.not_oversized
  rw [split] at fits whole
  have first := lex_of_short (fits.of_infix (List.prefix_append ..).isInfix).not_oversized
  have second := lex_of_short (fits.of_infix (List.suffix_append ..).isInfix).not_oversized
  refine ⟨_, _, _, first, second, whole, ?_, length_properTokens_fused⟩
  intro apart
  exact ⟨tokens_lexedAs_append apart, errors_lexedAs_append apart⟩

/-- The second text begins in the middle of a line. What it has on its own first line moves to
    the right, and all of it moves down. -/
theorem lex_append_within_line :
    let left := "1\n(#"
    let right := "2$\n)"
    DigitsFit (left ++ right).toList ∧
    ∃ first second whole, (lex left).1 = .ok first ∧ (lex right).1 = .ok second ∧
      (lex (left ++ right)).1 = .ok whole ∧
      whole.tokens.toList =
        properTokens first ++ second.tokens.toList.map (shiftToken left.toList) ∧
      whole.errors.toList =
        first.errors.toList ++ second.errors.toList.map (shiftError left.toList) ∧
      (whole.tokens.toList.map fun token => (token.line, token.start)) =
        [(0, 0), (1, 0), (1, 2), (2, 0), (2, 1)] ∧
      (whole.errors.toList.map fun error => (error.line, error.start)) = [(1, 1), (1, 3)] := by
  intro left right
  have fits : DigitsFit (left ++ right).toList := DigitsFit.of_short (by decide)
  have apart : ¬ Fuses left.toList right.toList := by decide
  obtain ⟨first, second, whole, ran, ran', joined, parts, -⟩ := lex_append left right fits
  have places : ((lex (left ++ right)).1.toOption.map fun lexed =>
      (lexed.tokens.toList.map fun token => (token.line, token.start),
        lexed.errors.toList.map fun error => (error.line, error.start))) =
      some ([(0, 0), (1, 0), (1, 2), (2, 0), (2, 1)], [(1, 1), (1, 3)]) := by decide +kernel
  rw [joined] at places
  obtain ⟨ofTokens, ofErrors⟩ := Prod.mk.inj (Option.some.inj places)
  exact ⟨fits, first, second, whole, ran, ran', joined, (parts apart).1, (parts apart).2, ofTokens,
    ofErrors⟩

end FrontEnd.Arithmetic
