import FrontEnd.Arithmetic.Kind
import FrontEnd.Lexing.Basic
import FrontEnd.Numeral
import Mathlib.Data.List.SplitBy
import Mathlib.Data.List.TakeWhile

/-!
# The pieces of a text

A text falls into its longest runs of digits and single other characters. `lexedAs`
says what each piece stands for, with a place that is counted in the text before the
piece: a token, an unknown character, or nothing. This is what a lexical pass is
compared with; it knows no cursor and no state.
-/

namespace FrontEnd.Arithmetic

def bothDigits (left right : Char) : Bool := Text.isDigit left && Text.isDigit right

/-- The longest runs of digits and the single other characters of a text, in order. -/
def pieces (text : List Char) : List (List Char) := text.splitBy bothDigits

/-- Pieces, each with the text before it. -/
def placed (before : List Char) : List (List Char) → List (List Char × List Char)
  | [] => []
  | piece :: rest => (before, piece) :: placed (before ++ piece) rest

/-- The number of line feeds in a text. -/
def lineAfter (before : List Char) : Nat := before.count '\n'

/-- The number of characters after the last line feed of a text. -/
def columnAfter (before : List Char) : Nat := (before.reverse.takeWhile (· != '\n')).length

/-- The characters that are tokens of their own. -/
def symbols : List (Char × Kind) :=
  [('+', .plus), ('-', .minus), ('(', .leftParen), (')', .rightParen)]

def blanks : List Char := [' ', '\t', '\r', '\n']

/-- The kind and the literal of a piece: a run of digits is a number with its decimal
    value, and a symbol has no literal. -/
def meaning (piece : List Char) : Option (Kind × Value) :=
  if piece.all Text.isDigit then some (.number, .int (Nat.ofDigitChars 10 piece 0))
  else match piece with
    | [c] => (symbols.lookup c).map fun kind => (kind, .null)
    | _ => none

/-- The token of a piece, if it is one. -/
def tokenOf (place : List Char × List Char) : Option (Token Kind) :=
  (meaning place.2).map fun (kind, literal) =>
    { kind := some kind
      lexeme := some (String.ofList place.2)
      literal := literal
      line := lineAfter place.1
      start := columnAfter place.1
      stop := columnAfter place.1 + place.2.length
      offset := place.1.length }

/-- Whether a character belongs to no arithmetic text. -/
def isUnknown (c : Char) : Bool :=
  !Text.isDigit c && (symbols.lookup c).isNone && !blanks.contains c

/-- The error of a piece, if it is an unknown character. -/
def errorOf (place : List Char × List Char) : Option LexicalError :=
  match place.2 with
  | [c] =>
      if isUnknown c then
        some (.unknownCharacter c (lineAfter place.1) (columnAfter place.1)
          (columnAfter place.1 + 1))
      else none
  | _ => none

/-- Whether a piece is a run of digits that is too long to be converted. -/
def Oversized (piece : List Char) : Prop :=
  piece.all Text.isDigit = true ∧ Numeral.digitLimit < piece.length

/-- The tokens of a text that stands after `before`. -/
def tokensIn (before text : List Char) : List (Token Kind) :=
  (placed before (pieces text)).filterMap tokenOf

/-- The errors of a text that stands after `before`. -/
def errorsIn (before text : List Char) : List LexicalError :=
  (placed before (pieces text)).filterMap errorOf

/-- The tokens of a whole text, with an end token behind them, and its errors. -/
def lexedAs (text : List Char) : Lexed Kind where
  tokens := (tokensIn [] text).toArray.push
    (.endOfStream (lineAfter text) (columnAfter text) text.length)
  errors := (errorsIn [] text).toArray

theorem flatten_pieces (text : List Char) : (pieces text).flatten = text :=
  List.flatten_splitBy bothDigits text

/-- A cut between two characters that are not both digits is a cut between pieces. -/
theorem pieces_append {left right : List Char}
    (apart : ∀ a ∈ left.getLast?, ∀ b ∈ right.head?, bothDigits a b = false) :
    pieces (left ++ right) = pieces left ++ pieces right :=
  List.splitBy_append apart

theorem pieces_run {run : List Char} (digits : ∀ c ∈ run, Text.isDigit c = true)
    (inhabited : run ≠ []) : pieces run = [run] := by
  refine List.splitBy_of_isChain inhabited (List.Pairwise.isChain ?_)
  rw [List.pairwise_iff_forall_sublist]
  intro a b pair
  have both := pair.subset
  simp [bothDigits, digits a (both (by simp)), digits b (both (by simp))]

theorem pieces_run_append {run rest : List Char} (digits : ∀ c ∈ run, Text.isDigit c = true)
    (inhabited : run ≠ []) (ends : ∀ c ∈ rest.head?, Text.isDigit c = false) :
    pieces (run ++ rest) = run :: pieces rest := by
  rw [pieces_append, pieces_run digits inhabited, List.singleton_append]
  intro a _ b next
  simp [bothDigits, ends b next]

theorem pieces_single {c : Char} (other : Text.isDigit c = false) (rest : List Char) :
    pieces (c :: rest) = [c] :: pieces rest := by
  have apart : ∀ a ∈ [c].getLast?, ∀ b ∈ rest.head?, bothDigits a b = false := by
    intro a last b _
    obtain rfl : c = a := by simpa using last
    simp [bothDigits, other]
  have single : pieces [c] = [[c]] := List.splitBy_of_isChain (by simp) (by simp)
  rw [← List.singleton_append, pieces_append apart, single, List.singleton_append]

@[elab_as_elim]
theorem piecewise {motive : List Char → Prop} (nil : motive [])
    (run : ∀ run rest, run ≠ [] → (∀ c ∈ run, Text.isDigit c = true) →
      (∀ c ∈ rest.head?, Text.isDigit c = false) → motive rest → motive (run ++ rest))
    (single : ∀ c rest, Text.isDigit c = false → motive rest → motive (c :: rest))
    (text : List Char) : motive text := by
  induction counted : text.length using Nat.strong_induction_on generalizing text with
  | _ size ih =>
      cases text with
      | nil => exact nil
      | cons c rest =>
          cases digit : Text.isDigit c with
          | false => exact single c rest digit (ih rest.length (by simp [← counted]) rest rfl)
          | true =>
              have here : rest.takeWhile Text.isDigit ++ rest.dropWhile Text.isDigit = rest :=
                List.takeWhile_append_dropWhile
              have shorter : (rest.dropWhile Text.isDigit).length < size := by
                have fewer := (List.dropWhile_sublist Text.isDigit (l := rest)).length_le
                rw [List.length_cons] at counted
                omega
              have ends : ∀ d ∈ (rest.dropWhile Text.isDigit).head?, Text.isDigit d = false := by
                intro d next
                have boundary := List.head?_dropWhile_not Text.isDigit rest
                rw [next] at boundary
                simpa using boundary
              have digits : ∀ d ∈ c :: rest.takeWhile Text.isDigit, Text.isDigit d = true := by
                simpa [digit] using fun d member => List.mem_takeWhile_imp member
              have tail := ih _ shorter _ rfl
              have whole := run _ _ (List.cons_ne_nil c _) digits ends tail
              rwa [List.cons_append, here] at whole

theorem placed_append (before : List Char) (first second : List (List Char)) :
    placed before (first ++ second) =
      placed before first ++ placed (before ++ first.flatten) second := by
  induction first generalizing before with
  | nil => simp [placed]
  | cons piece first ih => simp [placed, ih]

theorem mem_of_mem_placed {before : List Char} {cut : List (List Char)}
    {place : List Char × List Char} (member : place ∈ placed before cut) : place.2 ∈ cut := by
  induction cut generalizing before with
  | nil => cases member
  | cons piece cut ih =>
      rcases List.mem_cons.mp member with rfl | later
      · exact List.mem_cons_self
      · exact List.mem_cons_of_mem _ (ih later)

theorem pieces_around {c : Char} (other : Text.isDigit c = false) (left right : List Char) :
    pieces (left ++ c :: right) = pieces left ++ [c] :: pieces right := by
  rw [pieces_append, pieces_single other]
  intro a _ b next
  obtain rfl : c = b := by simpa using next
  simp [bothDigits, other]

theorem placed_around {c : Char} (other : Text.isDigit c = false)
    (before left right : List Char) :
    placed before (pieces (left ++ c :: right)) =
      placed before (pieces left) ++
        (before ++ left, [c]) :: placed (before ++ left ++ [c]) (pieces right) := by
  rw [pieces_around other, placed_append, flatten_pieces, placed]

/-- A run of digits does not reach over the end of a piece. -/
theorem infix_of_infix_append {run rest long : List Char}
    (ends : ∀ c ∈ rest.head?, Text.isDigit c = false)
    (digits : ∀ c ∈ long, Text.isDigit c = true) (inside : long <:+: run ++ rest) :
    long <:+: run ∨ long <:+: rest := by
  rcases List.infix_append_iff.mp inside with
    inRun | inRest | ⟨first, second, rfl, begins, goesOn⟩
  · exact .inl inRun
  · exact .inr inRest
  · cases second with
    | nil => exact .inl (by simpa using begins.isInfix)
    | cons c second =>
        obtain ⟨more, rfl⟩ := goesOn
        have digit := digits c (by simp)
        simp [ends c (by simp)] at digit

theorem exists_oversized_iff (text : List Char) :
    (∃ piece ∈ pieces text, Oversized piece) ↔
      ∃ run, run <:+: text ∧ run.all Text.isDigit = true ∧ Numeral.digitLimit < run.length := by
  constructor
  · rintro ⟨piece, member, digits, long⟩
    refine ⟨piece, ?_, digits, long⟩
    rw [← flatten_pieces text]
    exact List.infix_of_mem_flatten member
  · rintro ⟨long, inside, digits, size⟩
    induction text using piecewise with
    | nil =>
        rw [List.infix_nil] at inside
        simp [inside] at size
    | run run rest inhabited runDigits ends ih =>
        rw [pieces_run_append runDigits inhabited ends]
        rcases infix_of_infix_append ends (by simpa using digits) inside with
          inRun | inRest
        · refine ⟨run, List.mem_cons_self, by simpa using runDigits, ?_⟩
          exact Nat.lt_of_lt_of_le size inRun.length_le
        · obtain ⟨piece, member, tooLong⟩ := ih inRest
          exact ⟨piece, List.mem_cons_of_mem _ member, tooLong⟩
    | single c rest other ih =>
        rw [pieces_single other]
        rcases List.infix_cons_iff.mp inside with begins | inRest
        · cases long with
          | nil => simp at size
          | cons d long =>
              obtain ⟨rfl, -⟩ := List.cons_prefix_cons.mp begins
              simp [other] at digits
        · obtain ⟨piece, member, tooLong⟩ := ih inRest
          exact ⟨piece, List.mem_cons_of_mem _ member, tooLong⟩

/-- No run of digits in a text is too long to be converted. -/
def DigitsFit (text : List Char) : Prop :=
  ∀ run, run <:+: text → (∀ c ∈ run, Text.isDigit c = true) → run.length ≤ Numeral.digitLimit

namespace DigitsFit

variable {part text : List Char}

theorem of_infix (fits : DigitsFit text) (inside : part <:+: text) : DigitsFit part :=
  fun run within => fits run (within.trans inside)

theorem of_short (short : text.length ≤ Numeral.digitLimit) : DigitsFit text :=
  fun _ inside _ => inside.length_le.trans short

theorem not_oversized (fits : DigitsFit text) : ∀ piece ∈ pieces text, ¬ Oversized piece := by
  intro piece member oversized
  obtain ⟨run, inside, digits, long⟩ := (exists_oversized_iff text).mp ⟨piece, member, oversized⟩
  have short := fits run inside (by simpa using digits)
  omega

end DigitsFit

end FrontEnd.Arithmetic
