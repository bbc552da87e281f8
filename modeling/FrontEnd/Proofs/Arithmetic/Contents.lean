import FrontEnd.Proofs.Arithmetic.Pieces
import Mathlib.Data.List.Induction

/-!
# What the tokens of a text say

The kind, the lexeme and the literal of a token do not depend on its place, so the pieces
of a text determine them. `contents` is what all tokens of a text say. A text in two parts
says what its parts say, unless a run of digits goes on over the cut: then it has one
token fewer.
-/

namespace FrontEnd.Arithmetic

variable {left right text run : List Char}

def EndsInDigit (text : List Char) : Prop := ∃ c ∈ text.getLast?, Text.isDigit c = true

def StartsWithDigit (text : List Char) : Prop := ∃ c ∈ text.head?, Text.isDigit c = true

instance : DecidablePred EndsInDigit := fun text =>
  decidable_of_iff (text.getLast?.any Text.isDigit = true) (Option.any_eq_true ..)

instance : DecidablePred StartsWithDigit := fun text =>
  decidable_of_iff (text.head?.any Text.isDigit = true) (Option.any_eq_true ..)

/-- A run of digits goes on over the cut between two texts. -/
def Fuses (left right : List Char) : Prop := EndsInDigit left ∧ StartsWithDigit right

instance : DecidableRel Fuses :=
  fun left right => inferInstanceAs (Decidable (EndsInDigit left ∧ StartsWithDigit right))

theorem pieces_append_of_apart (apart : ¬ Fuses left right) :
    pieces (left ++ right) = pieces left ++ pieces right := by
  apply pieces_append
  intro a last b first
  cases digits : bothDigits a b with
  | false => rfl
  | true =>
      simp only [bothDigits, Bool.and_eq_true] at digits
      exact absurd ⟨⟨a, last, digits.1⟩, ⟨b, first, digits.2⟩⟩ apart

theorem exists_run_first (starts : StartsWithDigit text) :
    ∃ run rest, text = run ++ rest ∧ run ≠ [] ∧ (∀ c ∈ run, Text.isDigit c = true) ∧
      ¬ StartsWithDigit rest := by
  obtain ⟨c, first, digit⟩ := starts
  induction text using piecewise with
  | nil => simp at first
  | run run rest inhabited digits ends _ =>
      refine ⟨run, rest, rfl, inhabited, digits, ?_⟩
      rintro ⟨d, next, digit⟩
      simp [ends d next] at digit
  | single d rest other _ =>
      obtain rfl : d = c := by simpa using first
      simp [other] at digit

theorem exists_run_last (ends : EndsInDigit text) :
    ∃ start run, text = start ++ run ∧ run ≠ [] ∧ (∀ c ∈ run, Text.isDigit c = true) ∧
      ¬ EndsInDigit start := by
  induction text using List.reverseRecOn with
  | nil => simp [EndsInDigit] at ends
  | append_singleton start c ih =>
      have digit : Text.isDigit c = true := by simpa [EndsInDigit] using ends
      by_cases longer : EndsInDigit start
      · obtain ⟨start, run, rfl, -, digits, first⟩ := ih longer
        refine ⟨start, run ++ [c], List.append_assoc .., by simp, ?_, first⟩
        simpa [or_imp, forall_and] using ⟨digits, digit⟩
      · exact ⟨start, [c], rfl, by simp, by simpa using digit, longer⟩

/-- What a token says, apart from its place. -/
def content (token : Token Kind) : Option Kind × Option String × Value :=
  (token.kind, token.lexeme, token.literal)

/-- What the token of a piece says, if the piece is one. -/
def contentOf (piece : List Char) : Option (Option Kind × Option String × Value) :=
  (meaning piece).map fun (kind, literal) => (some kind, some (String.ofList piece), literal)

def contents (text : List Char) : List (Option Kind × Option String × Value) :=
  (pieces text).filterMap contentOf

theorem map_snd_placed (before : List Char) (cut : List (List Char)) :
    (placed before cut).map Prod.snd = cut := by
  induction cut generalizing before with
  | nil => rfl
  | cons piece cut ih => simp [placed, ih]

theorem map_content_tokensIn (before text : List Char) :
    (tokensIn before text).map content = contents text := by
  have said : ∀ place, (tokenOf place).map content = contentOf place.2 := by
    intro place
    simp [tokenOf, contentOf, content, Function.comp_def]
  calc (tokensIn before text).map content
      = (placed before (pieces text)).filterMap (contentOf ∘ Prod.snd) := by
        rw [tokensIn, List.map_filterMap]
        exact List.filterMap_congr fun place _ => said place
    _ = contents text := by rw [← List.filterMap_map, map_snd_placed, contents]

theorem length_tokensIn (before text : List Char) :
    (tokensIn before text).length = (contents text).length := by
  rw [← map_content_tokensIn before, List.length_map]

theorem contents_append (apart : ¬ Fuses left right) :
    contents (left ++ right) = contents left ++ contents right := by
  simp [contents, pieces_append_of_apart apart]

theorem length_contents_run (inhabited : run ≠ []) (digits : ∀ c ∈ run, Text.isDigit c = true) :
    (contents run).length = 1 := by
  have inside : run.all Text.isDigit = true := by simpa using digits
  simp [contents, pieces_run digits inhabited, contentOf, meaning, inside]

/-- A run of digits that goes on over the cut is one token instead of two. -/
theorem length_contents_fused (fuses : Fuses left right) :
    (contents (left ++ right)).length + 1 = (contents left).length + (contents right).length := by
  obtain ⟨start, run, rfl, inhabited, digits, first⟩ := exists_run_last fuses.1
  obtain ⟨run', rest, rfl, inhabited', digits', last⟩ := exists_run_first fuses.2
  have whole : ∀ c ∈ run ++ run', Text.isDigit c = true := by
    simpa [or_imp, forall_and] using ⟨digits, digits'⟩
  have joined : start ++ run ++ (run' ++ rest) = start ++ ((run ++ run') ++ rest) := by simp
  have before : ∀ more, ¬ Fuses start more := fun _ both => first both.1
  have behind : ∀ more, ¬ Fuses more rest := fun _ both => last both.2
  have counted : (contents (run ++ run')).length = 1 :=
    length_contents_run (by simp [inhabited]) whole
  rw [joined, contents_append (before _), contents_append (behind _), contents_append (before _),
    contents_append (behind _)]
  simp only [List.length_append, counted, length_contents_run inhabited digits,
    length_contents_run inhabited' digits']
  omega

end FrontEnd.Arithmetic
