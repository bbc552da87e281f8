import FrontEnd.Arithmetic.Analysis
import FrontEnd.Proofs.Arithmetic.Munch
import FrontEnd.Proofs.Parsing.Ahead

/-!
# Both steps of reading a text

What the parse of a text works on: the tokens that its pieces stand for, each with a
lexeme that is a part of the text, and behind them an end token without one.
-/

namespace FrontEnd.Arithmetic

variable {before text : List Char} {token : Token Kind}

theorem toList_tokens_lexedAs (text : List Char) : (lexedAs text).tokens.toList =
    tokensIn [] text ++ [.endOfStream (lineAfter text) (columnAfter text) text.length] := by
  simp [lexedAs]

theorem isEnd_of_mem_tokensIn (member : token ∈ tokensIn before text) : token.isEnd = false := by
  obtain ⟨place, -, found⟩ := List.mem_filterMap.mp member
  obtain ⟨standsFor, -, rfl⟩ := Option.map_eq_some_iff.mp found
  rfl

theorem beforeEnd_lexedAs (text : List Char) :
    Token.beforeEnd (lexedAs text).tokens.toList = tokensIn [] text := by
  rw [toList_tokens_lexedAs]
  exact Token.beforeEnd_append (fun _ member => isEnd_of_mem_tokensIn member) rfl

theorem exists_after_of_mem_placed {cut : List (List Char)} {place : List Char × List Char}
    (member : place ∈ placed before cut) :
    ∃ after, before ++ cut.flatten = place.1 ++ (place.2 ++ after) := by
  induction cut generalizing before with
  | nil => cases member
  | cons piece cut ih =>
      rcases List.mem_cons.mp member with rfl | later
      · exact ⟨cut.flatten, rfl⟩
      · obtain ⟨after, split⟩ := ih later
        refine ⟨after, ?_⟩
        rw [← split, List.flatten_cons, List.append_assoc]

/-- A token of a text is a part of one line of it. -/
theorem exists_place_of_mem_tokensIn (member : token ∈ tokensIn [] text) :
    ∃ before piece after, text = before ++ (piece ++ after) ∧ piece ≠ [] ∧ '\n' ∉ piece ∧
      tokenOf (before, piece) = some token := by
  obtain ⟨⟨before, piece⟩, inside, found⟩ := List.mem_filterMap.mp member
  obtain ⟨after, split⟩ := exists_after_of_mem_placed inside
  obtain ⟨standsFor, known, -⟩ := Option.map_eq_some_iff.mp found
  rw [flatten_pieces] at split
  have inhabited : piece ≠ [] :=
    List.ne_nil_of_mem_splitBy (mem_of_mem_placed inside)
  exact ⟨before, piece, after, split, inhabited, (token_proper known before).1, found⟩

theorem analyse_of_short {α : Type} (root : Nat → Rule α) {source : String}
    (short : ∀ piece ∈ pieces source.toList, ¬ Oversized piece) :
    ∃ parsing : Parsing Kind, parsing.tokens = (lexedAs source.toList).tokens ∧
      (analyse root source).1 =
        (parseWith root parsing).1.map fun parsed => ⟨lexedAs source.toList, parsed⟩ := by
  let text := source.toList
  let last : Token Kind := .endOfStream (lineAfter text) (columnAfter text) text.length
  have ends : last.isEnd = true := rfl
  obtain ⟨parsing, made, tokens⟩ := Parsing.exists_ofTokens (tokensIn [] text) ends
  have sequence : (lexedAs text).tokens = (tokensIn [] text ++ [last]).toArray :=
    Array.ext' (toList_tokens_lexedAs text)
  have lexed : lex source = (.ok (lexedAs text), (lex source).2) :=
    Prod.ext (lex_of_short short) rfl
  refine ⟨parsing, Array.ext' ?_, ?_⟩
  · rw [tokens, toList_tokens_lexedAs]
  · rw [analyse, lexed]
    simp only [sequence, made]
    rfl

end FrontEnd.Arithmetic
