import FrontEnd.Proofs.Lexing.Coordinates
import FrontEnd.Proofs.Lexing.Reports
import FrontEnd.Proofs.Parsing.Reports

/-!
# Log and results

What either engine logs while it runs and what it gives in the end is one and the same story,
for every language: the errors in their order, and then how it ended.
-/

namespace FrontEnd

/-- A pass that gives a result logs its errors and its counts, and a parse that gives a result
    its errors and, if its grammar has aborted, where. The classification routine may do anything
    but begin or close a pass, and the grammar anything but begin or abandon a parse. -/
theorem log_tells_results :
    (∀ (κ ε σ : Type) (classify : Char → Classifier κ ε σ Bool) (routine : Classifier κ ε σ (Lexed κ)),
      Classifier.IsPass classify routine →
      (∀ c, (classify c).Uses fun request => request.isFrame = false) →
      ∀ own lexing lexed after final, routine.on own lexing = (.ok lexed, after, final) →
        ∃ records, final.log = lexing.log ++ records ∧ lexed.ToldBy records) ∧
    ∀ (κ σ α : Type) [DecidableEq κ] [ToString κ] (root : Grammar κ σ α),
      (root.Uses fun request => request.isFrame = false) →
      ∀ own parsing parsed after final,
        (Grammar.parse root).on own parsing = (.ok parsed, after, final) →
        ∃ records, final.log = parsing.log ++ records ∧
          parsed.ToldBy final.peek records (root.on own parsing.restart).1 := by
  constructor
  · intro κ ε σ classify routine pass uses own lexing lexed after final ran
    exact pass.toldBy uses ran
  · intro κ σ α _ _ root uses own parsing parsed after final ran
    exact Grammar.toldBy_parse uses ran

/-- A routine that rejects a character that is left over, and a grammar that goes on after one
    missing token and aborts at another. -/
theorem log_tells_results_pairs :
    let lexing : Lexing Unit := { source := #['a', 'b', 'c'] }
    Classifier.IsPass Classifier.pairs (Classifier.scan Classifier.pairs) ∧
      (∀ c, (Classifier.pairs c).Uses fun request => request.isFrame = false) ∧
      (∃ lexed after final,
        (Classifier.scan Classifier.pairs).on () lexing = (.ok lexed, after, final) ∧
        lexed.ToldBy final.log ∧ final.log.toList.map LexingRecord.text =
          ["Line 2: Unknown character 'c'.", "Scanned 5 tokens with 1 errors"]) ∧
      (Grammar.wary.Uses fun request => request.isFrame = false) ∧
      ∃ parsed after final, (Grammar.parse Grammar.wary).on () Grammar.leftover =
          (.ok parsed, after, final) ∧
        parsed.ToldBy final.peek final.log (Grammar.wary.on () Grammar.leftover.restart).1 ∧
        final.log.toList.map ParsingRecord.text =
          ["Line 0: Expected nothing. (found ()('a'))",
            "Line 0: Expected another word. (found EOF)",
            "Parse aborted at Token(EOF, None, None, line=0, 1:1) with 2 errors"] := by
  intro lexing
  have pass : Classifier.IsPass Classifier.pairs (Classifier.scan Classifier.pairs) := .inl rfl
  have within : ∀ c, (Classifier.pairs c).Uses fun request => request.isFrame = false :=
    fun c => (Classifier.primitive_pairs c).mono Lexing.Request.isFrame_of_isPrimitive
  have within' : Grammar.wary.Uses fun request => request.isFrame = false := Grammar.uses_wary
  refine ⟨pass, within, ?_, within', ?_⟩
  · obtain ⟨lexed, after, final, ran⟩ : ∃ lexed after final,
        (Classifier.scan Classifier.pairs).on () lexing = (.ok lexed, after, final) :=
      ⟨_, _, _, rfl⟩
    have lines : ((Classifier.scan Classifier.pairs).on () lexing).2.2.log.toList.map
        LexingRecord.text =
          ["Line 2: Unknown character 'c'.", "Scanned 5 tokens with 1 errors"] := by decide +kernel
    obtain ⟨records, grown, told⟩ :=
      log_tells_results.1 _ _ _ Classifier.pairs _ pass within () lexing lexed after final ran
    obtain rfl : final.log = records := grown.trans Array.empty_append
    rw [ran] at lines
    exact ⟨lexed, after, final, ran, told, lines⟩
  · obtain ⟨parsed, after, final, ran⟩ : ∃ parsed after final,
        (Grammar.parse Grammar.wary).on () Grammar.leftover = (.ok parsed, after, final) :=
      ⟨_, _, _, rfl⟩
    have lines : ((Grammar.parse Grammar.wary).on () Grammar.leftover).2.2.log.toList.map
        ParsingRecord.text =
          ["Line 0: Expected nothing. (found ()('a'))",
            "Line 0: Expected another word. (found EOF)",
            "Parse aborted at Token(EOF, None, None, line=0, 1:1) with 2 errors"] := by
      decide +kernel
    obtain ⟨records, grown, told⟩ :=
      log_tells_results.2 _ _ _ Grammar.wary within' () Grammar.leftover parsed after final ran
    obtain rfl : final.log = records := grown.trans Array.empty_append
    rw [ran] at lines
    exact ⟨parsed, after, final, ran, told, lines⟩

end FrontEnd
