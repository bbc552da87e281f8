import FrontEnd.Proofs.Arithmetic.Acceptance
import FrontEnd.Proofs.Arithmetic.Analysis
import FrontEnd.Proofs.Arithmetic.Recovery
import FrontEnd.Proofs.Failure
import FrontEnd.Proofs.Lexing.Coordinates

/-!
# Failures of arithmetic texts

All that an arithmetic text can be blamed for is said on one line: its tokens lie within its
lines, and the grammars word their errors without line feeds. So the text of its failures can be
taken apart into the single messages again. What any lexical pass fails with can be taken apart
too, whatever the language.
-/

namespace FrontEnd.Arithmetic

variable {parsing after : Parsing Kind} {text : List Char} {token : Token Kind}

theorem oneLine_lexeme (member : token ∈ (lexedAs text).tokens) {lexeme : String}
    (shown : token.lexeme = some lexeme) : OneLine lexeme := by
  rw [← Array.mem_toList_iff, toList_tokens_lexedAs, List.mem_append, List.mem_singleton] at member
  rcases member with within | rfl
  · obtain ⟨before, piece, behind, -, -, noFeed, found⟩ := exists_place_of_mem_tokensIn within
    obtain ⟨⟨kind, literal⟩, -, rfl⟩ := Option.map_eq_some_iff.mp found
    cases shown
    simpa [OneLine] using noFeed
  · cases shown

theorem oneLine_complaint (context : Context) : OneLine context.complaint := by
  unfold Context.complaint
  split_ifs <;> simp [OneLine]

theorem oneLine_of_mem_complaints {segments : List Segment} {error : SyntaxError Kind}
    (member : error ∈ complaints segments) : OneLine error.message := by
  obtain ⟨segment, -, said⟩ := List.mem_filterMap.mp member
  cases segment with
  | expression => cases said
  | skipped =>
      cases said
      simp [OneLine]

theorem Stuck.oneLine {read : List (Token Kind)} {message : String}
    (stuck : Stuck read token message) : OneLine message := by
  rcases stuck.message with rfl | rfl <;> simp [OneLine]

theorem parseExpr_oneLine {parsed : Parsed Kind Expr} (ran : parseExpr parsing = (.ok parsed, after)) :
    ∀ error ∈ parsed.errors, OneLine error.message := by
  rcases parseExpr_cases parsing with ⟨read, tree, -, ran'⟩ | ⟨read, token, context, -, ran'⟩
  · cases ran.symm.trans ran'
    simp
  · cases ran.symm.trans ran'
    simpa using oneLine_complaint context

theorem parseExprs_oneLine {parsed : Parsed Kind (Array Expr)}
    (ran : parseExprs parsing = (.ok parsed, after)) :
    ∀ error ∈ parsed.errors, OneLine error.message := by
  rcases parseExprs_cases parsing with ⟨segments, last, -, ran'⟩ |
    ⟨_, _, _, _, message, segments, last, -, -, -, stuck, ran'⟩
  · cases ran.symm.trans ran'
    intro error member
    exact oneLine_of_mem_complaints (by simpa using member)
  · cases ran.symm.trans ran'
    intro error member
    rcases List.mem_append.mp (Array.mem_toList_iff.mpr member) with earlier | last
    · exact oneLine_of_mem_complaints earlier
    · obtain rfl := List.mem_singleton.mp last
      exact stuck.oneLine

theorem isUnknown_of_mem_lexedAs {source : String} (fits : DigitsFit source.toList) :
    ∀ error ∈ (lexedAs source.toList).errors, error.IsUnknown := by
  have lexed := lex_of_short fits.not_oversized
  rcases ran : (Classifier.scan (classify source.length)).on () (.ofSource source) with
    ⟨outcome, own, lexing⟩
  rw [lex, ran] at lexed
  obtain rfl : outcome = .ok (lexedAs source.toList) := lexed
  exact Classifier.IsPass.onlyUnknown (.inl rfl) ran

/-- What can be read of a text fails just if it has errors, and the text of the failure falls
    into their messages, one for each error in order: that of its tokens and that of both its
    parses, unless it has too many digits in a row. So does the failure of any lexical pass. -/
theorem failures_lossless :
    (∀ source : String, DigitsFit source.toList →
      ∃ lexed single many, (analyse entry source).1 = .ok ⟨lexed, single⟩ ∧
        (analyse entries source).1 = .ok ⟨lexed, many⟩ ∧
        FailsWith (.lexed lexed : FrontEnd.Outcome Kind Unit) lexed.hasErrors
          (lexed.errors.toList.map .ofLexical) ∧
        FailsWith (.parsed single) single.hasErrors (single.errors.toList.map .ofSyntax) ∧
        FailsWith (.parsed many) many.hasErrors (many.errors.toList.map .ofSyntax)) ∧
    ∀ (κ ε σ : Type) (classify : Char → Classifier κ ε σ Bool) (routine : Classifier κ ε σ (Lexed κ)),
      Classifier.IsPass classify routine → ∀ own lexing lexed after final,
        routine.on own lexing = (.ok lexed, after, final) →
        FailsWith (.lexed lexed : FrontEnd.Outcome κ Unit) lexed.hasErrors
          (lexed.errors.toList.map .ofLexical) := by
  constructor
  · intro source fits
    obtain ⟨parsing, tokens, analysed⟩ := analyse_of_short entry fits.not_oversized
    obtain ⟨parsing', tokens', analysed'⟩ := analyse_of_short entries fits.not_oversized
    obtain ⟨single, after, ran, reported⟩ := parseExpr_errors_mem parsing
    obtain ⟨many, after', ran', reported'⟩ := parseExprs_errors_mem parsing'
    refine ⟨lexedAs source.toList, single, many, ?_, ?_, ?_, ?_, ?_⟩
    · rw [analysed, show parseWith entry parsing = _ from ran]
      rfl
    · rw [analysed', show parseWith entries parsing' = _ from ran']
      rfl
    · exact failsWith_lexed (isUnknown_of_mem_lexedAs fits)
    · apply failsWith_parsed (parseExpr_oneLine ran)
      intro error member
      have inside := reported error (Array.mem_toList_iff.mpr member)
      rw [tokens, Array.mem_toList_iff] at inside
      exact fun _ => oneLine_lexeme inside
    · apply failsWith_parsed (parseExprs_oneLine ran')
      intro error member
      have inside := reported' error (Array.mem_toList_iff.mpr member)
      rw [tokens', Array.mem_toList_iff] at inside
      exact fun _ => oneLine_lexeme inside
  · intro κ ε σ classify routine pass own lexing lexed after final ran
    exact failsWith_lexed (pass.onlyUnknown ran)

/-- A vertical tab is named, and a token that does not fit is quoted. A routine that looks one
    character further still rejects the first one. -/
theorem failures_lossless_control :
    let source := "#\x0b1("
    DigitsFit source.toList ∧
      (∃ lexed single many, (analyse entry source).1 = .ok ⟨lexed, single⟩ ∧
        (analyse entries source).1 = .ok ⟨lexed, many⟩ ∧
        (∃ failure, (.lexed lexed : FrontEnd.Outcome Kind Unit).failure? = .ok (some failure) ∧
          splitLines failure.message =
            ["Syntax error: Unknown character '#'.", "Syntax error: Unknown character U+000B."]) ∧
        (∃ failure, FrontEnd.Outcome.failure? (.parsed single) = .ok (some failure) ∧
          splitLines failure.message = ["Syntax error on token '(': Expected end of input."]) ∧
        ∃ failure, FrontEnd.Outcome.failure? (.parsed many) = .ok (some failure) ∧
          splitLines failure.message = ["Syntax error: Expected Number."]) ∧
      Classifier.IsPass lookingFurther (Classifier.scan lookingFurther) ∧
      ∃ lexed after final, (Classifier.scan lookingFurther).on () { source := #['#', '!'] } =
          (.ok lexed, after, final) ∧
        ∃ failure, (.lexed lexed : FrontEnd.Outcome Unit Unit).failure? = .ok (some failure) ∧
          splitLines failure.message = ["Syntax error: Unknown character '#'."] := by
  intro source
  have fits : DigitsFit source.toList := DigitsFit.of_short (by decide)
  have pass : Classifier.IsPass lookingFurther (Classifier.scan lookingFurther) := .inl rfl
  refine ⟨fits, ?_, pass, ?_⟩
  · obtain ⟨lexed, single, many, ran, ran', fails, fails', fails''⟩ := failures_lossless.1 source fits
    have said : ((analyse entry source).1.toOption.map fun analysis =>
        ((analysis.lexed.hasErrors, analysis.lexed.diagnostics.map Diagnostic.message),
          analysis.parsed.hasErrors, analysis.parsed.diagnostics.map Diagnostic.message)) =
        some ((true,
          ["Syntax error: Unknown character '#'.", "Syntax error: Unknown character U+000B."]),
          true, ["Syntax error on token '(': Expected end of input."]) := by decide +kernel
    have said' : ((analyse entries source).1.toOption.map fun analysis =>
        (analysis.parsed.hasErrors, analysis.parsed.diagnostics.map Diagnostic.message)) =
        some (true, ["Syntax error: Expected Number."]) := by decide +kernel
    simp only [ran, ran', Except.toOption, Option.map_some, Option.some.injEq, Prod.mk.injEq]
      at said said'
    obtain ⟨⟨errors, messages⟩, errors', messages'⟩ := said
    obtain ⟨errors'', messages''⟩ := said'
    exact ⟨lexed, single, many, ran, ran', messages ▸ fails.exists_failure errors,
      messages' ▸ fails'.exists_failure errors', messages'' ▸ fails''.exists_failure errors''⟩
  · have said : ((Classifier.scan lookingFurther).on () { source := #['#', '!'] }).1.toOption.map
        (fun lexed => (lexed.hasErrors, lexed.diagnostics.map Diagnostic.message)) =
        some (true, ["Syntax error: Unknown character '#'."]) := by decide +kernel
    rcases ran : (Classifier.scan lookingFurther).on () { source := #['#', '!'] } with
      ⟨stop | lexed, after, final⟩
    · rw [ran] at said
      cases said
    · simp only [ran, Except.toOption, Option.map_some, Option.some.injEq, Prod.mk.injEq] at said
      obtain ⟨errors, messages⟩ := said
      have fails := failures_lossless.2 _ _ _ lookingFurther _ pass () _ lexed after final ran
      exact ⟨lexed, after, final, rfl, messages ▸ fails.exists_failure errors⟩

end FrontEnd.Arithmetic
