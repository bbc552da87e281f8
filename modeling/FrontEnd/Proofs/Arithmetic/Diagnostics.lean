import FrontEnd.Diagnostic
import FrontEnd.Proofs.Arithmetic.Acceptance
import FrontEnd.Proofs.Arithmetic.Analysis
import FrontEnd.Proofs.Arithmetic.Recovery
import FrontEnd.Proofs.Arithmetic.UnknownCharacters

/-!
# Diagnostics point at the text

A diagnostic names a line and a range of positions in it. Every diagnostic for an
arithmetic text names the place of what it talks about: the unknown character, the
lexeme that it quotes or, if it quotes none, the end of the text.
-/

namespace FrontEnd.Arithmetic

variable {text before piece after : List Char} {diagnostic : Diagnostic} {c : Char}

/-- The range of a diagnostic lies in one line of a text, and this is what stands there. -/
structure Marks (text : List Char) (diagnostic : Diagnostic) (line column : Nat)
    (part : List Char) : Prop where
  startLine : diagnostic.startLine = line
  stopLine : diagnostic.stopLine = line
  start : diagnostic.start = column
  there : ∃ (content : List Char) (stop : Nat), (lines text)[line]? = some content ∧
    diagnostic.stop = stop ∧ content.extract column stop = part

/-- A diagnostic for a syntax error quotes what stands at its place, or has its place at the
    very end of the text and quotes nothing. -/
inductive PointsAt (text : List Char) (diagnostic : Diagnostic) : Prop where
  | lexeme (line column : Nat) {lexeme reason : String} (visible : lexeme ≠ "")
      (message : diagnostic.message = "Syntax error on token '" ++ lexeme ++ "': " ++ reason)
      (marks : Marks text diagnostic line column lexeme.toList)
  | ending {line : Nat} {content : List Char} {reason : String}
      (message : diagnostic.message = "Syntax error: " ++ reason)
      (startLine : diagnostic.startLine = line) (stopLine : diagnostic.stopLine = line)
      (last : (lines text).length = line + 1) (there : (lines text)[line]? = some content)
      (start : diagnostic.start = content.length) (stop : diagnostic.stop = content.length)

theorem marks_place (noFeed : '\n' ∉ piece) (before after : List Char)
    (startLine : diagnostic.startLine = lineAfter before)
    (stopLine : diagnostic.stopLine = lineAfter before)
    (start : diagnostic.start = columnAfter before)
    (stop : diagnostic.stop = columnAfter before + piece.length) :
    Marks (before ++ (piece ++ after)) diagnostic (lineAfter before) (columnAfter before) piece where
  startLine := startLine
  stopLine := stopLine
  start := start
  there := by
    obtain ⟨last, column, found⟩ := line_at before (piece ++ after)
    refine ⟨_, columnAfter before + piece.length, found, stop, ?_⟩
    rw [takeWhile_append_of_noFeed noFeed, ← column, List.extract_eq_take_drop, List.drop_left,
      Nat.add_sub_cancel_left, List.take_left]

theorem marks_unknown (unknown : isUnknown c = true) (before after : List Char) :
    Marks (before ++ c :: after)
      (.ofLexical (.unknownCharacter c (lineAfter before) (columnAfter before)
        (columnAfter before + 1)))
      (lineAfter before) (columnAfter before) [c] := by
  have noFeed : '\n' ∉ [c] := by
    intro member
    obtain rfl : '\n' = c := by simpa using member
    cases unknown
  exact marks_place noFeed before after rfl rfl rfl rfl

theorem pointsAt_lexeme {error : SyntaxError Kind} (member : error.token ∈ tokensIn [] text) :
    PointsAt text (.ofSyntax error) := by
  obtain ⟨token, message, code⟩ := error
  obtain ⟨before, piece, after, rfl, inhabited, noFeed, found⟩ :=
    exists_place_of_mem_tokensIn member
  obtain ⟨⟨kind, literal⟩, -, rfl⟩ := Option.map_eq_some_iff.mp found
  have visible : String.ofList piece ≠ "" := by
    simpa using inhabited
  refine .lexeme (lineAfter before) (columnAfter before) visible rfl ?_
  rw [String.toList_ofList]
  exact marks_place noFeed before after rfl rfl rfl rfl

theorem pointsAt_ending {error : SyntaxError Kind} (ending : error.token =
    .endOfStream (lineAfter text) (columnAfter text) text.length) :
    PointsAt text (.ofSyntax error) := by
  obtain ⟨token, message, code⟩ := error
  obtain rfl : token = _ := ending
  obtain ⟨content, column, found⟩ := line_at text []
  rw [List.takeWhile_nil, List.append_nil, List.append_nil] at found
  -- The end token begins and ends behind the whole last line.
  have place : (columnAfter text : Int) = content.length := congrArg _ column.symm
  exact .ending rfl rfl rfl (length_lines text) found place place

theorem pointsAt_of_mem {error : SyntaxError Kind}
    (member : error.token ∈ (lexedAs text).tokens.toList) : PointsAt text (.ofSyntax error) := by
  rw [toList_tokens_lexedAs, List.mem_append, List.mem_singleton] at member
  rcases member with within | ending
  · exact pointsAt_lexeme within
  · exact pointsAt_ending ending

/-- Both steps of reading a text give their results, unless it has too many digits in a row.
    The diagnostics for its characters are those of its unknown characters, in order and each
    at its own place. All diagnostics for its tokens, with either grammar, point at the text. -/
theorem diagnostics_point (source : String)
    (short : ¬ ∃ run, run <:+: source.toList ∧ run.all Text.isDigit = true ∧
      Numeral.digitLimit < run.length) :
    ∃ lexed single many, (analyse entry source).1 = .ok ⟨lexed, single⟩ ∧
      (analyse entries source).1 = .ok ⟨lexed, many⟩ ∧
      lexed.diagnostics.length = source.toList.countP isUnknown ∧
      (∀ before c after, source.toList = before ++ c :: after → isUnknown c = true →
        ∃ diagnostic, lexed.diagnostics[before.countP isUnknown]? = some diagnostic ∧
          Marks source.toList diagnostic (lineAfter before) (columnAfter before) [c]) ∧
      (∀ diagnostic ∈ single.diagnostics, PointsAt source.toList diagnostic) ∧
      ∀ diagnostic ∈ many.diagnostics, PointsAt source.toList diagnostic := by
  have fits : ∀ piece ∈ pieces source.toList, ¬ Oversized piece := by
    intro piece member tooLong
    exact short ((exists_oversized_iff _).mp ⟨piece, member, tooLong⟩)
  obtain ⟨parsing, tokens, analysed⟩ := analyse_of_short entry fits
  obtain ⟨parsing', tokens', analysed'⟩ := analyse_of_short entries fits
  obtain ⟨single, after, ran, reported⟩ := parseExpr_errors_mem parsing
  obtain ⟨many, after', ran', reported'⟩ := parseExprs_errors_mem parsing'
  refine ⟨lexedAs source.toList, single, many, ?_, ?_, ?_, ?_, ?_, ?_⟩
  · rw [analysed, show parseWith entry parsing = _ from ran]
    rfl
  · rw [analysed', show parseWith entries parsing' = _ from ran']
    rfl
  · rw [Lexed.diagnostics, List.length_map]
    exact length_errorsIn [] source.toList
  · intro before c after split unknown
    refine ⟨_, ?_, split ▸ marks_unknown unknown before after⟩
    rw [Lexed.diagnostics, List.getElem?_map, lexedAs, split, getElem?_errorsIn unknown]
    rfl
  · intro diagnostic member
    obtain ⟨error, inside, rfl⟩ := List.mem_map.mp member
    exact pointsAt_of_mem (tokens ▸ reported error inside)
  · intro diagnostic member
    obtain ⟨error, inside, rfl⟩ := List.mem_map.mp member
    exact pointsAt_of_mem (tokens' ▸ reported' error inside)

/-- On the first of these lines an unknown character is marked. A token and the end of the text
    on the second one are what the two grammars point at. -/
theorem diagnostics_point_two_lines :
    let source := "1#\n(2"
    (¬ ∃ run, run <:+: source.toList ∧ run.all Text.isDigit = true ∧
      Numeral.digitLimit < run.length) ∧
    ∃ lexed single many, (analyse entry source).1 = .ok ⟨lexed, single⟩ ∧
      (analyse entries source).1 = .ok ⟨lexed, many⟩ ∧
      (∃ diagnostic, lexed.diagnostics = [diagnostic] ∧
        Marks source.toList diagnostic 0 1 ['#']) ∧
      single.diagnostics.map Diagnostic.message =
        ["Syntax error on token '(': Expected end of input."] ∧
      (∀ diagnostic ∈ single.diagnostics, PointsAt source.toList diagnostic) ∧
      many.diagnostics.map Diagnostic.message = ["Syntax error: Expected ')' after expression."] ∧
      ∀ diagnostic ∈ many.diagnostics, PointsAt source.toList diagnostic := by
  intro source
  have short : ¬ ∃ run, run <:+: source.toList ∧ run.all Text.isDigit = true ∧
      Numeral.digitLimit < run.length := by
    rintro ⟨run, inside, -, long⟩
    have size : source.toList.length ≤ Numeral.digitLimit := by decide
    have fits := inside.length_le
    omega
  obtain ⟨lexed, single, many, ran, ran', count, marks, points, points'⟩ :=
    diagnostics_point source short
  have said : ((analyse entry source).1.toOption.map fun analysis =>
      analysis.parsed.diagnostics.map Diagnostic.message) =
        some ["Syntax error on token '(': Expected end of input."] := by decide +kernel
  have said' : ((analyse entries source).1.toOption.map fun analysis =>
      analysis.parsed.diagnostics.map Diagnostic.message) =
        some ["Syntax error: Expected ')' after expression."] := by decide +kernel
  rw [ran] at said
  rw [ran'] at said'
  have text : source.toList = ['1'] ++ '#' :: ['\n', '(', '2'] := by decide
  obtain ⟨diagnostic, found, marked⟩ := marks _ _ _ text rfl
  have one : lexed.diagnostics.length = 1 := count.trans (by decide)
  obtain ⟨only, alone⟩ := List.length_eq_one_iff.mp one
  rw [alone] at found
  obtain rfl : only = diagnostic := Option.some.inj found
  exact ⟨short, lexed, single, many, ran, ran', ⟨only, alone, marked⟩, Option.some.inj said, points,
    Option.some.inj said', points'⟩

end FrontEnd.Arithmetic
