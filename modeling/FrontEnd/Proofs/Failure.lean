import FrontEnd.Diagnostic
import FrontEnd.Proofs.Lexing.Reports

/-!
# The text of a failure

The text of a failed compilation is its messages, one to a line. They can be told apart again
only if no message has a line feed in it. A message shows characters of the source in two
places: an unknown character that is not printable is named by its code point, and a token is
quoted by its lexeme, which is as good as the tokens of the language are.
-/

namespace FrontEnd

/-- A text that is shown on one line. -/
def OneLine (text : String) : Prop := '\n' ∉ text.toList

theorem OneLine.append {first second : String} (one : OneLine first) (two : OneLine second) :
    OneLine (first ++ second) := by
  simp_all [OneLine]

theorem ne_feed_of_mem_toDigits {n : Nat} {c : Char} (member : c ∈ Nat.toDigits 16 n) :
    c.toUpper ≠ '\n' := by
  have single : ∀ digit < 16, (Nat.digitChar digit).toUpper ≠ '\n' := by decide
  -- The last digit is that of a number below 16, and those before it are the digits of the rest.
  induction n using Nat.strongRecOn with
  | ind n ih =>
      rw [Nat.toDigits_eq_if (by decide)] at member
      by_cases small : n < 16
      · obtain rfl : c = n.digitChar := by simpa [small] using member
        exact single n small
      · rw [if_neg small, List.mem_append, List.mem_singleton] at member
        rcases member with earlier | rfl
        · exact ih (n / 16) (by omega) earlier
        · exact single (n % 16) (Nat.mod_lt n (by decide))

theorem oneLine_codePointName (c : Char) : OneLine (LexicalError.codePointName c) := by
  let digits := (Nat.toDigits 16 c.toNat).map Char.toUpper
  have padded : OneLine (String.ofList (List.replicate (4 - digits.length) '0' ++ digits)) := by
    intro member
    rw [String.toList_ofList, List.mem_append] at member
    rcases member with zero | digit
    · exact absurd (List.eq_of_mem_replicate zero) (by decide)
    · obtain ⟨plain, inside, feed⟩ := List.mem_map.mp digit
      exact ne_feed_of_mem_toDigits inside feed
  exact .append (by simp [OneLine]) padded

/-- A line feed is not printable, so it is named and not shown. -/
theorem LexicalError.IsUnknown.oneLine {error : LexicalError} (unknown : error.IsUnknown) :
    OneLine error.message := by
  obtain ⟨c, line, start, stop, rfl⟩ := unknown
  cases printable : Text.isPrintable c with
  | true =>
      have shown : OneLine c.toString := by
        intro feed
        obtain rfl : '\n' = c := by simpa using feed
        exact absurd printable (by decide)
      simp only [unknownCharacter, printable, if_true]
      exact .append (.append (by simp [OneLine]) shown) (by simp [OneLine])
  | false =>
      simp only [unknownCharacter, printable, Bool.false_eq_true, if_false]
      exact .append (.append (by simp [OneLine]) (oneLine_codePointName c)) (by simp [OneLine])

namespace Diagnostic

theorem oneLine_ofLexical {error : LexicalError} (message : OneLine error.message) :
    OneLine (ofLexical error).message :=
  .append (by simp [OneLine]) message

theorem oneLine_ofSyntax {κ : Type} {error : SyntaxError κ} (message : OneLine error.message)
    (quoted : ∀ lexeme, error.token.lexeme = some lexeme → OneLine lexeme) :
    OneLine (ofSyntax error).message := by
  cases shown : error.token.lexeme with
  | none =>
      simp only [ofSyntax, shown]
      exact .append (by simp [OneLine]) message
  | some lexeme =>
      simp only [ofSyntax, shown]
      exact .append (.append (.append (by simp [OneLine]) (quoted lexeme shown))
        (by simp [OneLine])) message

end Diagnostic

/-- The lines of a text, as line feeds part it. -/
def splitLines (text : String) : List String := (text.toList.splitOn '\n').map String.ofList

theorem splitLines_intercalate {texts : List String} (inhabited : texts ≠ [])
    (oneLine : ∀ text ∈ texts, OneLine text) : splitLines ("\n".intercalate texts) = texts := by
  have parts : ∀ part ∈ texts.map String.toList, '\n' ∉ part := by
    simpa [OneLine] using oneLine
  have split := List.splitOn_intercalate '\n' parts (by simpa using inhabited)
  rw [splitLines, String.toList_intercalate, show "\n".toList = ['\n'] from rfl, split]
  simp [Function.comp_def]

variable {κ α : Type}

/-- How an outcome with these diagnostics fails: if it has errors and not otherwise, with just
    these diagnostics, and with a text from which each of their messages can be read again. -/
structure FailsWith (outcome : Outcome κ α) (hasErrors : Bool) (diagnostics : List Diagnostic) :
    Prop where
  collected : outcome.diagnostics = .ok diagnostics
  decided : ∃ failure?, outcome.failure? = .ok failure?
  fails_iff : (∃ failure, outcome.failure? = .ok (some failure)) ↔ hasErrors = true
  carried : ∀ failure, outcome.failure? = .ok (some failure) → failure.diagnostics = diagnostics
  lossless : ∀ failure, outcome.failure? = .ok (some failure) →
    splitLines failure.message = diagnostics.map Diagnostic.message

theorem FailsWith.of_collected {outcome : Outcome κ α} {hasErrors : Bool}
    {diagnostics : List Diagnostic} (collected : outcome.diagnostics = .ok diagnostics)
    (any : hasErrors = true ↔ diagnostics ≠ [])
    (oneLine : ∀ diagnostic ∈ diagnostics, OneLine diagnostic.message) :
    FailsWith outcome hasErrors diagnostics := by
  have answer : outcome.failure? = .ok (Failure.ofDiagnostics? diagnostics) := by
    rw [Outcome.failure?, collected]
    rfl
  cases diagnostics with
  | nil =>
      have none : outcome.failure? = .ok none := answer
      exact ⟨collected, ⟨_, none⟩, by simp [none, any], by simp [none], by simp [none]⟩
  | cons first more =>
      have failed : outcome.failure? = .ok (some ⟨first :: more⟩) := answer
      refine ⟨collected, ⟨_, failed⟩, by simp [failed, any], ?_, ?_⟩
      · intro failure same
        cases failed.symm.trans same
        rfl
      · intro failure same
        cases failed.symm.trans same
        exact splitLines_intercalate (by simp) (by simpa using oneLine)

theorem FailsWith.exists_failure {outcome : Outcome κ α} {hasErrors : Bool}
    {diagnostics : List Diagnostic} (fails : FailsWith outcome hasErrors diagnostics)
    (errors : hasErrors = true) : ∃ failure, outcome.failure? = .ok (some failure) ∧
      splitLines failure.message = diagnostics.map Diagnostic.message := by
  obtain ⟨failure, failed⟩ := fails.fails_iff.mpr errors
  exact ⟨failure, failed, fails.lossless failure failed⟩

theorem failsWith_lexed {lexed : Lexed κ} (unknown : ∀ error ∈ lexed.errors, error.IsUnknown) :
    FailsWith (.lexed lexed : Outcome κ α) lexed.hasErrors (lexed.errors.toList.map .ofLexical) := by
  apply FailsWith.of_collected
  case collected => rfl
  case any => simp [Lexed.hasErrors, Array.size_pos_iff]
  case oneLine =>
    intro diagnostic member
    obtain ⟨error, inside, rfl⟩ := List.mem_map.mp member
    exact Diagnostic.oneLine_ofLexical (unknown error (Array.mem_toList_iff.mp inside)).oneLine

theorem failsWith_parsed {parsed : Parsed κ α}
    (messages : ∀ error ∈ parsed.errors, OneLine error.message)
    (quoted : ∀ error ∈ parsed.errors, ∀ lexeme, error.token.lexeme = some lexeme → OneLine lexeme) :
    FailsWith (.parsed parsed) parsed.hasErrors (parsed.errors.toList.map .ofSyntax) := by
  apply FailsWith.of_collected
  case collected => rfl
  case any => simp [Parsed.hasErrors, Array.size_pos_iff]
  case oneLine =>
    intro diagnostic member
    obtain ⟨error, inside, rfl⟩ := List.mem_map.mp member
    rw [Array.mem_toList_iff] at inside
    exact Diagnostic.oneLine_ofSyntax (messages error inside) (quoted error inside)

end FrontEnd
