import FrontEnd.Proofs.Arithmetic.Analysis
import FrontEnd.Proofs.Arithmetic.Contents

/-!
# Unknown characters

A pass goes on behind a character that it does not know. Each one gets an error of its
own, and none stands in a token. So what the tokens of a text say survives when all unknown
characters are taken out, with one exception: where only unknown characters keep two numbers
apart, taking them out makes one number of them.
-/

namespace FrontEnd.Arithmetic

variable {before text run rest : List Char} {c : Char}

theorem isDigit_of_isUnknown (unknown : isUnknown c = true) : Text.isDigit c = false := by
  simp only [isUnknown, Bool.and_eq_true, Bool.not_eq_true'] at unknown
  exact unknown.1.1

theorem errorOf_single (before : List Char) (c : Char) : errorOf (before, [c]) =
    if isUnknown c then
      some (.unknownCharacter c (lineAfter before) (columnAfter before) (columnAfter before + 1))
    else none := rfl

theorem errorsIn_single (other : Text.isDigit c = false) (before rest : List Char) :
    errorsIn before (c :: rest) =
      (errorOf (before, [c])).toList ++ errorsIn (before ++ [c]) rest := by
  rw [errorsIn, pieces_single other, placed, List.filterMap_cons]
  cases errorOf (before, [c]) <;> rfl

theorem errorOf_run {run : List Char} (digits : ∀ c ∈ run, Text.isDigit c = true) :
    errorOf (before, run) = none :=
  (token_proper (meaning_run digits) before).2

theorem length_errorsIn (before text : List Char) :
    (errorsIn before text).length = text.countP isUnknown := by
  induction text using piecewise generalizing before with
  | nil => rfl
  | run run rest inhabited digits ends ih =>
      have known : ∀ c ∈ run, ¬ isUnknown c = true := by
        intro c member
        simp [isUnknown, digits c member]
      rw [errorsIn, pieces_run_append digits inhabited ends, placed, List.filterMap_cons,
        errorOf_run digits, List.countP_append, List.countP_eq_zero.mpr known, Nat.zero_add]
      exact ih _
  | single c rest other ih =>
      rw [errorsIn_single other, List.length_append, ih, List.countP_cons, Nat.add_comm,
        errorOf_single]
      cases isUnknown c <;> rfl

/-- The error of an unknown character has as many errors before it as there are unknown
    characters before it. -/
theorem getElem?_errorsIn (unknown : isUnknown c = true) (before after : List Char) :
    (errorsIn [] (before ++ c :: after))[before.countP isUnknown]? =
      some (.unknownCharacter c (lineAfter before) (columnAfter before)
        (columnAfter before + 1)) := by
  have other := isDigit_of_isUnknown unknown
  rw [errorsIn, placed_around other, List.filterMap_append, List.filterMap_cons, List.nil_append,
    errorOf_single, if_pos unknown]
  rw [← errorsIn, ← length_errorsIn [] before, List.getElem?_append_right le_rfl, Nat.sub_self]
  rfl

def known (text : List Char) : List Char := text.filter fun c => !isUnknown c

theorem known_append (front rest : List Char) : known (front ++ rest) = known front ++ known rest :=
  List.filter_append ..

theorem known_eq_self (proper : ∀ c ∈ run, isUnknown c = false) : known run = run := by
  apply List.filter_eq_self.mpr
  simpa using proper

theorem known_eq_nil (unknown : ∀ c ∈ run, isUnknown c = true) : known run = [] := by
  apply List.filter_eq_nil_iff.mpr
  simpa using unknown

theorem isUnknown_of_isDigit (digit : Text.isDigit c = true) : isUnknown c = false := by
  simp [isUnknown, digit]

theorem known_run (digits : ∀ c ∈ run, Text.isDigit c = true) : known run = run :=
  known_eq_self fun c member => isUnknown_of_isDigit (digits c member)

theorem length_known (text : List Char) :
    text.countP isUnknown + (known text).length = text.length := by
  rw [known, List.countP_eq_length_filter, ← List.length_eq_length_filter_add]

theorem digitsFit_of_known (fits : DigitsFit (known text)) : DigitsFit text := by
  intro run inside digits
  apply fits run _ digits
  rw [← known_run digits]
  exact inside.filter _

theorem errorsIn_known (before text : List Char) : errorsIn before (known text) = [] := by
  have none : (known text).countP isUnknown = 0 := by
    simp [known, List.countP_eq_zero]
  rw [← List.length_eq_zero_iff, length_errorsIn, none]

/-- A longest block of unknown characters in a text, with what is before and behind it. -/
structure UnknownBlock (text before block behind : List Char) : Prop where
  split : text = before ++ (block ++ behind)
  inhabited : block ≠ []
  unknown : ∀ c ∈ block, isUnknown c = true
  starts : ∀ c ∈ before.getLast?, isUnknown c = false
  stops : ∀ c ∈ behind.head?, isUnknown c = false

/-- A block of unknown characters has a digit on either side. -/
def PartsDigits (text : List Char) : Prop :=
  ∃ before block behind, UnknownBlock text before block behind ∧ Fuses before behind

theorem partsDigits_of_split {before block behind : List Char}
    (split : text = before ++ (block ++ behind)) (inhabited : block ≠ [])
    (unknown : ∀ c ∈ block, isUnknown c = true) (fuses : Fuses before behind) :
    PartsDigits text := by
  obtain ⟨⟨a, last, digit⟩, ⟨b, first, digit'⟩⟩ := fuses
  refine ⟨before, block, behind, ⟨split, inhabited, unknown, ?_, ?_⟩, ⟨a, last, digit⟩,
    ⟨b, first, digit'⟩⟩
  · intro c here
    obtain rfl : a = c := Option.some.inj (last.symm.trans here)
    exact isUnknown_of_isDigit digit
  · intro c here
    obtain rfl : b = c := Option.some.inj (first.symm.trans here)
    exact isUnknown_of_isDigit digit'

theorem startsWithDigit_known_iff : StartsWithDigit (known text) ↔
    ∃ block behind, text = block ++ behind ∧ (∀ c ∈ block, isUnknown c = true) ∧
      StartsWithDigit behind := by
  constructor
  · intro starts
    induction text with
    | nil => simp [known, StartsWithDigit] at starts
    | cons c text ih =>
        cases unknown : isUnknown c with
        | true =>
            have fewer : known (c :: text) = known text := by simp [known, unknown]
            obtain ⟨block, behind, rfl, all, first⟩ := ih (fewer ▸ starts)
            exact ⟨c :: block, behind, rfl, List.forall_mem_cons.mpr ⟨unknown, all⟩, first⟩
        | false =>
            have digit : Text.isDigit c = true := by
              simpa [known, unknown, StartsWithDigit] using starts
            exact ⟨[], c :: text, rfl, by simp, c, rfl, digit⟩
  · rintro ⟨block, behind, rfl, all, c, first, digit⟩
    obtain ⟨more, rfl⟩ := List.head?_eq_some_iff.mp first
    rw [known_append, known_eq_nil all]
    exact ⟨c, by simp [known, isUnknown_of_isDigit digit], digit⟩

theorem endsInDigit_append {front last : List Char} (ends : EndsInDigit last) :
    EndsInDigit (front ++ last) := by
  obtain ⟨c, here, digit⟩ := ends
  exact ⟨c, by simp_all, digit⟩

theorem endsInDigit_run (inhabited : run ≠ []) (digits : ∀ c ∈ run, Text.isDigit c = true) :
    EndsInDigit run :=
  ⟨run.getLast inhabited, List.getLast?_eq_some_getLast inhabited,
    digits _ (List.getLast_mem inhabited)⟩

theorem endsInDigit_of_append {front last : List Char} (ends : EndsInDigit (front ++ last))
    (inhabited : last ≠ []) : EndsInDigit last := by
  obtain ⟨c, here, digit⟩ := ends
  rw [List.getLast?_append_of_ne_nil _ inhabited] at here
  exact ⟨c, here, digit⟩

theorem PartsDigits.behind (parts : PartsDigits rest) (front : List Char) :
    PartsDigits (front ++ rest) := by
  obtain ⟨before, block, behind, ⟨split, inhabited, unknown, -, -⟩, ends, starts⟩ := parts
  have split' : front ++ rest = (front ++ before) ++ (block ++ behind) := by
    rw [split, List.append_assoc]
  exact partsDigits_of_split split' inhabited unknown ⟨endsInDigit_append ends, starts⟩

theorem partsDigits_single (other : Text.isDigit c = false) :
    PartsDigits (c :: rest) ↔ PartsDigits rest := by
  constructor
  · rintro ⟨before, block, behind, ⟨split, inhabited, unknown, -, -⟩, ends, starts⟩
    cases before with
    | nil => simp [EndsInDigit] at ends
    | cons d before =>
        obtain ⟨rfl, later⟩ := List.cons.inj split
        have further : before ≠ [] := by
          rintro rfl
          simp [EndsInDigit, other] at ends
        have whole : EndsInDigit ([c] ++ before) := ends
        exact partsDigits_of_split later inhabited unknown
          ⟨endsInDigit_of_append whole further, starts⟩
  · intro parts
    exact parts.behind [c]

/-- Behind a run of digits, either the first block parts it from the next one, or a later block
    has digits on either side. -/
theorem partsDigits_run (inhabited : run ≠ []) (digits : ∀ c ∈ run, Text.isDigit c = true)
    (ends : ¬ StartsWithDigit rest) :
    PartsDigits (run ++ rest) ↔ StartsWithDigit (known rest) ∨ PartsDigits rest := by
  constructor
  · rintro ⟨before, block, behind, ⟨split, inhabited', unknown, -, -⟩, last, first⟩
    have next : ∀ {text}, text = block ++ behind → StartsWithDigit (known text) := by
      rintro text rfl
      exact startsWithDigit_known_iff.mpr ⟨block, behind, rfl, unknown, first⟩
    rcases List.append_eq_append_iff.mp split with ⟨more, rfl, later⟩ | ⟨more, rfl, later⟩
    · by_cases further : more = []
      · exact .inl (next (by simpa [further] using later))
      · have last' : EndsInDigit more := endsInDigit_of_append last further
        exact .inr (partsDigits_of_split later inhabited' unknown ⟨last', first⟩)
    · cases more with
      | nil => exact .inl (next later.symm)
      | cons d more =>
          -- The block would begin within the run.
          obtain ⟨e, block, rfl⟩ := List.exists_cons_of_ne_nil inhabited'
          obtain rfl : e = d := (List.cons.inj later).1
          have strange := unknown e List.mem_cons_self
          simp [isUnknown, digits e (by simp)] at strange
  · rintro (starts | parts)
    · obtain ⟨block, behind, rfl, unknown, first⟩ := startsWithDigit_known_iff.mp starts
      have inhabited' : block ≠ [] := by
        rintro rfl
        exact ends first
      exact partsDigits_of_split rfl inhabited' unknown ⟨endsInDigit_run inhabited digits, first⟩
    · exact parts.behind run

theorem contents_single (other : Text.isDigit c = false) (noSymbol : symbols.lookup c = none) :
    contents [c] = [] := by
  have alone : pieces [c] = [[c]] := pieces_single other []
  simp [contents, alone, contentOf, meaning_single other, noSymbol]

theorem contents_unknown (unknown : isUnknown c = true) : contents [c] = [] := by
  simp only [isUnknown, Bool.and_eq_true, Bool.not_eq_true', Option.isNone_iff_eq_none] at unknown
  exact contents_single unknown.1.1 unknown.1.2

theorem contents_cons (other : Text.isDigit c = false) (rest : List Char) :
    contents (c :: rest) = contents [c] ++ contents rest := by
  have apart : ¬ Fuses [c] rest := by
    rintro ⟨ends, -⟩
    simp [EndsInDigit, other] at ends
  exact contents_append apart

/-- Where two numbers become one, there is one token less, and nothing makes up for it. -/
theorem contents_known (text : List Char) :
    (¬ PartsDigits text → contents (known text) = contents text) ∧
      (PartsDigits text → (contents (known text)).length < (contents text).length) := by
  induction text using piecewise with
  | nil =>
      refine ⟨fun _ => rfl, ?_⟩
      rintro ⟨before, block, behind, ⟨split, inhabited, -⟩, -⟩
      simp_all
  | run run rest inhabited digits ends ih =>
      have first : ¬ StartsWithDigit rest := by
        rintro ⟨c, here, digit⟩
        simp [ends c here] at digit
      have whole : contents (run ++ rest) = contents run ++ contents rest :=
        contents_append fun fuses => first fuses.2
      have single := length_contents_run inhabited digits
      rw [partsDigits_run inhabited digits first, known_append, known_run digits, whole]
      by_cases starts : StartsWithDigit (known rest)
      · have fused := length_contents_fused ⟨endsInDigit_run inhabited digits, starts⟩
        have fewer : (contents (known rest)).length ≤ (contents rest).length := by
          by_cases parts : PartsDigits rest
          · exact (ih.2 parts).le
          · exact (congrArg List.length (ih.1 parts)).le
        simp [starts]
        omega
      · rw [contents_append fun fuses => starts fuses.2]
        simpa [starts] using ih
  | single c rest other ih =>
      rw [partsDigits_single other, contents_cons other]
      cases unknown : isUnknown c with
      | true => simpa [known, unknown, contents_unknown unknown] using ih
      | false =>
          have kept : known (c :: rest) = c :: known rest := by simp [known, unknown]
          rw [kept, contents_cons other]
          simpa using ih

theorem map_content_lexedAs (text : List Char) :
    (lexedAs text).tokens.toList.map content = contents text ++ [(none, none, .null)] := by
  rw [toList_tokens_lexedAs, List.map_append, map_content_tokensIn]
  rfl

/-- A text without its unknown characters has no errors, and with them it has one for each. The
    tokens say the same in both texts unless a block of unknown characters parts two numbers. -/
theorem lex_known (source : String) (fits : DigitsFit (known source.toList)) :
    ∃ whole clean, (lex source).1 = .ok whole ∧
      (lex (String.ofList (known source.toList))).1 = .ok clean ∧ clean.errors = #[] ∧
      whole.errors.size + (known source.toList).length = source.toList.length ∧
      (whole.tokens.toList.map content = clean.tokens.toList.map content ↔
        ¬ PartsDigits source.toList) := by
  let cleaned := String.ofList (known source.toList)
  have text : cleaned.toList = known source.toList := String.toList_ofList
  have whole := lex_of_short (digitsFit_of_known fits).not_oversized
  have clean : (lex cleaned).1 = .ok (lexedAs cleaned.toList) :=
    lex_of_short (text ▸ fits).not_oversized
  rw [text] at clean
  refine ⟨_, _, whole, clean, ?_, ?_, ?_⟩
  · simp [lexedAs, errorsIn_known]
  · simpa [lexedAs, length_errorsIn] using length_known source.toList
  · obtain ⟨same, fewer⟩ := contents_known source.toList
    simp only [map_content_lexedAs, List.append_left_inj]
    constructor
    · intro said parts
      exact absurd (congrArg List.length said) (fewer parts).ne'
    · intro kept
      exact (same kept).symm

/-- Two numbers become one where a block of unknown characters parts them. -/
theorem lex_known_parted :
    let source := "1#$2+%3"
    DigitsFit (known source.toList) ∧ PartsDigits source.toList ∧
    ∃ whole clean, (lex source).1 = .ok whole ∧ (lex "12+3").1 = .ok clean ∧
      clean.errors = #[] ∧ whole.errors.size = 3 ∧
      whole.tokens.toList.map content ≠ clean.tokens.toList.map content := by
  intro source
  have fits : DigitsFit (known source.toList) := DigitsFit.of_short (by decide)
  have split : source.toList = ['1'] ++ (['#', '$'] ++ ['2', '+', '%', '3']) := by decide
  have parts : PartsDigits source.toList :=
    partsDigits_of_split split (by decide) (List.all_eq_true.mp (by decide)) (by decide)
  obtain ⟨whole, clean, ran, ran', known', counted, same⟩ := lex_known source fits
  have cleaned : String.ofList (known source.toList) = "12+3" := by decide
  have length : source.toList.length = 7 := by decide
  have fewer : (known source.toList).length = 4 := by decide
  rw [cleaned] at ran'
  have count : whole.errors.size = 3 := by omega
  exact ⟨fits, parts, whole, clean, ran, ran', known', count, fun said => same.mp said parts⟩

end FrontEnd.Arithmetic
