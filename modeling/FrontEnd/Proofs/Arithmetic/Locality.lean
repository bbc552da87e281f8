import FrontEnd.Proofs.Arithmetic.Pieces
import FrontEnd.Proofs.Arithmetic.Reading

/-!
# Recovery is local

What a parse of a run of expressions makes of the beginning of a sequence does not depend on
what follows. Where a new expression begins, the parse goes on as if it had just started, and
what stopped it within an expression stops it there whatever comes later.
-/

namespace FrontEnd.Arithmetic

variable {left right : List (Token Kind)} {ending token : Token Kind} {message : String}
  {segments others : List Segment} {stop : Option (SyntaxError Kind)}

theorem Splits.reading_seam (splits : Splits left segments)
    (inside : ∀ token ∈ left, token.isEnd = false) (ends : ending.isEnd = true)
    (starts : ∀ next ∈ right.head?, Starts next)
    (reading : Reading (right ++ [ending]) others stop) :
    Reading (left ++ right ++ [ending]) (segments ++ others) stop := by
  have stops : ∀ next ∈ (right ++ [ending]).head?, EndsSkip next := by
    cases right with
    | nil => simp [EndsSkip, ends]
    | cons first right => simp [EndsSkip, starts first rfl]
  rw [List.append_assoc]
  exact splits.reading inside reading (reading.not_skipped stops)

theorem Stuck.reading_longer {text read behind : List (Token Kind)}
    (stuck : Stuck read token message) (splits : Splits text segments)
    (inside : ∀ token ∈ text, token.isEnd = false)
    (split : left ++ [ending] = text ++ (read ++ token :: behind)) (other : token ≠ ending)
    (right : List (Token Kind)) : Reading (left ++ right) segments
      (some { token := token, message := message }) := by
  have begins : text ++ (read ++ [token]) <+: left ++ [ending] := ⟨behind, by simp [split]⟩
  rcases List.prefix_concat_iff.mp begins with same | ⟨more, rfl⟩
  · rw [← List.append_assoc] at same
    exact absurd (List.cons.inj (List.append_inj' same rfl).2).1 other
  · have stopped : Reading (read ++ token :: (more ++ right)) [] _ := .stuck stuck
    simpa using splits.reading inside stopped (by simp)

/-- A parse that gives a list goes on, where another expression or nothing follows, as the parse
    of what follows does alone. A parse that is abandoned before its end token is abandoned there
    whatever follows. -/
theorem parseExprs_append {first second both : Parsing Kind}
    (inside : ∀ token ∈ left, token.isEnd = false) (ends : ending.isEnd = true)
    (ofFirst : first.tokens.toList = left ++ [ending])
    (ofSecond : second.tokens.toList = right ++ [ending])
    (ofBoth : both.tokens.toList = left ++ right ++ [ending]) :
    ∃ one two whole after after' after'', parseExprs first = (.ok one, after) ∧
      parseExprs second = (.ok two, after') ∧ parseExprs both = (.ok whole, after'') ∧
      (∀ found, one.ast = some found → (∀ next ∈ right.head?, Starts next) →
        whole.ast = two.ast.map (found ++ ·) ∧ whole.errors = one.errors ++ two.errors) ∧
      (one.ast = none → ∀ last ∈ one.errors.back?, last.token ∈ left → whole = one) := by
  obtain ⟨others, stop, after', reading, ran'⟩ := exists_reading second
  obtain ⟨all, stop', after'', reading', ran''⟩ := exists_reading both
  rw [ofSecond] at reading
  rw [ofBoth] at reading'
  rcases parseExprs_cases first with ⟨segments, after, splits, ran⟩ |
    ⟨text, read, token, behind, message, segments, after, split, proper, splits, stuck, ran⟩
  · refine ⟨_, _, _, after, after', after'', ran, ran', ran'', ?_, by simp⟩
    intro found list starts
    obtain rfl : (trees segments).toArray = found := Option.some.inj list
    rw [ofFirst, Token.beforeEnd_append inside ends] at splits
    obtain ⟨rfl, rfl⟩ := reading'.unique (splits.reading_seam inside ends starts reading)
    rw [parsedAs_append]
    exact ⟨rfl, rfl⟩
  · refine ⟨_, _, _, after, after', after'', ran, ran', ran'', by simp, ?_⟩
    intro _ last isLast member
    obtain rfl : SyntaxError.mk token message "P001" = last := by simpa using isLast
    have other : token ≠ ending := by
      rintro rfl
      simp [inside _ member] at ends
    have longer := stuck.reading_longer splits proper (ofFirst ▸ split) other (right ++ [ending])
    rw [← List.append_assoc] at longer
    obtain ⟨rfl, rfl⟩ := reading'.unique longer
    rfl

/-- What follows one text is parsed afresh, and what follows the other is not looked at. -/
theorem parseExprs_append_seam :
    let ending : Token Kind := .endOfStream 0 2 2
    let parsed := fun tokens : List (Token Kind) =>
      (Parsing.ofTokens (tokens ++ [ending]).toArray).toOption.bind fun parsing =>
        (parseExprs parsing).1.toOption
    let list := tokensIn [] "1)".toList
    let abort := tokensIn [] "()".toList
    let right := tokensIn [] "(2".toList
    (∃ one two whole, parsed list = some one ∧ parsed right = some two ∧
      parsed (list ++ right) = some whole ∧ one.ast = some #[.number (.int 1)] ∧
      two.ast = none ∧ whole.ast = none ∧ whole.errors = one.errors ++ two.errors) ∧
    ∃ one whole, parsed abort = some one ∧ parsed (abort ++ right) = some whole ∧
      one.ast = none ∧ whole = one := by
  intro ending parsed list abort right
  have ends : ending.isEnd = true := rfl
  have runs : ∀ tokens, ∃ parsing : Parsing Kind, parsing.tokens.toList = tokens ++ [ending] ∧
      parsed tokens = (parseExprs parsing).1.toOption := by
    intro tokens
    obtain ⟨parsing, made, ofTokens⟩ := Parsing.exists_ofTokens tokens ends
    exact ⟨parsing, ofTokens, by simp [parsed, made, Except.toOption]⟩
  obtain ⟨second, ofSecond, ranSecond⟩ := runs right
  constructor
  · obtain ⟨first, ofFirst, ranFirst⟩ := runs list
    obtain ⟨both, ofBoth, ranBoth⟩ := runs (list ++ right)
    obtain ⟨one, two, whole, _, _, _, ran, ran', ran'', goesOn, -⟩ :=
      parseExprs_append (by decide +kernel) ends ofFirst ofSecond ofBoth
    rw [ran] at ranFirst
    rw [ran'] at ranSecond
    rw [ran''] at ranBoth
    have found : (parsed list).map Parsed.ast = some (some #[.number (.int 1)]) := by
      decide +kernel
    have aborted : (parsed right).map Parsed.ast = some none := by decide +kernel
    rw [ranFirst] at found
    rw [ranSecond] at aborted
    have list' : one.ast = some #[.number (.int 1)] := Option.some.inj found
    have none' : two.ast = none := Option.some.inj aborted
    obtain ⟨ast, errors⟩ := goesOn _ list' (by decide +kernel)
    exact ⟨one, two, whole, ranFirst, ranSecond, ranBoth, list', none', by simp [ast, none'], errors⟩
  · obtain ⟨first, ofFirst, ranFirst⟩ := runs abort
    obtain ⟨both, ofBoth, ranBoth⟩ := runs (abort ++ right)
    obtain ⟨one, two, whole, _, _, _, ran, -, ran'', -, stops⟩ :=
      parseExprs_append (by decide +kernel) ends ofFirst ofSecond ofBoth
    rw [ran] at ranFirst
    rw [ran''] at ranBoth
    have aborted : (parsed abort).map
        (fun one => (one.ast, one.errors.back?.map fun last => decide (last.token ∈ abort))) =
          some (none, some true) := by decide +kernel
    rw [ranFirst] at aborted
    obtain ⟨none', reported⟩ := Prod.mk.inj (Option.some.inj aborted)
    obtain ⟨last, isLast, within⟩ := Option.map_eq_some_iff.mp reported
    have same := stops none' last isLast (of_decide_eq_true within)
    exact ⟨one, whole, ranFirst, ranBoth, none', same⟩

end FrontEnd.Arithmetic
