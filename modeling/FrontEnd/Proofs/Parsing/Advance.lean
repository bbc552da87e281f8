import FrontEnd.Proofs.Parsing.Skipping

/-!
# Advancing by a count

Advancing consumes one token after the other, and an end token holds it up: from there on it
counts without moving. So it gets as far as the count says or as the next end token is away,
whichever is less, and it does not matter how a count is divided.
-/

namespace FrontEnd.Parsing

variable {κ : Type} {parsing : Parsing κ} {place : Nat}

/-- The first end token at the cursor or behind it has this place in the sequence. -/
structure EndsAt (parsing : Parsing κ) (place : Nat) : Prop where
  behind : parsing.cursor ≤ place
  ends : ∃ ending, parsing.tokens[place]? = some ending ∧ ending.isEnd = true
  text : ∀ index token, parsing.cursor ≤ index → index < place →
    parsing.tokens[index]? = some token → token.isEnd = false

namespace EndsAt

theorem of_isComplete (complete : parsing.isComplete = true) : EndsAt parsing parsing.cursor where
  behind := Nat.le_refl _
  ends := ⟨parsing.peek, getElem?_cursor parsing, complete⟩
  text _ _ reached before := absurd before (Nat.not_lt_of_le reached)

theorem of_step (more : ¬ parsing.isComplete = true) (later : EndsAt parsing.step place) :
    EndsAt parsing place := by
  obtain ⟨behind, ends, text⟩ := later
  rw [cursor_step more] at behind text
  rw [tokens_step] at ends text
  refine ⟨Nat.le_of_succ_le behind, ends, ?_⟩
  intro index token reached before found
  rcases Nat.eq_or_lt_of_le reached with here | further
  · rw [← here, getElem?_cursor] at found
    obtain rfl : parsing.peek = token := Option.some.inj found
    exact Bool.eq_false_iff.mpr more
  · exact text index token further before found

theorem isComplete_iff (endsAt : EndsAt parsing place) :
    parsing.isComplete = true ↔ parsing.cursor = place := by
  obtain ⟨behind, ⟨ending, there, ends⟩, text⟩ := endsAt
  constructor
  · intro complete
    by_contra other
    have before : parsing.cursor < place := Nat.lt_of_le_of_ne behind other
    have open_ := text _ parsing.peek (Nat.le_refl _) before (getElem?_cursor parsing)
    rw [isComplete, open_] at complete
    cases complete
  · rintro rfl
    rw [getElem?_cursor] at there
    obtain rfl : parsing.peek = ending := Option.some.inj there
    exact ends

theorem step (endsAt : EndsAt parsing place) : EndsAt parsing.step place := by
  by_cases complete : parsing.isComplete = true
  · rw [step_of_isComplete complete]
    exact endsAt
  · have short : parsing.cursor ≠ place := fun here => complete (endsAt.isComplete_iff.mpr here)
    refine ⟨?_, ?_, ?_⟩
    · rw [cursor_step complete]
      exact Nat.lt_of_le_of_ne endsAt.behind short
    · rw [tokens_step]
      exact endsAt.ends
    · intro index token reached before found
      rw [cursor_step complete] at reached
      rw [tokens_step] at found
      exact endsAt.text index token (Nat.le_of_succ_le reached) before found

theorem cursor_step (endsAt : EndsAt parsing place) :
    parsing.step.cursor = min (parsing.cursor + 1) place := by
  have behind := endsAt.behind
  by_cases complete : parsing.isComplete = true
  · have here := endsAt.isComplete_iff.mp complete
    rw [step_of_isComplete complete]
    omega
  · have short : parsing.cursor ≠ place := fun here => complete (endsAt.isComplete_iff.mpr here)
    rw [Parsing.cursor_step complete]
    omega

theorem cursor_steps (endsAt : EndsAt parsing place) (count : Nat) :
    (parsing.steps count).cursor = min (parsing.cursor + count) place := by
  induction count generalizing parsing with
  | zero => exact (Nat.min_eq_left endsAt.behind).symm
  | succ count ih =>
      rw [steps, ih endsAt.step, endsAt.cursor_step]
      omega

end EndsAt

theorem exists_endsAt (parsing : Parsing κ) : ∃ place, EndsAt parsing place := by
  by_cases complete : parsing.isComplete = true
  · exact ⟨parsing.cursor, .of_isComplete complete⟩
  · obtain ⟨place, endsAt⟩ := exists_endsAt parsing.step
    exact ⟨place, .of_step complete endsAt⟩
termination_by parsing.tokens.size - parsing.cursor
decreasing_by exact step_shortens complete

theorem lastToken_eq (parsing : Parsing κ) :
    some parsing.lastToken =
      if parsing.cursor = 0 then parsing.tokens[0]? else parsing.tokens[parsing.cursor - 1]? := by
  have inside := parsing.cursor_lt
  rw [lastToken, previous]
  cases here : parsing.cursor with
  | zero =>
      have first := getElem?_cursor parsing
      rw [here] at first
      rw [if_pos rfl, first]
  | succ before =>
      have present : before < parsing.tokens.size := by omega
      rw [if_neg (Nat.succ_ne_zero before), Nat.add_sub_cancel]
      simp only [Array.getElem?_eq_getElem present, Option.getD_some]

/-- Advancing moves the cursor as far as the count says, up to the first end token at the cursor
    or behind it. A positive count gives the token before the new cursor, or the first one if none
    is before it. Two counts one after the other are worth their sum. -/
theorem advance_saturates (parsing : Parsing κ) :
    ∃ place, EndsAt parsing place ∧
      (∀ count : Int,
        ((parsing.advance count).2.cursor : Int) = min (parsing.cursor + max count 0) place ∧
        (parsing.advance count).2.errors = parsing.errors ∧
        (count ≤ 0 → (parsing.advance count).1 = none) ∧
        (0 < count → ∃ token, (parsing.advance count).1 = some token ∧
          some token =
            if (parsing.advance count).2.cursor = 0 then parsing.tokens[0]?
            else parsing.tokens[(parsing.advance count).2.cursor - 1]?)) ∧
      ∀ first second : Int, 0 ≤ first → 1 ≤ second →
        (parsing.advance first).2.advance second = parsing.advance (first + second) := by
  obtain ⟨place, endsAt⟩ := exists_endsAt parsing
  refine ⟨place, endsAt, fun count => ⟨?_, errors_steps _ _, ?_, ?_⟩, ?_⟩
  · have moved : (parsing.advance count).2.cursor = min (parsing.cursor + count.toNat) place :=
      endsAt.cursor_steps count.toNat
    omega
  · intro nothing
    exact if_pos nothing
  · intro positive
    have last := lastToken_eq (parsing.steps count.toNat)
    rw [tokens_steps] at last
    exact ⟨_, if_neg (by omega), last⟩
  · intro first second _ positive
    have total : (first + second).toNat = first.toNat + second.toNat := by omega
    have later : ¬ second ≤ 0 := by omega
    have whole : ¬ first + second ≤ 0 := by omega
    simp only [advance, total, steps_add, if_neg later, if_neg whole]

/-- Past two commas and a word, where the end token is in the way of the last count. -/
theorem advance_saturates_commas :
    (0 : Int) ≤ 1 ∧ (1 : Int) ≤ 4 ∧ (0 : Int) < 5 ∧ EndsAt commas 3 ∧
      (commas.advance 1).2.advance 4 = commas.advance 5 ∧ (commas.advance 5).2.cursor = 3 ∧
      (commas.advance 5).1 = some ⟨some true, some "a", .null, 0, 2, 3, 2⟩ := by
  obtain ⟨place, endsAt, counts, sums⟩ := advance_saturates commas
  obtain ⟨moved, -, -, gives⟩ := counts 5
  obtain ⟨token, given, last⟩ := gives (by decide)
  have reached : (commas.advance 5).2.cursor = 3 := by decide
  obtain rfl : place = 3 := by
    rw [reached] at moved
    have begun : commas.cursor = 0 := rfl
    omega
  rw [reached] at last
  rw [given, last]
  exact ⟨by decide, by decide, by decide, endsAt, sums 1 4 (by decide) (by decide), reached, rfl⟩

end FrontEnd.Parsing
