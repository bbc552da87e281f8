import FrontEnd.Proofs.Arithmetic.Pieces

/-!
# The lines of a text

A place in a text is the line that it is in and how far into that line it is, both
counted in what precedes it: `lineAfter` and `columnAfter`. Here these counts are
compared with the lines themselves. `line_at` says that cutting a text at a place cuts
the line with that number after so many characters.
-/

namespace FrontEnd.Arithmetic

/-- What stands before, between and behind the line feeds of a text. -/
def lines (text : List Char) : List (List Char) := text.splitOn '\n'

variable {run : List Char}

theorem lineAfter_append (before : List Char) (noFeed : '\n' ∉ run) :
    lineAfter (before ++ run) = lineAfter before := by
  rw [lineAfter, List.count_append, List.count_eq_zero_of_not_mem noFeed]
  rfl

theorem takeWhile_append_of_noFeed (noFeed : '\n' ∉ run) (after : List Char) :
    (run ++ after).takeWhile (· != '\n') = run ++ after.takeWhile (· != '\n') := by
  apply List.takeWhile_append_of_pos
  intro c member
  simpa using ne_of_mem_of_not_mem member noFeed

theorem columnAfter_append (before : List Char) (noFeed : '\n' ∉ run) :
    columnAfter (before ++ run) = columnAfter before + run.length := by
  rw [columnAfter, List.reverse_append, takeWhile_append_of_noFeed (by simpa using noFeed),
    List.length_append, List.length_reverse, Nat.add_comm]
  rfl

theorem columnAfter_feed (before : List Char) : columnAfter (before ++ ['\n']) = 0 := by
  rw [columnAfter, List.reverse_append]
  rfl

theorem lines_feed (before after : List Char) :
    lines (before ++ '\n' :: after) = lines before ++ lines after :=
  List.splitOn_append_cons_self before after

theorem lines_cons {c : Char} (noFeed : c ≠ '\n') (text : List Char) :
    lines (c :: text) = (lines text).modifyHead (List.cons c) := by
  rw [lines, List.splitOn_cons_eq_if_modifyHead, if_neg (by simpa using noFeed)]
  rfl

theorem length_lines (text : List Char) : (lines text).length = lineAfter text + 1 := by
  induction text with
  | nil => rfl
  | cons c text ih =>
      by_cases feed : c = '\n'
      · subst feed
        have cut : lines ('\n' :: text) = [] :: lines text := lines_feed [] text
        rw [cut, List.length_cons, ih, lineAfter, lineAfter, List.count_cons_self]
      · rw [lines_cons feed, List.length_modifyHead, ih, lineAfter, lineAfter,
          List.count_cons_of_ne feed]

theorem head?_lines (text : List Char) :
    (lines text).head? = some (text.takeWhile (· != '\n')) := by
  induction text with
  | nil => rfl
  | cons c text ih =>
      by_cases feed : c = '\n'
      · subst feed
        have cut : lines ('\n' :: text) = [] :: lines text := lines_feed [] text
        rw [cut]
        rfl
      · rw [lines_cons feed, List.head?_modifyHead, ih, List.takeWhile_cons_of_pos (by simpa using feed)]
        rfl

theorem exists_last_line (before : List Char) :
    ∃ last, '\n' ∉ last ∧ (before = last ∨ ∃ done, before = done ++ '\n' :: last) := by
  induction before with
  | nil => exact ⟨[], by simp, .inl rfl⟩
  | cons c before ih =>
      obtain ⟨last, noFeed, rfl | ⟨done, rfl⟩⟩ := ih
      · by_cases feed : c = '\n'
        · subst feed
          exact ⟨before, noFeed, .inr ⟨[], rfl⟩⟩
        · exact ⟨c :: before, by simp [Ne.symm feed, noFeed], .inl rfl⟩
      · exact ⟨last, noFeed, .inr ⟨c :: done, rfl⟩⟩

theorem head?_lines_append {last : List Char} (noFeed : '\n' ∉ last) (after : List Char) :
    (lines (last ++ after)).head? = some (last ++ after.takeWhile (· != '\n')) := by
  rw [head?_lines, takeWhile_append_of_noFeed noFeed]

theorem columnAfter_line (done : List Char) {last : List Char} (noFeed : '\n' ∉ last) :
    columnAfter (done ++ '\n' :: last) = last.length := by
  have split : done ++ '\n' :: last = done ++ ['\n'] ++ last := by simp
  rw [split, columnAfter_append _ noFeed, columnAfter_feed, Nat.zero_add]

/-- The line with the number of a place is what stands in it before the place, as long as the
    column says, and what follows up to the next line feed. -/
theorem line_at (before after : List Char) :
    ∃ last, last.length = columnAfter before ∧
      (lines (before ++ after))[lineAfter before]? =
        some (last ++ after.takeWhile (· != '\n')) := by
  obtain ⟨last, noFeed, rfl | ⟨done, rfl⟩⟩ := exists_last_line before
  · -- The place is in the first line.
    have column : columnAfter before = 0 + before.length := columnAfter_append [] noFeed
    have line : lineAfter before = 0 := lineAfter_append [] noFeed
    refine ⟨before, by rw [column, Nat.zero_add], ?_⟩
    rw [line, ← List.head?_eq_getElem?, head?_lines_append noFeed]
  · -- All lines before the place's own end in `done`.
    have split : done ++ '\n' :: last = done ++ ['\n'] ++ last := by simp
    have column := columnAfter_line done noFeed
    have line : lineAfter (done ++ '\n' :: last) = (lines done).length := by
      rw [split, lineAfter_append _ noFeed, length_lines, lineAfter, List.count_append]
      rfl
    refine ⟨last, column.symm, ?_⟩
    rw [line, List.append_assoc, List.cons_append, lines_feed,
      List.getElem?_append_right le_rfl, Nat.sub_self, ← List.head?_eq_getElem?,
      head?_lines_append noFeed]

theorem lineAfter_concat (before text : List Char) :
    lineAfter (before ++ text) = lineAfter before + lineAfter text := by
  simp [lineAfter]

/-- Only the first line of a text is made longer by what stands before the text. -/
theorem columnAfter_concat (before text : List Char) : columnAfter (before ++ text) =
    if lineAfter text = 0 then columnAfter before + columnAfter text else columnAfter text := by
  obtain ⟨last, noFeed, here | ⟨done, here⟩⟩ := exists_last_line text
  · subst here
    have line : lineAfter text = 0 := lineAfter_append [] noFeed
    have column : columnAfter text = 0 + text.length := columnAfter_append [] noFeed
    rw [if_pos line, columnAfter_append before noFeed, column, Nat.zero_add]
  · subst here
    have line : lineAfter (done ++ '\n' :: last) ≠ 0 := by simp [lineAfter]
    rw [if_neg line, ← List.append_assoc, columnAfter_line _ noFeed, columnAfter_line _ noFeed]

end FrontEnd.Arithmetic
