import FrontEnd.Proofs.Parsing.Lookahead
import Mathlib.Data.List.TakeWhile

/-!
# Skipping and what lookahead says of it

Both ways of skipping pass over a longest run of tokens. What comes behind such a run can be
seen from where it begins: `checkSkipping` looks for a kind behind a run of tokens that may be
skipped, and `nextOffset` tells how far away a kind is. An end token ends every run, also
where its kind is one that may be skipped; lookahead takes it for a token like any other.
-/

namespace FrontEnd

namespace Parsing

variable {κ : Type} [DecidableEq κ] {parsing : Parsing κ} {kind next : Option κ}
  {skipped run rest : List (Option κ)}

theorem nextOffset_of_run (split : parsing.kindsAhead = run ++ kind :: rest) (other : kind ∉ run) :
    parsing.nextOffset kind = some run.length := by
  rw [nextOffset, split, List.idxOf?_eq_some_iff]
  refine ⟨by simp, by simp, fun offset before => ?_⟩
  rw [List.getElem_append_left before]
  exact ne_of_mem_of_not_mem (List.getElem_mem before) other

theorem length_le_nextOffset (split : parsing.kindsAhead = run ++ rest) (other : kind ∉ run)
    {distance : Nat} (found : parsing.nextOffset kind = some distance) :
    run.length ≤ distance := by
  by_contra early
  have before : distance < run.length := Nat.lt_of_not_le early
  obtain ⟨here, -⟩ := nextOffset_eq_some_iff.mp found
  rw [checkAt_natCast_iff, split, List.getElem?_append_left before] at here
  exact other (List.mem_of_getElem? here)

theorem exists_run_of_nextOffset {distance : Nat}
    (found : parsing.nextOffset kind = some distance) :
    ∃ run rest, parsing.kindsAhead = run ++ kind :: rest ∧ kind ∉ run ∧ run.length = distance := by
  obtain ⟨inside, rfl, earlier⟩ := List.idxOf?_eq_some_iff.mp found
  refine ⟨parsing.kindsAhead.take distance, parsing.kindsAhead.drop (distance + 1), ?_, ?_, ?_⟩
  · simp
  · intro member
    obtain ⟨offset, before, same⟩ := List.mem_take_iff_getElem.mp member
    exact earlier offset (by omega) same
  · simp [Nat.le_of_lt inside]

/-- What a search for a kind passes over. -/
def searchPasses (kind : Option κ) (skipped : List (Option κ)) (ahead : Option κ) : Bool :=
  ahead != kind && skipped.contains ahead

@[simp] theorem searchPasses_iff {ahead : Option κ} :
    searchPasses kind skipped ahead = true ↔ ahead ≠ kind ∧ ahead ∈ skipped := by
  simp [searchPasses]

theorem checkSkipping_eq (parsing : Parsing κ) (kind : Option κ) (skipped : List (Option κ)) :
    parsing.checkSkipping kind skipped =
      ((parsing.kindsAhead.dropWhile (searchPasses kind skipped)).head? == some kind) := rfl

theorem checkSkipping_of_run (split : parsing.kindsAhead = run ++ next :: rest)
    (passed : ∀ ahead ∈ run, ahead ≠ kind ∧ ahead ∈ skipped)
    (stops : next = kind ∨ next ∉ skipped) :
    parsing.checkSkipping kind skipped = true ↔ next = kind := by
  have before : ∀ ahead ∈ run, searchPasses kind skipped ahead = true :=
    fun ahead member => searchPasses_iff.mpr (passed ahead member)
  have stays : ¬ searchPasses kind skipped next = true := by
    rw [searchPasses_iff]
    rintro ⟨other, member⟩
    cases stops with
    | inl found => exact other found
    | inr outside => exact outside member
  rw [checkSkipping_eq, split, List.dropWhile_append_of_pos before,
    List.dropWhile_cons_of_neg stays]
  simp

theorem exists_run_of_checkSkipping (seen : parsing.checkSkipping kind skipped = true) :
    ∃ run rest, parsing.kindsAhead = run ++ kind :: rest ∧
      ∀ ahead ∈ run, ahead ≠ kind ∧ ahead ∈ skipped := by
  rw [checkSkipping_eq, beq_iff_eq] at seen
  obtain ⟨rest, left⟩ := List.head?_eq_some_iff.mp seen
  refine ⟨parsing.kindsAhead.takeWhile (searchPasses kind skipped), rest, ?_, ?_⟩
  · rw [← left, List.takeWhile_append_dropWhile]
  · intro ahead member
    exact searchPasses_iff.mp (List.mem_takeWhile_imp member)

theorem checkSkipping_iff_nextOffset :
    parsing.checkSkipping kind skipped = true ↔
      ∃ distance, parsing.nextOffset kind = some distance ∧
        ∀ offset : Nat, offset < distance → ∃ other ∈ skipped, parsing.checkAt offset other = true := by
  constructor
  · intro seen
    obtain ⟨run, rest, split, passed⟩ := exists_run_of_checkSkipping seen
    refine ⟨run.length, nextOffset_of_run split fun member => (passed _ member).1 rfl, ?_⟩
    intro offset before
    refine ⟨run[offset], (passed _ (List.getElem_mem before)).2, ?_⟩
    rw [checkAt_natCast_iff, split, List.getElem?_append_left before, List.getElem?_eq_getElem]
  · rintro ⟨distance, found, allowed⟩
    obtain ⟨run, rest, split, other, rfl⟩ := exists_run_of_nextOffset found
    apply (checkSkipping_of_run split ?_ (.inl rfl)).mpr rfl
    intro ahead member
    refine ⟨ne_of_mem_of_not_mem member other, ?_⟩
    obtain ⟨offset, before, rfl⟩ := List.getElem_of_mem member
    obtain ⟨same, allowed, here⟩ := allowed offset before
    rw [checkAt_natCast_iff, split, List.getElem?_append_left before,
      List.getElem?_eq_getElem before] at here
    rwa [Option.some.inj here]

omit [DecidableEq κ] in
theorem mem_cons_none_iff {token : Token κ} {kinds : List (Option κ)} :
    token.kind ∈ none :: kinds ↔ token.isEnd = true ∨ token.kind ∈ kinds := by
  simp [Token.isEnd]

theorem min_nextOffset_of_run {kinds : List (Option κ)} (nonempty : next ∈ kinds)
    (split : parsing.kindsAhead = run ++ next :: rest) (others : ∀ ahead ∈ run, ahead ∉ kinds) :
    (kinds.filterMap parsing.nextOffset).min? = some run.length := by
  have outside : ∀ kind ∈ kinds, kind ∉ run := fun kind wanted member => others kind member wanted
  rw [List.min?_eq_some_iff]
  constructor
  · exact List.mem_filterMap.mpr ⟨next, nonempty, nextOffset_of_run split (outside next nonempty)⟩
  · intro distance member
    obtain ⟨kind, wanted, found⟩ := List.mem_filterMap.mp member
    exact length_le_nextOffset split (outside kind wanted) found

/-- While a run is passed over, the loop goes on at each of its tokens and nowhere else. -/
theorem stops_iff_of_run {kinds : List (Option κ)} {run rest : List (Token κ)} {next : Token κ}
    (split : parsing.ahead = run ++ next :: rest)
    (passed : ∀ token ∈ run, token.isEnd = false ∧ token.kind ∉ kinds)
    (stops : next.isEnd = true ∨ next.kind ∈ kinds) {round : Nat} (within : round ≤ run.length) :
    (parsing.steps round).isComplete = true ∨ (parsing.steps round).checkAny kinds = true ↔
      round = run.length := by
  have cut : parsing.ahead = run.take round ++ (run.drop round ++ next :: rest) := by
    rw [← List.append_assoc, List.take_append_drop, split]
  have reached : (parsing.steps (run.take round).length).ahead = run.drop round ++ next :: rest :=
    ahead_steps cut fun token member => (passed token (List.mem_of_mem_take member)).1
  rw [List.length_take_of_le within] at reached
  cases left : run.drop round with
  | nil =>
      rw [left] at reached
      have last : round = run.length := by
        have lengths := congrArg List.length left
        simp at lengths
        omega
      rw [isComplete_of_ahead reached, checkAny_iff_of_ahead reached]
      cases ends : next.isEnd <;> simp_all
  | cons token more =>
      rw [left] at reached
      have member : token ∈ run := List.mem_of_mem_drop (left ▸ List.mem_cons_self)
      obtain ⟨proper, other⟩ := passed token member
      have earlier : round ≠ run.length := by
        rintro rfl
        simp at left
      rw [isComplete_of_ahead reached, checkAny_iff_of_ahead reached]
      simp [proper, other, earlier]

/-- Looking for a kind behind tokens that may be skipped foretells whether it is there once they
    are skipped, unless the kind or the end kind may be skipped itself. Whatever the kinds are,
    it is found when its first token comes behind skipped ones only. -/
theorem checkSkipping_foretells (parsing : Parsing κ) (kind : Option κ)
    (skipped : List (Option κ)) :
    (kind ≠ none → kind ∉ skipped → none ∉ skipped →
      (parsing.checkSkipping kind skipped = true ↔ (parsing.skip skipped).check kind = true)) ∧
    (parsing.checkSkipping kind skipped = true ↔
      ∃ distance, parsing.nextOffset kind = some distance ∧
        ∀ offset : Nat, offset < distance →
          ∃ other ∈ skipped, parsing.checkAt offset other = true) := by
  refine ⟨fun proper other real => ?_, checkSkipping_iff_nextOffset⟩
  obtain ⟨kind, rfl⟩ := Option.ne_none_iff_exists'.mp proper
  obtain ⟨run, next, rest, split, passed, stops, reached⟩ := passesOver_skip skipped parsing
  have left : (parsing.skip skipped).ahead = next :: rest := by
    rw [reached]
    exact ahead_steps split fun token member => (passed token member).1
  have kinds : parsing.kindsAhead = run.map Token.kind ++ next.kind :: rest.map Token.kind := by
    simp [kindsAhead_eq, split]
  have stays : next.kind ∉ skipped := by
    cases stops with
    | inl ends => simpa [show next.kind = none by simpa [Token.isEnd] using ends] using real
    | inr outside => exact outside
  rw [check_of_ahead left, decide_eq_true_iff]
  apply checkSkipping_of_run kinds ?_ (.inr stays)
  intro ahead member
  obtain ⟨token, inside, rfl⟩ := List.mem_map.mp member
  have may : token.kind ∈ skipped := (passed token inside).2
  exact ⟨ne_of_mem_of_not_mem may other, may⟩

/-- A parse of a word (`true`) behind two commas (`false`), with a word behind the first end
    token. -/
def commas : Parsing Bool where
  tokens :=
    #[⟨some false, some ",", .null, 0, 0, 1, 0⟩, ⟨some false, some ",", .null, 0, 1, 2, 1⟩,
      ⟨some true, some "a", .null, 0, 2, 3, 2⟩, .endOfStream 0 3 3,
      ⟨some true, some "b", .null, 0, 3, 4, 3⟩, .endOfStream 0 4 4]
  cursor_lt := by decide
  closed := by decide

theorem checkSkipping_foretells_commas :
    let word := some true
    let skipped := [some false]
    word ≠ none ∧ word ∉ skipped ∧ none ∉ skipped ∧
      commas.checkSkipping word skipped = true ∧ (commas.skip skipped).check word = true := by
  intro word skipped
  have proper : word ≠ none := by decide
  have other : word ∉ skipped := by decide
  have real : none ∉ skipped := by decide
  have seen : commas.checkSkipping word skipped = true := by decide
  exact ⟨proper, other, real, seen,
    ((checkSkipping_foretells commas word skipped).1 proper other real).mp seen⟩

/-- Skipping up to some kinds ends at the nearest token of them or of the end kind, as far away
    as lookahead tells. There is always one, so the loop ends: it stops after as many rounds as
    there are tokens before that one, and after no other number of rounds. -/
theorem skipUntil_stops_at_nearest (parsing : Parsing κ) (kinds : List (Option κ)) :
    ∃ distance, ((none :: kinds).filterMap parsing.nextOffset).min? = some distance ∧
      (∀ round ≤ distance,
        ((parsing.steps round).isComplete = true ∨ (parsing.steps round).checkAny kinds = true ↔
          round = distance)) ∧
      parsing.skipUntil kinds = parsing.steps distance ∧
      (parsing.skipUntil kinds).cursor = parsing.cursor + distance ∧
      (parsing.skipUntil kinds).errors = parsing.errors ∧
      (∀ token ∈ parsing.ahead.take distance, token.isEnd = false ∧ token.kind ∉ kinds) ∧
      (parsing.skipUntil kinds).skipUntil kinds = parsing.skipUntil kinds := by
  obtain ⟨run, next, rest, split, passed, stops, reached⟩ := passesOver_skipUntil kinds parsing
  rw [Decidable.not_not] at stops
  have text : ∀ token ∈ run, token.isEnd = false := fun token member => (passed token member).1
  have kindsSplit : parsing.kindsAhead = run.map Token.kind ++ next.kind :: rest.map Token.kind := by
    simp [kindsAhead_eq, split]
  have others : ∀ ahead ∈ run.map Token.kind, ahead ∉ none :: kinds := by
    intro ahead member
    obtain ⟨token, inside, rfl⟩ := List.mem_map.mp member
    rw [mem_cons_none_iff]
    simpa using passed token inside
  have nearest := min_nextOffset_of_run (mem_cons_none_iff.mpr stops) kindsSplit others
  rw [List.length_map] at nearest
  have stopped := (stops_iff_of_run split passed stops (Nat.le_refl _)).mpr rfl
  refine ⟨run.length, nearest, fun round within => stops_iff_of_run split passed stops within,
    reached, ?_, errors_skipUntil kinds parsing, ?_, ?_⟩
  · rw [reached]
    exact cursor_steps split text
  · rw [split, List.take_left]
    exact passed
  · rw [reached, skipUntil, dif_pos stopped]

end Parsing

end FrontEnd
