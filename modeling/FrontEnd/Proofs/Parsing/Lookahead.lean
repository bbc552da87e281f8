import FrontEnd.Proofs.Parsing.Accounting

/-!
# What lookahead foretells

Lookahead over a known number of tokens is `checkAt` at each of their places. It needs no
care for the end of the sequence: a token of a kind is no end token, so where the tokens at
some places have the kinds that are looked for, all these places can be reached.

That is why `checkSequential` foretells what comes of consuming one token after the other.
`Next` says of which tokens it is true, and `consumeAll` consumes them.
-/

namespace FrontEnd

namespace Parsing

variable {κ : Type} [DecidableEq κ] {parsing : Parsing κ}

omit [DecidableEq κ] in
theorem kindsAhead_eq (parsing : Parsing κ) :
    parsing.kindsAhead = parsing.ahead.map Token.kind := rfl

theorem checkAt_natCast_iff {offset : Nat} {kind : Option κ} :
    parsing.checkAt offset kind = true ↔ parsing.kindsAhead[offset]? = some kind := by
  have inside : ¬ (parsing.cursor : Int) + offset < 0 := by omega
  have place : ((parsing.cursor : Int) + offset).toNat = parsing.cursor + offset := by omega
  simp [checkAt, inside, place, kindsAhead, Option.any_eq_true]

theorem nextOffset_eq_some_iff {kind : Option κ} {distance : Nat} :
    parsing.nextOffset kind = some distance ↔
      parsing.checkAt distance kind = true ∧
        ∀ offset : Nat, offset < distance → parsing.checkAt offset kind = false := by
  simp only [nextOffset, List.idxOf?_eq_some_iff, checkAt_natCast_iff, ← Bool.not_eq_true]
  constructor
  · rintro ⟨inside, found, earlier⟩
    refine ⟨List.getElem?_eq_some_iff.mpr ⟨inside, found⟩, fun offset before => ?_⟩
    have there : offset < parsing.kindsAhead.length := Nat.lt_trans before inside
    simpa [there] using earlier offset before
  · rintro ⟨found, earlier⟩
    obtain ⟨inside, here⟩ := List.getElem?_eq_some_iff.mp found
    refine ⟨inside, here, fun offset before => ?_⟩
    have there : offset < parsing.kindsAhead.length := Nat.lt_trans before inside
    simpa [there] using earlier offset before

theorem checkSequential_iff_checkAt {kinds : List (Option κ)} :
    parsing.checkSequential kinds = true ↔
      ∀ (offset : Nat) (inside : offset < kinds.length),
        parsing.checkAt offset kinds[offset] = true := by
  simp only [checkSequential, List.isPrefixOf_iff_prefix, List.prefix_iff_getElem?,
    checkAt_natCast_iff]

theorem replicate_prefix_iff {count : Nat} {kind : Option κ} {kinds : List (Option κ)} :
    List.replicate count kind <+: kinds ↔ count ≤ (kinds.takeWhile (· == kind)).length := by
  induction count generalizing kinds with
  | zero => simp
  | succ count ih =>
      cases kinds with
      | nil => simp [List.replicate_succ]
      | cons first kinds =>
          by_cases same : first = kind
          · simp [List.replicate_succ, List.cons_prefix_cons, same, ih]
          · simp [List.replicate_succ, List.cons_prefix_cons, same, Ne.symm same]

theorem checkRepeated_eq (parsing : Parsing κ) (kind : Option κ) (count : Int) :
    parsing.checkRepeated kind count =
      parsing.checkSequential (List.replicate count.toNat kind) := by
  rw [Bool.eq_iff_iff, checkSequential, List.isPrefixOf_iff_prefix, replicate_prefix_iff,
    checkRepeated, decide_eq_true_iff, Int.toNat_le]

theorem checkRepeated_iff_checkAt {kind : Option κ} {count : Int} :
    parsing.checkRepeated kind count = true ↔
      ∀ offset : Nat, (offset : Int) < count → parsing.checkAt offset kind = true := by
  simp only [checkRepeated_eq, checkSequential_iff_checkAt, List.length_replicate,
    List.getElem_replicate, Int.lt_toNat]

/-- The next tokens have these kinds, and the other tokens are behind them. -/
structure Next (parsing : Parsing κ) (kinds : List κ) (taken behind : List (Token κ)) : Prop where
  split : parsing.ahead = taken ++ behind
  kinds : taken.map Token.kind = kinds.map some

namespace Next

variable {kind : κ} {kinds : List κ} {token : Token κ} {rest taken behind : List (Token κ)}

omit [DecidableEq κ] in
theorem cons (here : parsing.ahead = token :: rest) (found : token.kind = some kind)
    (later : Next parsing.step kinds taken behind) :
    Next parsing (kind :: kinds) (token :: taken) behind := by
  have more : token.isEnd = false := by simp [Token.isEnd, found]
  have split := later.split
  rw [ahead_step here more] at split
  exact ⟨by simp [here, split], by simp [found, later.kinds]⟩

omit [DecidableEq κ] in
theorem of_cons (next : Next parsing (kind :: kinds) (token :: taken) behind) :
    token.kind = some kind ∧ Next parsing.step kinds taken behind := by
  obtain ⟨found, kinds⟩ := List.cons.inj next.kinds
  have more : token.isEnd = false := by simp [Token.isEnd, found]
  exact ⟨found, ahead_step next.split more, kinds⟩

omit [DecidableEq κ] in
theorem length_eq (next : Next parsing kinds taken behind) : taken.length = kinds.length := by
  simpa using congrArg List.length next.kinds

omit [DecidableEq κ] in
theorem text (next : Next parsing kinds taken behind) : ∀ token ∈ taken, token.isEnd = false := by
  intro token member
  have known : token.kind ∈ kinds.map some := by
    rw [← next.kinds]
    exact List.mem_map_of_mem member
  obtain ⟨kind, -, same⟩ := List.mem_map.mp known
  simp [Token.isEnd, ← same]

omit [DecidableEq κ] in
theorem ahead_steps (next : Next parsing kinds taken behind) :
    (parsing.steps kinds.length).ahead = behind := by
  rw [← next.length_eq]
  exact Parsing.ahead_steps next.split next.text

omit [DecidableEq κ] in
theorem cursor_steps (next : Next parsing kinds taken behind) :
    (parsing.steps kinds.length).cursor = parsing.cursor + kinds.length := by
  rw [← next.length_eq]
  exact Parsing.cursor_steps next.split next.text

theorem checkSequential (next : Next parsing kinds taken behind) :
    parsing.checkSequential (kinds.map some) = true := by
  simp [Parsing.checkSequential, kindsAhead_eq, next.split, next.kinds]

theorem not_checkSequential {missing : κ} (next : Next parsing kinds taken (token :: behind))
    (other : token.kind ≠ some missing) (later : List κ) :
    parsing.checkSequential ((kinds ++ missing :: later).map some) = false := by
  simp [Parsing.checkSequential, kindsAhead_eq, next.split, next.kinds, ← Bool.not_eq_true,
    Ne.symm other]

end Next

/-- What becomes of the wish for tokens of some kinds: they are all there, or one of them is the
    first that is missing, and there is another token in its place. -/
inductive Supply (parsing : Parsing κ) : List (κ × String) → Prop where
  | complete {wanted : List (κ × String)} {taken behind : List (Token κ)}
      (next : Next parsing (wanted.map Prod.fst) taken behind) : Supply parsing wanted
  | lacking {present : List (κ × String)} {missing : κ × String} {taken behind : List (Token κ)}
      {token : Token κ} (next : Next parsing (present.map Prod.fst) taken (token :: behind))
      (other : token.kind ≠ some missing.1) (later : List (κ × String)) :
      Supply parsing (present ++ missing :: later)

theorem supply (parsing : Parsing κ) (wanted : List (κ × String)) : Supply parsing wanted := by
  induction wanted generalizing parsing with
  | nil =>
      have next : Next parsing [] [] parsing.ahead := ⟨rfl, rfl⟩
      exact .complete next
  | cons item wanted ih =>
      have here := parsing.ahead_eq_cons
      by_cases found : parsing.peek.kind = some item.1
      · cases ih parsing.step with
        | complete next => exact .complete (next.cons here found)
        | @lacking present _ _ _ _ next other later =>
            have longer : Next parsing ((item :: present).map Prod.fst) _ _ := next.cons here found
            exact .lacking longer other later
      · have next : Next parsing (([] : List (κ × String)).map Prod.fst) [] _ := ⟨here, rfl⟩
        exact .lacking next found wanted

end Parsing

open Parsing

namespace Grammar

variable {κ σ : Type} [DecidableEq κ] {parsing : Parsing κ} {taken behind : List (Token κ)}

/-- Consume tokens of these kinds, one after the other, each with the message for its
    absence. -/
def consumeAll (wanted : List (κ × String)) : Grammar κ σ (List (Token κ)) :=
  wanted.mapM fun item => consume (some item.1) item.2

omit [DecidableEq κ] in
theorem consumeAll_cons (item : κ × String) (wanted : List (κ × String)) :
    (consumeAll (item :: wanted) : Grammar κ σ (List (Token κ))) = (do
      let token ← consume (some item.1) item.2
      let tokens ← consumeAll wanted
      pure (token :: tokens)) :=
  List.mapM_cons

omit [DecidableEq κ] in
theorem consumeAll_append (wanted more : List (κ × String)) :
    (consumeAll (wanted ++ more) : Grammar κ σ (List (Token κ))) = (do
      let tokens ← consumeAll wanted
      let others ← consumeAll more
      pure (tokens ++ others)) :=
  List.mapM_append

theorem on_consumeAll_of_next {wanted : List (κ × String)}
    (next : Next parsing (wanted.map Prod.fst) taken behind) (own : σ) :
    (consumeAll wanted).on own parsing = (.ok taken, own, parsing.steps wanted.length) := by
  induction wanted generalizing parsing taken with
  | nil =>
      obtain rfl : taken = [] := by simpa using next.kinds
      rfl
  | cons item wanted ih =>
      obtain ⟨token, taken, rfl⟩ := List.exists_cons_of_length_eq_add_one next.length_eq
      obtain ⟨found, later⟩ := next.of_cons
      have consumed := on_consume_of_ahead next.split item.1 item.2 own
      rw [if_pos found] at consumed
      rw [consumeAll_cons, on_bind_ok consumed, on_bind_ok (ih later), on_pure]
      rfl

theorem on_consumeAll_of_missing {present : List (κ × String)} {missing : κ × String}
    {token : Token κ} (next : Next parsing (present.map Prod.fst) taken (token :: behind))
    (other : token.kind ≠ some missing.1) (later : List (κ × String)) (own : σ) :
    (consumeAll (present ++ missing :: later)).on own parsing =
      (.error (.abort missing.2), own,
        (parsing.steps present.length).record { token := token, message := missing.2 }) := by
  have reached := next.ahead_steps
  rw [List.length_map] at reached
  have missed := on_consume_of_ahead reached missing.1 missing.2 own
  rw [if_neg other] at missed
  rw [consumeAll_append, on_bind_ok (on_consumeAll_of_next next own), consumeAll_cons, bind_assoc,
    on_bind_error missed]

/-- Whether the next tokens have some kinds foretells what comes of consuming tokens of these
    kinds: all of them, where they are there, and otherwise an abort at the first one that is
    missing. To look for one kind several times is to look for as many tokens of it. -/
theorem checkSequential_foretells (parsing : Parsing κ) (wanted : List (κ × String)) (own : σ) :
    (parsing.checkSequential ((wanted.map Prod.fst).map some) = true →
      ∃ taken behind after, Next parsing (wanted.map Prod.fst) taken behind ∧
        (consumeAll wanted).on own parsing = (.ok taken, own, after) ∧
        after.cursor = parsing.cursor + wanted.length ∧ after.errors = parsing.errors) ∧
    (parsing.checkSequential ((wanted.map Prod.fst).map some) = false →
      ∃ present missing later taken token behind reached after,
        wanted = present ++ missing :: later ∧
        Next parsing (present.map Prod.fst) taken (token :: behind) ∧
        token.kind ≠ some missing.1 ∧
        (consumeAll present).on own parsing = (.ok taken, own, reached) ∧
        reached.cursor = parsing.cursor + present.length ∧ reached.errors = parsing.errors ∧
        (consumeAll wanted).on own parsing = (.error (.abort missing.2), own, after) ∧
        after.cursor = parsing.cursor + present.length ∧
        after.errors = parsing.errors.push
          { token := token, message := missing.2, code := "P001" }) ∧
    ∀ kind count, parsing.checkRepeated kind count =
      parsing.checkSequential (List.replicate count.toNat kind) := by
  cases parsing.supply wanted with
  | @complete _ taken behind next =>
      refine ⟨fun _ => ?_, fun absent => ?_, parsing.checkRepeated_eq⟩
      · have moved := next.cursor_steps
        rw [List.length_map] at moved
        exact ⟨taken, behind, _, next, on_consumeAll_of_next next own, moved, errors_steps _ _⟩
      · rw [next.checkSequential] at absent
        cases absent
  | @lacking present missing taken behind token next other later =>
      refine ⟨fun there => ?_, fun _ => ?_, parsing.checkRepeated_eq⟩
      · rw [List.map_append, List.map_cons, next.not_checkSequential other] at there
        cases there
      · have moved := next.cursor_steps
        rw [List.length_map] at moved
        have silent : (parsing.steps present.length).errors = parsing.errors := errors_steps _ _
        exact ⟨present, missing, later, taken, token, behind, _, _, rfl, next, other,
          on_consumeAll_of_next next own, moved, silent,
          on_consumeAll_of_missing next other later own, moved, congrArg (Array.push · _) silent⟩

/-- One word is there. The second one is missing, since an end token is in its place. -/
theorem checkSequential_foretells_parted :
    let parted := leftover.restart
    let one := [((), "Expected a word.")]
    let two := [((), "Expected a word."), ((), "Expected another word.")]
    parted.checkSequential [some ()] = true ∧
      (∃ taken after, (consumeAll one).on () parted = (.ok taken, (), after) ∧
        after.cursor = 1 ∧ after.errors = #[]) ∧
      parted.checkSequential [some (), some ()] = false ∧
      ∃ message after, (consumeAll two).on () parted = (.error (.abort message), (), after) ∧
        after.errors.size = 1 := by
  intro parted one two
  obtain ⟨taken, _, after, -, took, moved, silent⟩ :=
    (checkSequential_foretells parted one ()).1 (by decide)
  obtain ⟨_, missing, _, _, _, _, _, after', -, -, -, -, -, -, stopped, -, reported⟩ :=
    (checkSequential_foretells parted two ()).2.1 (by decide)
  have fresh : parted.errors = #[] := rfl
  exact ⟨by decide, ⟨taken, after, took, moved, silent⟩, by decide,
    missing.2, after', stopped, by simp [reported, fresh]⟩

end Grammar

end FrontEnd
