import FrontEnd.Proofs.Arithmetic.Derivation
import Mathlib.Data.List.Induction

/-!
# Contexts

What may come next in an expression depends on what has been read of it only through
two things: how many parentheses are open, and whether an operand is due. Such a
`Context` moves from kind to kind. It decides which token is the first misfit of a
text and which message that misfit gets.
-/

namespace FrontEnd.Arithmetic

/-- An operand is due after these kinds: they end with a sign or an opening parenthesis,
    or there are none. -/
def OperandDue (kinds : List (Option Kind)) : Prop :=
  ∀ last ∈ kinds.getLast?, last = some .plus ∨ last = some .minus ∨ last = some .leftParen

def ParenOpen (kinds : List (Option Kind)) : Prop :=
  kinds.count (some .rightParen) < kinds.count (some .leftParen)

/-- Where a reader of an expression stands. -/
structure Context where
  /-- The number of open parentheses. -/
  opened : Nat
  /-- Whether an operand is due; if not, one has just ended. -/
  due : Bool
  deriving DecidableEq

namespace Context

/-- The context after one more token, unless the token does not fit. No end token fits
    inside an expression. -/
def next : Context → Option Kind → Option Context
  | ⟨opened, true⟩, some .number => some ⟨opened, false⟩
  | ⟨opened, true⟩, some .leftParen => some ⟨opened + 1, true⟩
  | ⟨opened, false⟩, some .plus | ⟨opened, false⟩, some .minus => some ⟨opened, true⟩
  | ⟨opened + 1, false⟩, some .rightParen => some ⟨opened, false⟩
  | _, _ => none

def run (context : Context) (kinds : List (Option Kind)) : Option Context :=
  kinds.foldlM next context

/-- Whether a token can come next. An end token can where the expression may be over. -/
def admits (context : Context) : Option Kind → Bool
  | none => context.opened = 0 && !context.due
  | some kind => (context.next (some kind)).isSome

/-- What is said of a token that cannot come next. -/
def complaint (context : Context) : String :=
  if context.due then "Expected Number."
  else if 0 < context.opened then "Expected ')' after expression."
  else "Expected end of input."

theorem run_cons (context : Context) (kind : Option Kind) (kinds : List (Option Kind)) :
    context.run (kind :: kinds) = (context.next kind).bind fun after => after.run kinds := rfl

theorem run_append (context : Context) (first second : List (Option Kind)) :
    context.run (first ++ second) = (context.run first).bind fun after => after.run second :=
  List.foldlM_append

theorem run_snoc {context after : Context} {kinds : List (Option Kind)} (kind : Option Kind)
    (ran : context.run kinds = some after) : context.run (kinds ++ [kind]) = after.next kind := by
  rw [run_append, ran, Option.bind_some, run_cons]
  exact Option.bind_fun_some _

def deeper (context : Context) : Context := ⟨context.opened + 1, context.due⟩

theorem next_deeper {before after : Context} {kind : Option Kind}
    (stepped : before.next kind = some after) : before.deeper.next kind = some after.deeper := by
  fun_cases next before kind with
  | case1 | case2 | case3 | case4 | case5 =>
      cases stepped
      rfl
  | case6 => simp [next] at stepped

theorem run_deeper {before after : Context} {kinds : List (Option Kind)}
    (ran : before.run kinds = some after) : before.deeper.run kinds = some after.deeper := by
  induction kinds generalizing before with
  | nil =>
      cases ran
      rfl
  | cons kind kinds ih =>
      rw [run_cons] at ran ⊢
      obtain ⟨middle, here, rest⟩ := Option.bind_eq_some_iff.mp ran
      rw [next_deeper here, Option.bind_some, ih rest]

theorem complaint_deeper (context : Context) :
    context.deeper.complaint = "Expected Number." ∨
      context.deeper.complaint = "Expected ')' after expression." := by
  rcases context with ⟨opened, _ | _⟩
  · exact .inr rfl
  · exact .inl rfl

theorem refuses_for_operand {kind : Option Kind} (noNumber : kind ≠ some .number)
    (noParen : kind ≠ some .leftParen) (opened : Nat) : admits ⟨opened, true⟩ kind = false := by
  rcases kind with _ | _ | _ | _ | _ | _ | _ <;> simp_all [admits, next]

theorem refuses_inside {kind : Option Kind} (noSign : ¬ (kind = some .plus ∨ kind = some .minus))
    (noParen : kind ≠ some .rightParen) (opened : Nat) :
    admits ⟨opened + 1, false⟩ kind = false := by
  rcases kind with _ | _ | _ | _ | _ | _ | _ <;> simp_all [admits, next]

theorem refuses_outside {kind : Option Kind} (noSign : ¬ (kind = some .plus ∨ kind = some .minus))
    (noEnd : kind ≠ none) : admits ⟨0, false⟩ kind = false := by
  rcases kind with _ | _ | _ | _ | _ | _ | _ <;> simp_all [admits, next]

theorem text_of_run {context after : Context} {tokens : List (Token Kind)}
    (ran : context.run (tokens.map Token.kind) = some after) :
    ∀ token ∈ tokens, token.isEnd = false := by
  induction tokens generalizing context with
  | nil => simp
  | cons token tokens ih =>
      rw [List.map_cons, run_cons] at ran
      obtain ⟨middle, here, rest⟩ := Option.bind_eq_some_iff.mp ran
      intro other member
      rcases List.mem_cons.mp member with rfl | member
      · cases found : other.kind with
        | none => simp [found, next] at here
        | some kind => simp [Token.isEnd, found]
      · exact ih rest other member

theorem next_sign {kind : Option Kind} (sign : kind = some .plus ∨ kind = some .minus)
    (opened : Nat) : next ⟨opened, false⟩ kind = some ⟨opened, true⟩ := by
  rcases sign with plus | minus
  · rw [plus]; rfl
  · rw [minus]; rfl

theorem run_chain {signed : List Signed} (signs : ∀ item ∈ signed, item.HasSign)
    (terms : ∀ item ∈ signed, ∀ opened,
      run ⟨opened, true⟩ (item.tokens.map Token.kind) = some ⟨opened, false⟩) (opened : Nat) :
    run ⟨opened, false⟩ ((signed.flatMap Signed.spelled).map Token.kind) =
      some ⟨opened, false⟩ := by
  induction signed with
  | nil => rfl
  | cons item signed ih =>
      obtain ⟨sign, signs⟩ := List.forall_mem_cons.mp signs
      obtain ⟨term, terms⟩ := List.forall_mem_cons.mp terms
      rw [List.flatMap_cons, Signed.spelled, List.cons_append, List.map_cons, run_cons,
        next_sign sign, Option.bind_some, List.map_append, run_append, term, Option.bind_some,
        ih signs terms]

theorem run_term {tokens : List (Token Kind)} {tree : Expr} (term : Term tokens tree)
    (opened : Nat) : run ⟨opened, true⟩ (tokens.map Token.kind) = some ⟨opened, false⟩ := by
  induction term using Term.induct generalizing opened with
  | number numeral => rw [List.map_singleton, numeral]; rfl
  | parens opens closes head signs _ headRun termsRun =>
      rw [List.map_cons, run_cons, opens, next, Option.bind_some, List.map_append, run_append,
        List.map_append, run_append, headRun, Option.bind_some, run_chain signs termsRun,
        Option.bind_some, List.map_singleton, closes]
      rfl

theorem run_expression {tokens : List (Token Kind)} {tree : Expr}
    (derived : Expression tokens tree) (opened : Nat) :
    run ⟨opened, true⟩ (tokens.map Token.kind) = some ⟨opened, false⟩ := by
  cases derived with
  | chain head signs terms =>
      rw [List.map_append, run_append, run_term head, Option.bind_some,
        run_chain signs fun item member => run_term (terms item member)]

theorem text_of_expression {tokens : List (Token Kind)} {tree : Expr}
    (derived : Expression tokens tree) : ∀ token ∈ tokens, token.isEnd = false :=
  text_of_run (run_expression derived 0)

theorem run_grammatical {kinds : List (Option Kind)} (grammatical : Grammatical kinds) :
    run ⟨0, true⟩ kinds = some ⟨0, false⟩ := by
  obtain ⟨tokens, tree, derived, rfl⟩ := grammatical
  exact run_expression derived 0

theorem admits_of_next {before after : Context} {kind : Option Kind}
    (fits : before.next kind = some after) : before.admits kind = true := by
  cases kind with
  | none => simp [next] at fits
  | some kind => simp [admits, fits]

theorem misfit_stops {kinds whole : List (Option Kind)} {context : Context} {kind : Option Kind}
    (ran : run ⟨0, true⟩ kinds = some context) (misfit : context.admits kind = false)
    (begins : kinds ++ [kind] <+: whole ++ [none]) : run ⟨0, true⟩ whole ≠ some ⟨0, false⟩ := by
  intro through
  obtain ⟨rest, same⟩ := begins
  rcases List.eq_nil_or_concat rest with rfl | ⟨more, last, rfl⟩
  · -- the misfit would be the end token right after the whole expression
    rw [List.append_nil] at same
    obtain ⟨rfl, ended⟩ := List.append_inj' same rfl
    obtain rfl : kind = none := by simpa using ended
    rw [through] at ran
    cases ran
    simp [admits] at misfit
  · rw [List.concat_eq_append, ← List.append_assoc] at same
    obtain ⟨rfl, -⟩ := List.append_inj' same rfl
    rw [run_append, run_snoc kind ran] at through
    obtain ⟨after, fits, -⟩ := Option.bind_eq_some_iff.mp through
    simp [admits_of_next fits] at misfit

theorem prefix_of_misfit {start before after : Context} {token : Token Kind}
    {read longer behind beyond : List (Token Kind)}
    (ran : start.run (read.map Token.kind) = some before)
    (misfit : before.admits token.kind = false)
    (ran' : start.run (longer.map Token.kind) = some after)
    (same : read ++ token :: behind = longer ++ beyond) : longer <+: read := by
  rcases List.append_eq_append_iff.mp same with ⟨more, rfl, later⟩ | ⟨more, rfl, -⟩
  · cases more with
    | nil => simp
    | cons first more =>
        obtain rfl : token = first := (List.cons.inj later).1
        rw [List.map_append, run_append, ran, Option.bind_some, List.map_cons, run_cons] at ran'
        obtain ⟨reached, fits, -⟩ := Option.bind_eq_some_iff.mp ran'
        simp [admits_of_next fits] at misfit
  · exact List.prefix_append ..

theorem misfit_unique {start before after : Context} {token token' : Token Kind}
    {read other behind beyond : List (Token Kind)}
    (ran : start.run (read.map Token.kind) = some before)
    (misfit : before.admits token.kind = false)
    (ran' : start.run (other.map Token.kind) = some after)
    (misfit' : after.admits token'.kind = false)
    (same : read ++ token :: behind = other ++ token' :: beyond) : read = other := by
  have shorter := prefix_of_misfit ran misfit ran' same
  have longer := prefix_of_misfit ran' misfit' ran same.symm
  exact longer.eq_of_length_le shorter.length_le

/-- What does not fit after a beginning of an expression cannot be made to fit. -/
theorem not_viable {kinds : List (Option Kind)} {context : Context} {kind : Option Kind}
    (ran : run ⟨0, true⟩ kinds = some context) (misfit : context.admits kind = false) :
    ¬ Viable (kinds ++ [kind]) := by
  rintro ⟨whole, grammatical, begins⟩
  exact misfit_stops ran misfit begins (run_grammatical grammatical)

/-- What completes an expression: the operand that is due, and the closing parentheses. -/
def completion (context : Context) : List (Option Kind) :=
  (if context.due then [some .number] else []) ++ List.replicate context.opened (some .rightParen)

theorem run_closing (opened : Nat) :
    run ⟨opened, false⟩ (List.replicate opened (some .rightParen)) = some ⟨0, false⟩ := by
  induction opened with
  | zero => rfl
  | succ opened ih => rw [List.replicate_succ, run_cons, next, Option.bind_some, ih]

theorem run_completion (context : Context) :
    context.run context.completion = some ⟨0, false⟩ := by
  obtain ⟨opened, due⟩ := context
  cases due with
  | false => exact run_closing opened
  | true => exact run_closing opened

theorem next_balance {before after : Context} {kind : Option Kind}
    (stepped : before.next kind = some after) :
    (after.due = true ↔ kind = some .plus ∨ kind = some .minus ∨ kind = some .leftParen) ∧
      [kind].count (some .leftParen) + before.opened =
        [kind].count (some .rightParen) + after.opened := by
  fun_cases next before kind with
  | case1 opened | case3 opened | case4 opened =>
      cases stepped
      simp
  | case2 opened | case5 opened =>
      cases stepped
      simp [Nat.add_comm]
  | case6 => simp [next] at stepped

/-- The context after a beginning of an expression can be told from its last kind and from
    the numbers of parentheses in it. -/
theorem run_start {kinds : List (Option Kind)} {context : Context}
    (ran : run ⟨0, true⟩ kinds = some context) :
    (context.due = true ↔ OperandDue kinds) ∧
      kinds.count (some .leftParen) = kinds.count (some .rightParen) + context.opened := by
  induction kinds using List.reverseRecOn generalizing context with
  | nil =>
      cases ran
      simp [OperandDue]
  | append_singleton kinds kind ih =>
      rw [run_append] at ran
      obtain ⟨before, reached, last⟩ := Option.bind_eq_some_iff.mp ran
      rw [run_cons] at last
      obtain ⟨after, stepped, done⟩ := Option.bind_eq_some_iff.mp last
      cases done
      obtain ⟨-, counted⟩ := ih reached
      obtain ⟨due, balance⟩ := next_balance stepped
      constructor
      · simpa [OperandDue] using due
      · rw [List.count_append, List.count_append]
        omega

/-- The message for a misfit, told from what precedes it. -/
theorem complaint_start {kinds : List (Option Kind)} {context : Context}
    (ran : run ⟨0, true⟩ kinds = some context) :
    (OperandDue kinds → context.complaint = "Expected Number.") ∧
      (¬ OperandDue kinds → ParenOpen kinds →
        context.complaint = "Expected ')' after expression.") ∧
      (¬ OperandDue kinds → ¬ ParenOpen kinds → context.complaint = "Expected end of input.") := by
  obtain ⟨due, counted⟩ := run_start ran
  have isOpen : ParenOpen kinds ↔ 0 < context.opened := by
    rw [ParenOpen, counted]
    omega
  rw [← due, isOpen, complaint]
  refine ⟨?_, ?_, ?_⟩
  · intro operand
    exact if_pos operand
  · intro ended inside
    rw [if_neg ended, if_pos inside]
  · intro ended outside
    rw [if_neg ended, if_neg outside]

end Context

end FrontEnd.Arithmetic
