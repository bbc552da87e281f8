import FrontEnd.Proofs.Arithmetic.Recovery
import Mathlib.Data.List.TakeWhile

/-!
# Readings

A sequence of tokens can be read as a run of expressions in one way only: segment by
segment, up to its first end token or up to a misfit in an expression. What is behind that
place has no part in it. A reading of a sequence says what the parse of it gives, so it is
enough to compare readings in order to compare parses.
-/

namespace FrontEnd.Arithmetic

variable {tokens text rest read behind : List (Token Kind)} {token : Token Kind}
  {segments others : List Segment} {misfit misfit' : Option (SyntaxError Kind)}

namespace Stuck

variable {first behind' : List (Token Kind)} {token' next : Token Kind} {message message' : String}

theorem unique (one : Stuck read token message) (two : Stuck first token' message')
    (same : read ++ token :: behind = first ++ token' :: behind') :
    read = first ∧ token = token' ∧ message = message' := by
  obtain ⟨context, ran, refused, rfl⟩ := one.misfit 0
  obtain ⟨context', ran', refused', rfl⟩ := two.misfit 0
  obtain rfl := Context.misfit_unique ran refused ran' refused' same
  obtain rfl : context = context' := Option.some.inj (ran.symm.trans ran')
  simp_all

theorem begins (stuck : Stuck read token message) (behind : List (Token Kind)) :
    ∃ first more, read ++ token :: behind = first :: more ∧ Starts first := by
  have starts := stuck.starts
  cases read with
  | nil => exact ⟨token, behind, rfl, by simpa using starts⟩
  | cons first read => exact ⟨first, _, rfl, by simpa using starts⟩

/-- What follows a longest expression is no misfit in it. -/
theorem not_expression {tree : Expr} (stuck : Stuck read token message)
    (derived : Expression first tree) (ends : ¬ SignAhead (next :: rest))
    (same : read ++ token :: behind = first ++ next :: rest) : False := by
  have noSign : ¬ (next.kind = some .plus ∨ next.kind = some .minus) :=
    fun sign => ends ⟨next, rest, rfl, sign⟩
  have refused : ∃ opened, Context.admits ⟨opened, false⟩ next.kind = false := by
    by_cases closes : next.kind = some .rightParen
    · exact ⟨0, Context.refuses_outside noSign (by simp [closes])⟩
    · exact ⟨1, Context.refuses_inside noSign closes 0⟩
  obtain ⟨opened, refused⟩ := refused
  obtain ⟨context, ran, refused', -⟩ := stuck.misfit opened
  obtain rfl :=
    Context.misfit_unique ran refused' (Context.run_expression derived opened) refused same
  -- Outside of parentheses the message would be one that no misfit in an expression gets.
  obtain ⟨outside, reached, -, said⟩ := stuck.misfit 0
  rw [Context.run_expression derived] at reached
  cases reached
  rcases stuck.message with operand | closing <;> simp_all [Context.complaint]

end Stuck

/-- A token that ends a run of tokens that are skipped. -/
def EndsSkip (token : Token Kind) : Prop := token.isEnd = true ∨ Starts token

instance : DecidablePred EndsSkip := fun _ => inferInstanceAs (Decidable (_ ∨ _))

/-- The tokens are read as these segments, up to an end token or up to a misfit. -/
inductive Reading : List (Token Kind) → List Segment → Option (SyntaxError Kind) → Prop where
  | ending {token : Token Kind} {behind : List (Token Kind)} (ends : token.isEnd = true) :
      Reading (token :: behind) [] none
  | stuck {read behind : List (Token Kind)} {token : Token Kind} {message : String}
      (stops : Stuck read token message) :
      Reading (read ++ token :: behind) [] (some { token := token, message := message })
  | expression {read rest : List (Token Kind)} {tree : Expr} {segments : List Segment}
      {misfit : Option (SyntaxError Kind)} (derived : Expression read tree)
      (ends : ¬ SignAhead rest) (later : Reading rest segments misfit) :
      Reading (read ++ rest) (.expression read tree :: segments) misfit
  | skipped {first : Token Kind} {more rest : List (Token Kind)} {segments : List Segment}
      {misfit : Option (SyntaxError Kind)} (passed : ∀ token ∈ first :: more, ¬ EndsSkip token)
      (apart : ∀ next ∈ segments.head?, next.isSkipped = false)
      (later : Reading rest segments misfit) :
      Reading (first :: more ++ rest) (.skipped first more :: segments) misfit

theorem signAhead_iff :
    SignAhead tokens ↔ ∃ first ∈ tokens.head?, first.kind = some .plus ∨ first.kind = some .minus := by
  cases tokens <;> simp [SignAhead]

theorem EndsSkip.noSign (stops : EndsSkip token) :
    ¬ (token.kind = some .plus ∨ token.kind = some .minus) := by
  rintro (plus | minus) <;> simp_all [EndsSkip, Starts, Token.isEnd]

theorem not_signAhead_append (ends : ¬ SignAhead text)
    (next : ∀ token ∈ rest.head?, EndsSkip token) : ¬ SignAhead (text ++ rest) := by
  rw [signAhead_iff] at ends ⊢
  cases text with
  | nil =>
      rintro ⟨token, first, sign⟩
      exact (next token first).noSign sign
  | cons first text => simpa using ends

namespace Reading

theorem endsSkip (reading : Reading tokens segments misfit)
    (apart : ∀ next ∈ segments.head?, next.isSkipped = false) :
    ∃ first more, tokens = first :: more ∧ EndsSkip first := by
  cases reading with
  | ending ends => exact ⟨_, _, rfl, .inl ends⟩
  | @stuck _ behind _ _ stops =>
      obtain ⟨first, more, same, starts⟩ := stops.begins behind
      exact ⟨first, more, same, .inr starts⟩
  | expression derived _ _ =>
      obtain ⟨first, more, rfl, starts⟩ := derived.starts
      exact ⟨first, _, rfl, .inr starts⟩
  | skipped => simp [Segment.isSkipped] at apart

theorem not_skipped (reading : Reading tokens segments misfit)
    (stops : ∀ token ∈ tokens.head?, EndsSkip token) :
    ∀ next ∈ segments.head?, next.isSkipped = false := by
  cases reading with
  | ending | stuck => simp
  | expression => simp [Segment.isSkipped]
  | skipped passed _ _ => exact absurd (stops _ rfl) (passed _ List.mem_cons_self)

theorem exists_cons (reading : Reading tokens segments misfit) :
    ∃ first more, tokens = first :: more := by
  cases reading with
  | skipped => exact ⟨_, _, rfl⟩
  | ending ends => exact ⟨_, _, rfl⟩
  | @stuck read behind token => exact List.exists_cons_of_ne_nil (by simp)
  | expression derived _ _ =>
      obtain ⟨first, more, rfl, -⟩ := derived.starts
      exact ⟨first, _, rfl⟩

theorem of_isEnd (reading : Reading tokens segments misfit) (here : tokens = token :: rest)
    (ends : token.isEnd = true) : segments = [] ∧ misfit = none := by
  cases reading with
  | ending => exact ⟨rfl, rfl⟩
  | @stuck _ behind _ _ stops =>
      obtain ⟨first, more, same, starts⟩ := stops.begins behind
      have proper := isEnd_of_starts starts
      simp_all
  | expression derived _ _ =>
      obtain ⟨first, more, rfl, starts⟩ := derived.starts
      have proper := isEnd_of_starts starts
      simp_all
  | skipped passed _ _ => simp_all [EndsSkip]

theorem of_starts (reading : Reading tokens segments misfit) (here : tokens = token :: rest)
    (starts : Starts token) :
    (∃ read token behind message, Stuck read token message ∧ tokens = read ++ token :: behind ∧
        segments = [] ∧ misfit = some { token := token, message := message }) ∨
      ∃ read tree behind later, Expression read tree ∧ ¬ SignAhead behind ∧
        Reading behind later misfit ∧ tokens = read ++ behind ∧
        segments = .expression read tree :: later := by
  cases reading with
  | ending ends => simp_all [isEnd_of_starts starts]
  | stuck stops => exact .inl ⟨_, _, _, _, stops, rfl, rfl, rfl⟩
  | expression derived ends later => exact .inr ⟨_, _, _, _, derived, ends, later, rfl, rfl⟩
  | skipped passed _ _ => simp_all [EndsSkip]

theorem of_strange (reading : Reading tokens segments misfit) (here : tokens = token :: rest)
    (strange : ¬ EndsSkip token) :
    ∃ first more behind later, (∀ passed ∈ first :: more, ¬ EndsSkip passed) ∧
      (∀ next ∈ later.head?, next.isSkipped = false) ∧ Reading behind later misfit ∧
      tokens = first :: more ++ behind ∧ segments = .skipped first more :: later := by
  cases reading with
  | ending ends => simp_all [EndsSkip]
  | @stuck _ behind _ _ stops =>
      obtain ⟨first, more, same, starts⟩ := stops.begins behind
      simp_all [EndsSkip]
  | expression derived _ _ =>
      obtain ⟨first, more, rfl, starts⟩ := derived.starts
      simp_all [EndsSkip]
  | skipped passed apart later => exact ⟨_, _, _, _, passed, apart, later, rfl, rfl⟩

theorem unique (one : Reading tokens segments misfit) (two : Reading tokens others misfit') :
    segments = others ∧ misfit = misfit' := by
  -- The first token decides between the sorts of segments, and an expression and a misfit that
  -- begin with the same token exclude each other.
  induction one generalizing others misfit' with
  | ending ends =>
      obtain ⟨rfl, rfl⟩ := two.of_isEnd rfl ends
      exact ⟨rfl, rfl⟩
  | @stuck _ behind _ _ stops =>
      obtain ⟨first, more, here, starts⟩ := stops.begins behind
      rcases two.of_starts here starts with ⟨read, token, behind, message, stops', same, rfl, rfl⟩ |
        ⟨read, tree, behind, later, derived, ends, reading, same, -⟩
      · obtain ⟨-, rfl, rfl⟩ := stops.unique stops' same
        exact ⟨rfl, rfl⟩
      · obtain ⟨next, beyond, rfl⟩ := reading.exists_cons
        exact (stops.not_expression derived ends same).elim
  | expression derived ends later ih =>
      obtain ⟨first, more, here, starts⟩ := derived.starts
      obtain ⟨next, beyond, behind⟩ := later.exists_cons
      rcases two.of_starts (congrArg (· ++ _) here) starts with
        ⟨read, token, behind', message, stops, same, -⟩ |
        ⟨read, tree, behind', later', derived', ends', reading, same, rfl⟩
      · subst behind
        exact (stops.not_expression derived ends same.symm).elim
      · obtain ⟨rfl, rfl⟩ := derived.unique derived' same ends ends'
        obtain rfl := List.append_cancel_left same
        obtain ⟨rfl, rfl⟩ := ih reading
        exact ⟨rfl, rfl⟩
  | skipped passed apart later ih =>
      obtain ⟨first, more, behind, later', passed', apart', reading, same, rfl⟩ :=
        two.of_strange rfl (passed _ List.mem_cons_self)
      obtain ⟨next, beyond, here, stops⟩ := later.endsSkip apart
      obtain ⟨next', beyond', here', stops'⟩ := reading.endsSkip apart'
      obtain ⟨runs, rests⟩ :=
        skipped_unique passed passed' (by simpa [here] using stops) (by simpa [here'] using stops')
          same
      obtain ⟨rfl, rfl⟩ := List.cons.inj runs
      subst rests
      obtain ⟨rfl, rfl⟩ := ih reading
      exact ⟨rfl, rfl⟩

end Reading

/-- What a parse gives that reads these segments and stops at this misfit. -/
def parsedAs (segments : List Segment) : Option (SyntaxError Kind) → Parsed Kind (Array Expr)
  | none => ⟨some (trees segments).toArray, (complaints segments).toArray⟩
  | some error => ⟨none, (complaints segments ++ [error]).toArray⟩

theorem parsedAs_append (segments others : List Segment) (misfit : Option (SyntaxError Kind)) :
    parsedAs (segments ++ others) misfit =
      ⟨(parsedAs others misfit).ast.map ((trees segments).toArray ++ ·),
        (complaints segments).toArray ++ (parsedAs others misfit).errors⟩ := by
  cases misfit <;> simp [parsedAs, trees, complaints]

/-- The segments of a text can be put in front of a reading, unless a run that is skipped
    goes on there. -/
theorem Splits.reading (splits : Splits text segments)
    (inside : ∀ token ∈ text, token.isEnd = false) (reading : Reading rest others misfit)
    (apart : ∀ next ∈ others.head?, next.isSkipped = false) :
    Reading (text ++ rest) (segments ++ others) misfit := by
  induction splits with
  | nil => exact reading
  | expression derived ends later ih =>
      obtain ⟨first, more, rfl, stops⟩ := reading.endsSkip apart
      rw [List.append_assoc]
      apply Reading.expression derived
      · exact not_signAhead_append ends (by simpa using stops)
      · exact ih (List.forall_mem_append.mp inside).2
  | @skipped _ _ _ segments strange apart' later ih =>
      obtain ⟨proper, inside⟩ := List.forall_mem_append.mp inside
      rw [List.append_assoc]
      apply Reading.skipped
      · intro token member
        simp [EndsSkip, proper token member, strange token member]
      · cases segments with
        | nil => exact apart
        | cons => exact apart'
      · exact ih inside

theorem exists_reading (parsing : Parsing Kind) : ∃ segments misfit after,
    Reading parsing.tokens.toList segments misfit ∧
      parseExprs parsing = (.ok (parsedAs segments misfit), after) := by
  rcases parseExprs_cases parsing with ⟨segments, after, splits, ran⟩ |
    ⟨text, read, token, behind, message, segments, after, split, inside, splits, stuck, ran⟩
  · obtain ⟨ending, behind, ends, split⟩ := parsing.exists_end
    have proper : ∀ token ∈ Token.beforeEnd parsing.tokens.toList, token.isEnd = false := by
      intro token member
      simpa using List.mem_takeWhile_imp member
    have last : Reading (ending :: behind) [] none := .ending ends
    have reading := splits.reading proper last (by simp)
    rw [← split, List.append_nil] at reading
    exact ⟨segments, none, after, reading, ran⟩
  · have last : Reading (read ++ token :: behind) [] _ := .stuck stuck
    have reading := splits.reading inside last (by simp)
    rw [← split, List.append_nil] at reading
    exact ⟨segments, some _, after, reading, ran⟩

/-- The reading of a sequence says what the parse gives. -/
theorem Reading.parsed {parsing : Parsing Kind}
    (reading : Reading parsing.tokens.toList segments misfit) :
    ∃ after, parseExprs parsing = (.ok (parsedAs segments misfit), after) := by
  obtain ⟨segments', misfit', after, found, ran⟩ := exists_reading parsing
  obtain ⟨rfl, rfl⟩ := reading.unique found
  exact ⟨after, ran⟩

end FrontEnd.Arithmetic
