import FrontEnd.Proofs.Arithmetic.Acceptance
import FrontEnd.Proofs.Arithmetic.Reading

/-!
# Places do not matter to a parse

Both grammars look at the kinds of tokens only, and take nothing but literals from them. So
when the tokens of a sequence are moved to other places, a parse gives the same tree, and its
errors move with their tokens.
-/

namespace FrontEnd.Arithmetic

variable {move : Token Kind → Token Kind} {token : Token Kind}
  {tokens read : List (Token Kind)} {tree left : Expr} {signed : List Signed}

/-- What moves tokens keeps all that a parse looks at. -/
structure Moves (move : Token Kind → Token Kind) : Prop where
  kind : ∀ token, (move token).kind = token.kind
  literal : ∀ token, (move token).literal = token.literal

namespace Moves

theorem kinds (moves : Moves move) (tokens : List (Token Kind)) :
    (tokens.map move).map Token.kind = tokens.map Token.kind := by
  simp [moves.kind]

theorem isEnd (moves : Moves move) (token : Token Kind) : (move token).isEnd = token.isEnd := by
  simp [Token.isEnd, moves.kind]

theorem starts_iff (moves : Moves move) (token : Token Kind) :
    Starts (move token) ↔ Starts token := by
  simp [Starts, moves.kind]

theorem endsSkip_iff (moves : Moves move) (token : Token Kind) :
    EndsSkip (move token) ↔ EndsSkip token := by
  simp [EndsSkip, moves.isEnd, moves.starts_iff]

theorem signAhead_iff (moves : Moves move) (tokens : List (Token Kind)) :
    SignAhead (tokens.map move) ↔ SignAhead tokens := by
  cases tokens <;> simp [Arithmetic.signAhead_iff, moves.kind]

end Moves

def moveSigned (move : Token Kind → Token Kind) (signed : Signed) : Signed :=
  { signed with sign := move signed.sign, tokens := signed.tokens.map move }

def moveSegment (move : Token Kind → Token Kind) : Segment → Segment
  | .expression tokens tree => .expression (tokens.map move) tree
  | .skipped first more => .skipped (move first) (more.map move)

def moveError (move : Token Kind → Token Kind) (error : SyntaxError Kind) : SyntaxError Kind :=
  { error with token := move error.token }

def moveParsed {α : Type} (move : Token Kind → Token Kind) (parsed : Parsed Kind α) :
    Parsed Kind α :=
  { parsed with errors := parsed.errors.map (moveError move) }

theorem spelled_moved (signed : List Signed) :
    (signed.map (moveSigned move)).flatMap Signed.spelled =
      (signed.flatMap Signed.spelled).map move := by
  induction signed with
  | nil => rfl
  | cons item signed ih => simp [ih, Signed.spelled, moveSigned]

theorem join_moved (moves : Moves move) (left : Expr) (signed : Signed) :
    (moveSigned move signed).join left = signed.join left := by
  simp [Signed.join, moveSigned, moves.kind]

theorem chain_moved (moves : Moves move) (head : Term (read.map move) left)
    (signs : ∀ item ∈ signed, item.HasSign)
    (terms : ∀ item ∈ signed, Term (item.tokens.map move) item.tree) :
    Expression ((read ++ signed.flatMap Signed.spelled).map move) (signed.foldl Signed.join left) := by
  have signs' : ∀ item ∈ signed.map (moveSigned move), item.HasSign := by
    simpa [Signed.HasSign, moveSigned, moves.kind] using signs
  have terms' : ∀ item ∈ signed.map (moveSigned move), Term item.tokens item.tree := by
    simpa [moveSigned] using terms
  have chain := Expression.chain head signs' terms'
  simpa [spelled_moved, List.foldl_map, join_moved moves] using chain

theorem Term.moved (moves : Moves move) (term : Term tokens tree) :
    Term (tokens.map move) tree := by
  induction term using Term.induct with
  | @number token numeral =>
      rw [← moves.literal]
      exact .number (by rw [moves.kind, numeral])
  | parens opens closes head signs _ headMoved termsMoved =>
      have inner := chain_moved moves headMoved signs termsMoved
      have whole := Term.parens (by rw [moves.kind, opens]) inner (by rw [moves.kind, closes])
      simpa using whole

theorem Expression.moved (moves : Moves move) (derived : Expression tokens tree) :
    Expression (tokens.map move) tree := by
  cases derived with
  | chain head signs terms =>
      exact chain_moved moves (head.moved moves) signs fun item member =>
        (terms item member).moved moves

theorem Accepts.moved (moves : Moves move) (accepts : Accepts tokens read tree) :
    Accepts (tokens.map move) (read.map move) tree := by
  obtain ⟨derived, ending, behind, ends, rfl⟩ := accepts
  exact ⟨derived.moved moves, move ending, behind.map move, by rw [moves.isEnd, ends], by simp⟩

theorem Rejects.moved {context : Context} (moves : Moves move)
    (rejects : Rejects tokens read token context) :
    Rejects (tokens.map move) (read.map move) (move token) context := by
  obtain ⟨ran, misfit, behind, rfl⟩ := rejects
  refine ⟨?_, ?_, behind.map move, by simp⟩
  · rw [moves.kinds, ran]
  · rw [moves.kind, misfit]

theorem Stuck.moved {message : String} (moves : Moves move) (stuck : Stuck read token message) :
    Stuck (read.map move) (move token) message where
  starts := by
    have starts := stuck.starts
    cases read <;> simpa [moves.starts_iff] using starts
  misfit := by simpa only [moves.kinds, moves.kind] using stuck.misfit

theorem Reading.moved {segments : List Segment} {stop : Option (SyntaxError Kind)}
    (moves : Moves move) (reading : Reading tokens segments stop) :
    Reading (tokens.map move) (segments.map (moveSegment move)) (stop.map (moveError move)) := by
  induction reading with
  | ending ends => exact .ending (by rw [moves.isEnd, ends])
  | stuck stops => simpa [moveError] using Reading.stuck (stops.moved moves)
  | expression derived ends later ih =>
      have ends' := (moves.signAhead_iff _).not.mpr ends
      simpa [moveSegment] using Reading.expression (derived.moved moves) ends' ih
  | @skipped first more _ segments _ passed apart later ih =>
      have passed' : ∀ token ∈ move first :: more.map move, ¬ EndsSkip token := by
        simpa [moves.endsSkip_iff] using passed
      have apart' : ∀ next ∈ (segments.map (moveSegment move)).head?, next.isSkipped = false := by
        rcases segments with _ | ⟨_ | _, _⟩ <;> simp_all [moveSegment, Segment.isSkipped]
      simpa [moveSegment] using Reading.skipped passed' apart' ih

theorem trees_moved (segments : List Segment) :
    trees (segments.map (moveSegment move)) = trees segments := by
  induction segments with
  | nil => rfl
  | cons segment segments ih => cases segment <;> simp_all [trees_cons, moveSegment, Segment.tree?]

theorem complaints_moved (segments : List Segment) :
    complaints (segments.map (moveSegment move)) = (complaints segments).map (moveError move) := by
  induction segments with
  | nil => rfl
  | cons segment segments ih =>
      cases segment <;> simp_all [complaints_cons, moveSegment, Segment.complaint?, moveError]

theorem parsedAs_moved (segments : List Segment) (stop : Option (SyntaxError Kind)) :
    parsedAs (segments.map (moveSegment move)) (stop.map (moveError move)) =
      moveParsed move (parsedAs segments stop) := by
  cases stop <;> simp [parsedAs, moveParsed, trees_moved, complaints_moved]

/-- Moved tokens are parsed like the tokens that they are. -/
def IgnoresPlaces {α : Type} (root : Nat → Rule α) : Prop :=
  ∀ {move : Token Kind → Token Kind}, Moves move → ∀ {parsing moved : Parsing Kind},
    moved.tokens.toList = parsing.tokens.toList.map move →
      ∃ parsed, (parseWith root parsing).1 = .ok parsed ∧
        (parseWith root moved).1 = .ok (moveParsed move parsed)

theorem entry_ignoresPlaces : IgnoresPlaces entry := by
  intro move moves parsing moved same
  rcases parseExpr_cases parsing with ⟨read, tree, accepts, ran⟩ |
    ⟨read, token, context, rejects, ran⟩
  · have accepts' := accepts.moved moves
    rw [← same] at accepts'
    exact ⟨_, congrArg Prod.fst ran, by simpa [moveParsed, parseExpr] using accepts'.parsed⟩
  · have rejects' := rejects.moved moves
    rw [← same] at rejects'
    exact ⟨_, congrArg Prod.fst ran, by simpa [moveParsed, moveError, parseExpr] using rejects'.parsed⟩

theorem entries_ignoresPlaces : IgnoresPlaces entries := by
  intro move moves parsing moved same
  obtain ⟨segments, stop, after, reading, ran⟩ := exists_reading parsing
  have reading' := reading.moved moves
  rw [← same] at reading'
  obtain ⟨after', ran'⟩ := reading'.parsed
  rw [parsedAs_moved] at ran'
  exact ⟨_, congrArg Prod.fst ran, congrArg Prod.fst ran'⟩

end FrontEnd.Arithmetic
