import FrontEnd.Parsing.Error
import FrontEnd.Proofs.Arithmetic.Derivation

/-!
# Segments

A text that need not be an expression falls into segments: expressions, one after the
other, and between them runs of tokens that no expression can start with. Every
expression is as long as it can be, and so is every run that is skipped. That makes the
segments of a text unique.
-/

namespace FrontEnd.Arithmetic

/-- A token that can be the first one of an expression. -/
def Starts (token : Token Kind) : Prop :=
  token.kind = some .number ∨ token.kind = some .leftParen

instance : DecidablePred Starts := fun _ => inferInstanceAs (Decidable (_ ∨ _))

/-- A part of a text. -/
inductive Segment where
  /-- An expression and its tree. -/
  | expression (tokens : List (Token Kind)) (tree : Expr)
  /-- At least one token that is skipped. -/
  | skipped (first : Token Kind) (more : List (Token Kind))

namespace Segment

def tokens : Segment → List (Token Kind)
  | expression tokens _ => tokens
  | skipped first more => first :: more

def tree? : Segment → Option Expr
  | expression _ tree => some tree
  | skipped .. => none

/-- The error for a run that is skipped. -/
def complaint? : Segment → Option (SyntaxError Kind)
  | expression .. => none
  | skipped first _ =>
      some { token := first, message := "Expected expression.", code := "P001" }

def isSkipped : Segment → Bool
  | expression .. => false
  | skipped .. => true

end Segment

def trees (segments : List Segment) : List Expr := segments.filterMap Segment.tree?

/-- The errors for the runs that are skipped. -/
def complaints (segments : List Segment) : List (SyntaxError Kind) :=
  segments.filterMap Segment.complaint?

theorem trees_cons (segment : Segment) (segments : List Segment) :
    trees (segment :: segments) = segment.tree?.toList ++ trees segments := by
  cases segment <;> rfl

theorem complaints_cons (segment : Segment) (segments : List Segment) :
    complaints (segment :: segments) = segment.complaint?.toList ++ complaints segments := by
  cases segment <;> rfl

/-- A text consists of these segments. No expression is followed by a sign, and no run that
    is skipped by another one. -/
inductive Splits : List (Token Kind) → List Segment → Prop where
  | nil : Splits [] []
  | expression {read rest : List (Token Kind)} {tree : Expr} {segments : List Segment}
      (derived : Expression read tree) (ends : ¬ SignAhead rest) (later : Splits rest segments) :
      Splits (read ++ rest) (.expression read tree :: segments)
  | skipped {first : Token Kind} {more rest : List (Token Kind)} {segments : List Segment}
      (strange : ∀ token ∈ first :: more, ¬ Starts token)
      (apart : ∀ next ∈ segments.head?, next.isSkipped = false) (later : Splits rest segments) :
      Splits (first :: more ++ rest) (.skipped first more :: segments)

/-- The literals of the numbers in a tree, from left to right. -/
def Expr.numbers : Expr → List Value
  | .number literal => [literal]
  | .add left right | .subtract left right => left.numbers ++ right.numbers

/-- The literals of the numbers among some tokens, in order. -/
def numerals (tokens : List (Token Kind)) : List Value :=
  (tokens.filter fun token => token.kind = some .number).map Token.literal

@[simp] theorem numerals_append (first second : List (Token Kind)) :
    numerals (first ++ second) = numerals first ++ numerals second := by
  rw [numerals, List.filter_append, List.map_append]
  rfl

theorem numerals_cons_other {token : Token Kind} (other : token.kind ≠ some .number)
    (rest : List (Token Kind)) : numerals (token :: rest) = numerals rest := by
  rw [numerals, List.filter_cons_of_neg (by simpa using other)]
  rfl

theorem numerals_eq_nil {tokens : List (Token Kind)}
    (others : ∀ token ∈ tokens, token.kind ≠ some .number) : numerals tokens = [] := by
  rw [numerals, List.filter_eq_nil_iff.mpr (by simpa using others), List.map_nil]

theorem numbers_join (left : Expr) (signed : Signed) :
    (signed.join left).numbers = left.numbers ++ signed.tree.numbers := by
  unfold Signed.join
  split <;> rfl

theorem numbers_chain {signed : List Signed} (signs : ∀ item ∈ signed, item.HasSign)
    (terms : ∀ item ∈ signed, item.tree.numbers = numerals item.tokens) (left : Expr) :
    (signed.foldl Signed.join left).numbers =
      left.numbers ++ numerals (signed.flatMap Signed.spelled) := by
  induction signed generalizing left with
  | nil => exact (List.append_nil _).symm
  | cons item signed ih =>
      obtain ⟨sign, signs⟩ := List.forall_mem_cons.mp signs
      obtain ⟨term, terms⟩ := List.forall_mem_cons.mp terms
      have noNumber : item.sign.kind ≠ some .number := by
        rcases sign with plus | minus <;> simp [*]
      rw [List.foldl_cons, ih signs terms, numbers_join, term, List.flatMap_cons, numerals_append,
        Signed.spelled, numerals_cons_other noNumber, List.append_assoc]

theorem Term.numbers_eq {tokens : List (Token Kind)} {tree : Expr} (term : Term tokens tree) :
    tree.numbers = numerals tokens := by
  induction term using Term.induct with
  | number numeral => simp [Expr.numbers, numerals, numeral]
  | parens opens closes head signs _ headNumbers termsNumbers =>
      rw [numbers_chain signs termsNumbers, headNumbers, numerals_cons_other (by simp [opens]),
        numerals_append, numerals_append, numerals_cons_other (by simp [closes])]
      simp [numerals]

theorem Expression.numbers_eq {tokens : List (Token Kind)} {tree : Expr}
    (derived : Expression tokens tree) : tree.numbers = numerals tokens := by
  cases derived with
  | chain head signs terms =>
      rw [numbers_chain signs fun item member => (terms item member).numbers_eq, head.numbers_eq,
        numerals_append]

namespace Splits

variable {text other : List (Token Kind)} {segments others : List Segment}

theorem numbers_eq (splits : Splits text segments) :
    (trees segments).flatMap Expr.numbers = numerals text := by
  induction splits with
  | nil => rfl
  | expression derived ends later ih =>
      rw [numerals_append, ← derived.numbers_eq, ← ih]
      rfl
  | skipped strange apart later ih =>
      rw [numerals_append, numerals_eq_nil fun token member => (not_or.mp (strange token member)).1,
        List.nil_append, ← ih]
      rfl

theorem tokens_eq (splits : Splits text segments) : segments.flatMap Segment.tokens = text := by
  induction splits with
  | nil => rfl
  | expression derived ends later ih => exact congrArg _ ih
  | skipped strange apart later ih => exact congrArg _ ih

/-- The tokens that errors are reported for stand in the text in the order of the errors. -/
theorem complaints_sublist (splits : Splits text segments) :
    ((complaints segments).map SyntaxError.token).Sublist text := by
  induction splits with
  | nil => exact List.Sublist.slnil
  | expression derived ends later ih => exact ih.trans (List.sublist_append_right _ _)
  | skipped strange apart later ih => exact (ih.trans (List.sublist_append_right _ _)).cons_cons _

end Splits

theorem Term.starts {tokens : List (Token Kind)} {tree : Expr} (term : Term tokens tree) :
    ∃ first rest, tokens = first :: rest ∧ Starts first := by
  cases term with
  | number numeral => exact ⟨_, _, rfl, .inl numeral⟩
  | parens opens _ _ => exact ⟨_, _, rfl, .inr opens⟩

theorem Expression.starts {tokens : List (Token Kind)} {tree : Expr}
    (derived : Expression tokens tree) : ∃ first rest, tokens = first :: rest ∧ Starts first := by
  cases derived with
  | chain head _ _ =>
      obtain ⟨first, rest, rfl, starts⟩ := head.starts
      exact ⟨first, _, rfl, starts⟩

theorem skipped_unique {Stops : Token Kind → Prop} [DecidablePred Stops]
    {run run' rest rest' : List (Token Kind)}
    (strange : ∀ token ∈ run, ¬ Stops token) (strange' : ∀ token ∈ run', ¬ Stops token)
    (stops : ∀ token ∈ rest.head?, Stops token) (stops' : ∀ token ∈ rest'.head?, Stops token)
    (same : run ++ rest = run' ++ rest') : run = run' ∧ rest = rest' := by
  have taken : ∀ {run rest : List (Token Kind)}, (∀ token ∈ run, ¬ Stops token) →
      (∀ token ∈ rest.head?, Stops token) →
        (run ++ rest).takeWhile (fun token => !decide (Stops token)) = run := by
    intro run rest strange stops
    rw [List.takeWhile_append_of_pos (by simpa using strange)]
    cases rest with
    | nil => rw [List.takeWhile_nil, List.append_nil]
    | cons token rest =>
        rw [List.takeWhile_cons_of_neg (by simpa using stops token rfl), List.append_nil]
  have runs : run = run' := by
    rw [← taken strange stops, same, taken strange' stops']
  subst runs
  exact ⟨rfl, List.append_cancel_left same⟩

namespace Splits

variable {text other : List (Token Kind)} {segments others : List Segment}

theorem tokens_ne_nil (splits : Splits text segments) :
    ∀ segment ∈ segments, segment.tokens ≠ [] := by
  induction splits with
  | nil => simp
  | expression derived ends later ih =>
      obtain ⟨first, rest, rfl, -⟩ := derived.starts
      exact List.forall_mem_cons.mpr ⟨List.cons_ne_nil first rest, ih⟩
  | skipped strange apart later ih =>
      exact List.forall_mem_cons.mpr ⟨List.cons_ne_nil _ _, ih⟩

theorem starts (splits : Splits text segments)
    (apart : ∀ next ∈ segments.head?, next.isSkipped = false) :
    ∀ token ∈ text.head?, Starts token := by
  cases splits with
  | nil => simp
  | expression derived ends later =>
      obtain ⟨first, rest, rfl, starts⟩ := derived.starts
      simpa using starts
  | skipped => simp [Segment.isSkipped] at apart

theorem unique (one : Splits text segments) (two : Splits other others) (same : text = other) :
    segments = others := by
  induction one generalizing other others with
  | nil =>
      cases two with
      | nil => rfl
      | expression derived _ _ =>
          obtain ⟨first, rest, rfl, -⟩ := derived.starts
          simp at same
      | skipped => simp at same
  | expression derived ends later ih =>
      obtain ⟨first, rest, begins, starts⟩ := derived.starts
      cases two with
      | nil => simp [begins] at same
      | expression derived' ends' later' =>
          obtain ⟨rfl, rfl⟩ := derived.unique derived' same ends ends'
          rw [ih later' (List.append_cancel_left same)]
      | skipped strange apart later' =>
          rw [begins] at same
          obtain ⟨rfl, -⟩ := List.cons.inj same
          exact absurd starts (strange _ List.mem_cons_self)
  | skipped strange apart later ih =>
      cases two with
      | nil => simp at same
      | expression derived' ends' later' =>
          obtain ⟨first, rest, rfl, starts⟩ := derived'.starts
          obtain ⟨rfl, -⟩ := List.cons.inj same
          exact absurd starts (strange _ List.mem_cons_self)
      | skipped strange' apart' later' =>
          obtain ⟨runs, rests⟩ :=
            skipped_unique strange strange' (later.starts apart) (later'.starts apart') same
          obtain ⟨rfl, rfl⟩ := List.cons.inj runs
          rw [ih later' rests]

end Splits

end FrontEnd.Arithmetic
