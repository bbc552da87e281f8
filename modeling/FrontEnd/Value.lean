/-!
# Values

What a token's literal and a scripted grammar's tree are made of. The engines never
look inside a value; they only carry it, compare it and write it into reports.
-/

namespace FrontEnd

/-- A literal or a tree of literals. -/
inductive Value where
  /-- No value. -/
  | null
  | bool (value : Bool)
  | int (value : Int)
  | text (value : String)
  | list (items : List Value)
  /-- Named fields, each name once. -/
  | record (fields : List (String × Value))
  deriving Repr

namespace Value

mutual

/-- Equality of values, constructor by constructor. -/
def decEq : (a b : Value) → Decidable (a = b)
  | .null, .null => isTrue rfl
  | .bool a, .bool b => decidable_of_iff (a = b) ⟨congrArg _, Value.bool.inj⟩
  | .int a, .int b => decidable_of_iff (a = b) ⟨congrArg _, Value.int.inj⟩
  | .text a, .text b => decidable_of_iff (a = b) ⟨congrArg _, Value.text.inj⟩
  | .list a, .list b =>
      match decEqItems a b with
      | isTrue h => isTrue (congrArg _ h)
      | isFalse h => isFalse fun same => h (Value.list.inj same)
  | .record a, .record b =>
      match decEqFields a b with
      | isTrue h => isTrue (congrArg _ h)
      | isFalse h => isFalse fun same => h (Value.record.inj same)
  | .null, .bool _ | .null, .int _ | .null, .text _ | .null, .list _ | .null, .record _
  | .bool _, .null | .bool _, .int _ | .bool _, .text _ | .bool _, .list _ | .bool _, .record _
  | .int _, .null | .int _, .bool _ | .int _, .text _ | .int _, .list _ | .int _, .record _
  | .text _, .null | .text _, .bool _ | .text _, .int _ | .text _, .list _ | .text _, .record _
  | .list _, .null | .list _, .bool _ | .list _, .int _ | .list _, .text _ | .list _, .record _
  | .record _, .null | .record _, .bool _ | .record _, .int _ | .record _, .text _
  | .record _, .list _ => isFalse nofun

def decEqItems : (a b : List Value) → Decidable (a = b)
  | [], [] => isTrue rfl
  | [], _ :: _ | _ :: _, [] => isFalse nofun
  | a :: as, b :: bs =>
      match decEq a b, decEqItems as bs with
      | isTrue h, isTrue hs => isTrue (by rw [h, hs])
      | isFalse h, _ => isFalse fun same => h (List.cons.inj same).1
      | _, isFalse hs => isFalse fun same => hs (List.cons.inj same).2

def decEqFields : (a b : List (String × Value)) → Decidable (a = b)
  | [], [] => isTrue rfl
  | [], _ :: _ | _ :: _, [] => isFalse nofun
  | (m, a) :: as, (n, b) :: bs =>
      match instDecidableEqString m n, decEq a b, decEqFields as bs with
      | isTrue hn, isTrue h, isTrue hs => isTrue (by rw [hn, h, hs])
      | isFalse hn, _, _ => isFalse fun same => hn (Prod.mk.inj (List.cons.inj same).1).1
      | _, isFalse h, _ => isFalse fun same => h (Prod.mk.inj (List.cons.inj same).1).2
      | _, _, isFalse hs => isFalse fun same => hs (List.cons.inj same).2

end

instance : DecidableEq Value := decEq

instance : Inhabited Value := ⟨.null⟩

/-- The value of a text that may be missing. -/
def ofText? : Option String → Value
  | none => .null
  | some found => .text found

/-- Whether a value counts as a yes: everything does but null, false, zero and what is
    empty. -/
def isTruthy : Value → Bool
  | .null => false
  | .bool value => value
  | .int value => value != 0
  | .text value => value != ""
  | .list items => !items.isEmpty
  | .record fields => !fields.isEmpty

end Value

end FrontEnd
