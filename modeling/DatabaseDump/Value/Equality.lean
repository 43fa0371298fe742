import DatabaseDump.Decimal.Binary
import DatabaseDump.Value

/-!
# Equal values

Two values are the same when they are built alike. They count as equal already when
they stand for the same: a truth value is the number zero or one, a number is equal to
another one whatever its form, and fields have no order. An undefined number is equal to
itself.
-/

namespace DatabaseDump.Value

mutual

/-- Whether two values are built alike. -/
def isSame : Value → Value → Bool
  | .null, .null => true
  | .bool a, .bool b => a == b
  | .int m, .int n => m == n
  | .float x, .float y => decide (x = y)
  | .text s, .text t => s == t
  | .list items, .list others => areSame items others
  | .object fields, .object others => areSameFields fields others
  | _, _ => false

/-- Whether two lists of values are built alike. -/
def areSame : List Value → List Value → Bool
  | [], [] => true
  | a :: rest, b :: others => isSame a b && areSame rest others
  | _, _ => false

/-- Whether fields are built alike and in the same order. -/
def areSameFields : List (String × Value) → List (String × Value) → Bool
  | [], [] => true
  | (m, a) :: rest, (n, b) :: others => m == n && isSame a b && areSameFields rest others
  | _, _ => false

end

mutual

theorem isSame_iff : ∀ a b : Value, isSame a b = true ↔ a = b
  | .null, b | .bool _, b | .int _, b | .float _, b | .text _, b => by
    cases b <;> simp [isSame]
  | .list items, b => by cases b <;> simp [isSame, areSame_iff items]
  | .object fields, b => by cases b <;> simp [isSame, areSameFields_iff fields]

theorem areSame_iff :
    ∀ items others : List Value, areSame items others = true ↔ items = others
  | [], others => by cases others <;> simp [areSame]
  | a :: rest, others => by cases others <;> simp [areSame, isSame_iff a, areSame_iff rest]

theorem areSameFields_iff :
    ∀ fields others : List (String × Value), areSameFields fields others = true ↔ fields = others
  | [], others => by cases others <;> simp [areSameFields]
  | (m, a) :: rest, others => by
    rcases others with _ | ⟨⟨n, b⟩, others⟩
    · simp [areSameFields]
    · simp [areSameFields, isSame_iff a, areSameFields_iff rest]

end

instance : DecidableEq Value := fun a b => decidable_of_iff _ (isSame_iff a b)

/-- Whether a number in binary form is a whole number. -/
def isWholeNumber (x : Float) (n : Int) : Bool :=
  let (num, den) := (Decimal.Binary.ofFloat x).timesTen 0
  x.isFinite && num % den == 0 && Decimal.truncate x == n

/-- The whole number that a value stands for. -/
def whole? : Value → Option Int
  | .bool b => some (if b then 1 else 0)
  | .int n => some n
  | _ => none

mutual

/-- Whether two values stand for the same. -/
def equals : Value → Value → Bool
  | .null, .null => true
  | .float x, .float y => x == y || x.isNaN && y.isNaN
  | .float x, other => other.whole?.any (isWholeNumber x)
  | other, .float x => other.whole?.any (isWholeNumber x)
  | .text s, .text t => s == t
  | .list items, .list others => areEqual items others
  | .object fields, .object others =>
    fields.length == others.length && areEqualFields fields others
  | a, b => match a.whole?, b.whole? with
    | some m, some n => m == n
    | _, _ => false

/-- Whether values stand for the same, one by one. -/
def areEqual : List Value → List Value → Bool
  | [], [] => true
  | a :: rest, b :: others => equals a b && areEqual rest others
  | _, _ => false

/-- Whether each field has an equal one under its name among others. -/
def areEqualFields : List (String × Value) → List (String × Value) → Bool
  | [], _ => true
  | (name, a) :: rest, others =>
    (match Fields.get? others name with
      | some b => equals a b
      | none => false) && areEqualFields rest others

end

/-- Whether a value is among others. -/
def isAmong (value : Value) (others : List Value) : Bool := others.any value.equals

/-- Whether a value can be looked up by what it stands for: neither a list nor fields. -/
def isKey : Value → Bool
  | .list _ | .object _ => false
  | _ => true

end DatabaseDump.Value
