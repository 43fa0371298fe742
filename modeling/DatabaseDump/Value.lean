/-!
# Loose values

Settings and catalog cells come in any shape: nothing, a truth value, a number, a
text, a list, or fields under names. The functions that expect a certain shape say
what they do with the others. The lemmas say what stands under a name after a change.
-/

namespace DatabaseDump

/-- A value of a configuration file or of a catalog cell. -/
inductive Value where
  | null
  | bool (b : Bool)
  | int (n : Int)
  | float (x : Float)
  | text (s : String)
  | list (items : List Value)
  /-- Values under names, in the order in which the names first came up. -/
  | object (fields : List (String × Value))
  deriving Inhabited, Repr

/-- Values under names. -/
abbrev Fields := List (String × Value)

/-- What kind of value a value is. -/
inductive Shape where
  | null
  | bool
  | int
  | float
  | text
  | list
  | object
  deriving DecidableEq, Repr

/-- How messages name a shape. -/
def Shape.word : Shape → String
  | .null => "NoneType"
  | .bool => "bool"
  | .int => "int"
  | .float => "float"
  | .text => "str"
  | .list => "list"
  | .object => "dict"

/-- The shape of a value. -/
def Value.shape : Value → Shape
  | .null => .null
  | .bool _ => .bool
  | .int _ => .int
  | .float _ => .float
  | .text _ => .text
  | .list _ => .list
  | .object _ => .object

/-- Whether a value counts as given: nothing, zero and everything empty do not. -/
def Value.isGiven : Value → Bool
  | .null => false
  | .bool b => b
  | .int n => n != 0
  | .float x => !(x == 0.0)
  | .text s => !s.isEmpty
  | .list items => !items.isEmpty
  | .object fields => !fields.isEmpty

namespace Fields

/-- The value under a name. -/
def get? (fields : Fields) (name : String) : Option Value :=
  (fields.find? fun field => field.1 == name).map Prod.snd

/-- The value under a name, with a missing one and an explicit nothing taken alike. -/
def getOrNull (fields : Fields) (name : String) : Value := (get? fields name).getD .null

/-- Puts a value under a name: in its old place if there is one, else at the end. -/
def set (fields : Fields) (name : String) (value : Value) : Fields :=
  if fields.any fun field => field.1 == name then
    fields.map fun field => if field.1 == name then (name, value) else field
  else fields ++ [(name, value)]

/-- The fields of both, the second ones winning. -/
def merge (first second : Fields) : Fields :=
  second.foldl (fun fields field => set fields field.1 field.2) first

theorem get?_cons (field : String × Value) (fields : Fields) (name : String) :
    get? (field :: fields) name = if field.1 == name then some field.2 else get? fields name := by
  unfold get?
  rw [List.find?_cons]
  cases field.1 == name with
  | true => rfl
  | false => rfl

theorem get?_eq_none_of_any_eq_false {fields : Fields} {name : String}
    (h : (fields.any fun field => field.1 == name) = false) : get? fields name = none := by
  unfold get?
  rw [List.find?_eq_none.mpr fun field hmem => by simpa using List.any_eq_false.mp h field hmem]
  rfl

theorem get?_append (fields more : Fields) (name : String) :
    get? (fields ++ more) name = (get? fields name).or (get? more name) := by
  unfold get?
  rw [List.find?_append, Option.map_or]

/-- The value that was put under a name is found there. -/
theorem get?_set_self (fields : Fields) (name : String) (value : Value) :
    get? (set fields name value) name = some value := by
  unfold set
  cases hany : fields.any fun field => field.1 == name with
  | false =>
    rw [if_neg Bool.false_ne_true, get?_append, get?_eq_none_of_any_eq_false hany, get?_cons]
    simp
  | true =>
    rw [if_pos rfl]
    induction fields with
    | nil => cases hany
    | cons field fields ih =>
      rw [List.map_cons, get?_cons]
      cases hname : field.1 == name with
      | true => simp
      | false =>
        rw [List.any_cons, hname, Bool.false_or] at hany
        rw [if_neg Bool.false_ne_true, hname, if_neg Bool.false_ne_true]
        exact ih hany

/-- What stands under other names stays. -/
theorem get?_set_of_ne (fields : Fields) {name other : String} (h : name ≠ other)
    (value : Value) : get? (set fields name value) other = get? fields other := by
  have hne : (name == other) = false := beq_eq_false_iff_ne.mpr h
  have hmap : get? (fields.map fun field => if field.1 == name then (name, value) else field) other
      = get? fields other := by
    induction fields with
    | nil => rfl
    | cons field fields ih =>
      rw [List.map_cons, get?_cons, get?_cons, ih]
      cases hname : field.1 == name with
      | true =>
        have hfield : (field.1 == other) = false := by rw [beq_iff_eq.mp hname, hne]
        rw [if_pos rfl, hne, hfield, if_neg Bool.false_ne_true, if_neg Bool.false_ne_true]
      | false => rw [if_neg Bool.false_ne_true]
  unfold set
  split
  · exact hmap
  · rw [get?_append, get?_cons, hne]
    exact Option.or_none

/-- A change of the value under one name. -/
theorem get?_set (fields : Fields) (name other : String) (value : Value) :
    get? (set fields name value) other
      = if name = other then some value else get? fields other := by
  split
  · rename_i h
    rw [← h, get?_set_self]
  · rename_i h
    exact get?_set_of_ne fields h value

/-- Of several values under one name the last one is kept, over what was there before. -/
theorem get?_merge (first second : Fields) (name : String) :
    get? (merge first second) name = (get? second.reverse name).or (get? first name) := by
  induction second generalizing first with
  | nil => rfl
  | cons field second ih =>
    rw [merge, List.foldl_cons, List.reverse_cons, get?_append, Option.or_assoc]
    refine (ih (set first field.1 field.2)).trans (congrArg _ ?_)
    rw [get?_set, get?_cons]
    by_cases h : field.1 = name
    · rw [if_pos h, if_pos (beq_iff_eq.mpr h)]
      rfl
    · rw [if_neg h, if_neg (mt beq_iff_eq.mp h)]
      rfl

end Fields

end DatabaseDump
