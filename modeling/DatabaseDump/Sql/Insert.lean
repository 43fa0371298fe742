import DatabaseDump.Sql.Literal

/-!
# Packing rows into statements

The tuples of a table are cut into groups, one statement for each. A group takes
tuples as long as its statement stays within the budget of bytes, and at least one:
a tuple that is larger than the budget gets a statement to itself.
-/

namespace DatabaseDump.Sql.Insert

/-- What a statement opens with. -/
def opening (table : String) : Bytes := Text.utf8 ("INSERT INTO `" ++ table ++ "` VALUES ")

/-- What a statement closes with. -/
def closing : Bytes := Text.utf8 ";\n"

/-- The statement that inserts a group of tuples. -/
def statement (table : String) (group : List Bytes) : Bytes :=
  opening table ++ commaSeparated group ++ closing

/--
Splits off the tuples that fit into `room` bytes, a comma before each of them. The
second part holds the tuples that are left.
-/
def takeFitting (room : Int) : List Bytes → List Bytes × List Bytes
  | [] => ([], [])
  | tuple :: rest =>
    if room < tuple.length + 1 then ([], tuple :: rest)
    else
      let (front, back) := takeFitting (room - (tuple.length + 1)) rest
      (tuple :: front, back)

theorem takeFitting_append (room : Int) (tuples : List Bytes) :
    (takeFitting room tuples).1 ++ (takeFitting room tuples).2 = tuples := by
  induction tuples generalizing room with
  | nil => rfl
  | cons tuple rest ih =>
    simp only [takeFitting]
    split
    · rfl
    · simp [ih]

theorem length_takeFitting_snd_le (room : Int) (tuples : List Bytes) :
    (takeFitting room tuples).2.length ≤ tuples.length := by
  have h := congrArg List.length (takeFitting_append room tuples)
  rw [List.length_append] at h
  omega

/-- The room that the first tuple leaves in a statement. -/
def roomAfter (table : String) (budget : Int) (tuple : Bytes) : Int :=
  budget - ((opening table).length + tuple.length + closing.length)

/-- The groups of the tuples of a table under a budget. -/
def pack (table : String) (budget : Int) : List Bytes → List (List Bytes)
  | [] => []
  | tuple :: rest =>
    let split := takeFitting (roomAfter table budget tuple) rest
    (tuple :: split.1) :: pack table budget split.2
termination_by tuples => tuples.length
decreasing_by
  have := length_takeFitting_snd_le (roomAfter table budget tuple) rest
  simp only [List.length_cons]
  omega

@[simp] theorem pack_nil (table : String) (budget : Int) : pack table budget [] = [] := by
  simp [pack]

end DatabaseDump.Sql.Insert
