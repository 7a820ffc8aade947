/-! Finite tables, as lists of entries with different keys. -/

namespace LiveShader

/-- A table from keys to values, in order of first insertion. -/
abbrev Table (Key Value : Type) := List (Key × Value)

namespace Table

variable {Key Value : Type} [DecidableEq Key]

/-- The value at a key. -/
def find? (table : Table Key Value) (key : Key) : Option Value :=
  match table with
  | [] => none
  | entry :: rest => if entry.1 = key then some entry.2 else find? rest key

/-- Sets the value at a key. An entry that is there keeps its place. -/
def insert (table : Table Key Value) (key : Key) (value : Value) : Table Key Value :=
  match table with
  | [] => [(key, value)]
  | entry :: rest =>
      if entry.1 = key then (key, value) :: rest else entry :: insert rest key value

/-- Removes the entry at a key. -/
def erase (table : Table Key Value) (key : Key) : Table Key Value :=
  table.filter fun entry => entry.1 ≠ key

/-- Changes the value at a key, if there is one. -/
def modify (table : Table Key Value) (key : Key) (change : Value → Value) :
    Table Key Value :=
  table.map fun entry => if entry.1 = key then (key, change entry.2) else entry

@[simp] theorem find?_nil (key : Key) : find? ([] : Table Key Value) key = none := rfl

theorem find?_cons (entry : Key × Value) (table : Table Key Value) (key : Key) :
    find? (entry :: table) key = if entry.1 = key then some entry.2 else find? table key := by
  rfl

theorem find?_insert (table : Table Key Value) (key other : Key) (value : Value) :
    find? (insert table key value) other =
      if key = other then some value else find? table other := by
  induction table with
  | nil => simp [insert, find?_cons]
  | cons entry rest induction =>
      by_cases equal : entry.1 = key <;> by_cases same : key = other <;>
        simp_all [insert, find?_cons]

end Table

end LiveShader
