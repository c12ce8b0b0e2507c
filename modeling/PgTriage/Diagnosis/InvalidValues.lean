/-
The values that violated a constraint, by column.

Columns keep the order in which they were first given.  Giving a column again replaces
its value and leaves everything else where it was.
-/
namespace PgTriage

/-- Columns with their values, in the order of the columns' first mention. -/
structure InvalidValues where
  entries : List (String × String)
deriving DecidableEq, Repr

namespace InvalidValues

/-- No values. -/
def empty : InvalidValues := ⟨[]⟩

/-- The entries with the value of a column given. -/
def insertEntry (column value : String) : List (String × String) → List (String × String)
  | [] => [(column, value)]
  | e :: rest =>
    if e.1 = column then (column, value) :: rest else e :: insertEntry column value rest

/-- The values with one more given. -/
def insert (values : InvalidValues) (column value : String) : InvalidValues :=
  ⟨insertEntry column value values.entries⟩

/-- The value of a column. -/
def get? (values : InvalidValues) (column : String) : Option String :=
  (values.entries.find? fun e => e.1 = column).map (·.2)

/-- The columns, in order. -/
def columns (values : InvalidValues) : List String := values.entries.map (·.1)

/-- The number of columns. -/
def size (values : InvalidValues) : Nat := values.entries.length

/-- Whether no value was given. -/
def isEmpty (values : InvalidValues) : Bool := values.entries.isEmpty

/-- The values given one after another. -/
def ofList (pairs : List (String × String)) : InvalidValues :=
  pairs.foldl (fun values p => values.insert p.1 p.2) empty

end InvalidValues

end PgTriage
