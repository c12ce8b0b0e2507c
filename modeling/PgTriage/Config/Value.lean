/-
Configuration values.

A source of configuration is a tree: tables of named values, down to texts, numbers,
truth values and lists.  Sources are laid over one another.  Where both have a table the
later one is merged into the earlier, entry by entry; anything else it replaces.
-/
import PgTriage.Number.Binary64

namespace PgTriage.Config

/-- A configuration value. -/
inductive Value where
  | text (s : String)
  | signed (n : Int)
  | unsigned (n : Nat)
  | float (x : Binary64)
  | bool (b : Bool)
  | list (items : List Value)
  | table (entries : List (String × Value))

/-- The named values of a table. -/
abbrev Table := List (String × Value)

namespace Table

/-- The value under a name. -/
def get? (t : Table) (name : String) : Option Value :=
  (t.find? fun e => e.1 = name).map (·.2)

/-- The table with a value under a name. -/
def put (name : String) (v : Value) : Table → Table
  | [] => [(name, v)]
  | e :: rest => if e.1 = name then (name, v) :: rest else e :: put name v rest

end Table

mutual

/-- The later value laid over the earlier one. -/
def Value.over (earlier : Value) : Value → Value
  | .table entries =>
    match earlier with
    | .table base => .table (Value.layAll base entries)
    | _ => .table entries
  | later => later

/-- The later entries laid over the earlier table one after another. -/
def Value.layAll (base : Table) : Table → Table
  | [] => base
  | (name, v) :: rest =>
    let laid :=
      match base.get? name with
      | some earlier => Value.over earlier v
      | none => v
    Value.layAll (base.put name laid) rest

end

/-- The later table laid over the earlier one. -/
def Table.over (earlier later : Table) : Table := Value.layAll earlier later

end PgTriage.Config
