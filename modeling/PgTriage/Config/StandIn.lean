/-
Tables that stand for a value.

A value may be written as a table that holds it under a reserved name.  The table then
stands for that value, whatever else it has.  The value held may itself be a table of this
kind, and so may anything inside lists and tables.  They are resolved from the inside out.

A second name is kept for the tag by which a value is known once it is loaded.  Tags are
given out, not written: a table with an entry of that name spoils every value around it,
even where a stand-in would pass the table over.
-/
import PgTriage.Config.Value

namespace PgTriage.Config

/-- The name of the entry that a table stands for. -/
def heldName : String := "___figment_value_value"

/-- The name of a tag, under which nothing may be written. -/
def tagName : String := "___figment_value_id"

/-- What a table stands for whose entries are resolved, unless it has a tag. -/
def Table.standsFor? (t : Table) : Option Value :=
  match t.get? tagName with
  | some _ => none
  | none => some ((t.get? heldName).getD (.table t))

mutual

/-- The value with every table replaced by what it stands for, if none has a tag. -/
def Value.resolve? : Value → Option Value
  | .list items => (Value.resolveItems? items).map .list
  | .table entries => (Value.resolveEntries? entries).bind Table.standsFor?
  | v => some v

/-- The items of a list, each resolved. -/
def Value.resolveItems? : List Value → Option (List Value)
  | [] => some []
  | v :: rest => do
    let v ← v.resolve?
    let rest ← Value.resolveItems? rest
    some (v :: rest)

/-- The entries of a table, each resolved under its name. -/
def Value.resolveEntries? : Table → Option Table
  | [] => some []
  | (name, v) :: rest => do
    let v ← v.resolve?
    let rest ← Value.resolveEntries? rest
    some ((name, v) :: rest)

end

/--
The table with each of its values resolved.  The table itself stands for nothing: at its
own level the reserved names are names like any other.
-/
def Table.resolve? (t : Table) : Option Table := Value.resolveEntries? t

end PgTriage.Config
