/-
Violated constraints.

A constraint is told by its kind, its name if the server gave one, the table it guards
and the columns it ranges over.  The table is never blank.  Columns are trimmed, and
blank ones are left out.
-/
import PgTriage.Text.Blank

namespace PgTriage

/-- What a constraint demands. -/
inductive ConstraintKind where
  | primaryKey
  | foreignKey
  | unique
  | check
  | notNull
  | other
deriving DecidableEq, Repr

/-- The word for the kind. -/
def ConstraintKind.name : ConstraintKind → String
  | .primaryKey => "primary_key"
  | .foreignKey => "foreign_key"
  | .unique => "unique"
  | .check => "check"
  | .notNull => "not_null"
  | .other => "other"

/-- Why a constraint cannot be stated. -/
inductive ConstraintError where
  | blankTable
deriving DecidableEq, Repr

/-- The error's text. -/
def ConstraintError.message : ConstraintError → String
  | .blankTable => "constraint table must not be blank"

/-- A constraint of the schema. -/
structure Constraint where
  kind : ConstraintKind
  name : Option String
  table : String
  columns : List String
  /-- The table has a name. -/
  table_not_blank : Text.blank table = false
deriving DecidableEq, Repr

namespace Constraint

/-- The columns as a constraint keeps them: trimmed, and without the blank ones. -/
def cleanColumns (columns : List String) : List String :=
  (columns.map Text.trim).filter fun column => !column.isEmpty

/-- The constraint, unless its table is blank. -/
def make (kind : ConstraintKind) (name : Option String) (table : String)
    (columns : List String) : Except ConstraintError Constraint :=
  if h : Text.blank table = false then
    .ok ⟨kind, name, table, cleanColumns columns, h⟩
  else .error .blankTable

/-- One line that tells the constraint. -/
def describe (c : Constraint) : String :=
  c.kind.name ++ " constraint" ++
    (match c.name with
      | some name => " \"" ++ name ++ "\""
      | none => "") ++
    " on " ++ c.table ++ "(" ++ ", ".intercalate c.columns ++ ")"

end Constraint

end PgTriage
