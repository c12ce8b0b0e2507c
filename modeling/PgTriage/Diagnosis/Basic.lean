/-
Diagnoses: what kind of error a server error is.

A diagnosis names the family the error belongs to, with what is known of a violated
constraint or of a malformed UUID, and carries the message, code and severity along.
-/
import PgTriage.Diagnosis.Constraint
import PgTriage.Diagnosis.InvalidValues

namespace PgTriage

/-- A violated constraint, with the values that violate it. -/
structure Violation where
  constraint : Constraint
  invalidValues : InvalidValues
  /-- The detail as the server wrote it. -/
  detail : Option String
deriving DecidableEq, Repr

/-- The family of an error. -/
inductive ErrorKind where
  /-- Nothing more is known. -/
  | generic
  /-- A value has the wrong form or is out of range. -/
  | data
  /-- A text was meant for a UUID and is none. -/
  | invalidUuid (value : String)
  /-- The connection is not authorized. -/
  | authorization
  /-- A constraint is violated. -/
  | constraint (violation : Violation)
deriving DecidableEq, Repr

namespace ErrorKind

/-- The word for the family, as metrics and logs use it. -/
def name : ErrorKind → String
  | generic => "generic"
  | data => "data"
  | invalidUuid _ => "invalid_uuid"
  | authorization => "authorization"
  | constraint v =>
    match v.constraint.kind with
    | .primaryKey => "primary_key_violation"
    | .foreignKey => "foreign_key_violation"
    | .unique => "unique_violation"
    | .check => "check_violation"
    | .notNull => "not_null_violation"
    | .other => "constraint_violation"

/-- Whether the error lies in a value, a malformed UUID included. -/
def isData : ErrorKind → Bool
  | data | invalidUuid _ => true
  | _ => false

/-- The violation, if the error is one of a constraint. -/
def violation? : ErrorKind → Option Violation
  | constraint v => some v
  | _ => none

/-- The text that was meant for a UUID. -/
def invalidUuid? : ErrorKind → Option String
  | invalidUuid value => some value
  | _ => none

end ErrorKind

/-- What is found out about an error. -/
structure Diagnosis where
  kind : ErrorKind
  message : String
  sqlState : Option String
  severity : Option String
deriving DecidableEq, Repr

end PgTriage
