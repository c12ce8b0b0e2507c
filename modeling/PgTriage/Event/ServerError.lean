/-
Server errors as a database client holds them.

A client has taken the response apart already: severity, code and message are always
there, the other texts may be missing, and the position is a number in the statement or
in a query that the server ran on its behalf.  Turning such an error into an event keeps
all of it, and an optional text that is empty is kept as an empty field.
-/
import PgTriage.Event.Basic

namespace PgTriage

/-- How severe the server calls an error. -/
inductive ServerSeverity where
  | panic
  | fatal
  | error
  | warning
  | notice
  | debug
  | info
  | log
deriving DecidableEq, Repr

/-- The word the server uses. -/
def ServerSeverity.word : ServerSeverity → String
  | .panic => "PANIC"
  | .fatal => "FATAL"
  | .error => "ERROR"
  | .warning => "WARNING"
  | .notice => "NOTICE"
  | .debug => "DEBUG"
  | .info => "INFO"
  | .log => "LOG"

/-- Where in a query the error arose. -/
inductive ErrorPosition where
  /-- In the statement the client sent. -/
  | inStatement (position : Nat)
  /-- In a query the server made itself. -/
  | inQuery (position : Nat) (query : String)
deriving DecidableEq, Repr

/--
The position told by the fields of a response.  One in the statement comes first, and one
in a query of the server's own counts only together with the query.
-/
def ErrorPosition.ofFields? (position internalPosition : Option Nat)
    (internalQuery : Option String) : Option ErrorPosition :=
  match position, internalPosition, internalQuery with
  | some n, _, _ => some (.inStatement n)
  | none, some n, some query => some (.inQuery n query)
  | none, _, _ => none

/-- A server error, taken apart. -/
structure ServerError where
  severity : ServerSeverity
  code : String
  message : String
  detail : Option String
  hint : Option String
  context : Option String
  schema : Option String
  table : Option String
  column : Option String
  dataType : Option String
  constraint : Option String
  file : Option String
  routine : Option String
  line : Option Nat
  position : Option ErrorPosition
deriving DecidableEq, Repr

namespace ServerError

/-- The fields that tell a position. -/
def positionFields : Option ErrorPosition → List (FieldCode × String)
  | some (.inStatement n) => [(.position, toString n)]
  | some (.inQuery n query) => [(.internalPosition, toString n), (.internalQuery, query)]
  | none => []

/-- A field for a text that may be missing. -/
def optionalField (field : FieldCode) (text : Option String) : List (FieldCode × String) :=
  (text.map fun t => (field, t)).toList

/-- The fields of the error. -/
def fields (p : ServerError) : List (FieldCode × String) :=
  [(.severity, p.severity.word), (.code, p.code), (.message, p.message)] ++
    optionalField .detail p.detail ++
    optionalField .hint p.hint ++
    optionalField .context p.context ++
    optionalField .schema p.schema ++
    optionalField .table p.table ++
    optionalField .column p.column ++
    optionalField .dataType p.dataType ++
    optionalField .constraint p.constraint ++
    optionalField .file p.file ++
    optionalField .routine p.routine ++
    positionFields p.position ++
    optionalField .line (p.line.map toString)

/-- The event of the error. -/
def toEvent (p : ServerError) : Event := Event.ofFields p.fields

end ServerError

end PgTriage
