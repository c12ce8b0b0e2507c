/-
What an event tells about the objects involved.

A server that fills in the fields for schema, table, constraint and column names them
there; an older one only mentions them in its texts.  The field counts whenever it is
there and not blank, as it stands.  Otherwise the message is searched, and the detail
only if the message mentions no such object at all.
-/
import PgTriage.Event.Basic
import PgTriage.Text.Blank
import PgTriage.Text.QuotedName

namespace PgTriage

/-- A kind of database object that an error may name. -/
inductive ObjectKind where
  | schema
  | table
  | constraint
  | column
deriving DecidableEq, Repr

namespace ObjectKind

/-- The field that names such an object. -/
def field : ObjectKind → FieldCode
  | schema => .schema
  | table => .table
  | constraint => .constraint
  | column => .column

/-- The words by which texts mention such an object. -/
def keywords : ObjectKind → List String
  | schema => ["schema"]
  | table => ["table", "relation"]
  | constraint => ["constraint"]
  | column => ["column"]

end ObjectKind

namespace Event

/-- The name in the field for such objects, unless it is blank. -/
def fieldName? (e : Event) (kind : ObjectKind) : Option String :=
  (e.get? kind.field).filter fun name => !Text.blank name

/-- The name mentioned first in the texts, the message before the detail. -/
def mentionedName? (e : Event) (kind : ObjectKind) : Option String :=
  (e.message?.bind (Text.findName? kind.keywords)).or
    (e.detail?.bind (Text.findName? kind.keywords))

/-- The name of the object of this kind that the event tells of. -/
def objectName? (e : Event) (kind : ObjectKind) : Option String :=
  (e.fieldName? kind).or (e.mentionedName? kind)

end Event

end PgTriage
