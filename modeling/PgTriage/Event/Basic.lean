/-
Server errors as sets of fields.

An event holds at most one text per field code and lists its fields in the order of
their codes.  Setting a field that is there replaces its text.  The severity that is
told is the one the server does not localize, and the localized one only where the
other is missing.
-/
import PgTriage.Event.FieldCode
import PgTriage.OrderedMap

namespace PgTriage

/-- A server error: its fields by code. -/
structure Event where
  fields : OrderedMap FieldCode String
deriving DecidableEq

namespace Event

/-- The event without fields. -/
def empty : Event := ⟨.empty⟩

/-- The event with a field set. -/
def set (e : Event) (field : FieldCode) (text : String) : Event :=
  ⟨e.fields.insert field text⟩

/-- The text of a field. -/
def get? (e : Event) (field : FieldCode) : Option String :=
  e.fields.get? field

/-- The event whose fields are set one after another, so that the last text wins. -/
def ofFields (fields : List (FieldCode × String)) : Event :=
  fields.foldl (fun e f => e.set f.1 f.2) empty

/-- The fields, in the order of their codes. -/
def toList (e : Event) : List (FieldCode × String) := e.fields.entries

/-- Whether the event has no field. -/
def isEmpty (e : Event) : Bool := e.fields.isEmpty

/-- The severity, preferably as the server does not localize it. -/
def severity? (e : Event) : Option String :=
  (e.get? .severityNonLocalized).or (e.get? .severity)

/-- The SQLSTATE code. -/
def code? (e : Event) : Option String := e.get? .code

/-- The primary message. -/
def message? (e : Event) : Option String := e.get? .message

/-- The secondary message. -/
def detail? (e : Event) : Option String := e.get? .detail

/-- One line that tells severity, message and code. -/
def describe (e : Event) : String :=
  e.severity?.getD "ERROR" ++ ": " ++ e.message?.getD "<no message>" ++
    (match e.code? with
      | some code => " (SQLSTATE " ++ code ++ ")"
      | none => "")

/-! ### Reading back what was set -/

@[simp] theorem get?_empty (field : FieldCode) : empty.get? field = none := rfl

theorem get?_set (e : Event) (field x : FieldCode) (text : String) :
    (e.set field text).get? x = if x = field then some text else e.get? x :=
  OrderedMap.get?_insert e.fields field x text

end Event

end PgTriage
