/-
The rules that classify an event.

Each rule is a partial function on events, and the chain tries them from the specific
to the general: a malformed UUID, any other data exception, a constraint violation, a
refused authorization, and last a rule that takes everything.  The first rule that is
defined decides, and says so in the log.

A rule that lacks what it needs is undefined rather than wrong.  A constraint violation
whose table cannot be found out goes to the rules after it, and so ends as generic.
-/
import PgTriage.Classifier.Settings
import PgTriage.Diagnosis.Basic
import PgTriage.Event.Evidence
import PgTriage.Event.KeyDetail
import PgTriage.PartialFun.Basic
import PgTriage.SqlState.Basic
import PgTriage.Telemetry.Log

namespace PgTriage

/-- A rule: a diagnosis for some events, with what is logged on the way. -/
abbrev Rule := PartialFun LogEvent Event Diagnosis

/-- The rules by name, in the order they are tried. -/
inductive RuleName where
  | invalidUuid
  | dataException
  | integrity
  | authorization
  | catchAll
deriving DecidableEq, Repr

/-- The name a rule is logged under. -/
def RuleName.label : RuleName → String
  | .invalidUuid => "invalid_uuid"
  | .dataException => "data_exception"
  | .integrity => "integrity_constraint_violation"
  | .authorization => "authorization"
  | .catchAll => "generic"

namespace Event

/-- Whether the event's code is the state's. -/
def hasState (e : Event) (state : SqlState) : Bool := e.code?.any state.isMatch

/-- Whether the event's code belongs to the class. -/
def inClass (e : Event) (k : SqlClass) : Bool := e.code?.any k.contains

/-- The diagnosis that an event is of a kind. -/
def diagnose (e : Event) (kind : ErrorKind) : Diagnosis where
  kind := kind
  message := e.message?.getD "database error"
  sqlState := e.code?
  severity := e.severity?

end Event

namespace Rule

/-- How a message tells of a text that is no UUID, up to the quote before it. -/
def uuidOpenings : List String :=
  ["invalid input syntax for type uuid: \"", "invalid input syntax for uuid: \""]

/-- The quoted text, if the characters begin with an opening that is closed on the line. -/
def uuidLiteralHere? (cs : List Char) : Option (List Char) :=
  uuidOpenings.findSome? fun opening =>
    (opening.toList.isPrefixOf? cs).bind (Text.beforeLast '"' fun _ => true)

/--
The text that a message says is no UUID.  It runs from the quote that opens it to the
last quote of the line, for it may hold quotes itself.
-/
def uuidLiteral? (message : String) : Option String :=
  (Text.findFrom? uuidLiteralHere? message.toList).map String.ofList

/-- The log event of a rule that decided. -/
def matchedEvent (rule : RuleName) (d : Diagnosis) : LogEvent :=
  .ruleMatched rule.label d.kind.name (d.sqlState.getD "")

/-- The rule, which says in the log when it decided. -/
def announcing (rule : Rule) (name : RuleName) : Rule :=
  rule.andThenTraced fun d => do
    Traced.tell (matchedEvent name d)
    pure d

/-- A text was meant for a UUID and is none. -/
def invalidUuid : Rule :=
  announcing
    (.unlift fun e =>
      if e.hasState .invalidTextRepresentation then
        (e.message?.bind uuidLiteral?).map fun value => e.diagnose (.invalidUuid value)
      else none)
    .invalidUuid

/-- The code is one of the data exceptions. -/
def dataException : Rule :=
  announcing (.guard (·.inClass .dataException) (·.diagnose .data)) .dataException

/--
What the violated constraint demands, as far as its code tells.  A unique constraint is
a primary key if its name says so.
-/
def constraintKind (settings : Settings) : PartialFun LogEvent Event ConstraintKind :=
  (((PartialFun.guard (·.hasState .notNullViolation) fun _ => .notNull).orElse
    (.guard (·.hasState .foreignKeyViolation) fun _ => .foreignKey)).orElse
    (.guard (·.hasState .uniqueViolation) fun e =>
      if (e.objectName? .constraint).any settings.isPrimaryKeyName then .primaryKey
      else .unique)).orElse
    (.guard (·.hasState .checkViolation) fun _ => .check)

/-- The columns a violation is about: the one the event names, or those of its key. -/
def violatedColumns (e : Event) : List String :=
  match e.objectName? .column with
  | some column => [column]
  | none => KeyDetail.columns e.detail?

/-- The violation an event tells of, if its table can be found out. -/
def violation? (kind : ConstraintKind) (e : Event) : Option Violation :=
  (e.objectName? .table).bind fun table =>
    (Constraint.make kind (e.objectName? .constraint) table (violatedColumns e)).toOption.map
      fun constraint => ⟨constraint, KeyDetail.parse e.detail?, e.detail?⟩

/-- A constraint is violated, and its table is known. -/
def integrity (settings : Settings) : Rule :=
  announcing
    (.unliftTraced fun e =>
      if e.inClass .integrityConstraintViolation then do
        let kind ← (constraintKind settings).applyOrElse e fun _ => .other
        pure ((violation? kind e).map fun v => e.diagnose (.constraint v))
      else pure none)
    .integrity

/-- The connection is not authorized. -/
def authorization : Rule :=
  announcing
    (.guard (·.inClass .invalidAuthorizationSpecification) (·.diagnose .authorization))
    .authorization

/-- Anything else. -/
def catchAll : Rule :=
  announcing (.total (·.diagnose .generic)) .catchAll

/-- All rules, in order. -/
def bareChain (settings : Settings) : Rule :=
  (((invalidUuid.orElse dataException).orElse (integrity settings)).orElse authorization).orElse
    catchAll

/-- The log event of an event the rules are about to see. -/
def inputEvent (e : Event) : LogEvent :=
  .ruleInput (e.code?.getD "") (e.message?.getD "")

/-- The rules in order, with each event logged before they see it if the settings ask so. -/
def chain (settings : Settings) : Rule :=
  if settings.logRuleInputs then ((bareChain settings).logged inputEvent).boxed
  else (bareChain settings).boxed

end Rule

end PgTriage
