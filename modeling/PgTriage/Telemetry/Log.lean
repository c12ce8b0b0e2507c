/-
Log entries.

Everything the library logs is one of these events.  An entry is an event's level and its
fields in the order they are recorded, the message first.
-/
import PgTriage.Text.Quoted

namespace PgTriage

/-- How much an entry matters. -/
inductive LogLevel where
  | trace
  | debug
  | info
  | warn
deriving DecidableEq, Repr

/-- The word for the level. -/
def LogLevel.word : LogLevel → String
  | .trace => "TRACE"
  | .debug => "DEBUG"
  | .info => "INFO"
  | .warn => "WARN"

/-- Something that is logged. -/
inductive LogEvent where
  /-- The rules are about to see an event with this code and message. -/
  | ruleInput (sqlState message : String)
  /-- A rule decided the kind of an event. -/
  | ruleMatched (rule kind sqlState : String)
  /-- A classifier was given a failure it has no event for. -/
  | refused (dialect error : String)
  /-- A classifier was entered in the registry under a name. -/
  | registered (name dialect : String)
  /-- The registry is complete and holds these names. -/
  | ready (names : List String)
deriving DecidableEq, Repr

namespace LogEvent

/-- The level an event is logged at. -/
def level : LogEvent → LogLevel
  | ruleInput .. => .trace
  | ruleMatched .. => .debug
  | refused .. => .warn
  | registered .. => .debug
  | ready _ => .info

/-- The fields of an event's entry. -/
def fields : LogEvent → List (String × String)
  | ruleInput sqlState message =>
    [("message", "Evaluating classification rules"), ("sql_state", sqlState),
      ("message", message)]
  | ruleMatched rule kind sqlState =>
    [("message", "Classification rule matched"), ("rule", rule), ("kind", kind),
      ("sql_state", sqlState)]
  | refused dialect error =>
    [("message", "Error not accepted by translator"), ("dialect", dialect), ("error", error)]
  | registered name dialect =>
    [("message", "Registering error translator"), ("dialect", name), ("translator", dialect)]
  | ready names =>
    [("message", "Error translators registered"), ("dialects", Text.quoteList names)]

end LogEvent

end PgTriage
