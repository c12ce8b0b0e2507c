/-
Failures: whatever error an application has in hand.

An application meets server errors in several wrappings, errors of the database client,
errors of its own, and failures that were classified before.  Three of these carry a
server error that can be read: a bare event, a server error as the client holds it, and
the client's wrapping of one.  A failure that merely has an event somewhere among its
causes does not: causes are not searched.
-/
import PgTriage.Diagnosis.Basic
import PgTriage.Event.ServerError

namespace PgTriage

/-- An error of the database client. -/
inductive ClientError where
  | rowNotFound
  | poolClosed
  | protocol (text : String)
  | columnNotFound (name : String)
  | io (text : String)
  /-- The server answered with an error. -/
  | server (error : ServerError)
  /-- A server of another kind answered with an error. -/
  | foreignServer (text : String)
  /-- An error of any other kind, told by its text. -/
  | other (text : String)
deriving DecidableEq, Repr

/-- The error's text. -/
def ClientError.describe : ClientError → String
  | .rowNotFound => "no rows returned by a query that expected to return at least one row"
  | .poolClosed => "attempted to acquire a connection on a closed pool"
  | .protocol text => "encountered unexpected or invalid data: " ++ text
  | .columnNotFound name => "no column found for name: " ++ name
  | .io text => "error communicating with database: " ++ text
  | .server error => "error returned from database: " ++ error.message
  | .foreignServer text => "error returned from database: " ++ text
  | .other text => text

/-- An error in an application's hands. -/
inductive Failure where
  | event (e : Event)
  | server (error : ServerError)
  | client (error : ClientError)
  | text (text : String)
  | io (text : String)
  /-- An error of the application's own that another failure caused. -/
  | context (text : String) (cause : Failure)
  /-- A failure that was classified, with the failure it was made from. -/
  | classified (diagnosis : Diagnosis) (cause : Option Failure)

/-- An event is a failure as it stands. -/
instance : Coe Event Failure := ⟨.event⟩

/-- A classified failure. -/
structure Classified where
  diagnosis : Diagnosis
  cause : Option Failure

/-- The failure a classified one is. -/
def Classified.toFailure (c : Classified) : Failure := .classified c.diagnosis c.cause

namespace Failure

/-- The failure's text. -/
def describe : Failure → String
  | event e => e.describe
  | server error => error.message
  | client error => error.describe
  | text s => s
  | io s => s
  | context s _ => s
  | classified d _ => d.message

/-- The server error the failure carries. -/
def event? : Failure → Option Event
  | event e => some e
  | server error => some error.toEvent
  | client (.server error) => some error.toEvent
  | _ => none

/-- The failure as a classified one, if it is one. -/
def classified? : Failure → Option Classified
  | classified d cause => some ⟨d, cause⟩
  | _ => none

end Failure

end PgTriage
