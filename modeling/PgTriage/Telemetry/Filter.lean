/-
Log filters.

A filter is a list of directives separated by commas.  A directive sets the level for a
target, or for everything where it names none; a target without a level gets all of its
log.  Of two directives for one target the later counts.  A filter is shown with its
directives in the order they are tried: longer targets before shorter ones, and the
directive without a target last.
-/
import PgTriage.Text.Ascii
import PgTriage.Text.Blank
import PgTriage.Text.Search
import PgTriage.Text.Word

namespace PgTriage

/-- How much of a target's log passes a filter. -/
inductive FilterLevel where
  | off
  | error
  | warn
  | info
  | debug
  | trace
deriving DecidableEq, Repr

namespace FilterLevel

/-- The levels, by number. -/
def all : List FilterLevel := [off, error, warn, info, debug, trace]

/-- The word for the level. -/
def word : FilterLevel → String
  | off => "off"
  | error => "error"
  | warn => "warn"
  | info => "info"
  | debug => "debug"
  | trace => "trace"

/-- The number a text of decimal digits spells, with or without a plus. -/
def number? (cs : List Char) : Option Nat :=
  let digits :=
    match cs with
    | '+' :: rest => rest
    | cs => cs
  if digits.isEmpty || !digits.all Char.isDigit then none
  else some (digits.foldl (fun n c => 10 * n + (c.toNat - 48)) 0)

/-- The level of a number or a word, whatever the case of its letters. -/
def ofText? (s : String) : Option FilterLevel :=
  ((number? s.toList).bind fun n => all[n]?).or (all.find? fun level => Ascii.same level.word s)

end FilterLevel

/-- Why a filter is not well formed. -/
inductive FilterError where
  | directive
  | level
deriving DecidableEq, Repr

/-- The error's text. -/
def FilterError.message : FilterError → String
  | .directive => "invalid filter directive"
  | .level =>
    "error parsing level filter: expected one of \"off\", \"error\", \"warn\", " ++
      "\"info\", \"debug\", \"trace\", or a number 0-5"

/-- A part of a filter. -/
structure Directive where
  target : Option String
  level : FilterLevel
deriving DecidableEq, Repr

namespace Directive

/-- A character that a directive may begin with. -/
def mayBegin (c : Char) : Bool := Text.isAlphanumeric c || c == '-' || c == ':' || c == '_'

/-- Whether the text begins with a blank. -/
def startsBlank : List Char → Bool
  | [] => false
  | c :: _ => Text.isBlank c

/--
The directive of a text.  Blanks before a directive are let pass when its first character
is looked at, but belong to the target, and no level may follow such a target.
-/
def parse (s : String) : Except FilterError Directive :=
  match s.toList.dropWhile Text.isBlank with
  | [] => .error .directive
  | c :: _ =>
    if !mayBegin c then .error .directive
    else
      match Text.splitFirst? '=' s.toList with
      | some (target, level) =>
        if startsBlank target then .error .level
        else if level.isEmpty then .ok ⟨some (.ofList target), .trace⟩
        else
          match FilterLevel.ofText? (.ofList level) with
          | some level => .ok ⟨some (.ofList target), level⟩
          | none => .error .level
      | none =>
        match FilterLevel.ofText? s with
        | some level => .ok ⟨none, level⟩
        | none => .ok ⟨some s, .trace⟩

/-- The directive as text. -/
def toText (d : Directive) : String :=
  match d.target with
  | some target => target ++ "=" ++ d.level.word
  | none => d.level.word

/-- Whether `d` is tried before `e`; they are for different targets. -/
def before (d e : Directive) : Bool :=
  match d.target, e.target with
  | some s, some t => s.utf8ByteSize > t.utf8ByteSize || (s.utf8ByteSize == t.utf8ByteSize && t < s)
  | some _, none => true
  | none, _ => false

end Directive

/-- The directives of a filter, in the order they are tried, one for each target. -/
structure LogFilter where
  directives : List Directive
deriving DecidableEq, Repr

namespace LogFilter

/-- The directives with one more, which replaces the one for its target. -/
def insert (d : Directive) : List Directive → List Directive
  | [] => [d]
  | e :: rest =>
    if e.target = d.target then d :: rest
    else if d.before e then d :: e :: rest
    else e :: insert d rest

/-- The filter of a text. -/
def parse (s : String) : Except FilterError LogFilter := do
  let pieces := (Text.splitAt ',' s.toList).filter fun piece => !piece.isEmpty
  let directives ← pieces.mapM fun piece => Directive.parse (.ofList piece)
  pure ⟨directives.foldl (fun kept d => insert d kept) []⟩

/-- The filter as text. -/
def toText (f : LogFilter) : String := ",".intercalate (f.directives.map Directive.toText)

end LogFilter

/-- Why telemetry cannot be set up. -/
inductive TelemetryError where
  | invalidFilter (filter : String) (cause : FilterError)
  | subscriberInstalled
  | recorderInstalled
deriving DecidableEq, Repr

/-- The error's text. -/
def TelemetryError.message : TelemetryError → String
  | .invalidFilter filter cause => "invalid log filter '" ++ filter ++ "': " ++ cause.message
  | .subscriberInstalled =>
    "failed to install tracing subscriber: " ++
      "a global default trace dispatcher has already been set"
  | .recorderInstalled =>
    "failed to install Prometheus recorder: failed to install exporter as global recorder: " ++
      "attempted to set a recorder after the metrics system was already initialized"

/--
The filter of the process: the one the environment asks for, if it is well formed, and
the configured one otherwise.
-/
def LogFilter.choose (requested : Option String) (configured : String) :
    Except TelemetryError LogFilter :=
  match requested.map parse with
  | some (.ok f) => .ok f
  | _ =>
    match parse configured with
    | .ok f => .ok f
    | .error cause => .error (.invalidFilter configured cause)

end PgTriage
