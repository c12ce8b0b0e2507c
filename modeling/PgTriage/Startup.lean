/-
Starting up in a process.

A process has one log subscriber and one recorder of counters, and each can be installed
once.  Starting loads the configuration, installs the subscriber with the chosen filter,
installs the recorder if metrics are asked for, and builds the deployment.  A step that
fails ends the start, and what was installed before it stays.
-/
import PgTriage.Config.Layers
import PgTriage.Deployment
import PgTriage.Telemetry.Exposition
import PgTriage.Telemetry.Filter

namespace PgTriage

/-- What a process has installed, and what it has counted since. -/
structure Installation where
  subscriber : Option LogFilter
  /-- The counters, once a recorder is installed. -/
  recorder : Option Counters
deriving DecidableEq

namespace Installation

/-- A process in which nothing is installed. -/
def fresh : Installation := ⟨none, none⟩

/-- Installs the recorder of counters. -/
def installRecorder (p : Installation) : Except TelemetryError Installation :=
  match p.recorder with
  | some _ => .error .recorderInstalled
  | none => .ok { p with recorder := some .none }

/-- Installs the log subscriber. -/
def installSubscriber (p : Installation) (filter : LogFilter) : Except TelemetryError Installation :=
  match p.subscriber with
  | some _ => .error .subscriberInstalled
  | none => .ok { p with subscriber := some filter }

/-- Counts, if there is a recorder. -/
def count (p : Installation) (tallies : List Tally) : Installation :=
  { p with recorder := p.recorder.map (·.bumpAll tallies) }

end Installation

/-- Why a start fails. -/
inductive StartError where
  | load (e : Config.LoadError)
  | telemetry (e : TelemetryError)

/-- Starts a deployment.  The process comes back as the start left it, failed or not. -/
def start (p : Installation) (files : Config.Directory) (env : Config.Environment)
    (enableMetrics : Bool) : Except StartError Deployment × Installation :=
  match Config.AppConfig.load files env with
  | .error e => (.error (.load e), p)
  | .ok config =>
    match LogFilter.choose (env.get? "RUST_LOG") config.telemetry.logLevel with
    | .error e => (.error (.telemetry e), p)
    | .ok filter =>
      match p.installSubscriber filter with
      | .error e => (.error (.telemetry e), p)
      | .ok p =>
        let deployment := (Deployment.ofConfig config).value
        if enableMetrics then
          match p.installRecorder with
          | .error e => (.error (.telemetry e), p)
          | .ok p => (.ok { deployment with metricsEnabled := true }, p)
        else (.ok deployment, p)

namespace Deployment

/-- The counters as text, if metrics are enabled. -/
def metricLines? (d : Deployment) (p : Installation) : Option (List String) :=
  if d.metricsEnabled then p.recorder.map Exposition.sortedLines else none

/-- The failures classified by the default classifier, where there is one. -/
def classifyAll? (d : Deployment) (failures : List Failure) :
    Option (List (Recorded (Except Rejection Classified))) :=
  match d.defaultClassifier with
  | .ok c => some (failures.map c.classify)
  | .error _ => none

end Deployment

end PgTriage
