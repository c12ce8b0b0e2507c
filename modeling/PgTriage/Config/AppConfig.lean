/-
The configuration of an application, taken out of a tree of values.

Each setting has a type and a default.  A value of another type is an error that tells
where the value stands, what it is and what was expected.  Settings are looked at in the
order of their names, so of several wrong values the first in that order is told; a
section may also be given as a list of its settings in the order they are declared, and
is then looked at in that order.  Names that mean nothing are passed over.
-/
import PgTriage.Classifier.Settings
import PgTriage.Config.Value
import PgTriage.Text.Quoted

namespace PgTriage.Config

/-- What a value shows itself as. -/
def Value.describe : Value → String
  | .text s => "string " ++ Text.quote s
  | .signed n => "signed int \x60" ++ toString n ++ "\x60"
  | .unsigned n => "unsigned int \x60" ++ toString n ++ "\x60"
  | .float x => "float \x60" ++ x.toText ++ "\x60"
  | .bool b => "bool " ++ toString b
  | .list _ => "sequence"
  | .table _ => "map"

/-- What a setting expects. -/
inductive Expected where
  | text
  | bool
  | classifierSection
  | telemetrySection
deriving DecidableEq, Repr

/-- What an expectation is called. -/
def Expected.describe : Expected → String
  | .text => "a string"
  | .bool => "a boolean"
  | .classifierSection => "struct TranslatorConfig"
  | .telemetrySection => "struct TelemetryConfig"

/-- Why a configuration cannot be loaded. -/
inductive LoadError where
  /-- A source is not well formed. -/
  | malformed
  /-- The value at a place has the wrong type. -/
  | mismatch (path : List String) (found : Value) (expected : Expected)

/-- The text of a mismatch. -/
def mismatchMessage (found : Value) (expected : Expected) : String :=
  "invalid type: found " ++ found.describe ++ ", expected " ++ expected.describe

/-- Settings for logs. -/
structure TelemetryConfig where
  logLevel : String
  jsonLogs : Bool
deriving DecidableEq, Repr

/-- The telemetry settings where nothing is configured. -/
def TelemetryConfig.standard : TelemetryConfig := ⟨"info", false⟩

/-- The settings of an application. -/
structure AppConfig where
  appName : String
  appEnv : String
  /-- The settings of the classifier, with the dialect as it was written. -/
  classifier : Settings
  telemetry : TelemetryConfig
deriving DecidableEq, Repr

namespace AppConfig

/-- The environment an application runs in where none is told. -/
def defaultEnv : String := "development"

/-- The configuration where nothing is configured. -/
def standard : AppConfig := ⟨"dbfault", defaultEnv, .standard, .standard⟩

/-- Whether the application runs in production. -/
def isProduction (c : AppConfig) : Bool := c.appEnv == "production"

/-- Whether the application runs in development. -/
def isDevelopment (c : AppConfig) : Bool := c.appEnv == "development"

/-- Whether logs are written as JSON: when asked for, and always in production. -/
def useJsonLogs (c : AppConfig) : Bool := c.telemetry.jsonLogs || c.isProduction

/-! ### Reading one setting -/

/-- A setting read from the value at a place, or its default where there is none. -/
def setting {α : Type} (read : List String → Value → Except LoadError α) (path : List String)
    (default : α) : Option Value → Except LoadError α
  | none => .ok default
  | some v => read path v

/-- The text at a place. -/
def readText (path : List String) : Value → Except LoadError String
  | .text s => .ok s
  | v => .error (.mismatch path v .text)

/-- The truth value at a place. -/
def readBool (path : List String) : Value → Except LoadError Bool
  | .bool b => .ok b
  | v => .error (.mismatch path v .bool)

/-! ### Sections -/

/-- The classifier's settings at a place. -/
def readClassifier (path : List String) : Value → Except LoadError Settings
  | .table t => do
    let dialect ←
      setting readText (path ++ ["dialect"]) Settings.standard.dialect (Table.get? t "dialect")
    let logRuleInputs ←
      setting readBool (path ++ ["log_rule_inputs"]) Settings.standard.logRuleInputs
        (Table.get? t "log_rule_inputs")
    let primaryKeyPrefix ←
      setting readText (path ++ ["primary_key_prefix"]) Settings.standard.primaryKeyPrefix
        (Table.get? t "primary_key_prefix")
    pure ⟨dialect, primaryKeyPrefix, logRuleInputs⟩
  | .list items => do
    let dialect ← setting readText (path ++ ["0"]) Settings.standard.dialect items[0]?
    let primaryKeyPrefix ←
      setting readText (path ++ ["1"]) Settings.standard.primaryKeyPrefix items[1]?
    let logRuleInputs ←
      setting readBool (path ++ ["2"]) Settings.standard.logRuleInputs items[2]?
    pure ⟨dialect, primaryKeyPrefix, logRuleInputs⟩
  | v => .error (.mismatch path v .classifierSection)

/-- The telemetry settings at a place. -/
def readTelemetry (path : List String) : Value → Except LoadError TelemetryConfig
  | .table t => do
    let jsonLogs ←
      setting readBool (path ++ ["json_logs"]) TelemetryConfig.standard.jsonLogs
        (Table.get? t "json_logs")
    let logLevel ←
      setting readText (path ++ ["log_level"]) TelemetryConfig.standard.logLevel
        (Table.get? t "log_level")
    pure ⟨logLevel, jsonLogs⟩
  | .list items => do
    let logLevel ← setting readText (path ++ ["0"]) TelemetryConfig.standard.logLevel items[0]?
    let jsonLogs ← setting readBool (path ++ ["1"]) TelemetryConfig.standard.jsonLogs items[1]?
    pure ⟨logLevel, jsonLogs⟩
  | v => .error (.mismatch path v .telemetrySection)

/-- The configuration that a table of settings describes. -/
def ofTable (t : Table) : Except LoadError AppConfig := do
  let appEnv ← setting readText ["app_env"] standard.appEnv (t.get? "app_env")
  let appName ← setting readText ["app_name"] standard.appName (t.get? "app_name")
  let telemetry ← setting readTelemetry ["telemetry"] standard.telemetry (t.get? "telemetry")
  let classifier ← setting readClassifier ["translator"] standard.classifier (t.get? "translator")
  pure ⟨appName, appEnv, classifier, telemetry⟩

/-- The table of settings that describes a configuration. -/
def toTable (c : AppConfig) : Table :=
  [("app_name", .text c.appName),
    ("app_env", .text c.appEnv),
    ("translator",
      .table [("dialect", .text c.classifier.dialect),
        ("primary_key_prefix", .text c.classifier.primaryKeyPrefix),
        ("log_rule_inputs", .bool c.classifier.logRuleInputs)]),
    ("telemetry",
      .table [("log_level", .text c.telemetry.logLevel),
        ("json_logs", .bool c.telemetry.jsonLogs)])]

end AppConfig

end PgTriage.Config
