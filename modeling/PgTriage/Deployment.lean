/-
Deployments: a configuration and the registry built for it.

One classifier serves a deployment.  It is registered under the names of the server's
dialect and under the configured one, which is trimmed for logs and metrics.  Where the
configured name is blank there is no default classifier, but the other names still find
one.
-/
import PgTriage.Config.AppConfig
import PgTriage.Registry

namespace PgTriage

/-- The settings of the classifier of a configuration. -/
def Config.AppConfig.settings (c : Config.AppConfig) : Settings :=
  { c.classifier with dialect := Text.trim c.classifier.dialect }

/-- The registry of a configuration. -/
def buildRegistry (c : Config.AppConfig) : Traced LogEvent Registry := do
  let classifier : Classifier := ⟨c.settings⟩
  let r ← Registry.empty.register Settings.postgresAliases classifier
  r.register [c.classifier.dialect] classifier

/-- A configuration with the registry built for it. -/
structure Deployment where
  config : Config.AppConfig
  registry : Registry
  /-- Whether counters can be read out. -/
  metricsEnabled : Bool
deriving DecidableEq

namespace Deployment

/-- The deployment of a configuration, without metrics. -/
def ofConfig (c : Config.AppConfig) : Traced LogEvent Deployment := do
  let registry ← buildRegistry c
  Traced.tell (.ready registry.dialects)
  pure ⟨c, registry, false⟩

/-- The classifier of the configured dialect. -/
def defaultClassifier (d : Deployment) : Except RegistryError Classifier :=
  d.registry.get (some d.config.classifier.dialect)

end Deployment

/-- The text of a registry error as a deployment reports it. -/
def registryFailureMessage (e : RegistryError) : String := "translator registry: " ++ e.message

end PgTriage
