import PgTriage.Classifier.Basic
import PgTriage.Classifier.Rules
import PgTriage.Classifier.Settings
import PgTriage.Config.AppConfig
import PgTriage.Config.EnvValue
import PgTriage.Config.Environment
import PgTriage.Config.Layers
import PgTriage.Config.StandIn
import PgTriage.Config.Toml.DateTime
import PgTriage.Config.Toml.Document
import PgTriage.Config.Toml.Reader
import PgTriage.Config.Toml.Scalar
import PgTriage.Config.Value
import PgTriage.Deployment
import PgTriage.Diagnosis.Basic
import PgTriage.Diagnosis.Constraint
import PgTriage.Diagnosis.InvalidValues
import PgTriage.Event.Basic
import PgTriage.Event.Evidence
import PgTriage.Event.FieldCode
import PgTriage.Event.KeyDetail
import PgTriage.Event.ServerError
import PgTriage.Event.Wire
import PgTriage.Failure
import PgTriage.Number.Binary64
import PgTriage.OrderedMap
import PgTriage.PartialFun.Basic
import PgTriage.PartialFun.Term
import PgTriage.PartialFun.Traced
import PgTriage.PartialFun.Word64
import PgTriage.Proofs.Classifier.Acceptance
import PgTriage.Proofs.Classifier.Decision
import PgTriage.Proofs.Classifier.ForeignKeyReport
import PgTriage.Proofs.Classifier.Indifference
import PgTriage.Proofs.Classifier.MalformedUuid
import PgTriage.Proofs.Classifier.PrimaryKey
import PgTriage.Proofs.Classifier.RuleLog
import PgTriage.Proofs.Classifier.RuleOrder
import PgTriage.Proofs.Classifier.Rules
import PgTriage.Proofs.Classifier.Settings
import PgTriage.Proofs.Classifier.UuidMessage
import PgTriage.Proofs.Classifier.Violation
import PgTriage.Proofs.Config.AppConfig
import PgTriage.Proofs.Config.Environment
import PgTriage.Proofs.Config.Layers
import PgTriage.Proofs.Config.StandIn
import PgTriage.Proofs.Config.Toml.Document
import PgTriage.Proofs.Config.Toml.Reader
import PgTriage.Proofs.Config.Toml.Scalar
import PgTriage.Proofs.Config.Value
import PgTriage.Proofs.Deployment
import PgTriage.Proofs.Diagnosis.Constraint
import PgTriage.Proofs.Diagnosis.InsertionOrder
import PgTriage.Proofs.Diagnosis.InvalidValues
import PgTriage.Proofs.Entries
import PgTriage.Proofs.Event.Decoding
import PgTriage.Proofs.Event.Evidence
import PgTriage.Proofs.Event.Framing
import PgTriage.Proofs.Event.KeyDetail.Entries
import PgTriage.Proofs.Event.KeyDetail.Reading
import PgTriage.Proofs.Event.KeyDetail.RoundTrip
import PgTriage.Proofs.Event.Rewriting
import PgTriage.Proofs.Event.RoundTrip
import PgTriage.Proofs.Event.ServerError
import PgTriage.Proofs.Event.Truncation
import PgTriage.Proofs.OrderedMap
import PgTriage.Proofs.PartialFun.Choice
import PgTriage.Proofs.PartialFun.Coherence
import PgTriage.Proofs.PartialFun.Composition
import PgTriage.Proofs.PartialFun.Observation
import PgTriage.Proofs.PartialFun.Order
import PgTriage.Proofs.PartialFun.Terms
import PgTriage.Proofs.Registry
import PgTriage.Proofs.Session.Counting
import PgTriage.Proofs.Session.Log
import PgTriage.Proofs.Session.Outcome
import PgTriage.Proofs.Session.Relay
import PgTriage.Proofs.Session.Routes
import PgTriage.Proofs.SqlState.Catalog
import PgTriage.Proofs.SqlState.Codes
import PgTriage.Proofs.Text.Ascii
import PgTriage.Proofs.Text.Blank
import PgTriage.Proofs.Text.FinalSigma
import PgTriage.Proofs.Text.Lowercase
import PgTriage.Proofs.Text.QuotedName
import PgTriage.Proofs.Text.Search
import PgTriage.Proofs.Text.Utf8
import PgTriage.Registry
import PgTriage.Session
import PgTriage.SqlState.Basic
import PgTriage.SqlState.Catalog
import PgTriage.Startup
import PgTriage.Telemetry.Counters
import PgTriage.Telemetry.Exposition
import PgTriage.Telemetry.Filter
import PgTriage.Telemetry.Log
import PgTriage.Text.Ascii
import PgTriage.Text.Blank
import PgTriage.Text.Lowercase
import PgTriage.Text.LowercaseTable
import PgTriage.Text.PrintableTable
import PgTriage.Text.Quoted
import PgTriage.Text.QuotedName
import PgTriage.Text.Ranges
import PgTriage.Text.Search
import PgTriage.Text.Utf8
import PgTriage.Text.Word
import PgTriage.Text.WordTable
