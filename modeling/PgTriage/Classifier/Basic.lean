/-
Classifying failures.

A classifier takes the event out of a failure and asks the rules.  A failure without an
event is refused and handed back as it was.  What a call logs and counts is part of its
result: a classification is counted by its kind, a refusal is logged and counted, and
asking whether a failure would be accepted does neither.
-/
import PgTriage.Classifier.Rules
import PgTriage.Failure
import PgTriage.Telemetry.Counters

namespace PgTriage

/-- The result of a call, with what the call logged and counted. -/
structure Recorded (α : Type) where
  value : α
  log : List LogEvent
  tallies : List Tally
deriving DecidableEq, Repr

namespace Recorded

variable {α β : Type}

/-- A result that left no mark. -/
def silent (a : α) : Recorded α := ⟨a, [], []⟩

/-- Another result from the same call. -/
def map (f : α → β) (r : Recorded α) : Recorded β := ⟨f r.value, r.log, r.tallies⟩

@[simp] theorem value_map (f : α → β) (r : Recorded α) : (r.map f).value = f r.value := rfl

@[simp] theorem log_map (f : α → β) (r : Recorded α) : (r.map f).log = r.log := rfl

@[simp] theorem tallies_map (f : α → β) (r : Recorded α) : (r.map f).tallies = r.tallies := rfl

end Recorded

/-- A failure handed back by the classifier that refused it. -/
structure Rejection where
  dialect : String
  failure : Failure

/-- The rejection's text. -/
def Rejection.message (r : Rejection) : String :=
  r.dialect ++ " translator does not accept error: " ++ r.failure.describe

/-- A classifier of failures. -/
structure Classifier where
  settings : Settings
deriving DecidableEq, Repr

namespace Classifier

/-- The name logs and metrics know the classifier by. -/
def dialect (c : Classifier) : String := c.settings.dialect

/-- The event of a failure, where there is one. -/
def eventOf : PartialFun LogEvent Failure Event := .unlift Failure.event?

/-- From failures to diagnoses: the rules after the event is taken out. -/
def pipeline (c : Classifier) : PartialFun LogEvent Failure Diagnosis :=
  ((Rule.chain c.settings).composePartial eventOf).boxed

/-- Whether the failure would be classified. -/
def accepts (c : Classifier) (f : Failure) : Recorded Bool :=
  let t := c.pipeline.isDefinedAt f
  ⟨t.value, t.trace, []⟩

/-- The failure classified, or handed back. -/
def classify (c : Classifier) (f : Failure) : Recorded (Except Rejection Classified) :=
  let t := c.pipeline.tryApply f
  match t.value with
  | some d => ⟨.ok ⟨d, some f⟩, t.trace, [.classified c.dialect d.kind.name]⟩
  | none =>
    ⟨.error ⟨c.dialect, f⟩, t.trace ++ [.refused c.dialect f.describe], [.refused c.dialect]⟩

/-- The failure in a classified form if there is one, and itself otherwise. -/
def classifyOrPass (c : Classifier) (f : Failure) : Recorded Failure :=
  (c.classify f).map fun
    | .ok x => x.toFailure
    | .error r => r.failure

/-- An event classified, with itself for the cause. -/
def classifyEvent (c : Classifier) (e : Event) : Recorded Classified :=
  let t := c.pipeline.applyOrElse (.event e) fun _ => e.diagnose .generic
  ⟨⟨t.value, some (.event e)⟩, t.trace, [.classified c.dialect t.value.kind.name]⟩

/-- The outcome of a database call, with a failure classified or passed. -/
def settle {α : Type} (c : Classifier) : Except Failure α → Recorded (Except Failure α)
  | .ok a => .silent (.ok a)
  | .error f => (c.classifyOrPass f).map .error

/-- One line that shows the settings. -/
def describe (c : Classifier) : String :=
  "PostgresErrorTranslator \x7b settings: TranslatorSettings \x7b dialect: " ++
    Text.quote c.settings.dialect ++ ", primary_key_prefix: " ++
    Text.quote c.settings.primaryKeyPrefix ++ ", log_rule_inputs: " ++
    toString c.settings.logRuleInputs ++ " \x7d, .. \x7d"

end Classifier

end PgTriage
