/-
What the rules find.

Logging leaves no mark on a value, so each rule comes down to the optional kind it gives
an event, and the chain to the first of those kinds.  The last rule takes everything, so
the chain always has a value; and it is built from combinators that keep the contract, so
it is also defined everywhere.
-/
import PgTriage.Classifier.Rules
import PgTriage.Proofs.PartialFun.Coherence

namespace PgTriage.Rule

/-! ### The kinds the rules give -/

/-- The text the event tells of as no UUID. -/
def malformedUuid? (e : Event) : Option String :=
  if e.hasState .invalidTextRepresentation then e.message?.bind uuidLiteral? else none

/-- What the constraint demands, `other` where the code does not tell. -/
def constraintKindOf (settings : Settings) (e : Event) : ConstraintKind :=
  if e.hasState .notNullViolation then .notNull
  else if e.hasState .foreignKeyViolation then .foreignKey
  else if e.hasState .uniqueViolation then
    if (e.objectName? .constraint).any settings.isPrimaryKeyName then .primaryKey else .unique
  else if e.hasState .checkViolation then .check
  else .other

/-- The violation the event tells of, if its code and its table say so. -/
def violationOf? (settings : Settings) (e : Event) : Option Violation :=
  if e.inClass .integrityConstraintViolation then violation? (constraintKindOf settings e) e
  else none

/-- The kind the first rule that is defined gives the event. -/
def kindOf (settings : Settings) (e : Event) : ErrorKind :=
  match malformedUuid? e with
  | some value => .invalidUuid value
  | none =>
    if e.inClass .dataException then .data
    else
      match violationOf? settings e with
      | some v => .constraint v
      | none =>
        if e.inClass .invalidAuthorizationSpecification then .authorization else .generic

/-! ### One value for each rule -/

@[simp] theorem value_tryApply_announcing (rule : Rule) (name : RuleName) (e : Event) :
    ((announcing rule name).tryApply e).value = (rule.tryApply e).value := by
  rw [announcing, PartialFun.value_tryApply_andThenTraced]
  exact Option.map_id'

theorem value_tryApply_invalidUuid (e : Event) :
    (invalidUuid.tryApply e).value =
      (malformedUuid? e).map fun value => e.diagnose (.invalidUuid value) := by
  rw [invalidUuid, value_tryApply_announcing, PartialFun.value_tryApply_unlift, malformedUuid?]
  by_cases h : e.hasState .invalidTextRepresentation
  · rw [if_pos h, if_pos h]
  · rw [if_neg h, if_neg h, Option.map_none]

theorem value_tryApply_dataException (e : Event) :
    (dataException.tryApply e).value =
      if e.inClass .dataException then some (e.diagnose .data) else none := by
  rw [dataException, value_tryApply_announcing, PartialFun.value_tryApply_guard]

theorem value_tryApply_authorization (e : Event) :
    (authorization.tryApply e).value =
      if e.inClass .invalidAuthorizationSpecification then some (e.diagnose .authorization)
      else none := by
  rw [authorization, value_tryApply_announcing, PartialFun.value_tryApply_guard]

theorem value_tryApply_catchAll (e : Event) :
    (catchAll.tryApply e).value = some (e.diagnose .generic) := by
  rw [catchAll, value_tryApply_announcing, PartialFun.value_tryApply_total]

theorem getD_constraintKind (settings : Settings) (e : Event) :
    (((constraintKind settings).tryApply e).value).getD .other = constraintKindOf settings e := by
  simp only [constraintKind, PartialFun.value_tryApply_orElse, PartialFun.value_tryApply_guard]
  unfold constraintKindOf
  by_cases hn : e.hasState .notNullViolation
  · simp [hn]
  · by_cases hf : e.hasState .foreignKeyViolation
    · simp [hn, hf]
    · by_cases hu : e.hasState .uniqueViolation
      · simp [hn, hf, hu]
      · by_cases hc : e.hasState .checkViolation
        · simp [hn, hf, hu, hc]
        · simp [hn, hf, hu, hc]

theorem value_tryApply_integrity (settings : Settings) (e : Event) :
    ((integrity settings).tryApply e).value =
      (violationOf? settings e).map fun v => e.diagnose (.constraint v) := by
  rw [integrity, value_tryApply_announcing, PartialFun.value_tryApply_unliftTraced, violationOf?]
  by_cases h : e.inClass .integrityConstraintViolation
  · rw [if_pos h, if_pos h, Traced.value_bind, PartialFun.value_applyOrElse,
      getD_constraintKind, Traced.value_pure]
  · rw [if_neg h, if_neg h, Traced.value_pure, Option.map_none]

/-! ### The chain -/

theorem value_tryApply_bareChain (settings : Settings) (e : Event) :
    ((bareChain settings).tryApply e).value = some (e.diagnose (kindOf settings e)) := by
  simp only [bareChain, PartialFun.value_tryApply_orElse, value_tryApply_invalidUuid,
    value_tryApply_dataException, value_tryApply_integrity, value_tryApply_authorization,
    value_tryApply_catchAll]
  unfold kindOf
  cases malformedUuid? e with
  | some value => rfl
  | none =>
      by_cases hd : e.inClass .dataException
      · simp [hd]
      · cases hv : violationOf? settings e with
        | some v => simp [hd]
        | none =>
            by_cases ha : e.inClass .invalidAuthorizationSpecification
            · simp [hd, ha]
            · simp [hd, ha]

/-- The chain finds a diagnosis for every event. -/
theorem value_tryApply_chain (settings : Settings) (e : Event) :
    ((chain settings).tryApply e).value = some (e.diagnose (kindOf settings e)) := by
  unfold chain
  by_cases h : settings.logRuleInputs
  · rw [if_pos h, PartialFun.boxed_eq, PartialFun.value_tryApply_logged,
      value_tryApply_bareChain]
  · rw [if_neg h, PartialFun.boxed_eq, value_tryApply_bareChain]

theorem coherent_announcing {rule : Rule} (h : rule.Coherent) (name : RuleName) :
    (announcing rule name).Coherent :=
  h.andThenTraced _

theorem coherent_invalidUuid : invalidUuid.Coherent :=
  coherent_announcing (PartialFun.coherent_unlift _) _

theorem coherent_dataException : dataException.Coherent :=
  coherent_announcing (PartialFun.coherent_guard _ _) _

theorem coherent_constraintKind (settings : Settings) : (constraintKind settings).Coherent :=
  (((PartialFun.coherent_guard _ _).orElse (PartialFun.coherent_guard _ _)).orElse
    (PartialFun.coherent_guard _ _)).orElse (PartialFun.coherent_guard _ _)

theorem coherent_integrity (settings : Settings) : (integrity settings).Coherent :=
  coherent_announcing (PartialFun.coherent_unliftTraced _) _

theorem coherent_authorization : authorization.Coherent :=
  coherent_announcing (PartialFun.coherent_guard _ _) _

theorem coherent_catchAll : catchAll.Coherent :=
  coherent_announcing (PartialFun.coherent_total _) _

theorem coherent_bareChain (settings : Settings) : (bareChain settings).Coherent :=
  (((coherent_invalidUuid.orElse coherent_dataException).orElse
    (coherent_integrity settings)).orElse coherent_authorization).orElse coherent_catchAll

theorem coherent_chain (settings : Settings) : (chain settings).Coherent := by
  unfold chain
  by_cases h : settings.logRuleInputs
  · rw [if_pos h, PartialFun.boxed_eq]
    exact (coherent_bareChain settings).logged _
  · rw [if_neg h, PartialFun.boxed_eq]
    exact coherent_bareChain settings

theorem value_isDefinedAt_chain (settings : Settings) (e : Event) :
    ((chain settings).isDefinedAt e).value = true := by
  rw [(coherent_chain settings).isDefinedAt_eq, value_tryApply_chain]
  rfl

theorem value_apply_chain (settings : Settings) (e : Event) :
    ((chain settings).apply e).value = .ok (e.diagnose (kindOf settings e)) := by
  rw [(coherent_chain settings).value_apply, value_tryApply_chain]
  rfl

end PgTriage.Rule
