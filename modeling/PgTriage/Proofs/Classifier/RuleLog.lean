/-
What the rules log.

A rule speaks once, when it decides, and says which kind it decided on under the one name
that goes with that kind.  `LogsDecision` is that property, and a choice between two rules
has it if both do: where the first decides the second is not asked, and where it does not
it is silent.  So the chain says what it decided and nothing about the rules it passed
over, and the event itself is logged before, if the settings ask for it.

Testing is silent throughout.  The rule for constraints is the one to look at, since its
test runs all of it but the announcement; what it runs is not watched.
-/
import PgTriage.Proofs.Classifier.Acceptance
import PgTriage.Proofs.PartialFun.Observation

namespace PgTriage

/-- The rule an error of this kind is told by, under the name it is logged with. -/
def ErrorKind.ruleLabel : ErrorKind → String
  | .invalidUuid _ => "invalid_uuid"
  | .data => "data_exception"
  | .constraint _ => "integrity_constraint_violation"
  | .authorization => "authorization"
  | .generic => "generic"

/-- What is logged of a decision. -/
def Diagnosis.decisionEvent (d : Diagnosis) : LogEvent :=
  .ruleMatched d.kind.ruleLabel d.kind.name (d.sqlState.getD "")

namespace Rule

/-! ### A rule logs its decision and nothing else -/

/-- The rule logs the diagnosis it comes to, and nothing where it comes to none. -/
def LogsDecision (rule : Rule) : Prop :=
  ∀ e, (rule.tryApply e).trace = (rule.tryApply e).value.elim [] fun d => [d.decisionEvent]

theorem logsDecision_announcing {rule : Rule} {name : RuleName} (hunseen : rule.AppliesUnseen)
    (hname : ∀ e d, ((announcing rule name).tryApply e).value = some d →
      d.kind.ruleLabel = name.label) :
    (announcing rule name).LogsDecision := by
  intro e
  have htrace : ((announcing rule name).tryApply e).trace =
      (rule.tryApply e).value.elim [] fun d => [matchedEvent name d] := by
    rw [announcing, PartialFun.trace_tryApply_andThenTraced, hunseen e]
    rfl
  rw [htrace, value_tryApply_announcing]
  cases hvalue : (rule.tryApply e).value with
  | none => rfl
  | some d =>
      have hlabel := hname e d ((value_tryApply_announcing rule name e).trans hvalue)
      show [matchedEvent name d] = [d.decisionEvent]
      rw [matchedEvent, Diagnosis.decisionEvent, hlabel]

theorem LogsDecision.orElse {rule other : Rule} (h : rule.LogsDecision) (ho : other.LogsDecision) :
    LogsDecision (PartialFun.orElse rule other) := by
  intro e
  rw [PartialFun.trace_tryApply_orElse, PartialFun.value_tryApply_orElse, h e]
  cases (rule.tryApply e).value with
  | none => exact ho e
  | some d => rfl

theorem logsDecision_invalidUuid : invalidUuid.LogsDecision := by
  refine logsDecision_announcing (PartialFun.appliesUnseen_unlift _) ?_
  intro e d h
  have hvalue : (invalidUuid.tryApply e).value = some d := h
  rw [value_tryApply_invalidUuid] at hvalue
  obtain ⟨value, -, rfl⟩ := Option.map_eq_some_iff.1 hvalue
  rfl

/-- A rule that tests the event and always comes to the same kind. -/
theorem logsDecision_announcing_guard (p : Event → Bool) {kind : ErrorKind} {name : RuleName}
    (hname : kind.ruleLabel = name.label) :
    (announcing (.guard p (·.diagnose kind)) name).LogsDecision := by
  refine logsDecision_announcing (PartialFun.appliesUnseen_guard _ _) ?_
  intro e d h
  rw [value_tryApply_announcing, PartialFun.value_tryApply_guard] at h
  obtain ⟨-, hd⟩ := Option.ite_none_right_eq_some.1 h
  obtain rfl := Option.some.inj hd
  exact hname

theorem logsDecision_dataException : dataException.LogsDecision :=
  logsDecision_announcing_guard _ rfl

theorem appliesUnseen_constraintKind (settings : Settings) :
    (constraintKind settings).AppliesUnseen :=
  (((PartialFun.appliesUnseen_guard _ _).orElse (PartialFun.appliesUnseen_guard _ _)).orElse
    (PartialFun.appliesUnseen_guard _ _)).orElse (PartialFun.appliesUnseen_guard _ _)

/-- All of the rule for constraints but the announcement is silent. -/
theorem exists_integrity_eq (settings : Settings) :
    ∃ body, PartialFun.AppliesUnseen (PartialFun.unliftTraced body) ∧
      integrity settings = announcing (PartialFun.unliftTraced body) .integrity := by
  refine ⟨_, fun e => ?_, rfl⟩
  rw [PartialFun.trace_tryApply_unliftTraced]
  by_cases h : e.inClass .integrityConstraintViolation
  · rw [if_pos h, Traced.trace_bind, PartialFun.trace_applyOrElse,
      appliesUnseen_constraintKind settings e]
    rfl
  · rw [if_neg h, Traced.trace_pure]

theorem logsDecision_integrity (settings : Settings) : (integrity settings).LogsDecision := by
  obtain ⟨body, hbody, hintegrity⟩ := exists_integrity_eq settings
  rw [hintegrity]
  refine logsDecision_announcing hbody ?_
  intro e d h
  rw [← hintegrity, value_tryApply_integrity] at h
  obtain ⟨v, -, rfl⟩ := Option.map_eq_some_iff.1 h
  rfl

theorem logsDecision_authorization : authorization.LogsDecision :=
  logsDecision_announcing_guard _ rfl

theorem logsDecision_catchAll : catchAll.LogsDecision :=
  logsDecision_announcing_guard (fun _ => true) rfl

theorem logsDecision_bareChain (settings : Settings) : (bareChain settings).LogsDecision :=
  (((logsDecision_invalidUuid.orElse logsDecision_dataException).orElse
    (logsDecision_integrity settings)).orElse logsDecision_authorization).orElse
    logsDecision_catchAll

/-- The chain logs the event if it is to, and then its decision. -/
theorem trace_tryApply_chain (settings : Settings) (e : Event) :
    ((chain settings).tryApply e).trace =
      (if settings.logRuleInputs then [inputEvent e] else []) ++
        [(e.diagnose (kindOf settings e)).decisionEvent] := by
  have hbare : ((bareChain settings).tryApply e).trace =
      [(e.diagnose (kindOf settings e)).decisionEvent] := by
    rw [logsDecision_bareChain settings e, value_tryApply_bareChain]
    rfl
  unfold chain
  by_cases h : settings.logRuleInputs
  · rw [if_pos h, if_pos h, PartialFun.boxed_eq, PartialFun.trace_tryApply_logged, hbare]
    rfl
  · rw [if_neg h, if_neg h, PartialFun.boxed_eq, hbare]
    rfl

/-! ### Testing is silent -/

/-- A rule is announced when it decides, not when it is tested. -/
theorem testsUnseen_announcing {rule : Rule} (h : rule.TestsUnseen) (name : RuleName) :
    (announcing rule name).TestsUnseen :=
  h

theorem testsUnseen_invalidUuid : invalidUuid.TestsUnseen :=
  testsUnseen_announcing
    (PartialFun.testsUnseen_unliftTraced (PartialFun.appliesUnseen_unlift _)) _

theorem testsUnseen_announcing_guard (p : Event → Bool) (f : Event → Diagnosis)
    (name : RuleName) : (announcing (.guard p f) name).TestsUnseen :=
  testsUnseen_announcing (PartialFun.testsUnseen_guard p f) name

theorem testsUnseen_integrity (settings : Settings) : (integrity settings).TestsUnseen := by
  obtain ⟨body, hbody, hintegrity⟩ := exists_integrity_eq settings
  rw [hintegrity]
  exact testsUnseen_announcing (PartialFun.testsUnseen_unliftTraced hbody) _

theorem testsUnseen_bareChain (settings : Settings) : (bareChain settings).TestsUnseen :=
  (((testsUnseen_invalidUuid.orElse (testsUnseen_announcing_guard _ _ _)).orElse
    (testsUnseen_integrity settings)).orElse (testsUnseen_announcing_guard _ _ _)).orElse
    (testsUnseen_announcing_guard (fun _ => true) _ _)

theorem testsUnseen_chain (settings : Settings) : (chain settings).TestsUnseen := by
  unfold chain
  by_cases h : settings.logRuleInputs
  · rw [if_pos h]
    exact testsUnseen_bareChain settings
  · rw [if_neg h]
    exact testsUnseen_bareChain settings

end Rule

namespace Classifier

/-! ### The pipeline -/

theorem trace_tryApply_pipeline (c : Classifier) (f : Failure) :
    (c.pipeline.tryApply f).trace =
      f.event?.elim [] fun e => ((Rule.chain c.settings).tryApply e).trace := by
  unfold pipeline
  rw [PartialFun.boxed_eq, PartialFun.trace_tryApply_composePartial]
  rfl

/-- Asking whether a failure would be classified logs nothing. -/
theorem log_accepts (c : Classifier) (f : Failure) : (c.accepts f).log = [] :=
  (Rule.testsUnseen_chain c.settings).composePartial (PartialFun.appliesUnseen_unlift _) f

end Classifier

end PgTriage
