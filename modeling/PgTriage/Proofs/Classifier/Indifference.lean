/-
What the rules do not look at.

The rules read an event in eight fields.  Of the two for the severity they take the one
that counts, and of the code they take the letters without their case, since a state and a
class are compared without it.  Everything else an event holds is for people to read, the
fields without a meaning included.

`AgreesForRules` says that two events are the same wherever the rules look.  It carries
over to each thing a rule tests or reports, also to the names that are searched for in the
texts when their fields are missing, and so to the kind each rule gives.  Only the code is
handed on as it was written.
-/
import PgTriage.Proofs.Classifier.Rules
import PgTriage.Proofs.SqlState.Codes

namespace PgTriage

namespace Event

/-- The fields that the rules read. -/
def fieldsForRules : List FieldCode :=
  [.severity, .severityNonLocalized, .code, .message, .detail, .table, .column, .constraint]

/-- Two events that agree wherever the rules look. -/
structure AgreesForRules (e e' : Event) : Prop where
  message : e.get? .message = e'.get? .message
  detail : e.get? .detail = e'.get? .detail
  table : e.get? .table = e'.get? .table
  column : e.get? .column = e'.get? .column
  constraint : e.get? .constraint = e'.get? .constraint
  /-- The severity that counts. -/
  severity : e.severity? = e'.severity?
  /-- Both lack a code, or the codes differ in the case of ASCII letters alone. -/
  code : e.code?.map Ascii.lower = e'.code?.map Ascii.lower

end Event

/-- The same finding, but for the case of the letters in the code. -/
structure Diagnosis.SameButCase (d d' : Diagnosis) : Prop where
  kind : d.kind = d'.kind
  message : d.message = d'.message
  severity : d.severity = d'.severity
  sqlState : d.sqlState.map Ascii.lower = d'.sqlState.map Ascii.lower

/-- The rule is defined at both events or at neither, and finds the same. -/
structure Rule.TreatsAlike (rule : Rule) (e e' : Event) : Prop where
  isDefinedAt : (rule.isDefinedAt e).value = (rule.isDefinedAt e').value
  tryApply : Option.Rel Diagnosis.SameButCase (rule.tryApply e).value (rule.tryApply e').value

namespace Event.AgreesForRules

variable {e e' : Event} (h : e.AgreesForRules e')

include h

/-! ### What the rules test -/

theorem any_code {p : String → Bool} (hp : ∀ c c', Ascii.lower c = Ascii.lower c' → p c = p c') :
    e.code?.any p = e'.code?.any p := by
  have hcode := h.code
  cases hc : e.code? with
  | none =>
      rw [hc, Option.map_none, eq_comm, Option.map_eq_none_iff] at hcode
      rw [hcode]
  | some c =>
      rw [hc, Option.map_some, eq_comm, Option.map_eq_some_iff] at hcode
      obtain ⟨c', hc', hlower⟩ := hcode
      rw [hc']
      exact hp c c' hlower.symm

theorem hasState_eq (s : SqlState) : e.hasState s = e'.hasState s :=
  h.any_code fun _ _ => s.isMatch_eq_of_lower_eq

theorem inClass_eq (k : SqlClass) : e.inClass k = e'.inClass k :=
  h.any_code fun _ _ hlower => belongsToClass_eq_of_lower_eq hlower k.code

/-! ### What the rules report -/

/-- A name is looked for in its field and then in the texts, so it is the same if the field is. -/
theorem objectName?_eq (kind : ObjectKind) (hfield : e.get? kind.field = e'.get? kind.field) :
    e.objectName? kind = e'.objectName? kind := by
  have hmessage : e.message? = e'.message? := h.message
  have hdetail : e.detail? = e'.detail? := h.detail
  rw [objectName?, objectName?, fieldName?, fieldName?, mentionedName?, mentionedName?, hfield,
    hmessage, hdetail]

theorem malformedUuid?_eq : Rule.malformedUuid? e = Rule.malformedUuid? e' := by
  have hmessage : e.message? = e'.message? := h.message
  rw [Rule.malformedUuid?, Rule.malformedUuid?, h.hasState_eq, hmessage]

theorem value_tryApply_constraintKind_eq (settings : Settings) :
    ((Rule.constraintKind settings).tryApply e).value =
      ((Rule.constraintKind settings).tryApply e').value := by
  have hconstraint := h.objectName?_eq .constraint h.constraint
  simp only [Rule.constraintKind, PartialFun.value_tryApply_orElse,
    PartialFun.value_tryApply_guard, h.hasState_eq, hconstraint]

theorem violation?_eq (kind : ConstraintKind) :
    Rule.violation? kind e = Rule.violation? kind e' := by
  have htable := h.objectName?_eq .table h.table
  have hcolumn := h.objectName?_eq .column h.column
  have hconstraint := h.objectName?_eq .constraint h.constraint
  have hdetail : e.detail? = e'.detail? := h.detail
  simp only [Rule.violation?, Rule.violatedColumns, htable, hcolumn, hconstraint, hdetail]

theorem violationOf?_eq (settings : Settings) :
    Rule.violationOf? settings e = Rule.violationOf? settings e' := by
  rw [Rule.violationOf?, Rule.violationOf?, h.inClass_eq, ← Rule.getD_constraintKind,
    ← Rule.getD_constraintKind, h.value_tryApply_constraintKind_eq, h.violation?_eq]

theorem kindOf_eq (settings : Settings) : Rule.kindOf settings e = Rule.kindOf settings e' := by
  unfold Rule.kindOf
  rw [h.malformedUuid?_eq, h.violationOf?_eq settings, h.inClass_eq, h.inClass_eq]

theorem diagnose_sameButCase (kind : ErrorKind) :
    (e.diagnose kind).SameButCase (e'.diagnose kind) where
  kind := rfl
  message := congrArg (·.getD "database error") h.message
  severity := h.severity
  sqlState := h.code

/-! ### The rules -/

/-- A rule that finds no more than a kind treats alike the events it gives the same kind. -/
theorem treatsAlike {rule : Rule} (hcoherent : rule.Coherent) (kind? : Event → Option ErrorKind)
    (hvalue : ∀ e, (rule.tryApply e).value = (kind? e).map e.diagnose)
    (hkind : kind? e = kind? e') : rule.TreatsAlike e e' where
  isDefinedAt := by
    rw [hcoherent.isDefinedAt_eq, hcoherent.isDefinedAt_eq, hvalue, hvalue, hkind,
      Option.isSome_map, Option.isSome_map]
  tryApply := by
    rw [hvalue, hvalue, hkind]
    cases kind? e' with
    | none => exact .none
    | some kind => exact .some (h.diagnose_sameButCase kind)

theorem treatsAlike_invalidUuid : Rule.invalidUuid.TreatsAlike e e' := by
  refine h.treatsAlike Rule.coherent_invalidUuid
    (fun e => (Rule.malformedUuid? e).map .invalidUuid) (fun e => ?_) ?_
  · rw [Rule.value_tryApply_invalidUuid, Option.map_map]
    rfl
  · rw [h.malformedUuid?_eq]

/-- A rule that tests for a class and always finds the same kind. -/
theorem treatsAlike_of_inClass {rule : Rule} (hcoherent : rule.Coherent) {k : SqlClass}
    {kind : ErrorKind} (hvalue : ∀ e, (rule.tryApply e).value =
      if e.inClass k then some (e.diagnose kind) else none) : rule.TreatsAlike e e' := by
  refine h.treatsAlike hcoherent (fun e => if e.inClass k then some kind else none)
    (fun e => ?_) ?_
  · rw [hvalue]
    by_cases hk : e.inClass k
    · rw [if_pos hk, if_pos hk, Option.map_some]
    · rw [if_neg hk, if_neg hk, Option.map_none]
  · rw [h.inClass_eq]

theorem treatsAlike_integrity (settings : Settings) :
    (Rule.integrity settings).TreatsAlike e e' := by
  refine h.treatsAlike (Rule.coherent_integrity settings)
    (fun e => (Rule.violationOf? settings e).map .constraint) (fun e => ?_) ?_
  · rw [Rule.value_tryApply_integrity, Option.map_map]
    rfl
  · rw [h.violationOf?_eq]

theorem treatsAlike_catchAll : Rule.catchAll.TreatsAlike e e' :=
  h.treatsAlike Rule.coherent_catchAll (fun _ => some .generic) Rule.value_tryApply_catchAll rfl

theorem treatsAlike_chain (settings : Settings) : (Rule.chain settings).TreatsAlike e e' :=
  h.treatsAlike (Rule.coherent_chain settings) (fun e => some (Rule.kindOf settings e))
    (Rule.value_tryApply_chain settings) (congrArg some (h.kindOf_eq settings))

end Event.AgreesForRules

namespace Event

/-- Setting a field that the rules do not read leaves what they look at alone. -/
theorem agreesForRules_set (e : Event) {field : FieldCode} (h : field ∉ fieldsForRules)
    (text : String) : (e.set field text).AgreesForRules e := by
  have hget : ∀ k ∈ fieldsForRules, (e.set field text).get? k = e.get? k := by
    intro k hk
    rw [get?_set, if_neg]
    rintro rfl
    exact h hk
  have hseverity : (e.set field text).severity? = e.severity? := by
    rw [severity?, severity?, hget .severity (by decide), hget .severityNonLocalized (by decide)]
  exact ⟨hget _ (by decide), hget _ (by decide), hget _ (by decide), hget _ (by decide),
    hget _ (by decide), hseverity, congrArg (·.map Ascii.lower) (hget .code (by decide))⟩

theorem AgreesForRules.value_apply_chain_eq {e e' : Event} (h : e.AgreesForRules e')
    (hcode : e.code? = e'.code?) (settings : Settings) :
    ((Rule.chain settings).apply e).value = ((Rule.chain settings).apply e').value := by
  have hmessage : e.message? = e'.message? := h.message
  rw [Rule.value_apply_chain, Rule.value_apply_chain, h.kindOf_eq, diagnose, diagnose, hmessage,
    hcode, h.severity]

/-- **No rule tells two events apart that agree wherever the rules look.**  All of them are
defined at both events or at neither and find the same, but for the case of the code they hand
on.  A field that is not read may hold anything. -/
theorem treatsAlike_of_agreesForRules {e e' : Event} (h : e.AgreesForRules e')
    (settings : Settings) :
    Rule.invalidUuid.TreatsAlike e e' ∧ Rule.dataException.TreatsAlike e e' ∧
      (((Rule.constraintKind settings).isDefinedAt e).value =
          ((Rule.constraintKind settings).isDefinedAt e').value ∧
        ((Rule.constraintKind settings).tryApply e).value =
          ((Rule.constraintKind settings).tryApply e').value) ∧
      (Rule.integrity settings).TreatsAlike e e' ∧ Rule.authorization.TreatsAlike e e' ∧
      Rule.catchAll.TreatsAlike e e' ∧ (Rule.chain settings).TreatsAlike e e' ∧
      (∃ d d', ((Rule.chain settings).apply e).value = .ok d ∧
        ((Rule.chain settings).apply e').value = .ok d' ∧ d.SameButCase d') ∧
      ∀ field text, field ∉ fieldsForRules →
        ((Rule.chain settings).apply (e.set field text)).value =
          ((Rule.chain settings).apply e).value := by
  have hconstraintKind := h.value_tryApply_constraintKind_eq settings
  have hconstraintDomain : ((Rule.constraintKind settings).isDefinedAt e).value =
      ((Rule.constraintKind settings).isDefinedAt e').value := by
    rw [(Rule.coherent_constraintKind settings).isDefinedAt_eq,
      (Rule.coherent_constraintKind settings).isDefinedAt_eq, hconstraintKind]
  refine ⟨h.treatsAlike_invalidUuid,
    h.treatsAlike_of_inClass Rule.coherent_dataException Rule.value_tryApply_dataException,
    ⟨hconstraintDomain, hconstraintKind⟩, h.treatsAlike_integrity settings,
    h.treatsAlike_of_inClass Rule.coherent_authorization Rule.value_tryApply_authorization,
    h.treatsAlike_catchAll, h.treatsAlike_chain settings, ?_, ?_⟩
  · refine ⟨_, _, Rule.value_apply_chain settings e, Rule.value_apply_chain settings e', ?_⟩
    rw [← h.kindOf_eq]
    exact h.diagnose_sameButCase _
  · intro field text hfield
    have hagrees := e.agreesForRules_set hfield text
    have hcode : (e.set field text).code? = e.code? := by
      rw [code?, code?, get?_set, if_neg]
      rintro rfl
      exact hfield (by decide)
    exact hagrees.value_apply_chain_eq hcode settings

/-- One event names the severity in the server's language as well, has a hint, and spells its code
in small letters. -/
theorem treatsAlike_of_agreesForRules_malformedUuid :
    let message := "invalid input syntax for type uuid: \"x\""
    let e : Event := .ofFields [(.severity, "ERROR"), (.code, "22P02"), (.message, message)]
    let e' : Event := .ofFields [(.severity, "FEHLER"), (.severityNonLocalized, "ERROR"),
      (.code, "22p02"), (.message, message), (.hint, "table \"t\""), (.unknown 90, "")]
    e.AgreesForRules e' ∧ .file ∉ fieldsForRules ∧
      Rule.invalidUuid.TreatsAlike e e' ∧ (Rule.chain .standard).TreatsAlike e e' ∧
      ((Rule.chain .standard).apply (e.set .file "uuid.c")).value =
        ((Rule.chain .standard).apply e).value := by
  intro message e e'
  have hagrees : e.AgreesForRules e' :=
    ⟨by decide, by decide, by decide, by decide, by decide, by decide, by decide⟩
  have hfile : .file ∉ fieldsForRules := by decide
  obtain ⟨huuid, -, -, -, -, -, hchain, -, hset⟩ :=
    treatsAlike_of_agreesForRules hagrees .standard
  exact ⟨hagrees, hfile, huuid, hchain, hset .file "uuid.c" hfile⟩

end Event

end PgTriage
