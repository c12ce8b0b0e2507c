/-
Which diagnosis an event gets, said without the rules.

The kind is the first that applies of five, each told by what the event holds: the bytes
its code begins with, what its message can be read as, the names it gives for table,
constraint and column, and its detail.  Whatever text stands in the place of a code is
covered, one of a single byte or one that begins inside a character included: it begins
with no class, so what is left is generic.  A code of class 23 without a table is generic
too, and so is one whose table is blank.

The rules are partial functions put together by combinators.  Each of them is read here as
the condition it tests, and the chain as the first condition that holds.
-/
import PgTriage.Proofs.Classifier.MalformedUuid
import PgTriage.Proofs.Classifier.Rules
import PgTriage.Proofs.Diagnosis.Constraint
import PgTriage.Proofs.SqlState.Codes

namespace PgTriage

namespace Event

/-! ### What an event tells -/

/-- The event has a code, and these are its first two bytes. -/
def CodeBegins (e : Event) (start : String) : Prop :=
  ∃ c, e.code? = some c ∧ (Utf8.encode c).take 2 = Utf8.encode start

/-- The code is `22P02`, in either case, and the message tells of the text as no UUID. -/
def TellsMalformedUuid (e : Event) (value : String) : Prop :=
  (∃ c, e.code? = some c ∧ Ascii.lower c = "22p02") ∧
    ∃ m, e.message? = some m ∧ Rule.CapturesUuid m.toList value.toList

/-- What a constraint demands whose violation has this code. -/
def demandedKind (settings : Settings) (e : Event) : ConstraintKind :=
  match e.code? with
  | some "23502" => .notNull
  | some "23503" => .foreignKey
  | some "23514" => .check
  | some "23505" =>
    if (e.objectName? .constraint).any settings.isPrimaryKeyName then .primaryKey else .unique
  | _ => .other

/-- The code is of class 23, a table is named, which no constraint has blank, and the rest
is as the event tells. -/
structure TellsViolation (settings : Settings) (e : Event) (v : Violation) : Prop where
  codeBegins : e.CodeBegins "23"
  table : e.objectName? .table = some v.constraint.table
  kind : v.constraint.kind = e.demandedKind settings
  name : v.constraint.name = e.objectName? .constraint
  columns : v.constraint.columns =
    (((e.objectName? .column).elim (KeyDetail.columns e.detail?) fun column => [column]).filter
      fun column => !Text.blank column).map Text.trim
  invalidValues : v.invalidValues = KeyDetail.parse e.detail?
  detail : v.detail = e.detail?

/-- The kind of the event: the first of five that applies. -/
inductive HasKind (settings : Settings) (e : Event) : ErrorKind → Prop where
  | invalidUuid {value : String} (huuid : e.TellsMalformedUuid value) :
      HasKind settings e (.invalidUuid value)
  | data (huuid : ∀ value, ¬ e.TellsMalformedUuid value) (hdata : e.CodeBegins "22") :
      HasKind settings e .data
  | constraint {v : Violation} (huuid : ∀ value, ¬ e.TellsMalformedUuid value)
      (hdata : ¬ e.CodeBegins "22") (hviolation : e.TellsViolation settings v) :
      HasKind settings e (.constraint v)
  | authorization (huuid : ∀ value, ¬ e.TellsMalformedUuid value) (hdata : ¬ e.CodeBegins "22")
      (hviolation : ∀ v, ¬ e.TellsViolation settings v) (hauthorization : e.CodeBegins "28") :
      HasKind settings e .authorization
  | generic (huuid : ∀ value, ¬ e.TellsMalformedUuid value) (hdata : ¬ e.CodeBegins "22")
      (hviolation : ∀ v, ¬ e.TellsViolation settings v)
      (hauthorization : ¬ e.CodeBegins "28") :
      HasKind settings e .generic

/-- The diagnosis of the event, by its kind and its fields.  A diagnosis has no cause: only
a classifier gives it one. -/
structure DiagnosedAs (settings : Settings) (e : Event) (d : Diagnosis) : Prop where
  kind : e.HasKind settings d.kind
  message : d.message = (e.get? .message).getD "database error"
  sqlState : d.sqlState = e.get? .code
  severity : d.severity = (e.get? .severityNonLocalized).or (e.get? .severity)

/-! ### What the rules test is what the event tells -/

theorem inClass_iff {e : Event} {k : SqlClass} {a b : Char} (ha : a.isDigit = true)
    (hb : b.isDigit = true) (hcode : k.code.toList = [a, b]) :
    e.inClass k = true ↔ e.CodeBegins k.code := by
  rw [inClass, Option.any_eq_true]
  refine exists_congr fun c => and_congr_right fun _ => ?_
  exact SqlClass.contains_iff_of_digits ha hb hcode

theorem inClass_dataException_iff {e : Event} :
    e.inClass .dataException = true ↔ e.CodeBegins "22" :=
  inClass_iff (a := '2') (b := '2') rfl rfl rfl

theorem inClass_integrityConstraintViolation_iff {e : Event} :
    e.inClass .integrityConstraintViolation = true ↔ e.CodeBegins "23" :=
  inClass_iff (a := '2') (b := '3') rfl rfl rfl

theorem inClass_invalidAuthorizationSpecification_iff {e : Event} :
    e.inClass .invalidAuthorizationSpecification = true ↔ e.CodeBegins "28" :=
  inClass_iff (a := '2') (b := '8') rfl rfl rfl

theorem hasState_iff {e : Event} {s : SqlState} (h : ∀ c ∈ s.code.toList, c.isAlpha = false) :
    e.hasState s = true ↔ e.code? = some s.code := by
  rw [hasState, Option.any_eq_true]
  constructor
  · intro hany
    obtain ⟨c, hc, hmatch⟩ := hany
    rw [hc, (SqlState.isMatch_iff_eq h).1 hmatch]
  · intro hc
    exact ⟨s.code, hc, (SqlState.isMatch_iff_eq h).2 rfl⟩

theorem hasState_invalidTextRepresentation_iff {e : Event} :
    e.hasState .invalidTextRepresentation = true ↔
      ∃ c, e.code? = some c ∧ Ascii.lower c = "22p02" := by
  rw [hasState, Option.any_eq_true]
  refine exists_congr fun c => and_congr_right fun _ => ?_
  rw [SqlState.isMatch, Ascii.same_comm, Ascii.same_iff_lower_eq]
  exact Iff.rfl

theorem malformedUuid?_eq_some_iff {e : Event} {value : String} :
    Rule.malformedUuid? e = some value ↔ e.TellsMalformedUuid value := by
  rw [Rule.malformedUuid?, Option.ite_none_right_eq_some, hasState_invalidTextRepresentation_iff,
    Option.bind_eq_some_iff, TellsMalformedUuid]
  simp only [Rule.uuidLiteral?_eq_some_iff]

theorem malformedUuid?_eq_none_iff {e : Event} :
    Rule.malformedUuid? e = none ↔ ∀ value, ¬ e.TellsMalformedUuid value := by
  rw [Option.eq_none_iff_forall_ne_some]
  exact forall_congr' fun _ => not_congr malformedUuid?_eq_some_iff

theorem constraintKindOf_eq (settings : Settings) (e : Event) :
    Rule.constraintKindOf settings e = e.demandedKind settings := by
  have hnotNull : e.hasState .notNullViolation = true ↔ e.code? = some "23502" :=
    hasState_iff (s := .notNullViolation) (by simp [SqlState.notNullViolation])
  have hforeignKey : e.hasState .foreignKeyViolation = true ↔ e.code? = some "23503" :=
    hasState_iff (s := .foreignKeyViolation) (by simp [SqlState.foreignKeyViolation])
  have hunique : e.hasState .uniqueViolation = true ↔ e.code? = some "23505" :=
    hasState_iff (s := .uniqueViolation) (by simp [SqlState.uniqueViolation])
  have hcheck : e.hasState .checkViolation = true ↔ e.code? = some "23514" :=
    hasState_iff (s := .checkViolation) (by simp [SqlState.checkViolation])
  simp only [Rule.constraintKindOf, hnotNull, hforeignKey, hunique, hcheck]
  unfold demandedKind
  symm
  split
  · next h => simp [h]
  · next h => simp [h]
  · next h => simp [h]
  · next h => simp [h]
  · next hnot2 hnot3 hnot14 hnot5 =>
    rw [if_neg hnot2, if_neg hnot3, if_neg hnot5, if_neg hnot14]

theorem violationOf?_eq_some_iff {settings : Settings} {e : Event} {v : Violation} :
    Rule.violationOf? settings e = some v ↔ e.TellsViolation settings v := by
  have hcolumns : Constraint.cleanColumns (Rule.violatedColumns e) =
      (((e.objectName? .column).elim (KeyDetail.columns e.detail?) fun column => [column]).filter
        fun column => !Text.blank column).map Text.trim := by
    rw [Constraint.cleanColumns_eq, Rule.violatedColumns]
    cases e.objectName? .column <;> rfl
  rw [Rule.violationOf?, Option.ite_none_right_eq_some, inClass_integrityConstraintViolation_iff,
    Rule.violation?, Option.bind_eq_some_iff, constraintKindOf_eq]
  constructor
  · intro h
    obtain ⟨hcode, table, htable, hmake⟩ := h
    cases hblank : Text.blank table with
    | true => simp [Constraint.make_of_blank hblank, Except.toOption] at hmake
    | false =>
        simp only [Constraint.make_of_not_blank hblank, Except.toOption, Option.map_some,
          Option.some.injEq] at hmake
        subst hmake
        exact ⟨hcode, htable, rfl, rfl, hcolumns, rfl, rfl⟩
  · intro h
    obtain ⟨⟨kind, name, table, columns, hblank⟩, values, detail⟩ := v
    obtain ⟨hcode, htable, rfl, rfl, rfl, rfl, rfl⟩ := h
    refine ⟨hcode, table, htable, ?_⟩
    simp only [Constraint.make_of_not_blank hblank, Except.toOption, Option.map_some, hcolumns]

theorem violationOf?_eq_none_iff {settings : Settings} {e : Event} :
    Rule.violationOf? settings e = none ↔ ∀ v, ¬ e.TellsViolation settings v := by
  rw [Option.eq_none_iff_forall_ne_some]
  exact forall_congr' fun _ => not_congr violationOf?_eq_some_iff

/-! ### The first that applies is what the chain gives -/

theorem HasKind.eq_kindOf {settings : Settings} {e : Event} {kind : ErrorKind}
    (h : e.HasKind settings kind) : kind = Rule.kindOf settings e := by
  unfold Rule.kindOf
  cases h with
  | invalidUuid h =>
      rw [← malformedUuid?_eq_some_iff] at h
      simp [h]
  | data hnoUuid h =>
      rw [← malformedUuid?_eq_none_iff] at hnoUuid
      rw [← inClass_dataException_iff] at h
      simp [hnoUuid, h]
  | constraint hnoUuid hnoData h =>
      rw [← malformedUuid?_eq_none_iff] at hnoUuid
      rw [← inClass_dataException_iff] at hnoData
      rw [← violationOf?_eq_some_iff] at h
      simp [hnoUuid, hnoData, h]
  | authorization hnoUuid hnoData hnoViolation h =>
      rw [← malformedUuid?_eq_none_iff] at hnoUuid
      rw [← inClass_dataException_iff] at hnoData
      rw [← violationOf?_eq_none_iff] at hnoViolation
      rw [← inClass_invalidAuthorizationSpecification_iff] at h
      simp [hnoUuid, hnoData, hnoViolation, h]
  | generic hnoUuid hnoData hnoViolation hnoAuthorization =>
      rw [← malformedUuid?_eq_none_iff] at hnoUuid
      rw [← inClass_dataException_iff] at hnoData
      rw [← violationOf?_eq_none_iff] at hnoViolation
      rw [← inClass_invalidAuthorizationSpecification_iff] at hnoAuthorization
      simp [hnoUuid, hnoData, hnoViolation, hnoAuthorization]

theorem hasKind_kindOf (settings : Settings) (e : Event) :
    e.HasKind settings (Rule.kindOf settings e) := by
  unfold Rule.kindOf
  cases huuid : Rule.malformedUuid? e with
  | some value => exact .invalidUuid (malformedUuid?_eq_some_iff.1 huuid)
  | none =>
      have hnoUuid := malformedUuid?_eq_none_iff.1 huuid
      by_cases hdata : e.inClass .dataException
      · simp only [hdata, if_true]
        exact .data hnoUuid (inClass_dataException_iff.1 hdata)
      · have hnoData := mt inClass_dataException_iff.2 hdata
        simp only [hdata]
        cases hviolation : Rule.violationOf? settings e with
        | some v => exact .constraint hnoUuid hnoData (violationOf?_eq_some_iff.1 hviolation)
        | none =>
            have hnoViolation := violationOf?_eq_none_iff.1 hviolation
            by_cases hauth : e.inClass .invalidAuthorizationSpecification
            · have hbegins := inClass_invalidAuthorizationSpecification_iff.1 hauth
              simp only [hauth, if_true]
              exact .authorization hnoUuid hnoData hnoViolation hbegins
            · have hnot := mt inClass_invalidAuthorizationSpecification_iff.2 hauth
              simp only [hauth]
              exact .generic hnoUuid hnoData hnoViolation hnot

theorem diagnosedAs_iff {settings : Settings} {e : Event} {d : Diagnosis} :
    e.DiagnosedAs settings d ↔ d = e.diagnose (Rule.kindOf settings e) := by
  constructor
  · intro h
    obtain ⟨kind, message, sqlState, severity⟩ := d
    obtain ⟨hkind, rfl, rfl, rfl⟩ := h
    have hkindOf : kind = Rule.kindOf settings e := hkind.eq_kindOf
    rw [hkindOf]
    rfl
  · intro h
    rw [h]
    exact ⟨hasKind_kindOf settings e, rfl, rfl, rfl⟩

/-- **The chain decides every event, and as is said.**  It is defined whatever the event
holds, and the diagnosis it gives is the only one the event is diagnosed as. -/
theorem exists_apply_chain_diagnosedAs (settings : Settings) (e : Event) :
    ((Rule.chain settings).isDefinedAt e).value = true ∧
      ∃ d, ((Rule.chain settings).apply e).value = .ok d ∧
        ∀ d', e.DiagnosedAs settings d' ↔ d' = d := by
  refine ⟨Rule.value_isDefinedAt_chain settings e, _, Rule.value_apply_chain settings e, ?_⟩
  intro d'
  exact diagnosedAs_iff

-- The second byte lies inside a character, so the code begins with no class.
example : Rule.kindOf .standard (ofFields [(.code, "2\u00e93"), (.table, "t")]) = .generic := by
  decide +kernel

end Event

end PgTriage
