/-
What the settings decide.

Of the three settings the rules look at one, and at that one for a single question: whether
the name of a violated unique constraint is that of a primary key.  The answer goes into the
kind of the constraint and nowhere else.  So under any two settings an event gets the same
diagnosis, but for that kind; and where the kinds are not the same, they are the two that
the question is about.

`withConstraintKind` puts another kind in a diagnosis, and one equation carries all of it:
the kind of error under some settings is the one under any others, with the kind of
constraint put in that these settings demand.
-/
import PgTriage.Proofs.Classifier.Decision
import PgTriage.Proofs.PartialFun.Terms

namespace PgTriage

/-! ### Another kind of constraint -/

/-- The violation, as one of a constraint of this kind. -/
def Violation.withKind (v : Violation) (kind : ConstraintKind) : Violation :=
  { v with constraint := { v.constraint with kind := kind } }

/-- The kind of error, with this kind of constraint if it is a violation. -/
def ErrorKind.withConstraintKind (kind : ConstraintKind) : ErrorKind → ErrorKind
  | .constraint v => .constraint (v.withKind kind)
  | other => other

/-- The diagnosis, with this kind of constraint if it is one of a violation. -/
def Diagnosis.withConstraintKind (d : Diagnosis) (kind : ConstraintKind) : Diagnosis :=
  { d with kind := d.kind.withConstraintKind kind }

/-- The kind of the violated constraint, if the diagnosis is one of a violation. -/
def Diagnosis.constraintKind? (d : Diagnosis) : Option ConstraintKind :=
  d.kind.violation?.map (·.constraint.kind)

@[simp] theorem ErrorKind.withConstraintKind_withConstraintKind (kind kind' : ConstraintKind)
    (k : ErrorKind) :
    (k.withConstraintKind kind).withConstraintKind kind' = k.withConstraintKind kind' := by
  cases k <;> rfl

/-- Two kinds of constraint make a difference to a violation. -/
theorem ErrorKind.withConstraintKind_eq_iff {k : ErrorKind} {kind kind' : ConstraintKind} :
    k.withConstraintKind kind = k.withConstraintKind kind' ↔
      (k.violation?.isSome = true → kind = kind') := by
  cases k with
  | constraint v =>
      constructor
      · intro h _
        exact congrArg (·.constraint.kind) (ErrorKind.constraint.inj h)
      · intro h
        rw [h rfl]
  | _ => simp [withConstraintKind, violation?]

theorem Event.diagnose_inj {e : Event} {k k' : ErrorKind} :
    e.diagnose k = e.diagnose k' ↔ k = k' :=
  ⟨congrArg Diagnosis.kind, congrArg e.diagnose⟩

theorem Event.constraintKind?_diagnose_withConstraintKind (e : Event) (k : ErrorKind)
    (kind : ConstraintKind) :
    (e.diagnose (k.withConstraintKind kind)).constraintKind? = k.violation?.map fun _ => kind := by
  cases k <;> rfl

/-! ### Primary keys -/

theorem Settings.isPrimaryKeyName_eq_of_lower_eq {s t : Settings}
    (h : Text.lower s.primaryKeyPrefix = Text.lower t.primaryKeyPrefix) (name : String) :
    s.isPrimaryKeyName name = t.isPrimaryKeyName name := by
  rw [isPrimaryKeyName, isPrimaryKeyName, h]

namespace Rule

variable {s t : Settings} {e : Event}

/-- The code and the constraint's name are such that the settings answer differently. -/
structure Divides (s t : Settings) (e : Event) : Prop where
  code : e.code? = some "23505"
  name : ∃ name, e.objectName? .constraint = some name ∧
    s.isPrimaryKeyName name ≠ t.isPrimaryKeyName name

theorem constraintKindOf_of_unique (s : Settings) (h : e.code? = some "23505") :
    constraintKindOf s e =
      if (e.objectName? .constraint).any s.isPrimaryKeyName then .primaryKey else .unique := by
  rw [Event.constraintKindOf_eq, Event.demandedKind, h]
  rfl

theorem constraintKindOf_of_not_unique (s t : Settings) (h : e.code? ≠ some "23505") :
    constraintKindOf s e = constraintKindOf t e := by
  rw [Event.constraintKindOf_eq, Event.constraintKindOf_eq, Event.demandedKind,
    Event.demandedKind]
  split
  · rfl
  · rfl
  · rfl
  · next hunique => exact absurd hunique h
  · rfl

/-- Where the settings answer differently, one says primary key and the other unique. -/
theorem Divides.constraintKindOf (h : Divides s t e) :
    Rule.constraintKindOf s e = .primaryKey ∧ Rule.constraintKindOf t e = .unique ∨
      Rule.constraintKindOf s e = .unique ∧ Rule.constraintKindOf t e = .primaryKey := by
  obtain ⟨hcode, name, hname, hne⟩ := h
  rw [constraintKindOf_of_unique s hcode, constraintKindOf_of_unique t hcode, hname,
    Option.any_some, Option.any_some]
  cases hs : s.isPrimaryKeyName name <;> cases ht : t.isPrimaryKeyName name <;> simp_all

theorem constraintKindOf_ne_iff : constraintKindOf s e ≠ constraintKindOf t e ↔ Divides s t e := by
  constructor
  · intro hne
    have hcode : e.code? = some "23505" := by
      by_contra hcode
      exact hne (constraintKindOf_of_not_unique s t hcode)
    rw [constraintKindOf_of_unique s hcode, constraintKindOf_of_unique t hcode] at hne
    cases hname : e.objectName? .constraint with
    | none => simp [hname] at hne
    | some name =>
        refine ⟨hcode, name, hname, fun heq => hne ?_⟩
        rw [hname, Option.any_some, Option.any_some, heq]
  · intro h
    rcases h.constraintKindOf with ⟨hs, ht⟩ | ⟨hs, ht⟩ <;> simp [hs, ht]

theorem constraintKindOf_eq_of_lower_eq
    (h : Text.lower s.primaryKeyPrefix = Text.lower t.primaryKeyPrefix) (e : Event) :
    constraintKindOf s e = constraintKindOf t e := by
  by_contra hne
  obtain ⟨-, name, -, hname⟩ := constraintKindOf_ne_iff.1 hne
  exact hname (Settings.isPrimaryKeyName_eq_of_lower_eq h name)

/-! ### The settings go into the kind of constraint -/

theorem violation?_eq_map_withKind (kind kind' : ConstraintKind) (e : Event) :
    violation? kind e = (violation? kind' e).map (·.withKind kind) := by
  unfold violation?
  cases e.objectName? .table with
  | none => rfl
  | some table =>
      cases hblank : Text.blank table with
      | true => simp [Constraint.make_of_blank hblank, Except.toOption]
      | false => simp [Constraint.make_of_not_blank hblank, Except.toOption, Violation.withKind]

/-- **The settings enter a kind of error by the kind of constraint alone.** -/
theorem kindOf_eq_withConstraintKind (s t : Settings) (e : Event) :
    kindOf s e = (kindOf t e).withConstraintKind (constraintKindOf s e) := by
  have hviolation : violationOf? s e =
      (violationOf? t e).map (·.withKind (constraintKindOf s e)) := by
    unfold violationOf?
    by_cases hclass : e.inClass .integrityConstraintViolation
    · rw [if_pos hclass, if_pos hclass]
      exact violation?_eq_map_withKind _ _ e
    · rw [if_neg hclass, if_neg hclass, Option.map_none]
  unfold kindOf
  rw [hviolation]
  cases malformedUuid? e with
  | some value => rfl
  | none =>
      by_cases hdata : e.inClass .dataException
      · simp only [hdata, if_true]
        rfl
      · simp only [hdata]
        cases violationOf? t e with
        | some v => rfl
        | none => cases e.inClass .invalidAuthorizationSpecification <;> rfl

/-- Settings with one prefix give an event one kind. -/
theorem kindOf_eq_of_lower_eq
    (h : Text.lower s.primaryKeyPrefix = Text.lower t.primaryKeyPrefix) (e : Event) :
    kindOf s e = kindOf t e := by
  rw [kindOf_eq_withConstraintKind s t, kindOf_eq_withConstraintKind t t,
    constraintKindOf_eq_of_lower_eq h, ErrorKind.withConstraintKind_withConstraintKind]

/-- **Under any settings an event gets the same diagnosis but for the kind of constraint.**  That
one differs exactly at a violated unique constraint whose name is a primary key's by the one
prefix and not by the other; what else the settings say, and whether the rules are watched, is of
no account. -/
theorem apply_chain_eq_but_constraintKind (s t : Settings) (e : Event) :
    ∃ d d', ((chain s).apply e).value = .ok d ∧ ((chain t).apply e).value = .ok d' ∧
      (∀ kind, d.withConstraintKind kind = d'.withConstraintKind kind) ∧
      (d ≠ d' ↔ d.constraintKind?.isSome = true ∧ Divides s t e) ∧
      (d ≠ d' → d.constraintKind? = some .primaryKey ∧ d'.constraintKind? = some .unique ∨
        d.constraintKind? = some .unique ∧ d'.constraintKind? = some .primaryKey) ∧
      (Text.lower s.primaryKeyPrefix = Text.lower t.primaryKeyPrefix → d = d') ∧
      (∀ dialect logRuleInputs,
        ((chain ⟨dialect, s.primaryKeyPrefix, logRuleInputs⟩).apply e).value = .ok d) ∧
      (bareChain s).AnswersBy e (some d) ∧
      PartialFun.AnswersBy ((bareChain s).logged inputEvent) e (some d) ∧
      (chain s).AnswersBy e (some d) := by
  -- One kind of error for all settings, into which each puts its kind of constraint.
  obtain ⟨k, hk⟩ : ∃ k : ErrorKind,
      ∀ u, kindOf u e = k.withConstraintKind (constraintKindOf u e) :=
    ⟨kindOf s e, fun u => kindOf_eq_withConstraintKind u s e⟩
  have hchain : ∀ u, ((chain u).apply e).value =
      .ok (e.diagnose (k.withConstraintKind (constraintKindOf u e))) := by
    intro u
    rw [value_apply_chain, hk]
  have hbare := (coherent_bareChain s).answersBy e
  have hlogged := ((coherent_bareChain s).logged inputEvent).answersBy e
  have hwhole := (coherent_chain s).answersBy e
  rw [value_tryApply_bareChain, hk] at hbare
  rw [PartialFun.value_tryApply_logged, value_tryApply_bareChain, hk] at hlogged
  rw [value_tryApply_chain, hk] at hwhole
  have hne : e.diagnose (k.withConstraintKind (constraintKindOf s e)) ≠
        e.diagnose (k.withConstraintKind (constraintKindOf t e)) ↔
      k.violation?.isSome = true ∧ Divides s t e := by
    rw [Ne, Event.diagnose_inj, ErrorKind.withConstraintKind_eq_iff, Classical.not_imp,
      ← constraintKindOf_ne_iff]
  refine ⟨_, _, hchain s, hchain t, ?_, ?_, ?_, ?_, ?_, hbare, hlogged, hwhole⟩
  · intro kind
    simp only [Diagnosis.withConstraintKind, Event.diagnose,
      ErrorKind.withConstraintKind_withConstraintKind]
  · rw [hne, Event.constraintKind?_diagnose_withConstraintKind, Option.isSome_map]
  · intro h
    obtain ⟨hviolation, hdivides⟩ := hne.1 h
    obtain ⟨v, hv⟩ := Option.isSome_iff_exists.1 hviolation
    rw [Event.constraintKind?_diagnose_withConstraintKind,
      Event.constraintKind?_diagnose_withConstraintKind, hv, Option.map_some, Option.map_some,
      Option.some.injEq, Option.some.injEq, Option.some.injEq, Option.some.injEq]
    exact hdivides.constraintKindOf
  · intro h
    rw [constraintKindOf_eq_of_lower_eq h]
  · intro dialect logRuleInputs
    have hsame : constraintKindOf ⟨dialect, s.primaryKeyPrefix, logRuleInputs⟩ e =
        constraintKindOf s e :=
      constraintKindOf_eq_of_lower_eq rfl e
    rw [hchain, hsame]

/-- A primary key under the one prefix and another unique constraint under the other. -/
theorem apply_chain_eq_but_constraintKind_two_prefixes :
    let s : Settings := ⟨"main", "PK_", false⟩
    let t : Settings := ⟨"other", "key_", true⟩
    let u : Settings := ⟨"other", "pk_", true⟩
    let e : Event := .ofFields [(.code, "23505"), (.table, "orders"), (.constraint, "pk_orders")]
    Text.lower s.primaryKeyPrefix = Text.lower u.primaryKeyPrefix ∧ Divides s t e ∧
      (∃ d d', ((chain s).apply e).value = .ok d ∧ ((chain t).apply e).value = .ok d' ∧ d ≠ d' ∧
        d.withConstraintKind .other = d'.withConstraintKind .other ∧
        d.constraintKind? = some .primaryKey ∧ d'.constraintKind? = some .unique) ∧
      ((chain s).apply e).value = ((chain u).apply e).value := by
  intro s t u e
  have hlower : Text.lower s.primaryKeyPrefix = Text.lower u.primaryKeyPrefix := by decide
  have hdivides : Divides s t e := ⟨by decide, "pk_orders", by decide, by decide⟩
  refine ⟨hlower, hdivides, ?_, ?_⟩
  · obtain ⟨d, d', hd, hd', hkind, hne, hkinds, -⟩ := apply_chain_eq_but_constraintKind s t e
    have hfirst : d.constraintKind? = some .primaryKey := by
      rw [value_apply_chain] at hd
      obtain rfl := Except.ok.inj hd
      decide
    have hdiffer : d ≠ d' := hne.2 ⟨by rw [hfirst]; rfl, hdivides⟩
    rcases hkinds hdiffer with ⟨-, hsecond⟩ | ⟨hunique, -⟩
    · exact ⟨d, d', hd, hd', hdiffer, hkind .other, hfirst, hsecond⟩
    · simp [hfirst] at hunique
  · obtain ⟨d, d', hd, hd', -, -, -, heq, -⟩ := apply_chain_eq_but_constraintKind s u e
    rw [hd, hd', heq hlower]

end Rule

end PgTriage
