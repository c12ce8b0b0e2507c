/-
What every violation accords with.

The parts of a violation are found apart from one another: the table is a name that the event
tells of, the columns are a name as well or else those of the detail, and the values come of the
detail once more.  A constraint leaves out columns that are blank, and values keep each column
once.  The parts fit together all the same.  The columns and the values come of one reading
of the detail, which gives each column once and trimmed, so what a constraint leaves out of its
columns are the empty ones, and each of the others has its value.
-/
import PgTriage.Proofs.Classifier.RuleOrder
import PgTriage.Proofs.Event.KeyDetail.Entries

namespace PgTriage

/-- The violation is sound in itself, and as the event has it. -/
structure Violation.AccordsWith (v : Violation) (e : Event) : Prop where
  code : e.CodeBegins "23"
  table : e.objectName? .table = some v.constraint.table
  table_not_blank : ∃ c ∈ v.constraint.table.toList, Text.isBlank c = false
  detail : v.detail = e.get? .detail
  column_ne : ∀ column ∈ v.constraint.columns, column ≠ ""
  column_trimmed : ∀ column ∈ v.constraint.columns, Text.Trimmed column.toList
  columns_nodup : v.constraint.columns.Nodup
  keys_nodup : v.invalidValues.columns.Nodup
  entries : ∀ entry ∈ v.invalidValues.entries,
    KeyDetail.IsEntry entry.1 ∧ KeyDetail.IsEntry entry.2
  /-- Where the event names no column, the columns are those that have a value. -/
  columns_eq : e.objectName? .column = none →
    v.constraint.columns = v.invalidValues.columns.filter fun column => !Text.blank column
  reported : e.objectName? .column = none →
    ∀ column ∈ v.constraint.columns, ∃ value, v.invalidValues.get? column = some value
  /-- A detail that cannot be read gives no values, and no columns to an event that names none. -/
  unread : ¬ KeyDetail.TellsPairs (e.get? .detail) →
    v.invalidValues.entries = [] ∧ (e.objectName? .column = none → v.constraint.columns = [])

namespace Event

variable {settings : Settings} {e : Event} {v : Violation}

/-! ### What the event tells -/

/-- The chain finds a violation where the event tells of one: its code is none of those that come
before. -/
theorem kindOf_eq_constraint_iff :
    Rule.kindOf settings e = .constraint v ↔ e.TellsViolation settings v := by
  constructor
  · intro h
    have hkind := hasKind_kindOf settings e
    rw [h] at hkind
    cases hkind with
    | constraint _ _ hviolation => exact hviolation
  · intro h
    refine (HasKind.constraint ?_ ?_ h).eq_kindOf.symm
    · intro value huuid
      exact absurd (huuid.codeBegins.unique h.codeBegins) (by decide)
    · intro hdata
      exact absurd (hdata.unique h.codeBegins) (by decide)

/-- A code of the class and a table that is not blank are all it takes for a violation. -/
theorem exists_apply_chain_tellsViolation {table : String} (settings : Settings)
    (hcode : e.CodeBegins "23") (htable : e.objectName? .table = some table)
    (hblank : Text.blank table = false) :
    ∃ d v, ((Rule.chain settings).apply e).value = .ok d ∧ d.kind = .constraint v ∧
      e.TellsViolation settings v := by
  obtain ⟨v, hv⟩ : ∃ v, e.TellsViolation settings v :=
    ⟨⟨⟨e.demandedKind settings, e.objectName? .constraint, table, _, hblank⟩,
      KeyDetail.parse e.detail?, e.detail?⟩, ⟨hcode, htable, rfl, rfl, rfl, rfl, rfl⟩⟩
  exact ⟨_, v, Rule.value_apply_chain settings e, kindOf_eq_constraint_iff.2 hv, hv⟩

/-- The columns are those that are given, as a constraint keeps them. -/
theorem TellsViolation.columns_eq (h : e.TellsViolation settings v) :
    v.constraint.columns = Constraint.cleanColumns
      ((e.objectName? .column).elim (KeyDetail.columns e.detail?) fun column => [column]) := by
  rw [h.columns, Constraint.cleanColumns_eq]

theorem TellsViolation.columns_eq_of_no_column (h : e.TellsViolation settings v)
    (hcolumn : e.objectName? .column = none) :
    v.constraint.columns = v.invalidValues.columns.filter fun column => !Text.blank column := by
  rw [h.columns_eq, hcolumn, Option.elim_none, Constraint.cleanColumns_of_trimmed fun column =>
    KeyDetail.trimmed_of_mem_columns, KeyDetail.columns, h.invalidValues]

theorem TellsViolation.nodup_columns (h : e.TellsViolation settings v) :
    v.constraint.columns.Nodup := by
  cases hcolumn : e.objectName? .column with
  | none =>
      rw [h.columns_eq_of_no_column hcolumn, h.invalidValues]
      exact (KeyDetail.nodup_columns e.detail?).filter _
  | some column =>
      rw [h.columns, hcolumn, Option.elim_some, List.filter_singleton]
      cases Text.blank column with
      | false => exact List.nodup_singleton _
      | true => exact List.nodup_nil

/-! ### The violation -/

theorem TellsViolation.accordsWith (h : e.TellsViolation settings v) : v.AccordsWith e where
  code := h.codeBegins
  table := h.table
  table_not_blank := by simpa [Text.blank] using v.constraint.table_not_blank
  detail := h.detail
  column_ne := by
    rw [h.columns_eq]
    exact fun column hmem => (Constraint.trimmed_of_mem_cleanColumns hmem).1
  column_trimmed := by
    rw [h.columns_eq]
    exact fun column hmem => (Constraint.trimmed_of_mem_cleanColumns hmem).2
  columns_nodup := h.nodup_columns
  keys_nodup := by
    rw [h.invalidValues]
    exact KeyDetail.nodup_columns e.detail?
  entries := by
    rw [h.invalidValues]
    exact fun entry => KeyDetail.isEntry_of_mem_entries_parse
  columns_eq := h.columns_eq_of_no_column
  reported := by
    intro hcolumn column hmem
    rw [h.columns_eq_of_no_column hcolumn] at hmem
    exact InvalidValues.exists_get?_of_mem_columns (List.mem_of_mem_filter hmem)
  unread := by
    intro hpairs
    have hempty : v.invalidValues = .empty :=
      h.invalidValues.trans (KeyDetail.parse_of_not_tellsPairs hpairs)
    refine ⟨by rw [hempty]; rfl, fun hcolumn => ?_⟩
    rw [h.columns_eq_of_no_column hcolumn, hempty]
    rfl

/-- **Every violation that the chain finds is sound in itself and as the event has it.** -/
theorem accordsWith_of_apply_chain {d : Diagnosis}
    (h : ((Rule.chain settings).apply e).value = .ok d) (hkind : d.kind = .constraint v) :
    v.AccordsWith e := by
  rw [Rule.value_apply_chain, Except.ok.injEq] at h
  subst h
  exact (kindOf_eq_constraint_iff.1 hkind).accordsWith

/-- A column is told twice and another one is left blank, and of both the last value is kept. -/
theorem accordsWith_of_apply_chain_blank_column :
    let e : Event := .ofFields [(.code, "23505"), (.message, "no relation \" t \" for this"),
      (.detail, " Key (b, , a, b)=(1, (2), 3, 4) is there (twice).")]
    ∃ d v, ((Rule.chain .standard).apply e).value = .ok d ∧ d.kind = .constraint v ∧
      v.AccordsWith e ∧ e.objectName? .column = none ∧ v.constraint.table = " t " ∧
      v.constraint.columns = ["b", "a"] ∧
      v.invalidValues.entries = [("b", "4"), ("", "(2)"), ("a", "3")] := by
  intro e
  have hkind : Rule.kindOf .standard e = .constraint
      ⟨⟨.unique, none, " t ", ["b", "a"], by decide⟩, ⟨[("b", "4"), ("", "(2)"), ("a", "3")]⟩,
        some " Key (b, , a, b)=(1, (2), 3, 4) is there (twice)."⟩ := by
    decide +kernel
  have happly := Rule.value_apply_chain .standard e
  rw [hkind] at happly
  exact ⟨_, _, happly, rfl, accordsWith_of_apply_chain happly rfl, by decide, rfl, rfl, rfl⟩

end Event

end PgTriage
