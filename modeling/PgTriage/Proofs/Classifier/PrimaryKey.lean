/-
Which names mark a primary key.

The prefix of primary keys and the name of a constraint are put in lower case, each by itself,
and then the name has to begin with the prefix.  Lower case is not always that of the parts, so
a name that begins with the prefix letter by letter need not begin with it in lower case.  The
only such names are those in which a capital sigma that ends a word of the prefix is followed
by more of that word: it is final in the prefix and not in the name.  Every other name that
begins with the prefix marks a primary key, and so does every one that differs from it in the
case of ASCII letters.
-/
import PgTriage.Proofs.Classifier.Violation
import PgTriage.Proofs.Event.Evidence
import PgTriage.Proofs.Text.FinalSigma

namespace PgTriage

namespace Settings

variable {settings : Settings} {name more : String}

theorem isPrimaryKeyName_iff :
    settings.isPrimaryKeyName name = true ↔ settings.primaryKeyPrefix ≠ "" ∧
      (Text.lower settings.primaryKeyPrefix).toList <+: (Text.lower name).toList := by
  have hempty : (Text.lower settings.primaryKeyPrefix).isEmpty = true ↔
      settings.primaryKeyPrefix = "" := by
    rw [String.isEmpty_iff, Text.lower, String.ofList_eq_empty_iff, Text.lowerFrom_eq_nil_iff,
      String.toList_eq_nil_iff]
  rw [isPrimaryKeyName, Bool.and_eq_true, Bool.not_eq_true', List.isPrefixOf_iff_prefix,
    ← Bool.not_eq_true, hempty]

theorem isPrimaryKeyName_eq_of_ascii {name' : String} (settings : Settings)
    (h : Ascii.lower name = Ascii.lower name') :
    settings.isPrimaryKeyName name = settings.isPrimaryKeyName name' := by
  rw [isPrimaryKeyName, isPrimaryKeyName, Text.lower_eq_of_ascii h]

end Settings

namespace Rule

variable {settings : Settings} {e : Event} {name table : String}

/-- A violated unique constraint is a primary key if its name, which the event has in its field,
marks one. -/
theorem exists_apply_chain_of_unique (settings : Settings) (hcode : e.code? = some "23505")
    (hname : e.get? .constraint = some name) (hblank : Text.blank name = false)
    (htable : e.objectName? .table = some table) (htableBlank : Text.blank table = false) :
    ∃ d v, ((chain settings).apply e).value = .ok d ∧ d.kind = .constraint v ∧
      v.constraint.name = some name ∧ v.constraint.table = table ∧
      v.constraint.kind = if settings.isPrimaryKeyName name then .primaryKey else .unique := by
  have hbegins : e.CodeBegins "23" := ⟨"23505", hcode, by decide⟩
  have htold : e.objectName? .constraint = some name := by
    refine (Event.TellsOf.field hname ?_).objectName?_eq
    simpa [Text.blank] using hblank
  obtain ⟨d, v, hd, hkind, hv⟩ :=
    Event.exists_apply_chain_tellsViolation settings hbegins htable htableBlank
  refine ⟨d, v, hd, hkind, hv.name.trans htold, ?_, ?_⟩
  · exact Option.some.inj (hv.table.symm.trans htable)
  · rw [hv.kind, Event.demandedKind, hcode, htold]
    rfl

/-- **A name that begins with the prefix marks a primary key, but where a final sigma of the prefix
is followed by more of its word.**  The case of ASCII letters is of no account, and a violated
unique constraint of this name is told as a primary key or as just unique accordingly. -/
theorem isPrimaryKeyName_append_iff {more : String} (hne : settings.primaryKeyPrefix ≠ "")
    (hname : Ascii.lower name = Ascii.lower (settings.primaryKeyPrefix ++ more)) :
    (settings.isPrimaryKeyName name = true ↔
      ¬ Text.SigmaGoesOn [] settings.primaryKeyPrefix.toList more.toList) ∧
    ∀ e table, e.code? = some "23505" → e.get? .constraint = some name →
      Text.blank name = false → e.objectName? .table = some table → Text.blank table = false →
      ∃ d v, ((chain settings).apply e).value = .ok d ∧ d.kind = .constraint v ∧
        v.constraint.name = some name ∧ v.constraint.table = table ∧
        (v.constraint.kind = .primaryKey ↔
          ¬ Text.SigmaGoesOn [] settings.primaryKeyPrefix.toList more.toList) ∧
        (v.constraint.kind = .unique ↔
          Text.SigmaGoesOn [] settings.primaryKeyPrefix.toList more.toList) := by
  have hmarks : settings.isPrimaryKeyName name = true ↔
      ¬ Text.SigmaGoesOn [] settings.primaryKeyPrefix.toList more.toList := by
    rw [settings.isPrimaryKeyName_eq_of_ascii hname, Settings.isPrimaryKeyName_iff,
      and_iff_right hne, Text.lower, Text.lower, String.toList_ofList, String.toList_ofList,
      String.toList_append, Text.lowerFrom_prefix_append_iff]
  refine ⟨hmarks, ?_⟩
  intro e table hcode hconstraint hblank htable htableBlank
  obtain ⟨d, v, hd, hkind, hvname, hvtable, hvkind⟩ :=
    exists_apply_chain_of_unique settings hcode hconstraint hblank htable htableBlank
  refine ⟨d, v, hd, hkind, hvname, hvtable, ?_, ?_⟩
  · rw [hvkind, ← hmarks]
    cases settings.isPrimaryKeyName name <;> decide
  · rw [hvkind, ← not_iff_not, ← hmarks]
    cases settings.isPrimaryKeyName name <;> decide

/-- A sigma ends the prefix, and what follows it in the name is no letter. -/
theorem isPrimaryKeyName_append_iff_underscore :
    let settings : Settings := ⟨"main", "ΚΛΕΙΣ", false⟩
    let e : Event := .ofFields [(.code, "23505"), (.table, "t"), (.constraint, "ΚΛΕΙΣ_oRDERS")]
    settings.primaryKeyPrefix ≠ "" ∧
      Ascii.lower "ΚΛΕΙΣ_oRDERS" = Ascii.lower (settings.primaryKeyPrefix ++ "_Orders") ∧
      settings.isPrimaryKeyName "ΚΛΕΙΣ_oRDERS" = true ∧
      ∃ d v, ((chain settings).apply e).value = .ok d ∧ d.kind = .constraint v ∧
        v.constraint.kind = .primaryKey := by
  intro settings e
  have hne : settings.primaryKeyPrefix ≠ "" := by decide
  have hname : Ascii.lower "ΚΛΕΙΣ_oRDERS" =
      Ascii.lower (settings.primaryKeyPrefix ++ "_Orders") := by decide
  have hends : ¬ Text.SigmaGoesOn [] settings.primaryKeyPrefix.toList "_Orders".toList := by
    intro h
    obtain ⟨-, -, -, -, -, hafter⟩ := h
    exact absurd hafter (by decide +kernel)
  obtain ⟨hmarks, hclassified⟩ := isPrimaryKeyName_append_iff hne hname
  obtain ⟨d, v, hd, hkind, -, -, hprimary, -⟩ :=
    hclassified e "t" (by decide) (by decide) (by decide) (by decide) (by decide)
  exact ⟨hne, hname, hmarks.2 hends, d, v, hd, hkind, hprimary.2 hends⟩

/-- A name that begins with the prefix and is not taken for a primary key's: the last sigma of the
prefix is final, and in the name it is not. -/
theorem isPrimaryKeyName_sigma_goes_on :
    let settings : Settings := ⟨"main", "ΑΣ", false⟩
    let e : Event := .ofFields [(.code, "23505"), (.table, "t"), (.constraint, "ΑΣΑ")]
    settings.primaryKeyPrefix ≠ "" ∧ "ΑΣΑ" = settings.primaryKeyPrefix ++ "Α" ∧
      settings.isPrimaryKeyName "ΑΣΑ" = false ∧
      ∃ d v, ((chain settings).apply e).value = .ok d ∧ d.kind = .constraint v ∧
        v.constraint.kind = .unique := by
  intro settings e
  have hmarks : settings.isPrimaryKeyName "ΑΣΑ" = false := by decide +kernel
  have hname : e.get? .constraint = some "ΑΣΑ" := by decide
  have htable : e.objectName? .table = some "t" := by decide
  obtain ⟨d, v, hd, hkind, -, -, hvkind⟩ :=
    exists_apply_chain_of_unique settings (by decide) hname (by decide) htable (by decide)
  rw [hmarks] at hvkind
  exact ⟨by decide, by decide, hmarks, d, v, hd, hkind, hvkind⟩

end Rule

end PgTriage
