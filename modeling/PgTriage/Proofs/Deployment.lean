/-
What a deployment's registry finds.

One classifier is entered, under the names of the server's dialect and under the configured
name, in whatever form that was written.  So a look-up finds this classifier or none, and
which of the two is settled by the normal form of the name alone.  The configured name adds
a name of its own, unless it is blank, where it is passed over, or comes to one of the names
that are there.

The classifier has the configured settings, but for the blanks around the dialect.  Its log
and its counters know it by the dialect as it was written otherwise, while names are compared
in normal form.
-/
import PgTriage.Deployment
import PgTriage.Proofs.Classifier.Acceptance
import PgTriage.Proofs.Classifier.Settings
import PgTriage.Proofs.Registry

namespace PgTriage

/-! ### One translator under many names -/

theorem latestAt_map_iff {τ : Type} {names : List String} {t t' : τ} {key : String} :
    LatestAt (names.map fun name => (name, t)) key t' ↔
      key ∈ names.map normalName ∧ t' = t := by
  have honly : ∀ {u}, LatestAt (names.map fun name => (name, t)) key u → u = t := by
    intro u h
    obtain ⟨before, name, after, hsplit, -⟩ := h
    have hmem : (name, u) ∈ names.map fun name => (name, t) := by simp [hsplit]
    obtain ⟨_, -, heq⟩ := List.mem_map.1 hmem
    exact (congrArg Prod.snd heq).symm
  have hexists : (∃ u, LatestAt (names.map fun name => (name, t)) key u) ↔
      key ∈ names.map normalName := by
    rw [exists_latestAt_iff]
    simp
  constructor
  · intro h
    exact ⟨hexists.1 ⟨t', h⟩, honly h⟩
  · rintro ⟨hkey, rfl⟩
    obtain ⟨u, hu⟩ := hexists.2 hkey
    rwa [honly hu] at hu

namespace Config.AppConfig

/-- The classifier of a configuration. -/
def configured (c : AppConfig) : Classifier := ⟨c.settings⟩

/-- The normal forms of the names the classifier is entered under. -/
def normalNames (c : AppConfig) : List String :=
  Settings.postgresAliases ++ [normalName c.classifier.dialect]

/-- The name finds the classifier: it is not blank, and in normal form it is one of those the
classifier is entered under. -/
def Resolves (c : AppConfig) (name : String) : Prop :=
  normalName name ≠ "" ∧ normalName name ∈ c.normalNames

end Config.AppConfig

variable {c : Config.AppConfig}

theorem map_normalName_postgresAliases :
    Settings.postgresAliases.map normalName = Settings.postgresAliases := by
  decide

theorem binds_buildRegistry (c : Config.AppConfig) :
    (buildRegistry c).value.Binds
      ((Settings.postgresAliases ++ [c.classifier.dialect]).map fun name =>
        (name, c.configured)) := by
  let calls : List (Registration Classifier) :=
    [⟨Settings.postgresAliases, c.configured⟩, ⟨[c.classifier.dialect], c.configured⟩]
  have hcalls : (buildRegistry c).value = (Registry.empty.registerAll calls).value := by
    simp only [buildRegistry, Registry.registerAll, calls, List.foldlM_cons, List.foldlM_nil,
      Traced.value_bind, Traced.value_pure]
    rfl
  have hentries : (Settings.postgresAliases ++ [c.classifier.dialect]).map (·, c.configured) =
      Registration.entries calls := by
    rw [List.map_append]
    rfl
  rw [hcalls, Registry.value_registerAll, hentries]
  exact Registry.binds_foldl_enter _

theorem get?_buildRegistry_eq_some_iff {key : String} {t : Classifier} :
    (buildRegistry c).value.translators.get? key = some t ↔
      (key ≠ "" ∧ key ∈ c.normalNames) ∧ t = c.configured := by
  rw [binds_buildRegistry c key t, latestAt_map_iff, List.map_append,
    map_normalName_postgresAliases, and_assoc]
  exact Iff.rfl

theorem mem_dialects_buildRegistry_iff {key : String} :
    key ∈ (buildRegistry c).value.dialects ↔ key ≠ "" ∧ key ∈ c.normalNames := by
  rw [Registry.dialects, OrderedMap.mem_keys_iff]
  simp [get?_buildRegistry_eq_some_iff]

theorem get_buildRegistry_eq_ok_iff {name : String} {t : Classifier} :
    (buildRegistry c).value.get (some name) = .ok t ↔ c.Resolves name ∧ t = c.configured := by
  cases hblank : Text.blank name with
  | true =>
      have hempty : normalName name = "" := normalName_eq_empty_iff.2 hblank
      simp [Registry.get_of_blank hblank, Config.AppConfig.Resolves, hempty]
  | false =>
      rw [Registry.get_of_not_blank hblank, Config.AppConfig.Resolves,
        ← get?_buildRegistry_eq_some_iff]
      cases (buildRegistry c).value.translators.get? (normalName name) <;> simp

/-- Three names are there in any case, and the configured one makes four if it is another. -/
theorem size_buildRegistry (c : Config.AppConfig) :
    (buildRegistry c).value.size =
      if Text.blank c.classifier.dialect = true ∨
          normalName c.classifier.dialect ∈ Settings.postgresAliases
      then 3 else 4 := by
  have hlisted : ∀ name, name ∈ (buildRegistry c).value.dialects ↔
      name ≠ "" ∧ (name ∈ Settings.postgresAliases ∨ name = normalName c.classifier.dialect) := by
    intro name
    rw [mem_dialects_buildRegistry_iff, Config.AppConfig.normalNames, List.mem_append,
      List.mem_singleton]
  have haliases : ∀ name ∈ Settings.postgresAliases, name ≠ "" := by decide
  by_cases hknown : Text.blank c.classifier.dialect = true ∨
      normalName c.classifier.dialect ∈ Settings.postgresAliases
  · rw [if_pos hknown]
    rw [← normalName_eq_empty_iff] at hknown
    refine Registry.size_eq_of_mem_dialects_iff Settings.postgresAliases (by decide)
      fun name => ?_
    rw [hlisted]
    constructor
    · rintro ⟨hne, hname | rfl⟩
      · exact hname
      · exact hknown.resolve_left hne
    · intro hname
      exact ⟨haliases name hname, .inl hname⟩
  · rw [if_neg hknown]
    rw [← normalName_eq_empty_iff] at hknown
    obtain ⟨hne, hnew⟩ := not_or.1 hknown
    refine Registry.size_eq_of_mem_dialects_iff
      (normalName c.classifier.dialect :: Settings.postgresAliases)
      (List.nodup_cons.2 ⟨hnew, by decide⟩) fun name => ?_
    rw [hlisted, List.mem_cons, or_comm]
    constructor
    · exact And.right
    · rintro (rfl | hname)
      · exact ⟨hne, .inl rfl⟩
      · exact ⟨haliases name hname, .inr hname⟩

/-! ### What the classifier does -/

/-- The classifier knows itself by the configured dialect, trimmed, and classifies by the
configured prefix.  What other settings there are does not matter to a diagnosis. -/
structure Config.AppConfig.Serves (c : Config.AppConfig) (t : Classifier) : Prop where
  dialect : t.dialect = Text.trim c.classifier.dialect
  classifies : ∀ f e, f.event? = some e → ∃ d,
    (∀ s : Settings, s.primaryKeyPrefix = c.classifier.primaryKeyPrefix →
      ((Rule.chain s).apply e).value = .ok d) ∧
    (t.classify f).value = .ok ⟨d, some f⟩ ∧
    (t.classify f).tallies = [.classified (Text.trim c.classifier.dialect) d.kind.name]
  refuses : ∀ f, f.event? = none →
    (t.classify f).value = .error ⟨Text.trim c.classifier.dialect, f⟩ ∧
    (t.classify f).tallies = [.refused (Text.trim c.classifier.dialect)]

theorem serves_configured (c : Config.AppConfig) : c.Serves c.configured where
  dialect := rfl
  classifies f e he := by
    refine ⟨e.diagnose (Rule.kindOf c.settings e), ?_, ?_, ?_⟩
    · intro s hs
      have hlower : Text.lower s.primaryKeyPrefix = Text.lower c.settings.primaryKeyPrefix :=
        congrArg Text.lower hs
      rw [Rule.value_apply_chain, Rule.kindOf_eq_of_lower_eq hlower]
    · rw [Classifier.classify_of_event he]
      rfl
    · rw [Classifier.classify_of_event he]
      rfl
  refuses f he := by
    rw [Classifier.classify_of_no_event he]
    exact ⟨rfl, rfl⟩

theorem resolves_dialect_iff {c : Config.AppConfig} :
    c.Resolves c.classifier.dialect ↔ Text.blank c.classifier.dialect = false := by
  rw [Config.AppConfig.Resolves, normalName_ne_empty_iff]
  simp [Config.AppConfig.normalNames]

theorem resolves_iff {name : String} :
    c.Resolves name ↔ Text.lower (Text.trim name) ≠ "" ∧
      (Text.lower (Text.trim name) = "postgresql" ∨ Text.lower (Text.trim name) = "postgres" ∨
        Text.lower (Text.trim name) = "pg" ∨
        Text.lower (Text.trim name) = Text.lower (Text.trim c.classifier.dialect)) := by
  simp [Config.AppConfig.Resolves, Config.AppConfig.normalNames, Settings.postgresAliases,
    normalName]

/-- A deployment looks its default up in the registry, with or without metrics. -/
theorem defaultClassifier_ofConfig (c : Config.AppConfig) (metricsEnabled : Bool) :
    ({ (Deployment.ofConfig c).value with metricsEnabled } : Deployment).defaultClassifier =
      (buildRegistry c).value.get (some c.classifier.dialect) := by
  simp only [Deployment.ofConfig, Deployment.defaultClassifier, Traced.value_bind,
    Traced.value_pure]

theorem get_dialect_eq (c : Config.AppConfig) :
    (buildRegistry c).value.get (some c.classifier.dialect) =
      if Text.blank c.classifier.dialect then .error .missingDialect else .ok c.configured := by
  cases hblank : Text.blank c.classifier.dialect with
  | true => exact Registry.get_of_blank hblank
  | false => exact get_buildRegistry_eq_ok_iff.2 ⟨resolves_dialect_iff.2 hblank, rfl⟩

/-- **A deployment's registry finds one classifier, under the names of the server's dialect and
under the configured one.**  Names are compared in normal form; the classifier counts under the
configured dialect as it was written, but for the blanks around it, and is the default unless
that is blank. -/
theorem exists_serves_get_iff (c : Config.AppConfig) :
    ∃ t, c.Serves t ∧
      (∀ name t', (buildRegistry c).value.get (some name) = .ok t' ↔
        (Text.lower (Text.trim name) ≠ "" ∧ (Text.lower (Text.trim name) = "postgresql" ∨
          Text.lower (Text.trim name) = "postgres" ∨ Text.lower (Text.trim name) = "pg" ∨
          Text.lower (Text.trim name) = Text.lower (Text.trim c.classifier.dialect))) ∧ t' = t) ∧
      (∀ metricsEnabled,
        ({ (Deployment.ofConfig c).value with metricsEnabled } : Deployment).defaultClassifier =
          if Text.blank c.classifier.dialect then .error .missingDialect else .ok t) ∧
      (buildRegistry c).value.size =
        if Text.blank c.classifier.dialect = true ∨
            Text.lower (Text.trim c.classifier.dialect) ∈ ["postgresql", "postgres", "pg"]
        then 3 else 4 := by
  refine ⟨c.configured, serves_configured c, ?_, ?_, size_buildRegistry c⟩
  · intro name t'
    rw [get_buildRegistry_eq_ok_iff, ← resolves_iff]
  · intro metricsEnabled
    rw [defaultClassifier_ofConfig, get_dialect_eq]

-- An alias as the configured name adds no name, and is kept as it was written.
example :
    let c : Config.AppConfig := { Config.AppConfig.standard with classifier := ⟨" PG ", "", false⟩ }
    (buildRegistry c).value.dialects = ["pg", "postgres", "postgresql"] ∧
      c.configured.dialect = "PG" := by
  decide

end PgTriage
