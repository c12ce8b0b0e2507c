/-
A configuration setting by setting.

There are seven settings that are no section, and each stands at a place in the tree.  A
configuration is read out of a table where its sections are tables just when each of the
seven is: the value at its place has its type, or there is none and the default is taken.
So whether the reading succeeds is a question of each setting by itself, and so is what
it comes to; the order in which settings are looked at only picks the error.
-/
import PgTriage.Config.AppConfig
import PgTriage.Proofs.Config.Value

namespace PgTriage.Config

/-- The sections of a table are tables, where it has them. -/
def SectionsAreTables (t : Table) : Prop :=
  ∀ name ∈ ["translator", "telemetry"], ∀ v, t.get? name = some v →
    ∃ inner : Table, v = .table inner

instance (t : Table) : Decidable (SectionsAreTables t) :=
  decidable_of_iff (∀ name ∈ ["translator", "telemetry"], (t.get? name).all Value.isTable) <| by
    simp only [Option.all_eq_true, Value.isTable_iff]
    rfl

/-- A setting that is no section. -/
inductive Leaf where
  | appName
  | appEnv
  | dialect
  | primaryKeyPrefix
  | logRuleInputs
  | logLevel
  | jsonLogs
deriving DecidableEq, Repr

namespace Leaf

/-- The names that lead to a setting. -/
def place : Leaf → List String
  | .appName => ["app_name"]
  | .appEnv => ["app_env"]
  | .dialect => ["translator", "dialect"]
  | .primaryKeyPrefix => ["translator", "primary_key_prefix"]
  | .logRuleInputs => ["translator", "log_rule_inputs"]
  | .logLevel => ["telemetry", "log_level"]
  | .jsonLogs => ["telemetry", "json_logs"]

/-- What a table sets a setting to. -/
def at? (leaf : Leaf) (t : Table) : Option Value := Value.at? leaf.place (.table t)

/-- What a setting is in a configuration. -/
def valueIn : Leaf → AppConfig → Value
  | .appName, c => .text c.appName
  | .appEnv, c => .text c.appEnv
  | .dialect, c => .text c.classifier.dialect
  | .primaryKeyPrefix, c => .text c.classifier.primaryKeyPrefix
  | .logRuleInputs, c => .bool c.classifier.logRuleInputs
  | .logLevel, c => .text c.telemetry.logLevel
  | .jsonLogs, c => .bool c.telemetry.jsonLogs

/-- The value has the type of the setting. -/
def Admits : Leaf → Value → Prop
  | .logRuleInputs, v => ∃ b, v = .bool b
  | .jsonLogs, v => ∃ b, v = .bool b
  | _, v => ∃ s, v = .text s

theorem admits_valueIn (leaf : Leaf) (c : AppConfig) : leaf.Admits (leaf.valueIn c) := by
  cases leaf <;> exact ⟨_, rfl⟩

theorem valueIn_ne_table (leaf : Leaf) (c : AppConfig) (t : Table) :
    leaf.valueIn c ≠ .table t := by
  intro h
  cases leaf <;> cases h

/-- Values for all settings, each of its type, are those of a configuration. -/
theorem exists_valueIn_eq {values : Leaf → Value} (h : ∀ leaf : Leaf, leaf.Admits (values leaf)) :
    ∃ c, ∀ leaf : Leaf, values leaf = leaf.valueIn c := by
  obtain ⟨appName, hname⟩ := h .appName
  obtain ⟨appEnv, henv⟩ := h .appEnv
  obtain ⟨dialect, hdialect⟩ := h .dialect
  obtain ⟨primaryKeyPrefix, hstart⟩ := h .primaryKeyPrefix
  obtain ⟨logRuleInputs, hinputs⟩ := h .logRuleInputs
  obtain ⟨logLevel, hlevel⟩ := h .logLevel
  obtain ⟨jsonLogs, hjson⟩ := h .jsonLogs
  refine ⟨⟨appName, appEnv, ⟨dialect, primaryKeyPrefix, logRuleInputs⟩, ⟨logLevel, jsonLogs⟩⟩, ?_⟩
  intro leaf
  cases leaf <;> assumption

/-- The table that describes a configuration sets each setting to what it is there. -/
theorem at?_toTable (leaf : Leaf) (c : AppConfig) : leaf.at? c.toTable = some (leaf.valueIn c) := by
  cases leaf <;> rfl

theorem open_place (leaf : Leaf) {t : Table} (h : SectionsAreTables t) :
    Value.Open leaf.place (.table t) := by
  have hsection : ∀ name ∈ ["translator", "telemetry"], ∀ key,
      Value.Open [name, key] (.table t) := by
    intro name hname key v hv
    obtain ⟨inner, rfl⟩ := h name hname v hv
    exact fun _ _ => trivial
  cases leaf with
  | appName | appEnv => exact fun _ _ => trivial
  | dialect | primaryKeyPrefix | logRuleInputs => exact hsection "translator" (by simp) _
  | logLevel | jsonLogs => exact hsection "telemetry" (by simp) _

end Leaf

/-- The sections are tables where the way to each setting is open. -/
theorem sectionsAreTables_of_open {t : Table}
    (h : ∀ leaf : Leaf, Value.Open leaf.place (.table t)) : SectionsAreTables t := by
  intro name hname v hv
  rcases List.mem_cons.1 hname with rfl | hname
  · exact (h .dialect v hv).exists_table
  · obtain rfl := List.mem_singleton.1 hname
    exact (h .logLevel v hv).exists_table

/-! ### Reading a section -/

theorem bind_eq_ok_iff {ε α β : Type} {x : Except ε α} {f : α → Except ε β} {b : β} :
    (x >>= f) = .ok b ↔ ∃ a, x = .ok a ∧ f a = .ok b := by
  cases x with
  | error e =>
      refine iff_of_false nofun ?_
      intro h
      obtain ⟨a, ha, -⟩ := h
      cases ha
  | ok a =>
      constructor
      · intro h
        exact ⟨a, rfl, h⟩
      · intro h
        obtain ⟨a', ha, hf⟩ := h
        cases ha
        exact hf

/-- The entries of a section. -/
def Table.inside (t : Table) (name : String) : Table :=
  match t.get? name with
  | some (.table inner) => inner
  | _ => []

theorem at?_inside (t : Table) (name key : String) :
    Value.at? [name, key] (.table t) = (t.inside name).get? key := by
  rw [Value.at?_cons_table]
  unfold Table.inside
  cases t.get? name with
  | none => rfl
  | some v =>
      cases v with
      | table inner => exact Value.at?_singleton key inner
      | _ => rfl

namespace AppConfig

variable {path : List String} {v? : Option Value} {t : Table}

theorem setting_readText_eq_ok_iff {default s : String} :
    setting readText path default v? = .ok s ↔ v?.getD (.text default) = .text s := by
  cases v? with
  | none => simp [setting]
  | some v => cases v <;> simp [setting, readText]

theorem setting_readBool_eq_ok_iff {default b : Bool} :
    setting readBool path default v? = .ok b ↔ v?.getD (.bool default) = .bool b := by
  cases v? with
  | none => simp [setting]
  | some v => cases v <;> simp [setting, readBool]

theorem readClassifier_eq_ok_iff {settings : Settings} :
    readClassifier path (.table t) = .ok settings ↔
      (t.get? "dialect").getD (.text Settings.standard.dialect) = .text settings.dialect ∧
        (t.get? "primary_key_prefix").getD (.text Settings.standard.primaryKeyPrefix) =
          .text settings.primaryKeyPrefix ∧
        (t.get? "log_rule_inputs").getD (.bool Settings.standard.logRuleInputs) =
          .bool settings.logRuleInputs := by
  unfold readClassifier
  simp only [bind_eq_ok_iff, setting_readText_eq_ok_iff, setting_readBool_eq_ok_iff]
  constructor
  · intro h
    obtain ⟨dialect, hdialect, inputs, hinputs, start, hstart, h⟩ := h
    obtain rfl := Except.ok.inj h
    exact ⟨hdialect, hstart, hinputs⟩
  · intro h
    obtain ⟨hdialect, hstart, hinputs⟩ := h
    exact ⟨_, hdialect, _, hinputs, _, hstart, rfl⟩

theorem readTelemetry_eq_ok_iff {telemetry : TelemetryConfig} :
    readTelemetry path (.table t) = .ok telemetry ↔
      (t.get? "log_level").getD (.text TelemetryConfig.standard.logLevel) =
          .text telemetry.logLevel ∧
        (t.get? "json_logs").getD (.bool TelemetryConfig.standard.jsonLogs) =
          .bool telemetry.jsonLogs := by
  unfold readTelemetry
  simp only [bind_eq_ok_iff, setting_readText_eq_ok_iff, setting_readBool_eq_ok_iff]
  constructor
  · intro h
    obtain ⟨json, hjson, level, hlevel, h⟩ := h
    obtain rfl := Except.ok.inj h
    exact ⟨hlevel, hjson⟩
  · intro h
    obtain ⟨hlevel, hjson⟩ := h
    exact ⟨_, hjson, _, hlevel, rfl⟩

/-- A section that is missing is read as an empty one. -/
theorem setting_inside {α : Type} {read : List String → Value → Except LoadError α} {default : α}
    {name : String} (hempty : read path (.table []) = .ok default)
    (ht : ∀ v, t.get? name = some v → ∃ inner : Table, v = .table inner) :
    setting read path default (t.get? name) = read path (.table (t.inside name)) := by
  unfold Table.inside
  cases hget : t.get? name with
  | none => exact hempty.symm
  | some v =>
      obtain ⟨inner, rfl⟩ := ht v hget
      rfl

/-- **A configuration is read out of a table setting by setting.** -/
theorem ofTable_eq_ok_iff (ht : SectionsAreTables t) {c : AppConfig} :
    ofTable t = .ok c ↔
      ∀ leaf : Leaf, (leaf.at? t).getD (leaf.valueIn standard) = leaf.valueIn c := by
  unfold ofTable
  rw [setting_inside rfl (ht "telemetry" (by simp)), setting_inside rfl (ht "translator" (by simp))]
  simp only [bind_eq_ok_iff, setting_readText_eq_ok_iff, readTelemetry_eq_ok_iff,
    readClassifier_eq_ok_iff, ← at?_inside]
  simp only [← Value.at?_singleton]
  constructor
  · intro h
    obtain ⟨env, henv, name, hname, telemetry, htelemetry, classifier, hclassifier, h⟩ := h
    obtain rfl := Except.ok.inj h
    obtain ⟨hlevel, hjson⟩ := htelemetry
    obtain ⟨hdialect, hstart, hinputs⟩ := hclassifier
    intro leaf
    cases leaf <;> assumption
  · intro h
    exact ⟨_, h .appEnv, _, h .appName, _, ⟨h .logLevel, h .jsonLogs⟩, _,
      ⟨h .dialect, h .primaryKeyPrefix, h .logRuleInputs⟩, rfl⟩

end AppConfig

end PgTriage.Config
