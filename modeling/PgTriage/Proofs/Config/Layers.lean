/-
The highest layer that sets a setting decides it.

The layers are merged as trees, and no table of a layer has a name twice, so at the place
of a setting the merged tree has what the layers come to there: the value in the last of
them that has one.  Where that value is a table it may have grown by the ones below, but
then it has no setting's type either way.

The built-in defaults are the layer below all others, and the one that sets everything.
So each setting is decided by the highest layer that sets it.  What the layers below say
of it has no part in that, nor has anything they say at other places.
-/
import Mathlib
import PgTriage.Config.Layers
import PgTriage.Proofs.Config.AppConfig
import PgTriage.Proofs.Config.Environment
import PgTriage.Proofs.Config.Toml.Reader

namespace PgTriage.Config

open Entries (Each)
open Value (Distinct Open)

/-! ### Layers over one another -/

theorem table_layered_concat (layers : List Table) (t : Table) :
    Value.table (layered (layers ++ [t])) = (Value.table (layered layers)).over (.table t) := by
  rw [Value.over_table, layered, List.foldl_append]
  rfl

theorem open_layered {path : List String} {layers : List Table}
    (hdistinct : ∀ t ∈ layers, Each Distinct t) (hopen : ∀ t ∈ layers, Open path (.table t)) :
    Open path (.table (layered layers)) := by
  induction layers using List.reverseRecOn with
  | nil =>
      cases path with
      | nil => trivial
      | cons name path =>
          intro v hv
          cases hv
  | append_singleton layers t ih =>
      rw [table_layered_concat]
      refine Open.over (Value.distinct_table_iff.2 (hdistinct t (by simp))) ?_ (hopen t (by simp))
      exact ih (fun u hu => hdistinct u (by simp [hu])) fun u hu => hopen u (by simp [hu])

/--
A setting of the merged layers is what the last layer that sets it sets it to, as far as
that is no table.
-/
theorem getD_at?_layered (leaf : Leaf) {layers : List Table}
    (hdistinct : ∀ t ∈ layers, Each Distinct t) (hsections : ∀ t ∈ layers, SectionsAreTables t)
    {default w : Value} (hw : ∀ t, w ≠ .table t) :
    (leaf.at? (layered layers)).getD default = w ↔
      (layers.reverse.findSome? leaf.at?).getD default = w := by
  -- from the top layer down: it has the setting, or the layers below it decide
  induction layers using List.reverseRecOn with
  | nil => cases leaf <;> rfl
  | append_singleton layers t ih =>
      have hbelow : ∀ u ∈ layers, Each Distinct u := fun u hu => hdistinct u (by simp [hu])
      have hsectionsBelow : ∀ u ∈ layers, SectionsAreTables u := fun u hu =>
        hsections u (by simp [hu])
      have hat : leaf.at? (layered (layers ++ [t])) =
          (leaf.at? t).elim (leaf.at? (layered layers)) fun v =>
            some (Value.laid (leaf.at? (layered layers)) v) := by
        unfold Leaf.at?
        rw [table_layered_concat]
        exact Value.at?_over (Value.distinct_table_iff.2 (hdistinct t (by simp)))
          (open_layered hbelow fun u hu => leaf.open_place (hsectionsBelow u hu))
          (leaf.open_place (hsections t (by simp)))
      rw [hat, List.reverse_append, List.reverse_singleton, List.singleton_append,
        List.findSome?_cons]
      cases ht : leaf.at? t with
      | none => exact ih hbelow hsectionsBelow
      | some v =>
          show Value.laid (leaf.at? (layered layers)) v = w ↔ v = w
          cases leaf.at? (layered layers) with
          | none => rfl
          | some earlier => exact Value.over_eq_iff hw

theorem sectionsAreTables_layered {layers : List Table}
    (hdistinct : ∀ t ∈ layers, Each Distinct t) (hsections : ∀ t ∈ layers, SectionsAreTables t) :
    SectionsAreTables (layered layers) :=
  sectionsAreTables_of_open fun leaf =>
    open_layered hdistinct fun t ht => leaf.open_place (hsections t ht)

/-! ### The layers of a configuration -/

theorem each_fileLayer {files : Directory} {name : String} {t : Table}
    (h : fileLayer files name = .ok t) : Each Distinct t := by
  unfold fileLayer at h
  cases hfile : files.get? name with
  | none =>
      rw [hfile] at h
      obtain rfl := Except.ok.inj h
      exact .nil _
  | some text =>
      rw [hfile] at h
      cases hread : Toml.read? text with
      | none => simp [hread] at h
      | some t' =>
          simp only [hread, Except.ok.injEq] at h
          exact h ▸ Toml.each_read? hread

theorem sectionsAreTables_toTable (c : AppConfig) : SectionsAreTables c.toTable := by
  intro name hname v hv
  rcases List.mem_cons.1 hname with rfl | hname
  · exact ⟨_, (Option.some.inj hv).symm⟩
  · obtain rfl := List.mem_singleton.1 hname
    exact ⟨_, (Option.some.inj hv).symm⟩

theorem each_toTable (c : AppConfig) : Each Distinct c.toTable := by
  have hclassifier : Distinct (.table [("dialect", .text c.classifier.dialect),
      ("primary_key_prefix", .text c.classifier.primaryKeyPrefix),
      ("log_rule_inputs", .bool c.classifier.logRuleInputs)]) :=
    .table (by simp) (by simpa using ⟨Distinct.text _, Distinct.text _, Distinct.bool _⟩)
  have htelemetry : Distinct (.table [("log_level", .text c.telemetry.logLevel),
      ("json_logs", .bool c.telemetry.jsonLogs)]) :=
    .table (by simp) (by simpa using ⟨Distinct.text _, Distinct.bool _⟩)
  refine ⟨by simp [AppConfig.toTable], ?_⟩
  simpa [AppConfig.toTable] using
    ⟨Distinct.text c.appName, Distinct.text c.appEnv, hclassifier, htelemetry⟩

/-! ### What a setting is set to -/

/-- The highest of the layers that sets the setting sets it to this value. -/
def Leaf.SetTo (leaf : Leaf) (layers : List Table) (v : Value) : Prop :=
  ∃ above t below, layers = above ++ t :: below ∧ leaf.at? t = some v ∧
    ∀ u ∈ above, leaf.at? u = none

theorem Leaf.setTo_iff {leaf : Leaf} {layers : List Table} {v : Value} :
    leaf.SetTo layers v ↔ layers.findSome? leaf.at? = some v :=
  List.findSome?_eq_some_iff.symm

/-- A configuration below all layers sets what they leave. -/
theorem Leaf.findSome?_concat_toTable (leaf : Leaf) (layers : List Table) (c : AppConfig) :
    (layers ++ [c.toTable]).findSome? leaf.at? =
      some ((layers.findSome? leaf.at?).getD (leaf.valueIn c)) := by
  rw [List.findSome?_append, List.findSome?_singleton, leaf.at?_toTable]
  cases layers.findSome? leaf.at? <;> rfl

/--
The configuration that loading comes to has every setting from the highest layer that
sets it, and loading fails only where that layer gives some setting another type.
-/
structure DecidedByLayers (layers : List Table) (outcome : Except LoadError AppConfig) :
    Prop where
  succeeds_iff : (∃ c, outcome = .ok c) ↔
    ∀ leaf : Leaf, ∃ v, leaf.SetTo layers v ∧ leaf.Admits v
  value_iff : ∀ c, outcome = .ok c → ∀ (leaf : Leaf) (v : Value),
    leaf.valueIn c = v ↔ leaf.SetTo layers v

theorem DecidedByLayers.of_iff {layers : List Table} {outcome : Except LoadError AppConfig}
    (h : ∀ c, outcome = .ok c ↔ ∀ leaf : Leaf, leaf.SetTo layers (leaf.valueIn c)) :
    DecidedByLayers layers outcome where
  succeeds_iff := by
    constructor
    · intro hok
      obtain ⟨c, hc⟩ := hok
      exact fun leaf => ⟨leaf.valueIn c, (h c).1 hc leaf, leaf.admits_valueIn c⟩
    · intro hall
      choose values hset hadmits using hall
      obtain ⟨c, hc⟩ := Leaf.exists_valueIn_eq hadmits
      exact ⟨c, (h c).2 fun leaf => hc leaf ▸ hset leaf⟩
  value_iff := by
    intro c hc leaf v
    have hset := (h c).1 hc leaf
    constructor
    · intro hv
      exact hv ▸ hset
    · intro hv
      rw [Leaf.setTo_iff] at hset hv
      exact Option.some.inj (hset.symm.trans hv)

/-! ### Loading -/

/-- The built-in configuration of an application in an environment. -/
def builtin (env : Environment) : AppConfig := { AppConfig.standard with appEnv := runEnv env }

/-- The tables that the two files hold, where the sections of every layer are tables. -/
structure Sources (files : Directory) (env : Environment) (common specific : Table) : Prop where
  common_eq : fileLayer files "default" = .ok common
  specific_eq : fileLayer files (runEnv env) = .ok specific
  sections : ∀ t ∈ [env.toTable, specific, common], SectionsAreTables t

/-- The layers of a configuration, the highest first. -/
def layersOf (env : Environment) (common specific : Table) : List Table :=
  [env.toTable, specific, common, (builtin env).toTable]

theorem decidedByLayers_load {files : Directory} {env : Environment} {common specific : Table}
    (h : Sources files env common specific) :
    DecidedByLayers (layersOf env common specific) (AppConfig.load files env) := by
  let layers := [(builtin env).toTable, common, specific, env.toTable]
  have hdistinct : ∀ t ∈ layers, Each Distinct t := by
    simpa [layers] using ⟨each_toTable _, each_fileLayer h.common_eq, each_fileLayer h.specific_eq,
      Environment.each_toTable env⟩
  have hsections : ∀ t ∈ layers, SectionsAreTables t := by
    have hsources := h.sections
    simp only [List.forall_mem_cons] at hsources
    simpa [layers] using ⟨sectionsAreTables_toTable _, hsources.2.2.1, hsources.2.1, hsources.1⟩
  have hload : AppConfig.load files env = AppConfig.ofTable (layered layers) := by
    unfold AppConfig.load
    rw [h.common_eq, h.specific_eq]
    rfl
  refine .of_iff fun c => ?_
  rw [hload, AppConfig.ofTable_eq_ok_iff (sectionsAreTables_layered hdistinct hsections)]
  refine forall_congr' fun leaf => ?_
  rw [getD_at?_layered leaf hdistinct hsections (leaf.valueIn_ne_table c), Leaf.setTo_iff]
  -- The built-in layer is the last of the list, and what it sets needs no default.
  show ((([env.toTable, specific, common] ++ [(builtin env).toTable]).findSome? leaf.at?).getD _ =
    _) ↔ ([env.toTable, specific, common] ++ [(builtin env).toTable]).findSome? leaf.at? = _
  rw [leaf.findSome?_concat_toTable, Option.getD_some, Option.some_inj]

theorem decidedByLayers_ofToml {text : String} {t : Table} (hread : Toml.read? text = some t)
    (ht : SectionsAreTables t) :
    DecidedByLayers [t, AppConfig.standard.toTable] (AppConfig.ofToml text) := by
  refine .of_iff fun c => ?_
  unfold AppConfig.ofToml
  rw [hread]
  show AppConfig.ofTable t = .ok c ↔ _
  rw [AppConfig.ofTable_eq_ok_iff ht]
  refine forall_congr' fun leaf => ?_
  rw [Leaf.setTo_iff]
  show _ ↔ ([t] ++ [AppConfig.standard.toTable]).findSome? leaf.at? = _
  rw [leaf.findSome?_concat_toTable, List.findSome?_singleton, Option.some_inj]

end PgTriage.Config
