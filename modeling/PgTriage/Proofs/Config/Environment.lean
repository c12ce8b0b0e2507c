/-
What the environment sets has no name twice.

The notation for values drops an entry whose key comes again, so a table in braces has
each key once.  A variable sets its value inside sections with one entry each, and the
variables are laid over one another, which keeps names apart.
-/
import PgTriage.Config.Environment
import PgTriage.Proofs.Config.Toml.Scalar

namespace PgTriage.Config

open Entries (Each)
open Toml (Yields)
open Value (Distinct)

namespace EnvValue

theorem distinct_integer? {word : List Char} {v : Value} (h : integer? word = some v) :
    v.Distinct := by
  unfold integer? at h
  split at h
  · obtain ⟨n, -, rfl⟩ := Option.map_eq_some_iff.1 h
    exact .unsigned n
  · obtain ⟨n, -, rfl⟩ := Option.map_eq_some_iff.1 h
    exact .signed _
  · obtain ⟨n, -, rfl⟩ := Option.map_eq_some_iff.1 h
    exact .unsigned n

theorem distinct_ofWord (word : List Char) : (ofWord word).Distinct := by
  have hinteger : ((integer? word).getD (.text (.ofList word))).Distinct := by
    cases h : integer? word with
    | none => exact .text _
    | some v => exact distinct_integer? h
  unfold ofWord
  dsimp only
  split
  · cases float? word with
    | none => exact hinteger
    | some x => exact .float x
  · exact hinteger

/-- An entry in front of a table, unless the table has its key. -/
theorem each_cons_unless {key : String} {v : Value} {t : Table} (hv : v.Distinct)
    (ht : Each Distinct t) :
    Each Distinct (if (t.get? key).isSome then t else (key, v) :: t) := by
  split
  · exact ht
  · rename_i hkey
    have hnone : t.get? key = none := by simpa using hkey
    exact ⟨List.nodup_cons.2 ⟨Entries.get?_eq_none_iff.1 hnone, ht.keys⟩,
      List.forall_mem_cons.2 ⟨hv, ht.values⟩⟩

section Step

variable {fuel : Nat} (hvalue : ∀ cs, Yields Distinct (valueWithin fuel cs))
  (hitems : ∀ cs, Yields (∀ v ∈ ·, Distinct v) (itemsWithin fuel cs))
  (hentries : ∀ cs, Yields (Each Distinct) (entriesWithin fuel cs))

include hitems hentries in
theorem yields_valueWithin_succ (cs : List Char) : Yields Distinct (valueWithin (fuel + 1) cs) := by
  have hblanks : ∀ r : Toml.Read Value, Yields Distinct r →
      Yields Distinct (r.bind fun v => some (v.1, skipBlanks v.2)) := by
    intro r hr
    exact .bind fun v hv => .some (hr v.1 v.2 hv)
  simp only [valueWithin, Option.bind_eq_bind]
  split
  · exact hblanks _ (.some (.bool true))
  · exact hblanks _ (.some (.bool false))
  · exact hblanks _ (.map fun e he => Value.distinct_table_iff.2 (hentries _ e.1 e.2 he))
  · exact hblanks _ (.map fun items h => .list (hitems _ items.1 items.2 h))
  · exact hblanks _ (.map fun s _ => .text _)
  · exact hblanks _ (.some (.text _))
  · exact hblanks _ .none
  · exact hblanks _ (.some (distinct_ofWord _))

include hvalue hitems in
theorem yields_itemsWithin_succ (cs : List Char) :
    Yields (∀ v ∈ ·, Distinct v) (itemsWithin (fuel + 1) cs) := by
  unfold itemsWithin
  split
  · exact .none
  · exact .some (by simp)
  · rename_i hfuel _
    obtain rfl := Nat.succ.inj hfuel
    simp only [Option.bind_eq_bind]
    refine .bind fun item hitem => ?_
    have hdistinct : item.1.Distinct := hvalue _ item.1 item.2 hitem
    split
    · refine .bind fun items h => .some ?_
      exact List.forall_mem_cons.2 ⟨hdistinct, hitems _ items.1 items.2 h⟩
    · exact .some (by simpa using hdistinct)
    · exact .none

include hvalue hentries in
theorem yields_entriesWithin_succ (cs : List Char) :
    Yields (Each Distinct) (entriesWithin (fuel + 1) cs) := by
  unfold entriesWithin
  split
  · exact .none
  · exact .some (.nil _)
  · rename_i hfuel _
    obtain rfl := Nat.succ.inj hfuel
    simp only [Option.bind_eq_bind]
    refine .bind fun key _ => ?_
    split
    · refine .bind fun v hv => ?_
      have hdistinct : v.1.Distinct := hvalue _ v.1 v.2 hv
      split
      · refine .bind fun entries h => .some ?_
        exact each_cons_unless hdistinct (hentries _ entries.1 entries.2 h)
      · exact .some (.singleton hdistinct)
      · exact .none
    · exact .none

end Step

/-- The three readers of values, by the number of steps they may take. -/
theorem yields_within (fuel : Nat) :
    (∀ cs, Yields Distinct (valueWithin fuel cs)) ∧
      (∀ cs, Yields (∀ v ∈ ·, Distinct v) (itemsWithin fuel cs)) ∧
      ∀ cs, Yields (Each Distinct) (entriesWithin fuel cs) := by
  induction fuel with
  | zero => exact ⟨fun _ => .none, fun _ => .none, fun _ => .none⟩
  | succ fuel ih =>
      obtain ⟨hvalue, hitems, hentries⟩ := ih
      exact ⟨yields_valueWithin_succ hitems hentries, yields_itemsWithin_succ hvalue hitems,
        yields_entriesWithin_succ hvalue hentries⟩

/-- The value that a text is read as has no name twice. -/
theorem distinct_read (text : String) : (read text).Distinct := by
  unfold read
  split
  · rename_i v h
    exact (yields_within _).1 _ v [] h
  · exact .text text

end EnvValue

namespace Environment

theorem distinct_nest {v : Value} (hv : v.Distinct) (keys : List String) :
    (nest v keys).Distinct := by
  induction keys with
  | nil => exact hv
  | cons key keys ih => exact Value.distinct_table_iff.2 (.singleton ih)

/-- One variable keeps the names of every table apart. -/
theorem each_add {t : Table} (ht : Each Distinct t) (setting : String × String) :
    Each Distinct (add t setting) := by
  unfold add
  split
  · rename_i key keys _
    have hnest := distinct_nest (EnvValue.distinct_read setting.2) keys
    have hover := (Value.distinct_table_iff.2 ht).over
      (Value.distinct_table_iff.2 (.singleton (k := key) hnest))
    rw [Value.over_table] at hover
    exact Value.distinct_table_iff.1 hover
  · exact ht

/-- **The table the environment sets has no name twice**, nor has any table in it. -/
theorem each_toTable (env : Environment) : Each Distinct (toTable env) :=
  List.foldlRecOn (motive := Each Distinct) env add (.nil _) fun _ ht setting _ =>
    each_add ht setting

end Environment

end PgTriage.Config
