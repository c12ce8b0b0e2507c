/-
Trees of values laid over one another.

A name is looked up in a table as its first entry, and the later table is laid over the
earlier one entry by entry.  The two agree only where no table has a name twice, so that
is the invariant: `Distinct` says it of every table in a value, however deep, and laying
one value over another keeps it.

From there a path is followed through both trees at once.  Where each of them has tables
all along the path, what the merged tree has at its end is settled by what the two have
there, and by nothing else: the later value if there is one, laid over the earlier.
-/
import PgTriage.Config.Value
import PgTriage.Proofs.Entries

namespace PgTriage.Config

open Entries (Each)

theorem Table.put_eq (name : String) (v : Value) (t : Table) :
    t.put name v = Entries.put name v t := by
  induction t with
  | nil => rfl
  | cons e rest ih =>
      unfold Table.put Entries.put
      rw [ih]

theorem Table.get?_put (t : Table) (name other : String) (v : Value) :
    (t.put name v).get? other = if other = name then some v else t.get? other := by
  rw [Table.put_eq]
  exact Entries.get?_put name v t other

namespace Value

/-- Whether a value is a table. -/
def isTable : Value → Bool
  | .table _ => true
  | _ => false

theorem isTable_iff {v : Value} : v.isTable ↔ ∃ t : Table, v = .table t := by
  cases v <;> simp [isTable]

/-! ### No name twice -/

/-- No table in the value, however deep, has a name twice. -/
inductive Distinct : Value → Prop
  | text (s : String) : Distinct (.text s)
  | signed (n : Int) : Distinct (.signed n)
  | unsigned (n : Nat) : Distinct (.unsigned n)
  | float (x : Binary64) : Distinct (.float x)
  | bool (b : Bool) : Distinct (.bool b)
  | list {items : List Value} (h : ∀ v ∈ items, Distinct v) : Distinct (.list items)
  | table {entries : Table} (names : (entries.map (·.1)).Nodup)
      (values : ∀ e ∈ entries, Distinct e.2) : Distinct (.table entries)

theorem distinct_table_iff {t : Table} : Distinct (.table t) ↔ Each Distinct t := by
  constructor
  · intro h
    cases h with
    | table names values => exact ⟨names, values⟩
  · intro h
    exact .table h.keys h.values

/-! ### One value over another -/

/-- A value laid over the one that is there, if there is one. -/
def laid (earlier? : Option Value) (later : Value) : Value :=
  earlier?.elim later fun earlier => earlier.over later

theorem over_table (base later : Table) :
    (Value.table base).over (.table later) = .table (layAll base later) := by
  rw [Value.over]

/-- What is no table takes the place of what it is laid over. -/
theorem over_eq_iff {earlier later w : Value} (hw : ∀ t, w ≠ .table t) :
    earlier.over later = w ↔ later = w := by
  cases later with
  | table t =>
      refine iff_of_false ?_ (Ne.symm (hw t))
      cases earlier <;> exact Ne.symm (hw _)
  | _ => rfl

theorem layAll_cons (base rest : Table) (name : String) (v : Value) :
    layAll base ((name, v) :: rest) = layAll (base.put name (laid (base.get? name) v)) rest := by
  rw [layAll]
  cases base.get? name <;> rfl

/-- What the merged table has under a name is told by what the two have under it. -/
theorem get?_layAll {later : Table} (hlater : (later.map (·.1)).Nodup) (base : Table)
    (name : String) :
    (layAll base later).get? name =
      (later.get? name).elim (base.get? name) fun v => some (laid (base.get? name) v) := by
  induction later generalizing base with
  | nil => rfl
  | cons e rest ih =>
      obtain ⟨key, v⟩ := e
      rw [List.map_cons, List.nodup_cons] at hlater
      rw [layAll_cons, ih hlater.2, Table.get?_put]
      show _ = (Entries.get? ((key, v) :: rest) name).elim _ _
      rw [Entries.get?_cons]
      by_cases hname : name = key
      · -- the name is looked up again among entries that no longer have it
        subst hname
        have hrest : Table.get? rest name = none := Entries.get?_eq_none_iff.2 hlater.1
        rw [hrest, if_pos rfl, if_pos rfl]
        rfl
      · rw [if_neg hname, if_neg (Ne.symm hname)]
        rfl

/-- Each entry laid over the table keeps the names apart, if each value keeps them. -/
theorem each_layAll {base later : Table} (hbase : Each Distinct base)
    (hlater : ∀ e ∈ later, e.2.Distinct ∧ ∀ earlier : Value, earlier.Distinct →
      (earlier.over e.2).Distinct) :
    Each Distinct (layAll base later) := by
  induction later generalizing base with
  | nil => exact hbase
  | cons e rest ih =>
      obtain ⟨name, v⟩ := e
      obtain ⟨hv, hover⟩ := hlater (name, v) List.mem_cons_self
      rw [layAll_cons]
      refine ih ?_ fun d hd => hlater d (List.mem_cons_of_mem _ hd)
      rw [Table.put_eq]
      refine hbase.put ?_
      cases hget : base.get? name with
      | none => exact hv
      | some earlier => exact hover earlier (hbase.get? hget)

theorem Distinct.over {earlier later : Value} (hearlier : earlier.Distinct)
    (hlater : later.Distinct) : (earlier.over later).Distinct := by
  induction hlater generalizing earlier with
  | @table entries names values ih =>
      cases earlier with
      | table base =>
          rw [over_table, distinct_table_iff]
          exact each_layAll (distinct_table_iff.1 hearlier) fun e he =>
            ⟨values e he, fun earlier hearlier => ih e he hearlier⟩
      | _ => exact .table names values
  | list h => exact .list h
  | _ => constructor

/-! ### Following a path -/

/-- The value that a path of names leads to. -/
def at? : List String → Value → Option Value
  | [], v => some v
  | name :: path, .table t => (Table.get? t name).bind (at? path)
  | _ :: _, _ => none

theorem at?_cons_table (name : String) (path : List String) (t : Table) :
    at? (name :: path) (.table t) = (t.get? name).bind (at? path) := rfl

theorem at?_singleton (name : String) (t : Table) : at? [name] (.table t) = t.get? name :=
  Option.bind_fun_some _

/-- Every value on the way of the path is a table; the way may end early. -/
def Open : List String → Value → Prop
  | [], _ => True
  | name :: path, .table t => ∀ v, Table.get? t name = some v → Open path v
  | _ :: _, _ => False

theorem Open.exists_table {name : String} {path : List String} {v : Value}
    (h : v.Open (name :: path)) : ∃ t : Table, v = .table t := by
  cases v with
  | table t => exact ⟨t, rfl⟩
  | _ => exact h.elim

theorem Open.over {path : List String} {earlier later : Value} (hdistinct : later.Distinct)
    (hearlier : earlier.Open path) (hlater : later.Open path) : (earlier.over later).Open path := by
  induction path generalizing earlier later with
  | nil => trivial
  | cons name path ih =>
      obtain ⟨base, rfl⟩ := hearlier.exists_table
      obtain ⟨t, rfl⟩ := hlater.exists_table
      have heach := distinct_table_iff.1 hdistinct
      rw [over_table]
      intro w hw
      rw [get?_layAll heach.keys] at hw
      cases ht : t.get? name with
      | none =>
          rw [ht] at hw
          exact hearlier w hw
      | some v =>
          rw [ht] at hw
          obtain rfl := Option.some.inj hw
          cases hbase : base.get? name with
          | none => exact hlater v ht
          | some b => exact ih (heach.get? ht) (hearlier b hbase) (hlater v ht)

/--
**What a merged tree has at a place is told by what the two have there.**  Nothing else
in them has a part in it, as long as both have tables on the way.
-/
theorem at?_over {path : List String} {earlier later : Value} (hdistinct : later.Distinct)
    (hearlier : earlier.Open path) (hlater : later.Open path) :
    (earlier.over later).at? path =
      (later.at? path).elim (earlier.at? path) fun v => some (laid (earlier.at? path) v) := by
  induction path generalizing earlier later with
  | nil => rfl
  | cons name path ih =>
      obtain ⟨base, rfl⟩ := hearlier.exists_table
      obtain ⟨t, rfl⟩ := hlater.exists_table
      have heach := distinct_table_iff.1 hdistinct
      rw [over_table, at?_cons_table, at?_cons_table, at?_cons_table, get?_layAll heach.keys]
      cases ht : t.get? name with
      | none => rfl
      | some v =>
          cases hbase : base.get? name with
          | none =>
              show v.at? path = (v.at? path).elim none fun v => some v
              cases v.at? path <;> rfl
          | some b => exact ih (heach.get? ht) (hearlier b hbase) (hlater v ht)

end Value

end PgTriage.Config
