/-
Resolving stand-ins keeps names apart.

A table that is resolved keeps its names, each with its value resolved.  What it stands
for is then that table or a value in it, so nothing comes in that has a name twice.
-/
import PgTriage.Config.StandIn
import PgTriage.Proofs.Config.Value

namespace PgTriage.Config

open Entries (Each)

namespace Value

theorem mem_of_resolveItems? {items resolved : List Value}
    (h : resolveItems? items = some resolved) :
    ∀ w ∈ resolved, ∃ v ∈ items, v.resolve? = some w := by
  induction items generalizing resolved with
  | nil =>
      rw [resolveItems?] at h
      obtain rfl := Option.some.inj h
      simp
  | cons v rest ih =>
      rw [resolveItems?] at h
      obtain ⟨w, hw, h⟩ := Option.bind_eq_some_iff.1 h
      obtain ⟨others, hothers, h⟩ := Option.bind_eq_some_iff.1 h
      obtain rfl := Option.some.inj h
      refine List.forall_mem_cons.2 ⟨⟨v, List.mem_cons_self, hw⟩, ?_⟩
      intro w' hw'
      obtain ⟨v', hv', hresolve⟩ := ih hothers w' hw'
      exact ⟨v', List.mem_cons_of_mem v hv', hresolve⟩

/-- The entries of a table keep their names when their values are resolved. -/
theorem names_of_resolveEntries? {t resolved : Table} (h : resolveEntries? t = some resolved) :
    resolved.map (·.1) = t.map (·.1) ∧
      ∀ e ∈ resolved, ∃ d ∈ t, d.2.resolve? = some e.2 := by
  induction t generalizing resolved with
  | nil =>
      rw [resolveEntries?] at h
      obtain rfl := Option.some.inj h
      simp
  | cons d rest ih =>
      rw [resolveEntries?] at h
      obtain ⟨w, hw, h⟩ := Option.bind_eq_some_iff.1 h
      obtain ⟨others, hothers, h⟩ := Option.bind_eq_some_iff.1 h
      obtain rfl := Option.some.inj h
      obtain ⟨hnames, hvalues⟩ := ih hothers
      refine ⟨by rw [List.map_cons, List.map_cons, hnames],
        List.forall_mem_cons.2 ⟨⟨d, List.mem_cons_self, hw⟩, ?_⟩⟩
      intro e he
      obtain ⟨d', hd', hresolve⟩ := hvalues e he
      exact ⟨d', List.mem_cons_of_mem d hd', hresolve⟩

theorem each_resolveEntries? {t resolved : Table} (names : (t.map (·.1)).Nodup)
    (values : ∀ e ∈ t, ∀ w, e.2.resolve? = some w → w.Distinct)
    (h : resolveEntries? t = some resolved) : Each Distinct resolved := by
  obtain ⟨hnames, hvalues⟩ := names_of_resolveEntries? h
  refine ⟨hnames ▸ names, ?_⟩
  intro e he
  obtain ⟨d, hd, hresolve⟩ := hvalues e he
  exact values d hd e.2 hresolve

theorem distinct_standsFor? {t : Table} {v : Value} (ht : Each Distinct t)
    (h : t.standsFor? = some v) : v.Distinct := by
  unfold Table.standsFor? at h
  cases htag : t.get? tagName with
  | some tag =>
      rw [htag] at h
      cases h
  | none =>
      rw [htag] at h
      obtain rfl := Option.some.inj h
      cases hheld : t.get? heldName with
      | none => exact distinct_table_iff.2 ht
      | some held => exact ht.get? hheld

theorem Distinct.resolve? {v w : Value} (hv : v.Distinct) (h : v.resolve? = some w) :
    w.Distinct := by
  induction hv generalizing w with
  | list _ ih =>
      rw [Value.resolve?] at h
      obtain ⟨items, hitems, rfl⟩ := Option.map_eq_some_iff.1 h
      refine .list fun w hw => ?_
      obtain ⟨v, hv, hresolve⟩ := mem_of_resolveItems? hitems w hw
      exact ih v hv hresolve
  | table names _ ih =>
      rw [Value.resolve?] at h
      obtain ⟨entries, hentries, hstands⟩ := Option.bind_eq_some_iff.1 h
      exact distinct_standsFor? (each_resolveEntries? names (fun e he _ => ih e he) hentries)
        hstands
  | text s => obtain rfl := Option.some.inj h; exact .text s
  | signed n => obtain rfl := Option.some.inj h; exact .signed n
  | unsigned n => obtain rfl := Option.some.inj h; exact .unsigned n
  | float x => obtain rfl := Option.some.inj h; exact .float x
  | bool b => obtain rfl := Option.some.inj h; exact .bool b

end Value

end PgTriage.Config
