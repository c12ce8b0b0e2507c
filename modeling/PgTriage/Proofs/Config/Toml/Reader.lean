/-
What a document describes has no name twice.

Values lie within values, and their three readers call each other, so what they give is
shown for all of them at once, by induction on the steps they may take.  A table in
braces is put together as a document is, and a list from its items.  The lines of a
document then have such values only, and resolving them keeps the names apart.
-/
import PgTriage.Config.Toml.Reader
import PgTriage.Proofs.Config.StandIn
import PgTriage.Proofs.Config.Toml.Document
import PgTriage.Proofs.Config.Toml.Scalar

namespace PgTriage.Config.Toml

open Entries (Each)
open Value (Distinct)

/-! ### Values -/

theorem yields_dateTime? (cs : List Char) : Yields Distinct (dateTime? cs) := by
  refine .map fun rest _ => ?_
  rw [Value.distinct_table_iff]
  exact .singleton (.text _)

section Step

variable {fuel : Nat} (hvalue : ∀ depth cs, Yields Distinct (valueWithin fuel depth cs))
  (hitems : ∀ depth cs, Yields (∀ v ∈ ·, Distinct v) (itemsWithin fuel depth cs))
  (hentries : ∀ depth cs, Yields (∀ e ∈ ·, Distinct e.2) (entriesWithin fuel depth cs))

include hitems hentries in
theorem yields_valueWithin_succ (depth : Nat) (cs : List Char) :
    Yields Distinct (valueWithin (fuel + 1) depth cs) := by
  have htable : ∀ r : Read (List (List String × Value)), Yields (∀ e ∈ ·, Distinct e.2) r →
      Yields Distinct
        (r.bind fun e => (tableOfEntries e.1).bind fun t => some (.table t, e.2)) := by
    intro r hr
    refine .bind fun e he => .bind fun t ht => .some ?_
    exact Value.distinct_table_iff.2 (each_tableOfEntries (hr e.1 e.2 he) ht)
  simp only [valueWithin, Option.bind_eq_bind]
  split
  · exact .bind fun items h => .some (.list (hitems _ _ items.1 items.2 h))
  · split
    · exact htable _ (.some (by simp))
    · exact htable _ (hentries _ _)
  · exact .or (yields_dateTime? cs) (yields_scalar? cs)

include hvalue hitems in
theorem yields_itemsWithin_succ (depth : Nat) (cs : List Char) :
    Yields (∀ v ∈ ·, Distinct v) (itemsWithin (fuel + 1) depth cs) := by
  simp only [itemsWithin, Option.bind_eq_bind]
  refine .bind fun cs _ => ?_
  split
  · exact .some (by simp)
  · refine .bind fun item hitem => .bind fun rest _ => ?_
    have hdistinct : item.1.Distinct := hvalue _ _ item.1 item.2 hitem
    split
    · refine .bind fun items h => .some ?_
      exact List.forall_mem_cons.2 ⟨hdistinct, hitems _ _ items.1 items.2 h⟩
    · exact .some (by simpa using hdistinct)
    · exact .none

include hvalue hentries in
theorem yields_entriesWithin_succ (depth : Nat) (cs : List Char) :
    Yields (∀ e ∈ ·, Distinct e.2) (entriesWithin (fuel + 1) depth cs) := by
  simp only [entriesWithin, Option.bind_eq_bind]
  refine .bind fun key _ => ?_
  split
  · refine .bind fun v hv => ?_
    have hdistinct : v.1.Distinct := hvalue _ _ v.1 v.2 hv
    split
    · refine .bind fun entries h => .some ?_
      exact List.forall_mem_cons.2 ⟨hdistinct, hentries _ _ entries.1 entries.2 h⟩
    · exact .some (by simpa using hdistinct)
    · exact .none
  · exact .none

end Step

/-- The three readers of values, by the number of steps they may take. -/
theorem yields_within (fuel : Nat) :
    (∀ depth cs, Yields Distinct (valueWithin fuel depth cs)) ∧
      (∀ depth cs, Yields (∀ v ∈ ·, Distinct v) (itemsWithin fuel depth cs)) ∧
      ∀ depth cs, Yields (∀ e ∈ ·, Distinct e.2) (entriesWithin fuel depth cs) := by
  induction fuel with
  | zero => exact ⟨fun _ _ => .none, fun _ _ => .none, fun _ _ => .none⟩
  | succ fuel ih =>
      obtain ⟨hvalue, hitems, hentries⟩ := ih
      exact ⟨yields_valueWithin_succ hitems hentries, yields_itemsWithin_succ hvalue hitems,
        yields_entriesWithin_succ hvalue hentries⟩

/-! ### Lines -/

theorem yields_line? (cs : List Char) : Yields Line.Distinct (line? cs) := by
  simp only [line?, Option.bind_eq_bind]
  split
  · refine .bind fun path _ => ?_
    split
    · exact .some trivial
    · exact .none
  · refine .bind fun path _ => ?_
    split
    · exact .some trivial
    · exact .none
  · refine .bind fun key _ => ?_
    split
    · exact .bind fun v hv => .some ((yields_within _).1 _ _ v.1 v.2 hv)
    · exact .none

theorem distinct_of_linesWithin {fuel : Nat} {cs : List Char} {lines : List Line}
    (h : linesWithin fuel cs = some lines) : ∀ line ∈ lines, line.Distinct := by
  induction fuel generalizing cs lines with
  | zero => cases h
  | succ fuel ih =>
      simp only [linesWithin, Option.bind_eq_bind] at h
      obtain ⟨after, -, h⟩ := Option.bind_eq_some_iff.1 h
      cases after with
      | nil =>
          obtain rfl := Option.some.inj h
          simp
      | cons c rest =>
          obtain ⟨line, hline, h⟩ := Option.bind_eq_some_iff.1 h
          obtain ⟨after, -, h⟩ := Option.bind_eq_some_iff.1 h
          obtain ⟨others, hothers, h⟩ := Option.bind_eq_some_iff.1 h
          obtain rfl := Option.some.inj h
          exact List.forall_mem_cons.2 ⟨yields_line? _ line.1 line.2 hline, ih hothers⟩

theorem each_written? {text : String} {t : Table} (h : written? text = some t) :
    Each Distinct t := by
  obtain ⟨lines, hlines, ht⟩ := Option.bind_eq_some_iff.1 h
  refine each_tableOfLines ?_ ht
  unfold lines? at hlines
  split at hlines
  · exact distinct_of_linesWithin hlines
  · exact distinct_of_linesWithin hlines

/-- **The table a document describes has no name twice**, nor has any table in it. -/
theorem each_read? {text : String} {t : Table} (h : read? text = some t) : Each Distinct t := by
  obtain ⟨written, hwritten, hresolve⟩ := Option.bind_eq_some_iff.1 h
  have heach := each_written? hwritten
  exact Value.each_resolveEntries? heach.keys
    (fun e he _ hresolve => (heach.values e he).resolve? hresolve) hresolve

end PgTriage.Config.Toml
