/-
Counters.

Two things are counted: failures classified, by dialect and kind, and failures refused,
by dialect.  A counter comes into being when it is first bumped.  Counters are listed by
name and then by labels.
-/
import PgTriage.OrderedMap

namespace PgTriage

/-- Something that is counted. -/
inductive Tally where
  /-- A failure was classified. -/
  | classified (dialect kind : String)
  /-- A failure was refused. -/
  | refused (dialect : String)
deriving DecidableEq, Repr

namespace Tally

/-- The name of the counter. -/
def name : Tally → String
  | classified .. => "db_error_translations_total"
  | refused _ => "db_error_translation_rejections_total"

/-- The labels of the counter, in the order of their names. -/
def labels : Tally → List (String × String)
  | classified dialect kind => [("dialect", dialect), ("kind", kind)]
  | refused dialect => [("dialect", dialect)]

/-- What the order of counters goes by: the name, then the values of the labels. -/
def sortKey (t : Tally) : List String := t.name :: t.labels.map (·.2)

theorem sortKey_injective {t u : Tally} (h : t.sortKey = u.sortKey) : t = u := by
  cases t <;> cases u <;> simp_all [sortKey, labels]

/-! ### The order of counters -/

instance : Ord Tally := ⟨fun t u => compare t.sortKey u.sortKey⟩

theorem compare_eq (t u : Tally) : compare t u = compare t.sortKey u.sortKey := rfl

instance : Std.TransOrd Tally where
  eq_swap := by intro t u; rw [compare_eq, compare_eq]; exact Std.OrientedCmp.eq_swap
  isLE_trans := by
    intro t u v htu huv
    rw [compare_eq] at *
    exact Std.TransCmp.isLE_trans htu huv

instance : Std.LawfulEqOrd Tally where
  compare_self := by intro t; rw [compare_eq]; exact Std.ReflCmp.compare_self
  eq_of_compare := by
    intro t u h
    rw [compare_eq] at h
    exact sortKey_injective (Std.LawfulEqCmp.compare_eq_iff_eq.1 h)

end Tally

/-- Counters with their values. -/
abbrev Counters := OrderedMap Tally Nat

namespace Counters

/-- Nothing counted yet. -/
def none : Counters := .empty

/-- The counters after one more is counted. -/
def bump (counters : Counters) (t : Tally) : Counters :=
  counters.insert t ((counters.get? t).getD 0 + 1)

/-- The counters after everything listed is counted. -/
def bumpAll (counters : Counters) (ts : List Tally) : Counters :=
  ts.foldl bump counters

end Counters

end PgTriage
