/-
A map is what its look-ups answer.

An ordered map lists each key once and in order, so an entry is listed exactly when
looking its key up gives its value.  Two strictly increasing lists with the same members
are the same list, which makes two maps equal as soon as they answer alike.

A map built by inserting one entry after another answers with the last entry of the
key.  Building from the listing of a map therefore gives the map back.
-/
import PgTriage.OrderedMap
import PgTriage.Proofs.Entries

namespace PgTriage.OrderedMap

variable {κ α : Type} [Ord κ]

theorem nodup_keys [Std.ReflOrd κ] (m : OrderedMap κ α) : m.keys.Nodup := by
  refine m.pairwise_keys.imp ?_
  rintro k _ hlt rfl
  simp at hlt

/-- An entry is determined by its key. -/
theorem eq_of_fst_eq [Std.ReflOrd κ] {m : OrderedMap κ α} {e d : κ × α} (he : e ∈ m.entries)
    (hd : d ∈ m.entries) (h : e.1 = d.1) : e = d :=
  List.inj_on_of_nodup_map m.nodup_keys he hd h

/-- Looking a key up gives the value it is listed with. -/
theorem get?_eq_some_iff [Std.LawfulEqOrd κ] {m : OrderedMap κ α} {k : κ} {v : α} :
    m.get? k = some v ↔ (k, v) ∈ m.entries := by
  have hkey : ∀ e : κ × α, (compare k e.1 == .eq) = true ↔ e.1 = k := by
    intro e
    rw [beq_iff_eq, Std.LawfulEqCmp.compare_eq_iff_eq, eq_comm]
  exact Entries.map_find?_eq_some_iff hkey fun e he d hd => eq_of_fst_eq he hd

/-- The keys are those that look-ups find a value for. -/
theorem mem_keys_iff [Std.LawfulEqOrd κ] {m : OrderedMap κ α} {k : κ} :
    k ∈ m.keys ↔ ∃ v, m.get? k = some v := by
  simp [keys, get?_eq_some_iff]

variable [Std.TransOrd κ] [Std.LawfulEqOrd κ]

/-- **Maps that answer alike are equal.** -/
theorem ext_get? {m n : OrderedMap κ α} (h : ∀ k, m.get? k = n.get? k) : m = n := by
  have hmem : ∀ e, e ∈ m.entries ↔ e ∈ n.entries := by
    intro e
    rw [← get?_eq_some_iff (v := e.2), ← get?_eq_some_iff (v := e.2), h]
  refine ext' (List.Perm.eq_of_pairwise ?_ m.increasing n.increasing ?_)
  · intro a b _ _ hab hba
    exact absurd hba (Std.OrientedCmp.not_lt_of_lt hab)
  · exact (List.perm_ext_iff_of_nodup (m.nodup_keys.of_map _) (n.nodup_keys.of_map _)).2 hmem

/-! ### The last entry of a key counts -/

theorem get?_foldl_insert [DecidableEq κ] (l : List (κ × α)) (m : OrderedMap κ α) (k : κ) :
    (l.foldl (fun m e => m.insert e.1 e.2) m).get? k =
      ((l.reverse.find? fun e => e.1 = k).map (·.2)).or (m.get? k) := by
  induction l generalizing m with
  | nil => simp
  | cons e rest ih =>
      rw [List.foldl_cons, ih, List.reverse_cons, List.find?_append, get?_insert]
      by_cases hk : k = e.1
      · subst hk
        cases rest.reverse.find? (fun d => d.1 = e.1) <;> simp
      · have hk' : e.1 ≠ k := fun h => hk h.symm
        cases rest.reverse.find? (fun d => d.1 = k) <;> simp [hk, hk']

theorem get?_ofList [DecidableEq κ] (l : List (κ × α)) (k : κ) :
    (ofList l).get? k = (l.reverse.find? fun e => e.1 = k).map (·.2) := by
  rw [ofList, get?_foldl_insert, get?_empty, Option.or_none]

/-- A map built from a list answers with the last value the list has for the key. -/
theorem get?_ofList_eq_some_iff {l : List (κ × α)} {k : κ} {v : α} :
    (ofList l).get? k = some v ↔
      ∃ before after, l = before ++ (k, v) :: after ∧ ∀ e ∈ after, e.1 ≠ k := by
  classical
  rw [get?_ofList, Option.map_eq_some_iff]
  constructor
  · intro h
    obtain ⟨e, hfind, rfl⟩ := h
    obtain ⟨hk, as, bs, hl, has⟩ := List.find?_eq_some_iff_append.1 hfind
    have hk : e.1 = k := by simpa using hk
    refine ⟨bs.reverse, as.reverse, ?_, ?_⟩
    · rw [← List.reverse_reverse l, hl]
      simp [← hk]
    · intro d hd
      simpa using has d (List.mem_reverse.1 hd)
  · intro h
    obtain ⟨before, after, rfl, hafter⟩ := h
    refine ⟨(k, v), ?_, rfl⟩
    refine List.find?_eq_some_iff_append.2 ⟨by simp, after.reverse, before.reverse, by simp, ?_⟩
    intro d hd
    simpa using hafter d (List.mem_reverse.1 hd)

/-- Where the list has no key with two values, every entry counts. -/
theorem get?_ofList_eq_some_iff_mem {l : List (κ × α)} (h : ∀ e ∈ l, ∀ d ∈ l, e.1 = d.1 → e = d)
    {k : κ} {v : α} : (ofList l).get? k = some v ↔ (k, v) ∈ l := by
  classical
  have hreverse : ∀ e ∈ l.reverse, ∀ d ∈ l.reverse, e.1 = d.1 → e = d := by
    simpa only [List.mem_reverse] using h
  rw [get?_ofList, Entries.map_find?_eq_some_iff (fun e => decide_eq_true_iff) hreverse,
    List.mem_reverse]

/-- Building a map from its own listing gives it back. -/
theorem ofList_entries (m : OrderedMap κ α) : ofList m.entries = m := by
  refine ext_get? fun k => Option.ext fun v => ?_
  rw [get?_ofList_eq_some_iff, get?_eq_some_iff]
  constructor
  · intro h
    obtain ⟨before, after, hl, -⟩ := h
    simp [hl]
  · intro h
    obtain ⟨before, after, hl⟩ := List.append_of_mem h
    refine ⟨before, after, hl, ?_⟩
    -- A later entry of the same key would come strictly after itself.
    have hinc := m.increasing
    rw [hl, List.pairwise_append] at hinc
    intro e he hk
    have hlt := (List.pairwise_cons.1 hinc.2.1).1 e he
    simp [hk] at hlt

end PgTriage.OrderedMap
