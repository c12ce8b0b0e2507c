/-
Maps listed in the order of their keys.

A map is the list of its entries in strictly increasing order of keys, so there is one
list for every map: two maps are equal when they answer alike, and listing a map gives
its keys in order and each of them once.  Inserting at a key that is there replaces the
value.
-/
namespace PgTriage

/-- A finite map whose entries are kept in strictly increasing order of keys. -/
structure OrderedMap (κ α : Type) [Ord κ] where
  /-- The keys with their values, in order. -/
  entries : List (κ × α)
  /-- Every key comes before all those after it. -/
  increasing : entries.Pairwise fun a b => compare a.1 b.1 = .lt

namespace OrderedMap

variable {κ α : Type} [Ord κ]

@[ext] theorem ext' {m n : OrderedMap κ α} (h : m.entries = n.entries) : m = n := by
  cases m; cases n; simp_all

instance [DecidableEq κ] [DecidableEq α] : DecidableEq (OrderedMap κ α) := fun m n =>
  if h : m.entries = n.entries then isTrue (ext' h)
  else isFalse fun e => h (e ▸ rfl)

/-- The map without entries. -/
def empty : OrderedMap κ α := ⟨[], .nil⟩

instance : EmptyCollection (OrderedMap κ α) := ⟨empty⟩

/-- The entries with `k` bound to `v`. -/
def insertEntry (k : κ) (v : α) : List (κ × α) → List (κ × α)
  | [] => [(k, v)]
  | e :: rest =>
    match compare k e.1 with
    | .lt => (k, v) :: e :: rest
    | .eq => (k, v) :: rest
    | .gt => e :: insertEntry k v rest

theorem mem_insertEntry {k : κ} {v : α} {e : κ × α} {l : List (κ × α)}
    (h : e ∈ insertEntry k v l) : e = (k, v) ∨ e ∈ l := by
  induction l with
  | nil => simpa [insertEntry] using h
  | cons d rest ih =>
    simp only [insertEntry] at h
    split at h
    · simpa using h
    · rcases List.mem_cons.1 h with h | h
      · exact .inl h
      · exact .inr (List.mem_cons_of_mem _ h)
    · rcases List.mem_cons.1 h with h | h
      · exact .inr (h ▸ List.mem_cons_self)
      · rcases ih h with h | h
        · exact .inl h
        · exact .inr (List.mem_cons_of_mem _ h)

theorem pairwise_insertEntry [Std.TransOrd κ] (k : κ) (v : α) {l : List (κ × α)}
    (h : l.Pairwise fun a b => compare a.1 b.1 = .lt) :
    (insertEntry k v l).Pairwise fun a b => compare a.1 b.1 = .lt := by
  induction l with
  | nil => simp [insertEntry]
  | cons e rest ih =>
    obtain ⟨hhead, htail⟩ := List.pairwise_cons.1 h
    simp only [insertEntry]
    split
    · rename_i hk
      refine List.pairwise_cons.2 ⟨?_, h⟩
      intro d hd
      rcases List.mem_cons.1 hd with rfl | hd
      · exact hk
      · exact Std.TransCmp.lt_trans hk (hhead d hd)
    · rename_i hk
      refine List.pairwise_cons.2 ⟨?_, htail⟩
      intro d hd
      exact Std.TransCmp.lt_of_eq_of_lt hk (hhead d hd)
    · rename_i hk
      refine List.pairwise_cons.2 ⟨?_, ih htail⟩
      intro d hd
      rcases mem_insertEntry hd with rfl | hd
      · exact Std.OrientedCmp.gt_iff_lt.1 hk
      · exact hhead d hd

/-- The map with `k` bound to `v`. -/
def insert [Std.TransOrd κ] (m : OrderedMap κ α) (k : κ) (v : α) : OrderedMap κ α :=
  ⟨insertEntry k v m.entries, pairwise_insertEntry k v m.increasing⟩

/-- The value at a key. -/
def get? (m : OrderedMap κ α) (k : κ) : Option α :=
  (m.entries.find? fun e => compare k e.1 == .eq).map (·.2)

/-- Whether the key has a value. -/
def contains (m : OrderedMap κ α) (k : κ) : Bool := (m.get? k).isSome

/-- The keys, in order. -/
def keys (m : OrderedMap κ α) : List κ := m.entries.map (·.1)

/-- The number of keys. -/
def size (m : OrderedMap κ α) : Nat := m.entries.length

/-- Whether there is no key. -/
def isEmpty (m : OrderedMap κ α) : Bool := m.entries.isEmpty

/-- The map that binds the listed keys one after another, so that the last one wins. -/
def ofList [Std.TransOrd κ] (l : List (κ × α)) : OrderedMap κ α :=
  l.foldl (fun m e => m.insert e.1 e.2) empty

/-! ### Looking up what was inserted -/

@[simp] theorem get?_empty (k : κ) : (empty : OrderedMap κ α).get? k = none := rfl

theorem find?_insertEntry [Std.TransOrd κ] [Std.LawfulEqOrd κ] [DecidableEq κ] (k x : κ)
    (v : α) (l : List (κ × α)) :
    ((insertEntry k v l).find? fun e => compare x e.1 == .eq).map (·.2) =
      if x = k then some v else (l.find? fun e => compare x e.1 == .eq).map (·.2) := by
  induction l with
  | nil =>
    by_cases hx : x = k
    · subst hx; simp [insertEntry]
    · simp [insertEntry, hx]
  | cons e rest ih =>
    simp only [insertEntry]
    split
    · by_cases hx : x = k
      · subst hx; simp
      · simp [List.find?_cons, hx]
    · rename_i hk
      have hk : k = e.1 := Std.LawfulEqCmp.compare_eq_iff_eq.1 hk
      by_cases hx : x = k
      · subst hx; simp
      · have hxe : x ≠ e.1 := hk ▸ hx
        simp [hx, hxe]
    · rename_i hk
      have hne : k ≠ e.1 := fun h => by simp [h] at hk
      by_cases hxe : x = e.1
      · have hx : x ≠ k := fun h => hne (h ▸ hxe)
        simp [hxe, hne.symm]
      · have hcmp : (compare x e.1 == Ordering.eq) = false := by simp [hxe]
        rw [List.find?_cons, List.find?_cons, hcmp]
        exact ih

theorem get?_insert [Std.TransOrd κ] [Std.LawfulEqOrd κ] [DecidableEq κ]
    (m : OrderedMap κ α) (k x : κ) (v : α) :
    (m.insert k v).get? x = if x = k then some v else m.get? x := by
  simp only [get?, insert, find?_insertEntry]

/-- Listing a map gives its keys in strictly increasing order. -/
theorem pairwise_keys (m : OrderedMap κ α) : m.keys.Pairwise fun a b => compare a b = .lt := by
  simpa [keys, List.pairwise_map] using m.increasing

end OrderedMap

end PgTriage
