/-
Entries under keys.

Values under keys stand in a list.  A value put under a key takes the place of the one
there, and under a new key it goes to the end, so the list keeps each key once if it did
before.  Tables of a configuration, documents under construction and the values of a
violated constraint are all lists of this kind.
-/
import Mathlib.Data.List.Induction
import Mathlib.Data.List.Nodup

namespace PgTriage

/-- A place in a longer list is its end or a place before. -/
theorem concat_eq_append_cons_iff {α : Type} {l before after : List α} {e x : α} :
    l ++ [e] = before ++ x :: after ↔
      (l = before ∧ e = x ∧ after = []) ∨
        ∃ rest, after = rest ++ [e] ∧ l = before ++ x :: rest := by
  cases after using List.reverseRecOn with
  | nil => simp
  | append_singleton rest d =>
      rw [← List.cons_append, ← List.append_assoc, List.append_singleton_inj]
      constructor
      · intro h
        obtain ⟨rfl, rfl⟩ := h
        exact .inr ⟨rest, rfl, rfl⟩
      · intro h
        rcases h with ⟨-, -, hnil⟩ | ⟨rest', hrest, rfl⟩
        · simp at hnil
        · obtain ⟨rfl, rfl⟩ := List.append_singleton_inj.1 hrest
          exact ⟨rfl, rfl⟩

/-- Where at most one element passes a test, a search for it finds that one. -/
theorem find?_eq_some_iff_of_unique {α : Type} {l : List α} {p : α → Bool} {a : α}
    (h : ∀ a ∈ l, ∀ b ∈ l, p a = true → p b = true → a = b) :
    l.find? p = some a ↔ a ∈ l ∧ p a = true := by
  constructor
  · intro hfind
    exact ⟨List.mem_of_find?_eq_some hfind, List.find?_some hfind⟩
  · intro ha
    obtain ⟨b, hfind⟩ := Option.isSome_iff_exists.1 (List.find?_isSome.2 ⟨a, ha⟩)
    rw [hfind, h b (List.mem_of_find?_eq_some hfind) a ha.1 (List.find?_some hfind) ha.2]

namespace Entries

/-! ### The last entry -/

section Last

variable {κ ι α : Type} {f : κ → ι} {l : List (κ × α)} {e : κ × α} {key : ι} {v : α}

/-- The last entry whose key comes to this one has this value. -/
def LastUnder (f : κ → ι) (l : List (κ × α)) (key : ι) (v : α) : Prop :=
  ∃ before k after, l = before ++ (k, v) :: after ∧ f k = key ∧ ∀ e ∈ after, f e.1 ≠ key

theorem not_lastUnder_nil : ¬ LastUnder f ([] : List (κ × α)) key v := by
  intro h
  obtain ⟨before, k, after, hsplit, -⟩ := h
  simp at hsplit

/-- An entry at the end is the last for what its key comes to, and for nothing else. -/
theorem lastUnder_concat_iff [DecidableEq ι] :
    LastUnder f (l ++ [e]) key v ↔ if key = f e.1 then v = e.2 else LastUnder f l key v := by
  by_cases hkey : key = f e.1
  · rw [if_pos hkey]
    constructor
    · intro h
      obtain ⟨before, k, after, hsplit, -, hafter⟩ := h
      rcases concat_eq_append_cons_iff.1 hsplit with ⟨-, rfl, -⟩ | ⟨rest, rfl, -⟩
      · rfl
      · exact absurd hkey.symm (hafter e (by simp))
    · intro h
      exact ⟨l, e.1, [], by rw [h], hkey.symm, by simp⟩
  · rw [if_neg hkey]
    constructor
    · intro h
      obtain ⟨before, k, after, hsplit, hk, hafter⟩ := h
      rcases concat_eq_append_cons_iff.1 hsplit with ⟨-, rfl, -⟩ | ⟨rest, rfl, hrest⟩
      · exact absurd hk.symm hkey
      · exact ⟨before, k, rest, hrest, hk, fun d hd => hafter d (by simp [hd])⟩
    · intro h
      obtain ⟨before, k, after, rfl, hk, hafter⟩ := h
      refine ⟨before, k, after ++ [e], by simp, hk, ?_⟩
      intro d hd
      rcases List.mem_append.1 hd with hd | hd
      · exact hafter d hd
      · rw [List.mem_singleton.1 hd]
        exact fun h => hkey h.symm

end Last

/-! ### Looking a key up -/

variable {κ α : Type} [DecidableEq κ] {l : List (κ × α)} {k k' : κ} {v : α}

/-- The value under a key. -/
def get? (l : List (κ × α)) (k : κ) : Option α := (l.find? fun e => e.1 = k).map (·.2)

/-- The entries with a value under a key. -/
def put (k : κ) (v : α) : List (κ × α) → List (κ × α)
  | [] => [(k, v)]
  | e :: rest => if e.1 = k then (k, v) :: rest else e :: put k v rest

theorem get?_cons (e : κ × α) (l : List (κ × α)) (k : κ) :
    get? (e :: l) k = if e.1 = k then some e.2 else get? l k := by
  unfold get?
  by_cases h : e.1 = k
  · rw [List.find?_cons_of_pos (by simpa using h), if_pos h, Option.map_some]
  · rw [List.find?_cons_of_neg (by simpa using h), if_neg h]

theorem get?_eq_none_iff : get? l k = none ↔ k ∉ l.map (·.1) := by
  rw [get?, Option.map_eq_none_iff, List.find?_eq_none]
  simp only [decide_eq_true_eq, List.mem_map, not_exists, not_and]

theorem mem_of_get? (h : get? l k = some v) : (k, v) ∈ l := by
  obtain ⟨e, hfind, rfl⟩ := Option.map_eq_some_iff.1 h
  have hk : e.1 = k := by simpa using List.find?_some hfind
  rw [← hk]
  exact List.mem_of_find?_eq_some hfind

omit [DecidableEq κ] in
/-- Where a key has one entry, a search for the key finds the value of that entry. -/
theorem map_find?_eq_some_iff {p : κ × α → Bool} (hp : ∀ e, p e = true ↔ e.1 = k)
    (hl : ∀ e ∈ l, ∀ d ∈ l, e.1 = d.1 → e = d) :
    (l.find? p).map (·.2) = some v ↔ (k, v) ∈ l := by
  have hunique : ∀ e ∈ l, ∀ d ∈ l, p e = true → p d = true → e = d := by
    intro e he d hd hpe hpd
    exact hl e he d hd (((hp e).1 hpe).trans ((hp d).1 hpd).symm)
  simp only [Option.map_eq_some_iff, find?_eq_some_iff_of_unique hunique, hp]
  constructor
  · intro h
    obtain ⟨e, ⟨he, rfl⟩, rfl⟩ := h
    exact he
  · intro h
    exact ⟨(k, v), ⟨h, rfl⟩, rfl⟩

/-- Where no key comes twice, every value is found under its key. -/
theorem get?_of_mem (hl : (l.map (·.1)).Nodup) (h : (k, v) ∈ l) : get? l k = some v := by
  have hone : ∀ e ∈ l, ∀ d ∈ l, e.1 = d.1 → e = d := by
    intro e he d hd
    exact List.inj_on_of_nodup_map hl he hd
  exact (map_find?_eq_some_iff (fun e => decide_eq_true_iff) hone).2 h

/-! ### Putting a value under a key -/

theorem get?_put (k : κ) (v : α) (l : List (κ × α)) (k' : κ) :
    get? (put k v l) k' = if k' = k then some v else get? l k' := by
  induction l with
  | nil => simp [put, get?, eq_comm]
  | cons e rest ih =>
      unfold put
      by_cases he : e.1 = k
      · rw [if_pos he, get?_cons, get?_cons, he]
        by_cases hk : k' = k
        · rw [if_pos hk.symm, if_pos hk]
        · rw [if_neg (Ne.symm hk), if_neg hk, if_neg (Ne.symm hk)]
      · rw [if_neg he, get?_cons, get?_cons, ih]
        by_cases hk : k' = k
        · rw [if_pos hk, if_pos hk, if_neg (by rwa [hk])]
        · rw [if_neg hk, if_neg hk]

theorem map_fst_put (k : κ) (v : α) (l : List (κ × α)) :
    (put k v l).map (·.1) = if k ∈ l.map (·.1) then l.map (·.1) else l.map (·.1) ++ [k] := by
  induction l with
  | nil => simp [put]
  | cons e rest ih =>
      unfold put
      by_cases he : e.1 = k
      · rw [if_pos he]
        simp [he]
      · rw [if_neg he, List.map_cons, ih]
        have hmem : k ∈ (e :: rest).map (·.1) ↔ k ∈ rest.map (·.1) := by
          rw [List.map_cons, List.mem_cons, or_iff_right (Ne.symm he)]
        by_cases hk : k ∈ rest.map (·.1)
        · rw [if_pos hk, if_pos (hmem.2 hk), List.map_cons]
        · rw [if_neg hk, if_neg (mt hmem.1 hk), List.map_cons, List.cons_append]

theorem nodup_put (hl : (l.map (·.1)).Nodup) : ((put k v l).map (·.1)).Nodup := by
  rw [map_fst_put]
  by_cases hk : k ∈ l.map (·.1)
  · rwa [if_pos hk]
  · rw [if_neg hk]
    exact List.nodup_append.2 ⟨hl, List.nodup_singleton k, by
      intro a ha b hb hab
      rw [List.mem_singleton.1 hb] at hab
      exact hk (hab ▸ ha)⟩

theorem mem_of_mem_put {e : κ × α} (h : e ∈ put k v l) : e = (k, v) ∨ e ∈ l := by
  induction l with
  | nil => exact .inl (List.mem_singleton.1 h)
  | cons d rest ih =>
      unfold put at h
      by_cases hd : d.1 = k
      · rw [if_pos hd] at h
        exact (List.mem_cons.1 h).imp_right (List.mem_cons_of_mem d)
      · rw [if_neg hd] at h
        rcases List.mem_cons.1 h with rfl | hrest
        · exact .inr List.mem_cons_self
        · exact (ih hrest).imp_right (List.mem_cons_of_mem d)

theorem put_of_not_mem (h : k ∉ l.map (·.1)) : put k v l = l ++ [(k, v)] := by
  induction l with
  | nil => rfl
  | cons e rest ih =>
      rw [List.map_cons, List.mem_cons, not_or] at h
      unfold put
      rw [if_neg (Ne.symm h.1), ih h.2, List.cons_append]

/-- Under a key that is there, one place takes the value and no other place changes. -/
theorem exists_put_eq_set (h : k ∈ l.map (·.1)) :
    ∃ i old, l[i]? = some (k, old) ∧ put k v l = l.set i (k, v) := by
  induction l with
  | nil => exact absurd h List.not_mem_nil
  | cons e rest ih =>
      unfold put
      by_cases he : e.1 = k
      · exact ⟨0, e.2, by simp [← he], by rw [if_pos he, List.set_cons_zero]⟩
      · rw [List.map_cons, List.mem_cons, or_iff_right (Ne.symm he)] at h
        obtain ⟨i, old, hi, hput⟩ := ih h
        exact ⟨i + 1, old, by rw [List.getElem?_cons_succ, hi],
          by rw [if_neg he, hput, List.set_cons_succ]⟩

/-- Lists with the same keys in the same order, each once, are equal if they answer alike. -/
theorem ext_get? {l' : List (κ × α)} (hl : (l.map (·.1)).Nodup)
    (hkeys : l.map (·.1) = l'.map (·.1)) (hget : ∀ k, get? l k = get? l' k) : l = l' := by
  induction l generalizing l' with
  | nil => exact (List.map_eq_nil_iff.1 hkeys.symm).symm
  | cons e rest ih =>
      cases l' with
      | nil => simp at hkeys
      | cons e' rest' =>
          obtain ⟨hkey, hkeys⟩ : e.1 = e'.1 ∧ rest.map (·.1) = rest'.map (·.1) :=
            List.cons_eq_cons.1 hkeys
          rw [List.map_cons, List.nodup_cons] at hl
          have hvalue : e.2 = e'.2 := by
            have h := hget e.1
            rw [get?_cons, get?_cons, if_pos rfl, if_pos hkey.symm] at h
            exact Option.some.inj h
          have hrest : rest = rest' := by
            refine ih hl.2 hkeys fun k => ?_
            have h := hget k
            rw [get?_cons, get?_cons] at h
            by_cases hk : e.1 = k
            · rw [get?_eq_none_iff.2 (hk ▸ hl.1), get?_eq_none_iff.2 (hk ▸ hkeys ▸ hl.1)]
            · rwa [if_neg hk, if_neg (by rwa [← hkey])] at h
          rw [hrest, Prod.ext hkey hvalue]

/-! ### Entries that are all sound -/

/-- Each key stands once, and what is said of values holds of every value. -/
structure Each (P : α → Prop) (l : List (κ × α)) : Prop where
  keys : (l.map (·.1)).Nodup
  values : ∀ e ∈ l, P e.2

namespace Each

omit [DecidableEq κ] in
theorem nil (P : α → Prop) : Each P ([] : List (κ × α)) := ⟨List.nodup_nil, by simp⟩

omit [DecidableEq κ] in
theorem singleton {P : α → Prop} (h : P v) : Each P [(k, v)] :=
  ⟨List.nodup_singleton k, by simpa using h⟩

theorem get? {P : α → Prop} (hl : Each P l) (h : Entries.get? l k = some v) : P v :=
  hl.values (k, v) (mem_of_get? h)

theorem put {P : α → Prop} (hl : Each P l) (hv : P v) : Each P (Entries.put k v l) := by
  refine ⟨nodup_put hl.keys, ?_⟩
  intro e he
  rcases mem_of_mem_put he with rfl | he
  · exact hv
  · exact hl.values e he

end Each

end Entries

end PgTriage
