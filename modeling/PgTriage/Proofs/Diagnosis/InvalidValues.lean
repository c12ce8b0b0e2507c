/-
What is gathered from values given one after another.

Giving a value is the step: a column that is there keeps its place and takes the new value,
and one that is not goes to the end.  So the columns stand in the order of their first
mention, each once, and each has the value it was given last.  This says all there is to
say, for two lists of values with the same columns in the same order are the same list as
soon as they answer alike.
-/
import PgTriage.Diagnosis.InvalidValues
import PgTriage.Proofs.Entries

namespace PgTriage.InvalidValues

variable {pairs : List (String × String)} {values : InvalidValues} {column value : String}

/-- The value was given to the column, and none after it. -/
def GivenLast (pairs : List (String × String)) (column value : String) : Prop :=
  ∃ before after, pairs = before ++ (column, value) :: after ∧ ∀ p ∈ after, p.1 ≠ column

/-- The columns stand in the order of their first mention, each with the value given last. -/
structure Gathers (pairs : List (String × String)) (values : InvalidValues) : Prop where
  columns : values.columns = (pairs.map (·.1)).eraseDups
  value : ∀ column value, values.get? column = some value ↔ GivenLast pairs column value

/-! ### One more value -/

theorem insertEntry_eq_put (column value : String) (entries : List (String × String)) :
    insertEntry column value entries = Entries.put column value entries := by
  induction entries with
  | nil => rfl
  | cons e rest ih =>
      unfold insertEntry Entries.put
      rw [ih]

theorem get?_eq (values : InvalidValues) (column : String) :
    values.get? column = Entries.get? values.entries column := rfl

/-- A value is found for each column. -/
theorem exists_get?_of_mem_columns (h : column ∈ values.columns) :
    ∃ value, values.get? column = some value := by
  rw [← Option.isSome_iff_exists, Option.isSome_iff_ne_none, get?_eq]
  intro hnone
  exact Entries.get?_eq_none_iff.1 hnone h

theorem get?_insert (values : InvalidValues) (column value key : String) :
    (values.insert column value).get? key =
      if key = column then some value else values.get? key := by
  rw [get?_eq, insert, insertEntry_eq_put, Entries.get?_put, get?_eq]

theorem columns_insert (values : InvalidValues) (column value : String) :
    (values.insert column value).columns =
      if column ∈ values.columns then values.columns else values.columns ++ [column] := by
  rw [columns, insert, insertEntry_eq_put, Entries.map_fst_put, columns]

theorem ofList_concat (pairs : List (String × String)) (p : String × String) :
    ofList (pairs ++ [p]) = (ofList pairs).insert p.1 p.2 := by
  rw [ofList, List.foldl_append, List.foldl_cons, List.foldl_nil, ofList]

/-! ### Every value that is given -/

theorem columns_ofList (pairs : List (String × String)) :
    (ofList pairs).columns = (pairs.map (·.1)).eraseDups := by
  induction pairs using List.reverseRecOn with
  | nil => rfl
  | append_singleton pairs p ih =>
      rw [ofList_concat, columns_insert, ih, List.map_append, List.eraseDups_append]
      by_cases hmem : p.1 ∈ pairs.map (·.1)
      · rw [if_pos (List.mem_eraseDups.2 hmem)]
        simp [List.removeAll, hmem]
      · rw [if_neg (mt List.mem_eraseDups.1 hmem)]
        simp [List.removeAll, hmem, List.eraseDups_cons]

theorem nodup_columns_ofList (pairs : List (String × String)) : (ofList pairs).columns.Nodup := by
  induction pairs using List.reverseRecOn with
  | nil => exact List.nodup_nil
  | append_singleton pairs p ih =>
      rw [ofList_concat, columns, insert, insertEntry_eq_put]
      exact Entries.nodup_put ih

theorem givenLast_iff : GivenLast pairs column value ↔ Entries.LastUnder id pairs column value := by
  constructor
  · intro h
    obtain ⟨before, after, hsplit, hafter⟩ := h
    exact ⟨before, column, after, hsplit, rfl, hafter⟩
  · intro h
    obtain ⟨before, _, after, hsplit, rfl, hafter⟩ := h
    exact ⟨before, after, hsplit, hafter⟩

theorem gathers_ofList (pairs : List (String × String)) : Gathers pairs (ofList pairs) := by
  refine ⟨columns_ofList pairs, fun column value => ?_⟩
  induction pairs using List.reverseRecOn with
  | nil =>
      rw [givenLast_iff]
      exact iff_of_false (by simp [ofList, empty, get?]) Entries.not_lastUnder_nil
  | append_singleton pairs p ih =>
      rw [ofList_concat, get?_insert, givenLast_iff, Entries.lastUnder_concat_iff, id_eq,
        ← givenLast_iff]
      by_cases hp : column = p.1
      · rw [if_pos hp, if_pos hp, Option.some_inj, eq_comm]
      · rw [if_neg hp, if_neg hp, ih]

/-- Gathering has one outcome. -/
theorem gathers_iff : Gathers pairs values ↔ values = ofList pairs := by
  constructor
  · intro h
    have hofList := gathers_ofList pairs
    have hentries : (ofList pairs).entries = values.entries := by
      refine Entries.ext_get? (nodup_columns_ofList pairs) ?_ fun column => ?_
      · exact hofList.columns.trans h.columns.symm
      · refine Option.ext fun value => ?_
        exact (hofList.value column value).trans (h.value column value).symm
    cases values
    exact congrArg InvalidValues.mk hentries.symm
  · rintro rfl
    exact gathers_ofList pairs

theorem mem_of_mem_entries_ofList {e : String × String} (h : e ∈ (ofList pairs).entries) :
    e ∈ pairs := by
  induction pairs using List.reverseRecOn with
  | nil => exact absurd h List.not_mem_nil
  | append_singleton pairs p ih =>
      rw [ofList_concat, insert, insertEntry_eq_put] at h
      rw [List.mem_append, List.mem_singleton]
      exact (Entries.mem_of_mem_put h).elim .inr fun h => .inl (ih h)

/-- Distinct columns are gathered as they are given. -/
theorem entries_ofList (h : (pairs.map (·.1)).Nodup) : (ofList pairs).entries = pairs := by
  induction pairs using List.reverseRecOn with
  | nil => rfl
  | append_singleton pairs p ih =>
      rw [List.map_append, List.nodup_append] at h
      have hentries := ih h.1
      have hnew : p.1 ∉ pairs.map (·.1) := fun hmem => h.2.2 _ hmem _ (by simp) rfl
      rw [ofList_concat, insert, insertEntry_eq_put, hentries, Entries.put_of_not_mem hnew]

end PgTriage.InvalidValues
