/-
The values of a constraint as an ordered map.

The entries are a plain list, and nothing in it keeps the columns apart but the giving of a
value, which looks for the column first.  What is shown of the columns is therefore shown
of one more value: it takes the place of the one there, or it makes an entry at the end.
Columns that stand in the order of their first mention go on doing so, each once.

The order and the answers leave no choice.  Distinct columns that stand in the order of
their first mention stand in one way, and the entries are what the columns answer.  So the
values that are given in turn, those that are collected at once and those that list the
columns in order are the same.
-/
import Mathlib.Data.Finset.Card
import PgTriage.Proofs.Diagnosis.InvalidValues

namespace PgTriage.InvalidValues

/-- What is reached from no values when values are given one after another. -/
inductive GivenInTurn : List (String × String) → InvalidValues → Prop
  | nothing : GivenInTurn [] empty
  | oneMore {pairs : List (String × String)} {values : InvalidValues}
      (h : GivenInTurn pairs values) (column value : String) :
      GivenInTurn (pairs ++ [(column, value)]) (values.insert column value)

/-- The columns that were given, once each and in the order of their first mention, with the
values given last. -/
structure ListsInOrder (pairs : List (String × String)) (values : InvalidValues) : Prop where
  nodup : values.columns.Nodup
  /-- The columns are those that were given. -/
  mem : ∀ column, column ∈ values.columns ↔ column ∈ pairs.map (·.1)
  /-- A column stands before those that were first given after it. -/
  order : values.columns.Pairwise fun a b =>
    (pairs.map (·.1)).idxOf a < (pairs.map (·.1)).idxOf b
  /-- The size counts the distinct columns that were given. -/
  size : values.size = (pairs.map (·.1)).toFinset.card
  /-- A column answers with the value it was given last. -/
  last : ∀ column value, values.get? column = some value ↔ GivenLast pairs column value
  /-- A column that was never given has no answer. -/
  absent : ∀ column, values.get? column = none ↔ column ∉ pairs.map (·.1)
  /-- A value for a column that is there changes the one place of that column. -/
  replaced : ∀ column ∈ values.columns, ∀ value, ∃ i old,
    values.entries[i]? = some (column, old) ∧
      (values.insert column value).entries = values.entries.set i (column, value)

variable {pairs : List (String × String)} {values values' : InvalidValues} {column : String}

/-! ### The order of first mention -/

/-- Of two that are kept, the one mentioned first comes first. -/
theorem pairwise_idxOf_eraseDups (l : List String) :
    l.eraseDups.Pairwise fun a b => l.idxOf a < l.idxOf b := by
  induction l using List.reverseRecOn with
  | nil => exact List.Pairwise.nil
  | append_singleton l x ih =>
      -- Nothing moves among those that were mentioned before.
      have hold : l.eraseDups.Pairwise fun a b => (l ++ [x]).idxOf a < (l ++ [x]).idxOf b := by
        refine ih.imp_of_mem fun ha hb hab => ?_
        rwa [List.idxOf_append_of_mem (List.mem_eraseDups.1 ha),
          List.idxOf_append_of_mem (List.mem_eraseDups.1 hb)]
      rw [List.eraseDups_append]
      by_cases hx : x ∈ l
      · simpa [List.removeAll, hx] using hold
      · have hnew : [x].removeAll l = [x] := by simp [List.removeAll, hx]
        rw [hnew, List.pairwise_append]
        refine ⟨hold, List.pairwise_singleton _ x, ?_⟩
        intro a ha b hb
        rw [List.eq_of_mem_singleton hb, List.idxOf_append_of_mem (List.mem_eraseDups.1 ha),
          List.idxOf_append_of_notMem hx]
        have ha' : l.idxOf a < l.length := List.idxOf_lt_length_of_mem (List.mem_eraseDups.1 ha)
        omega

/-- Columns in the order of their first mention stand in one way. -/
theorem ListsInOrder.columns_eq (h : ListsInOrder pairs values)
    (h' : ListsInOrder pairs values') : values.columns = values'.columns := by
  refine List.Perm.eq_of_pairwise ?_ h.order h'.order ?_
  · intro a b _ _ hab hba
    exact absurd hba (Nat.lt_asymm hab)
  · rw [List.perm_ext_iff_of_nodup h.nodup h'.nodup]
    intro column
    rw [h.mem, h'.mem]

/-! ### Every value that is given -/

theorem givenInTurn_iff : GivenInTurn pairs values ↔ values = ofList pairs := by
  constructor
  · intro h
    induction h with
    | nothing => rfl
    | oneMore _ column value ih => rw [ih, ofList_concat]
  · rintro rfl
    induction pairs using List.reverseRecOn with
    | nil => exact .nothing
    | append_singleton pairs p ih =>
        rw [ofList_concat]
        exact ih.oneMore p.1 p.2

theorem mem_columns_ofList : column ∈ (ofList pairs).columns ↔ column ∈ pairs.map (·.1) := by
  rw [columns_ofList, List.mem_eraseDups]

theorem size_ofList (pairs : List (String × String)) :
    (ofList pairs).size = (pairs.map (·.1)).toFinset.card := by
  have hset : (pairs.map (·.1)).toFinset = (ofList pairs).columns.toFinset := by
    ext column
    rw [List.mem_toFinset, List.mem_toFinset, mem_columns_ofList]
  rw [hset, List.toFinset_card_of_nodup (nodup_columns_ofList pairs), columns, List.length_map,
    size]

/-- A value for a column that is there changes the one place of that column. -/
theorem exists_insert_eq_set (h : column ∈ values.columns) (value : String) :
    ∃ i old, values.entries[i]? = some (column, old) ∧
      (values.insert column value).entries = values.entries.set i (column, value) := by
  obtain ⟨i, old, hi, hput⟩ := Entries.exists_put_eq_set (v := value) h
  exact ⟨i, old, hi, by rw [insert, insertEntry_eq_put, hput]⟩

theorem listsInOrder_ofList (pairs : List (String × String)) :
    ListsInOrder pairs (ofList pairs) where
  nodup := nodup_columns_ofList pairs
  mem := fun _ => mem_columns_ofList
  order := by
    rw [columns_ofList]
    exact pairwise_idxOf_eraseDups _
  size := size_ofList pairs
  last := (gathers_ofList pairs).value
  absent := fun column => by
    rw [← mem_columns_ofList, get?_eq, Entries.get?_eq_none_iff, columns]
  replaced := fun _ h value => exists_insert_eq_set h value

/-- **Values given in turn and values collected at once are those that list the columns in
order.** -/
theorem givenInTurn_iff_listsInOrder :
    (GivenInTurn pairs values ↔ ListsInOrder pairs values) ∧
      (values = ofList pairs ↔ ListsInOrder pairs values) := by
  have hcollected : values = ofList pairs ↔ ListsInOrder pairs values := by
    constructor
    · rintro rfl
      exact listsInOrder_ofList pairs
    · intro h
      have hcolumns : values.columns = (ofList pairs).columns :=
        h.columns_eq (listsInOrder_ofList pairs)
      exact gathers_iff.1 ⟨hcolumns.trans (columns_ofList pairs), h.last⟩
  exact ⟨givenInTurn_iff.trans hcollected, hcollected⟩

end PgTriage.InvalidValues
