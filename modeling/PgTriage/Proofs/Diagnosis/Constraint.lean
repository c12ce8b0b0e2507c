/-
What a constraint is made of.

A constraint is refused for a blank table and for nothing else.  Its columns come out
trimmed, and the ones left out are those that were blank before trimming.  So of columns
that are trimmed when they are given only the blank ones are lost.
-/
import PgTriage.Diagnosis.Constraint
import PgTriage.Proofs.Text.Blank

namespace PgTriage.Constraint

theorem cleanColumns_eq (columns : List String) :
    cleanColumns columns = (columns.filter fun column => !Text.blank column).map Text.trim := by
  rw [cleanColumns, List.filter_map]
  refine congrArg (List.map Text.trim) (List.filter_congr fun column _ => ?_)
  rw [Function.comp_apply, Text.isEmpty_trim]

/-- The columns that are kept are trimmed, and something is left of each. -/
theorem trimmed_of_mem_cleanColumns {columns : List String} {column : String}
    (h : column ∈ cleanColumns columns) : column ≠ "" ∧ Text.Trimmed column.toList := by
  rw [cleanColumns, List.mem_filter, List.mem_map] at h
  obtain ⟨⟨given, -, rfl⟩, hne⟩ := h
  refine ⟨by simpa using hne, ?_⟩
  rw [Text.trim, String.toList_ofList]
  exact Text.trimmed_trimChars given.toList

/-- Of columns that are trimmed already only the blank ones go. -/
theorem cleanColumns_of_trimmed {columns : List String}
    (h : ∀ column ∈ columns, Text.Trimmed column.toList) :
    cleanColumns columns = columns.filter fun column => !Text.blank column := by
  rw [cleanColumns_eq]
  refine (List.map_congr_left fun column hmem => ?_).trans (List.map_id _)
  rw [Text.trim, (h column (List.mem_of_mem_filter hmem)).trimChars_eq, String.ofList_toList, id]

theorem make_of_blank {kind : ConstraintKind} {name : Option String} {table : String}
    {columns : List String} (h : Text.blank table = true) :
    make kind name table columns = .error .blankTable := by
  rw [make, dif_neg (by simp [h])]

theorem make_of_not_blank {kind : ConstraintKind} {name : Option String} {table : String}
    {columns : List String} (h : Text.blank table = false) :
    make kind name table columns = .ok ⟨kind, name, table, cleanColumns columns, h⟩ := by
  rw [make, dif_pos h]

end PgTriage.Constraint
