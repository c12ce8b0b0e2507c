/-
What the entries of a detail are like.

A group stands on one line and is cut at every comma, and each piece is trimmed.  So an
entry has no line feed, no comma and no blank end, be it a column or a value.  Trimming it
again changes nothing, and it is blank only if it is empty: the columns of a detail need no
cleaning but for the empty ones.

All entries come of the groups, because values are gathered from the pairs they make up.
-/
import PgTriage.Proofs.Event.KeyDetail.Reading

namespace PgTriage.KeyDetail

variable {detail : Option String} {group : List Char} {text : String}

/-- The text could be an entry of a group. -/
structure IsEntry (text : String) : Prop where
  trimmed : Text.Trimmed text.toList
  comma : ',' ∉ text.toList
  line : '\n' ∉ text.toList

instance (text : String) : Decidable (IsEntry text) :=
  decidable_of_iff (Text.Trimmed text.toList ∧ ',' ∉ text.toList ∧ '\n' ∉ text.toList)
    ⟨fun h => ⟨h.1, h.2.1, h.2.2⟩, fun h => ⟨h.trimmed, h.comma, h.line⟩⟩

/-! ### The entries of a group -/

theorem mem_of_mem_entries {c : Char} (h : text ∈ entries group) (hc : c ∈ text.toList) :
    c ∈ group ∧ c ≠ ',' := by
  obtain ⟨piece, hpiece, rfl⟩ := List.mem_map.1 h
  rw [String.toList_ofList] at hc
  exact Text.mem_of_mem_splitAt hpiece (Text.mem_of_mem_trimChars hc)

theorem trimmed_of_mem_entries (h : text ∈ entries group) : Text.Trimmed text.toList := by
  obtain ⟨piece, -, rfl⟩ := List.mem_map.1 h
  rw [String.toList_ofList]
  exact Text.trimmed_trimChars piece

theorem isEntry_of_mem_entries (hline : '\n' ∉ group) (h : text ∈ entries group) :
    IsEntry text where
  trimmed := trimmed_of_mem_entries h
  comma := fun hc => (mem_of_mem_entries h hc).2 rfl
  line := fun hc => hline (mem_of_mem_entries h hc).1

/-- No group goes over the end of a line. -/
theorem HasGroups.not_mem {detail : String} {g : Groups} (h : HasGroups detail g) :
    '\n' ∉ g.columns ∧ '\n' ∉ g.values := by
  obtain ⟨rest, after, -, ⟨⟨hcuts, -⟩, -⟩, hvalues⟩ := h
  refine ⟨hcuts.2, ?_⟩
  rcases hvalues with hends | ⟨-, hends⟩
  · exact hends.1.1
  · exact hends.1.1

/-! ### The entries of a detail -/

/-- Whatever a detail tells is an entry. -/
theorem isEntry_of_mem_entries_parse {e : String × String} (h : e ∈ (parse detail).entries) :
    IsEntry e.1 ∧ IsEntry e.2 := by
  rcases parse_cases detail with ⟨-, hparse⟩ | ⟨text, g, -, hgroups, -, hparse⟩
  · rw [hparse] at h
    exact absurd h List.not_mem_nil
  · rw [hparse] at h
    obtain ⟨hcolumn, hvalue⟩ := List.of_mem_zip (InvalidValues.mem_of_mem_entries_ofList h)
    exact ⟨isEntry_of_mem_entries hgroups.not_mem.1 hcolumn,
      isEntry_of_mem_entries hgroups.not_mem.2 hvalue⟩

theorem nodup_columns (detail : Option String) : (columns detail).Nodup := by
  rw [columns]
  rcases parse_cases detail with ⟨-, hparse⟩ | ⟨text, g, -, -, -, hparse⟩
  · rw [hparse]
    exact List.nodup_nil
  · rw [hparse]
    exact InvalidValues.nodup_columns_ofList _

theorem parse_of_not_tellsPairs (h : ¬ TellsPairs detail) : parse detail = .empty := by
  rcases parse_cases detail with ⟨-, hparse⟩ | ⟨text, g, hdetail, hgroups, hlength, -⟩
  · exact hparse
  · exact absurd ⟨text, g, _, _, hdetail, hgroups, tokens_iff.2 rfl, tokens_iff.2 rfl, hlength⟩ h

theorem trimmed_of_mem_columns {column : String} (h : column ∈ columns detail) :
    Text.Trimmed column.toList := by
  obtain ⟨e, he, rfl⟩ := List.mem_map.1 h
  exact (isEntry_of_mem_entries_parse he).1.trimmed

end PgTriage.KeyDetail
