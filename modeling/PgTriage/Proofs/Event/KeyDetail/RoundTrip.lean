/-
Details read back.

A detail that is written down column by column and value by value is read back as it was
written, whatever its values hold, as long as all of it stands on one line: the divider is
found behind the columns, none of which holds one, and the parenthesis that ends the values
is the last that a blank follows.

Only on one line, for neither group goes over the end of a line.  A column or a value with a
line feed in it is in no group that is read, so a detail that has one is never read back.
-/
import PgTriage.Proofs.Event.KeyDetail.Entries

namespace PgTriage.KeyDetail

variable {columns values : List String} {trailing : String}

/-- A detail as it is written for these columns and values. -/
def written (columns values : List String) (trailing : String) : String :=
  "Key (" ++ ", ".intercalate columns ++ ")=(" ++ ", ".intercalate values ++ ")" ++ trailing

/-- As many values as columns, and what each may hold. -/
structure Writable (columns values : List String) (trailing : String) : Prop where
  ne_nil : columns ≠ []
  length_eq : columns.length = values.length
  nodup : columns.Nodup
  column_ne : ∀ column ∈ columns, column ≠ ""
  column_trimmed : ∀ column ∈ columns, Text.Trimmed column.toList
  column_comma : ∀ column ∈ columns, ',' ∉ column.toList
  column_divider : ∀ column ∈ columns, ¬ divider <:+: column.toList
  value_trimmed : ∀ value ∈ values, Text.Trimmed value.toList
  value_comma : ∀ value ∈ values, ',' ∉ value.toList
  /-- What follows the values begins with a blank and closes no parenthesis. -/
  trailing_blank : blankNext trailing.toList = true
  trailing_mark : ')' ∉ trailing.toList

/-! ### Texts joined by commas -/

/-- The characters of texts joined by a comma and a space. -/
def joined (texts : List String) : List Char := [',', ' '].intercalate (texts.map String.toList)

theorem joined_cons_cons (text next : String) (texts : List String) :
    joined (text :: next :: texts) = text.toList ++ ',' :: ' ' :: joined (next :: texts) := by
  rw [joined, List.map_cons, List.map_cons, List.intercalate_cons_cons, List.append_assoc]
  rfl

theorem mem_joined {c : Char} {texts : List String} (h : c ∈ joined texts) :
    c = ',' ∨ c = ' ' ∨ ∃ text ∈ texts, c ∈ text.toList := by
  induction texts with
  | nil => exact absurd h List.not_mem_nil
  | cons text texts ih =>
      cases texts with
      | nil => exact .inr (.inr ⟨text, List.mem_cons_self, by simpa [joined] using h⟩)
      | cons next texts =>
          rw [joined_cons_cons, List.mem_append, List.mem_cons, List.mem_cons] at h
          rcases h with h | h | h | h
          · exact .inr (.inr ⟨text, List.mem_cons_self, h⟩)
          · exact .inl h
          · exact .inr (.inl h)
          · rcases ih h with h | h | ⟨other, hother, h⟩
            · exact .inl h
            · exact .inr (.inl h)
            · exact .inr (.inr ⟨other, List.mem_cons_of_mem text hother, h⟩)

theorem not_mem_joined {c : Char} {texts : List String} (hcomma : c ≠ ',') (hspace : c ≠ ' ')
    (h : ∀ text ∈ texts, c ∉ text.toList) : c ∉ joined texts := by
  intro hmem
  rcases mem_joined hmem with hc | hc | ⟨text, htext, hc⟩
  · exact hcomma hc
  · exact hspace hc
  · exact h text htext hc

theorem splitAt_joined {text : String} {texts : List String}
    (h : ∀ t ∈ text :: texts, ',' ∉ t.toList) :
    Text.splitAt ',' (joined (text :: texts)) =
      text.toList :: texts.map fun t => ' ' :: t.toList := by
  symm
  rw [← Text.piecesOf_iff]
  refine ⟨?_, ?_, List.cons_ne_nil _ _⟩
  · intro piece hpiece
    rcases List.mem_cons.1 hpiece with rfl | hpiece
    · exact h text List.mem_cons_self
    · obtain ⟨t, ht, rfl⟩ := List.mem_map.1 hpiece
      simpa using h t (List.mem_cons_of_mem text ht)
  · clear h
    induction texts generalizing text with
    | nil => simp [joined]
    | cons next texts ih =>
        rw [List.map_cons, List.intercalate_cons_cons, joined_cons_cons, ← ih]
        cases texts <;> simp [List.intercalate_cons_cons]

theorem entries_joined {texts : List String} (hne : texts ≠ [])
    (hcomma : ∀ t ∈ texts, ',' ∉ t.toList) (htrimmed : ∀ t ∈ texts, Text.Trimmed t.toList) :
    entries (joined texts) = texts := by
  obtain ⟨text, texts, rfl⟩ := List.exists_cons_of_ne_nil hne
  have hspace : ∀ t : String, Text.trimChars (' ' :: t.toList) = Text.trimChars t.toList := by
    intro t
    have h : Text.trimChars ([' '] ++ t.toList ++ []) = Text.trimChars t.toList :=
      Text.trimChars_append (List.forall_mem_singleton.2 rfl) (by simp) t.toList
    rwa [List.append_nil] at h
  have htrim : ∀ t ∈ text :: texts, String.ofList (Text.trimChars t.toList) = t := by
    intro t ht
    rw [(htrimmed t ht).trimChars_eq, String.ofList_toList]
  rw [entries, splitAt_joined hcomma, List.map_cons, List.map_map,
    htrim text List.mem_cons_self]
  refine congrArg (text :: ·) ?_
  refine (List.map_congr_left fun t ht => ?_).trans (List.map_id texts)
  rw [Function.comp_apply, hspace, htrim t (List.mem_cons_of_mem text ht), id]

/-! ### No divider but the one that is written -/

theorem infix_of_infix_append_cons {α : Type} {word before after : List α} {x : α} (hx : x ∉ word)
    (h : word <:+: before ++ x :: after) : word <:+: before ∨ word <:+: after := by
  rcases List.infix_append_iff.1 h with h | h | ⟨front, back, rfl, hfront, hback⟩
  · exact .inl h
  · rcases List.infix_cons_iff.1 h with h | h
    · cases word with
      | nil => exact .inr (List.nil_infix)
      | cons a word =>
          obtain rfl := (List.cons_prefix_cons.1 h).1
          exact absurd List.mem_cons_self hx
    · exact .inr h
  · cases back with
    | nil =>
        rw [List.append_nil]
        exact .inl hfront.isInfix
    | cons a back =>
        obtain rfl := (List.cons_prefix_cons.1 hback).1
        exact absurd (List.mem_append_right front List.mem_cons_self) hx

/-- The divider has no comma and no space, so joining texts makes none. -/
theorem exists_divider_infix {texts : List String} (h : divider <:+: joined texts) :
    ∃ text ∈ texts, divider <:+: text.toList := by
  induction texts with
  | nil => exact absurd (List.infix_nil.1 h) (by decide)
  | cons text texts ih =>
      cases texts with
      | nil => exact ⟨text, List.mem_cons_self, by simpa [joined] using h⟩
      | cons next texts =>
          rw [joined_cons_cons] at h
          rcases infix_of_infix_append_cons (by decide) h with h | h
          · exact ⟨text, List.mem_cons_self, h⟩
          · have hspace : divider <:+: [] ++ ' ' :: joined (next :: texts) := h
            rcases infix_of_infix_append_cons (by decide) hspace with h | h
            · exact absurd (List.infix_nil.1 h) (by decide)
            · obtain ⟨other, hother, h⟩ := ih h
              exact ⟨other, List.mem_cons_of_mem text hother, h⟩

/-- The divider shares no end with its beginning, so the first one after a text without any stands
right behind it. -/
theorem length_le_of_cutsAt {cs more before after : List Char} (h : ¬ divider <:+: cs)
    (hcuts : Text.CutsAt divider (cs ++ divider ++ more) before after) :
    cs.length ≤ before.length := by
  obtain ⟨htext, -⟩ := hcuts
  rw [List.append_assoc, List.append_assoc] at htext
  rcases List.append_eq_append_iff.1 htext with ⟨gap, rfl, -⟩ | ⟨gap, rfl, hgap⟩
  · simp
  · -- A gap of one or two characters would have the divider begin with its own end.
    rcases gap with _ | ⟨a, _ | ⟨b, _ | ⟨c, gap⟩⟩⟩
    · simp
    · simp [divider] at hgap
    · simp [divider] at hgap
    · simp only [divider, List.cons_append, List.nil_append, List.cons.injEq] at hgap
      obtain ⟨rfl, rfl, rfl, -⟩ := hgap
      exact absurd ⟨before, gap, by simp [divider]⟩ h

/-! ### Written and read back -/

theorem toList_written (columns values : List String) (trailing : String) :
    (written columns values trailing).toList = "Key (".toList ++
      (joined columns ++ divider ++ (joined values ++ ')' :: trailing.toList)) := by
  simp [written, joined, divider]

theorem Writable.joined_ne_nil (h : Writable columns values trailing) : joined columns ≠ [] := by
  obtain ⟨column, columns, rfl⟩ := List.exists_cons_of_ne_nil h.ne_nil
  have hcolumn := h.column_ne column List.mem_cons_self
  rw [Ne, ← String.toList_eq_nil_iff] at hcolumn
  cases columns with
  | nil => simpa [joined] using hcolumn
  | cons next columns =>
      rw [joined_cons_cons]
      exact List.append_ne_nil_of_left_ne_nil hcolumn _

theorem Writable.endsAtLastMark (h : Writable columns values trailing)
    (hvalues : ∀ value ∈ values, '\n' ∉ value.toList) :
    Text.EndsAtLastMark ')' blankNext (joined values ++ ')' :: trailing.toList)
      (joined values) := by
  refine ⟨⟨not_mem_joined (by decide) (by decide) hvalues, _, rfl, h.trailing_blank⟩, ?_⟩
  rintro other ⟨-, rest, htext, -⟩
  rcases List.append_eq_append_iff.1 htext with ⟨gap, rfl, hgap⟩ | ⟨gap, hgap, -⟩
  · cases gap with
    | nil => simp
    | cons c gap =>
        rw [List.cons_append, List.cons.injEq] at hgap
        have hmark : ')' ∈ trailing.toList := by simp [hgap.2]
        exact absurd hmark h.trailing_mark
  · simp [hgap]

theorem Writable.hasGroups (h : Writable columns values trailing)
    (hline : ∀ text ∈ columns ++ values, '\n' ∉ text.toList) :
    HasGroups (written columns values trailing) ⟨joined columns, joined values⟩ := by
  have hcolumns : ∀ column ∈ columns, '\n' ∉ column.toList := fun column hmem =>
    hline column (List.mem_append_left values hmem)
  have hvalues : ∀ value ∈ values, '\n' ∉ value.toList := fun value hmem =>
    hline value (List.mem_append_right columns hmem)
  refine ⟨_, _, ⟨[], by simp, toList_written columns values trailing⟩, ⟨⟨⟨rfl, ?_⟩, ?_⟩, ?_⟩, ?_⟩
  · exact not_mem_joined (by decide) (by decide) hcolumns
  · exact h.joined_ne_nil
  · rintro columns' after' ⟨hcuts, -⟩
    refine length_le_of_cutsAt (fun hinfix => ?_) hcuts
    obtain ⟨column, hcolumn, hinfix⟩ := exists_divider_infix hinfix
    exact h.column_divider column hcolumn hinfix
  · exact .beforeBlank (h.endsAtLastMark hvalues)

theorem Writable.entries_parse (h : Writable columns values trailing)
    (hline : ∀ text ∈ columns ++ values, '\n' ∉ text.toList) :
    (parse (some (written columns values trailing))).entries = columns.zip values := by
  have hvalues_ne : values ≠ [] := by
    intro hnil
    have hlength := h.length_eq
    rw [hnil, List.length_nil, List.length_eq_zero_iff] at hlength
    exact h.ne_nil hlength
  have hcolumns := entries_joined h.ne_nil h.column_comma h.column_trimmed
  have hvalues := entries_joined hvalues_ne h.value_comma h.value_trimmed
  have hnodup : ((columns.zip values).map (·.1)).Nodup := by
    rw [List.map_fst_zip (Nat.le_of_eq h.length_eq)]
    exact h.nodup
  rw [parse, Option.bind_some, groups?_eq_some_iff.2 (h.hasGroups hline)]
  simp only [hcolumns, hvalues, if_pos h.length_eq]
  exact InvalidValues.entries_ofList hnodup

/-- **What is written is read back exactly where all of it stands on one line.** -/
theorem entries_parse_written_iff (h : Writable columns values trailing) :
    (parse (some (written columns values trailing))).entries = columns.zip values ↔
      ∀ text ∈ columns ++ values, '\n' ∉ text.toList := by
  have hfst : (columns.zip values).map (·.1) = columns :=
    List.map_fst_zip (Nat.le_of_eq h.length_eq)
  have hsnd : (columns.zip values).map (·.2) = values :=
    List.map_snd_zip (Nat.le_of_eq h.length_eq.symm)
  refine ⟨fun hback text htext => ?_, h.entries_parse⟩
  rcases List.mem_append.1 htext with hcolumn | hvalue
  · rw [← hfst, ← hback] at hcolumn
    obtain ⟨e, he, rfl⟩ := List.mem_map.1 hcolumn
    exact (isEntry_of_mem_entries_parse he).1.line
  · rw [← hsnd, ← hback] at hvalue
    obtain ⟨e, he, rfl⟩ := List.mem_map.1 hvalue
    exact (isEntry_of_mem_entries_parse he).2.line

/-- Parentheses and a divider among the values are read back, and so is a value left empty. -/
theorem entries_parse_written_nested :
    Writable ["a", "b"] ["", "x) y)=(z"] " is gone." ∧
      (parse (some (written ["a", "b"] ["", "x) y)=(z"] " is gone."))).entries =
        [("a", ""), ("b", "x) y)=(z")] := by
  have h : Writable ["a", "b"] ["", "x) y)=(z"] " is gone." := by
    constructor <;> decide
  exact ⟨h, (entries_parse_written_iff h).2 (by decide)⟩

/-- Of a detail with a line feed in a value nothing is told. -/
theorem parse_written_line_feed :
    Writable ["name"] ["a\nb"] " already exists." ∧
      written ["name"] ["a\nb"] " already exists." = "Key (name)=(a\nb) already exists." ∧
      parse (some (written ["name"] ["a\nb"] " already exists.")) = .empty ∧
      InvalidValues.empty.entries ≠ ["name"].zip ["a\nb"] := by
  refine ⟨?_, by decide, by decide, by decide⟩
  constructor <;> decide

end PgTriage.KeyDetail
