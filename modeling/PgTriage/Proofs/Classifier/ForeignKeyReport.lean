/-
Violated foreign keys told by texts alone.

A server that fills in no fields for them names the objects in its texts: the table and the
constraint in the message, the key and the table it refers to in the detail.  Each name is
looked for by the word before it, and a name may hold such a word itself.  What keeps them apart
is that a word counts only with a quote right after it.  So a text may be gone through from quote
to quote, and of what stands between two of them only the end counts.  A table that ends in such
a word is the one exception: its closing quote is then taken for the opening quote of a name.

The table the key refers to is never taken for the violated one, because the message is searched
before the detail.
-/
import PgTriage.Proofs.Classifier.Violation
import PgTriage.Proofs.Event.Evidence
import PgTriage.Proofs.Event.KeyDetail.RoundTrip

namespace PgTriage

/-- What a server says of a row that refers to a key that is not there. -/
structure ForeignKeyReport where
  table : String
  name : String
  columns : List String
  values : List String
  referenced : String

namespace ForeignKeyReport

/-- A name in double quotes, as it is. -/
def inQuotes (name : String) : String := "\"" ++ name ++ "\""

/-- The message of the report. -/
def message (r : ForeignKeyReport) : String :=
  "insert or update on table " ++ inQuotes r.table ++ " violates foreign key constraint " ++
    inQuotes r.name

/-- What the detail says of the key. -/
def missing (r : ForeignKeyReport) : String :=
  " is not present in table " ++ inQuotes r.referenced ++ "."

/-- The detail of the report. -/
def detail (r : ForeignKeyReport) : String := KeyDetail.written r.columns r.values r.missing

/-- What the names and the values may hold. -/
structure WellFormed (r : ForeignKeyReport) : Prop where
  table_not_blank : Text.blank r.table = false
  table_quote : '"' ∉ r.table.toList
  /-- The closing quote of the table opens no name. -/
  table_end : ∀ ending ∈ ["constraint ", "column "], ¬ ending.toList <:+ r.table.toList
  name_ne : r.name ≠ ""
  name_quote : '"' ∉ r.name.toList
  columns_ne : r.columns ≠ []
  length_eq : r.columns.length = r.values.length
  nodup : r.columns.Nodup
  column_ne : ∀ column ∈ r.columns, column ≠ ""
  column_divider : ∀ column ∈ r.columns, ¬ KeyDetail.divider <:+: column.toList
  entry : ∀ text ∈ r.columns ++ r.values, KeyDetail.IsEntry text
  entry_quote : ∀ text ∈ r.columns ++ r.values, '"' ∉ text.toList
  referenced_quote : '"' ∉ r.referenced.toList
  referenced_mark : ')' ∉ r.referenced.toList

/-- The event has the report as its texts, and no fields for the objects. -/
structure ToldBy (r : ForeignKeyReport) (e : Event) : Prop where
  code : e.get? .code = some "23503"
  message : e.get? .message = some r.message
  detail : e.get? .detail = some r.detail
  fields : ∀ kind : ObjectKind, kind ≠ .schema → e.LacksField kind

/-- The violation is the one of the report. -/
structure Describes (r : ForeignKeyReport) (v : Violation) : Prop where
  kind : v.constraint.kind = .foreignKey
  table : v.constraint.table = r.table
  name : v.constraint.name = some r.name
  columns : v.constraint.columns = r.columns
  entries : v.invalidValues.entries = r.columns.zip r.values
  value : ∀ entry ∈ r.columns.zip r.values, v.invalidValues.get? entry.1 = some entry.2

variable {r : ForeignKeyReport} {e : Event}

/-- An event that holds the report and nothing else. -/
theorem toldBy_ofFields (r : ForeignKeyReport) :
    r.ToldBy (.ofFields [(.code, "23503"), (.message, r.message), (.detail, r.detail)]) where
  code := rfl
  message := rfl
  detail := rfl
  fields := by
    intro kind hkind name hname
    cases kind <;> cases hname

/-! ### The texts from quote to quote -/

theorem toList_inQuotes (name : String) :
    (inQuotes name).toList = '"' :: (name.toList ++ ['"']) := by
  simp [inQuotes]

theorem toList_message (r : ForeignKeyReport) :
    r.message.toList = "insert or update on table ".toList ++ '"' :: (r.table.toList ++ '"' ::
      (" violates foreign key constraint ".toList ++ '"' :: (r.name.toList ++ ['"']))) := by
  unfold message
  simp only [String.toList_append, toList_inQuotes, List.append_assoc, List.cons_append,
    List.nil_append]

/-- The detail up to its first quote. -/
def key (r : ForeignKeyReport) : List Char :=
  "Key (".toList ++ (KeyDetail.joined r.columns ++ KeyDetail.divider ++
    (KeyDetail.joined r.values ++ [')']))

theorem toList_missing (r : ForeignKeyReport) :
    r.missing.toList =
      " is not present in table ".toList ++ '"' :: (r.referenced.toList ++ ['"', '.']) := by
  unfold missing
  simp only [String.toList_append, toList_inQuotes, List.append_assoc, List.cons_append,
    List.nil_append]
  rfl

theorem toList_detail (r : ForeignKeyReport) :
    r.detail.toList = (r.key ++ " is not present in table ".toList) ++ '"' ::
      (r.referenced.toList ++ ['"', '.']) := by
  unfold detail key
  simp only [KeyDetail.toList_written, toList_missing, List.append_assoc, List.cons_append,
    List.nil_append]

theorem WellFormed.not_mem_key (h : r.WellFormed) : '"' ∉ r.key := by
  have hcolumns : '"' ∉ KeyDetail.joined r.columns :=
    KeyDetail.not_mem_joined (by decide) (by decide) fun text hmem =>
      h.entry_quote text (List.mem_append_left _ hmem)
  have hvalues : '"' ∉ KeyDetail.joined r.values :=
    KeyDetail.not_mem_joined (by decide) (by decide) fun text hmem =>
      h.entry_quote text (List.mem_append_right _ hmem)
  unfold key
  simp only [List.mem_append, not_or]
  exact ⟨by decide, ⟨hcolumns, by decide⟩, hvalues, by decide⟩

/-! ### The names that are found -/

/-- The table ends in none of the words that the other names are found by. -/
theorem WellFormed.announces_table (h : r.WellFormed) {kind : ObjectKind}
    (hkind : kind = .constraint ∨ kind = .column) :
    Text.announces kind.keywords false r.table.toList = false := by
  refine Text.announces_eq_false fun keyword hkeyword hsuffix => ?_
  rcases hkind with rfl | rfl
  · obtain rfl := List.mem_singleton.1 hkeyword
    exact h.table_end "constraint " (by simp) hsuffix
  · obtain rfl := List.mem_singleton.1 hkeyword
    exact h.table_end "column " (by simp) hsuffix

theorem WellFormed.findName?_table_message (h : r.WellFormed) :
    Text.findName? ObjectKind.table.keywords r.message = some r.table := by
  have hne : r.table.toList ≠ [] := by
    intro hnil
    have hblank := h.table_not_blank
    rw [Text.blank, hnil, List.all_nil] at hblank
    cases hblank
  rw [Text.findName?, toList_message, Text.findNameFrom_of_announces (Event.not_mem_keywords _)
    (by decide) (by decide) hne h.table_quote, Option.map_some, String.ofList_toList]

theorem WellFormed.findName?_constraint_message (h : r.WellFormed) :
    Text.findName? ObjectKind.constraint.keywords r.message = some r.name := by
  have hkeywords := Event.not_mem_keywords .constraint
  have hne : r.name.toList ≠ [] := mt String.toList_eq_nil_iff.1 h.name_ne
  rw [Text.findName?, toList_message,
    Text.findNameFrom_of_not_announces hkeywords (by decide) (by decide),
    Text.findNameFrom_of_not_announces hkeywords h.table_quote (h.announces_table (.inl rfl)),
    Text.findNameFrom_of_announces hkeywords (by decide) (by decide) hne h.name_quote,
    Option.map_some, String.ofList_toList]

theorem WellFormed.findName?_column_message (h : r.WellFormed) :
    Text.findName? ObjectKind.column.keywords r.message = none := by
  have hkeywords := Event.not_mem_keywords .column
  -- The constraint may well end in the keyword: no quote comes after its own.
  rw [Text.findName?, toList_message,
    Text.findNameFrom_of_not_announces hkeywords (by decide) (by decide),
    Text.findNameFrom_of_not_announces hkeywords h.table_quote (h.announces_table (.inr rfl)),
    Text.findNameFrom_of_not_announces hkeywords (by decide) (by decide),
    Text.findNameFrom_of_last_quote hkeywords h.name_quote List.not_mem_nil, Option.map_none]

theorem WellFormed.findName?_column_detail (h : r.WellFormed) :
    Text.findName? ObjectKind.column.keywords r.detail = none := by
  have hkeywords := Event.not_mem_keywords .column
  have hq : '"' ∉ r.key ++ " is not present in table ".toList := by
    rw [List.mem_append, not_or]
    exact ⟨h.not_mem_key, by decide⟩
  have hannounces : Text.announces ObjectKind.column.keywords false
      (r.key ++ " is not present in table ".toList) = false := by
    refine Text.announces_eq_false fun keyword hkeyword hsuffix => ?_
    obtain rfl := List.mem_singleton.1 hkeyword
    -- The words before the quote are longer than the keyword, so what the key holds is no part of it.
    have hshorter := List.suffix_of_suffix_length_le hsuffix
      (List.suffix_append r.key " is not present in table ".toList) (by decide)
    exact absurd hshorter (by decide)
  rw [Text.findName?, toList_detail,
    Text.findNameFrom_of_not_announces hkeywords hq hannounces,
    Text.findNameFrom_of_last_quote hkeywords h.referenced_quote (by decide), Option.map_none]

/-- Without fields the texts tell, the message before the detail. -/
theorem ToldBy.objectName?_eq (he : r.ToldBy e) {kind : ObjectKind} (hkind : kind ≠ .schema) :
    e.objectName? kind =
      (Text.findName? kind.keywords r.message).or (Text.findName? kind.keywords r.detail) := by
  rw [Event.objectName?_eq, Event.fieldName?_eq_none_iff.2 (he.fields kind hkind), he.message,
    he.detail, Option.none_or, Option.bind_some, Option.bind_some]

theorem WellFormed.objectName?_table (h : r.WellFormed) (he : r.ToldBy e) :
    e.objectName? .table = some r.table := by
  rw [he.objectName?_eq (by decide), h.findName?_table_message, Option.some_or]

theorem WellFormed.objectName?_constraint (h : r.WellFormed) (he : r.ToldBy e) :
    e.objectName? .constraint = some r.name := by
  rw [he.objectName?_eq (by decide), h.findName?_constraint_message, Option.some_or]

theorem WellFormed.objectName?_column (h : r.WellFormed) (he : r.ToldBy e) :
    e.objectName? .column = none := by
  rw [he.objectName?_eq (by decide), h.findName?_column_message, h.findName?_column_detail,
    Option.none_or]

/-! ### The violation -/

theorem WellFormed.isEntry_column (h : r.WellFormed) {column : String}
    (hmem : column ∈ r.columns) : KeyDetail.IsEntry column :=
  h.entry column (List.mem_append_left r.values hmem)

theorem WellFormed.isEntry_value (h : r.WellFormed) {value : String}
    (hmem : value ∈ r.values) : KeyDetail.IsEntry value :=
  h.entry value (List.mem_append_right r.columns hmem)

theorem WellFormed.writable (h : r.WellFormed) :
    KeyDetail.Writable r.columns r.values r.missing where
  ne_nil := h.columns_ne
  length_eq := h.length_eq
  nodup := h.nodup
  column_ne := h.column_ne
  column_trimmed := fun _ hmem => (h.isEntry_column hmem).trimmed
  column_comma := fun _ hmem => (h.isEntry_column hmem).comma
  column_divider := h.column_divider
  value_trimmed := fun _ hmem => (h.isEntry_value hmem).trimmed
  value_comma := fun _ hmem => (h.isEntry_value hmem).comma
  trailing_blank := by
    rw [toList_missing]
    rfl
  trailing_mark := by
    rw [toList_missing, List.mem_append, not_or]
    exact ⟨by decide, by simp [h.referenced_mark]⟩

theorem WellFormed.not_blank_column (h : r.WellFormed) {column : String}
    (hmem : column ∈ r.columns) : Text.blank column = false := by
  have htrimmed := (h.isEntry_column hmem).trimmed.trimChars_eq
  have hne : column.toList ≠ [] := mt String.toList_eq_nil_iff.1 (h.column_ne column hmem)
  rw [← Bool.not_eq_true, Text.blank, List.all_eq_true, ← Text.trimChars_eq_nil_iff, htrimmed]
  exact hne

theorem WellFormed.describes (h : r.WellFormed) (he : r.ToldBy e) {settings : Settings}
    {v : Violation} (hv : e.TellsViolation settings v) : r.Describes v := by
  have hentries : v.invalidValues.entries = r.columns.zip r.values := by
    rw [hv.invalidValues, Event.detail?, he.detail]
    exact h.writable.entries_parse fun text hmem => (h.entry text hmem).line
  have hcolumns : v.invalidValues.columns = r.columns := by
    rw [InvalidValues.columns, hentries, List.map_fst_zip (Nat.le_of_eq h.length_eq)]
  exact
    { kind := by
        rw [hv.kind, Event.demandedKind, Event.code?, he.code]
        rfl
      table := Option.some.inj (hv.table.symm.trans (h.objectName?_table he))
      name := hv.name.trans (h.objectName?_constraint he)
      columns := by
        rw [hv.columns_eq_of_no_column (h.objectName?_column he), hcolumns, List.filter_eq_self]
        intro column hmem
        rw [h.not_blank_column hmem, Bool.not_false]
      entries := hentries
      value := by
        intro entry hmem
        rw [InvalidValues.get?_eq, hentries]
        refine Entries.get?_of_mem ?_ hmem
        rw [List.map_fst_zip (Nat.le_of_eq h.length_eq)]
        exact h.nodup }

/-- **A violated foreign key is told in full from the texts alone**, whatever words the names and
the values hold. -/
theorem exists_apply_chain_describes (settings : Settings) (h : r.WellFormed) (he : r.ToldBy e) :
    ∃ d v, ((Rule.chain settings).apply e).value = .ok d ∧ d.kind = .constraint v ∧
      r.Describes v := by
  have hcode : e.CodeBegins "23" := ⟨"23503", he.code, by decide⟩
  obtain ⟨d, v, hd, hkind, hv⟩ := Event.exists_apply_chain_tellsViolation settings hcode
    (h.objectName?_table he) h.table_not_blank
  exact ⟨d, v, hd, hkind, h.describes he hv⟩

/-- The names hold the words that names are found by, and a value holds a divider. -/
theorem exists_apply_chain_describes_nested :
    let r : ForeignKeyReport :=
      ⟨"a constraint", "of column ", ["x", "table (y)"], ["", "1)=(2) 3"], "relation"⟩
    let e : Event := .ofFields [(.code, "23503"), (.message, r.message), (.detail, r.detail)]
    r.WellFormed ∧ r.ToldBy e ∧
      ∃ d v, ((Rule.chain .standard).apply e).value = .ok d ∧ d.kind = .constraint v ∧
        r.Describes v := by
  have h : WellFormed
      ⟨"a constraint", "of column ", ["x", "table (y)"], ["", "1)=(2) 3"], "relation"⟩ := by
    constructor <;> decide +kernel
  exact ⟨h, toldBy_ofFields _, exists_apply_chain_describes .standard h (toldBy_ofFields _)⟩

end ForeignKeyReport

end PgTriage
