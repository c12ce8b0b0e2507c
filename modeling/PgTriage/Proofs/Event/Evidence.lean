/-
What an event tells about an object.

Every kind of object has a field of its own and is mentioned by words of its own, of which
tables have two.  The field counts before the texts, the message before the detail, and in a
text the mention furthest left.  Each comes into play only where nothing comes of those
before it: where the field is missing or blank, and where the message makes no mention.  The
four cases exclude each other, so an event tells of one name at most, and of none only
where no place has one.
-/
import PgTriage.Event.Evidence
import PgTriage.Proofs.Text.QuotedName

namespace PgTriage.Event

variable {e : Event} {kind : ObjectKind}

/-- The field that holds the name of such an object. -/
def fieldFor : ObjectKind → FieldCode
  | .schema => .schema
  | .table => .table
  | .constraint => .constraint
  | .column => .column

/-- The words that a text puts before the quoted name of such an object. -/
def wordsFor : ObjectKind → List String
  | .schema => ["schema"]
  | .table => ["table", "relation"]
  | .constraint => ["constraint"]
  | .column => ["column"]

/-- The field for such objects is missing or blank. -/
def LacksField (e : Event) (kind : ObjectKind) : Prop :=
  ∀ name, e.get? (fieldFor kind) = some name → ∀ c ∈ name.toList, Text.isBlank c = true

/-- The text in this place, if there is one, mentions no such object. -/
def IsSilent (e : Event) (kind : ObjectKind) (place : FieldCode) : Prop :=
  ∀ text, e.get? place = some text →
    ∀ before name, ¬ Text.Mentions (wordsFor kind) text.toList before name

/-- The name of the object that the event tells of, by the place that tells it. -/
inductive TellsOf (e : Event) (kind : ObjectKind) : Option String → Prop where
  | field {name : String} (hfield : e.get? (fieldFor kind) = some name)
      (hblank : ∃ c ∈ name.toList, Text.isBlank c = false) : TellsOf e kind (some name)
  | message {text name : String} (hfield : e.LacksField kind)
      (htext : e.get? .message = some text)
      (hfirst : Text.MentionsFirst (wordsFor kind) text name) : TellsOf e kind (some name)
  | detail {text name : String} (hfield : e.LacksField kind)
      (hmessage : e.IsSilent kind .message) (htext : e.get? .detail = some text)
      (hfirst : Text.MentionsFirst (wordsFor kind) text name) : TellsOf e kind (some name)
  | nothing (hfield : e.LacksField kind) (hmessage : e.IsSilent kind .message)
      (hdetail : e.IsSilent kind .detail) : TellsOf e kind none

theorem field_eq_fieldFor (kind : ObjectKind) : kind.field = fieldFor kind := by
  cases kind <;> rfl

theorem keywords_eq_wordsFor (kind : ObjectKind) : kind.keywords = wordsFor kind := by
  cases kind <;> rfl

theorem not_mem_keywords (kind : ObjectKind) : ∀ keyword ∈ kind.keywords, '"' ∉ keyword.toList := by
  cases kind <;> decide

/-! ### The three places -/

theorem fieldName?_eq_some_iff {name : String} :
    e.fieldName? kind = some name ↔
      e.get? (fieldFor kind) = some name ∧ ∃ c ∈ name.toList, Text.isBlank c = false := by
  rw [fieldName?, field_eq_fieldFor, Option.filter_eq_some_iff]
  simp [Text.blank]

theorem fieldName?_eq_none_iff : e.fieldName? kind = none ↔ e.LacksField kind := by
  rw [fieldName?, field_eq_fieldFor, Option.filter_eq_none_iff]
  simp [Text.blank, LacksField]

theorem bind_findName?_eq_some_iff {place : FieldCode} {name : String} :
    (e.get? place).bind (Text.findName? kind.keywords) = some name ↔
      ∃ text, e.get? place = some text ∧ Text.MentionsFirst (wordsFor kind) text name := by
  rw [← keywords_eq_wordsFor]
  simp only [Option.bind_eq_some_iff, Text.findName?_eq_some_iff (not_mem_keywords kind)]

theorem bind_findName?_eq_none_iff {place : FieldCode} :
    (e.get? place).bind (Text.findName? kind.keywords) = none ↔ e.IsSilent kind place := by
  rw [IsSilent, ← keywords_eq_wordsFor]
  simp only [Option.bind_eq_none_iff, Text.findName?_eq_none_iff]

/-! ### One after the other -/

theorem objectName?_eq (e : Event) (kind : ObjectKind) :
    e.objectName? kind = (e.fieldName? kind).or
      (((e.get? .message).bind (Text.findName? kind.keywords)).or
        ((e.get? .detail).bind (Text.findName? kind.keywords))) := rfl

/-- Whatever name is found, or none, is one that the event tells of. -/
theorem tellsOf_objectName? (e : Event) (kind : ObjectKind) :
    e.TellsOf kind (e.objectName? kind) := by
  rw [objectName?_eq]
  cases hfield : e.fieldName? kind with
  | some name =>
      obtain ⟨hget, hblank⟩ := fieldName?_eq_some_iff.1 hfield
      exact .field hget hblank
  | none =>
      rw [fieldName?_eq_none_iff] at hfield
      cases hmessage : (e.get? .message).bind (Text.findName? kind.keywords) with
      | some name =>
          obtain ⟨text, htext, hfirst⟩ := bind_findName?_eq_some_iff.1 hmessage
          exact .message hfield htext hfirst
      | none =>
          rw [bind_findName?_eq_none_iff] at hmessage
          cases hdetail : (e.get? .detail).bind (Text.findName? kind.keywords) with
          | some name =>
              obtain ⟨text, htext, hfirst⟩ := bind_findName?_eq_some_iff.1 hdetail
              exact .detail hfield hmessage htext hfirst
          | none =>
              rw [bind_findName?_eq_none_iff] at hdetail
              exact .nothing hfield hmessage hdetail

/-- What the event tells of is found: the places before it have nothing. -/
theorem TellsOf.objectName?_eq {name? : Option String} (h : e.TellsOf kind name?) :
    e.objectName? kind = name? := by
  rw [Event.objectName?_eq]
  cases h with
  | field hget hblank =>
      rw [fieldName?_eq_some_iff.2 ⟨hget, hblank⟩, Option.some_or]
  | message hfield htext hfirst =>
      rw [fieldName?_eq_none_iff.2 hfield, Option.none_or,
        bind_findName?_eq_some_iff.2 ⟨_, htext, hfirst⟩, Option.some_or]
  | detail hfield hmessage htext hfirst =>
      rw [fieldName?_eq_none_iff.2 hfield, Option.none_or,
        bind_findName?_eq_none_iff.2 hmessage, Option.none_or,
        bind_findName?_eq_some_iff.2 ⟨_, htext, hfirst⟩]
  | nothing hfield hmessage hdetail =>
      rw [fieldName?_eq_none_iff.2 hfield, Option.none_or,
        bind_findName?_eq_none_iff.2 hmessage, Option.none_or,
        bind_findName?_eq_none_iff.2 hdetail]

/-- **An event tells of an object by its field, else by its message, else by its detail.** -/
theorem objectName?_eq_iff_tellsOf {name? : Option String} :
    e.objectName? kind = name? ↔ e.TellsOf kind name? := by
  constructor
  · intro h
    exact h ▸ tellsOf_objectName? e kind
  · intro h
    exact h.objectName?_eq

-- A keyword inside a word and one with empty quotes are passed over, and a blank field too.
example :
    (ofFields [(.table, " "), (.message, "foreign_table \"a\" and table \"\" of relation \"b\nc\"")]
      ).objectName? .table = some "b\nc" := by
  decide +kernel

end PgTriage.Event
