/-
A server error is known by its event.

Each field of the event tells one part of the error and nothing else, and `text?` says which:
a word for the severity, the digits of a number, and a text as it stands.  A word and digits
can be read back, and a text that is missing leaves its field out, where one that is empty
leaves the field empty.  The position has three fields, and which of them are there says where
the position is.

So two errors with the same event are the same error.  Every field has a code with a meaning,
and no word and no digits hold U+0000, so the event is one that the wire carries as soon as the
texts of the error do not hold it either.
-/
import Mathlib.Data.List.ReduceOption
import PgTriage.Event.ServerError
import PgTriage.Proofs.Event.RoundTrip

namespace PgTriage

theorem ServerSeverity.word_injective {s t : ServerSeverity} (h : s.word = t.word) : s = t := by
  cases s <;> cases t <;> first | rfl | exact absurd h (by decide)

/-! ### The parts of a position -/

namespace ErrorPosition

/-- The number of a position in the statement. -/
def statementNumber? : ErrorPosition → Option Nat
  | .inStatement n => some n
  | .inQuery _ _ => none

/-- The number of a position in a query of the server's own. -/
def queryNumber? : ErrorPosition → Option Nat
  | .inStatement _ => none
  | .inQuery n _ => some n

/-- The query of the server's own that the position is in. -/
def query? : ErrorPosition → Option String
  | .inStatement _ => none
  | .inQuery _ query => some query

/-- The parts tell the position. -/
theorem ofFields?_parts (x : Option ErrorPosition) :
    ofFields? (x.bind statementNumber?) (x.bind queryNumber?) (x.bind query?) = x := by
  rcases x with _ | ⟨n⟩ | ⟨n, query⟩ <;> rfl

end ErrorPosition

namespace ServerError

variable {p q : ServerError} {c : FieldCode} {text : String}

/-! ### What each field tells -/

/-- The text under a code: a part of the error, in words or in digits. -/
def text? (p : ServerError) : FieldCode → Option String
  | .severity => some p.severity.word
  | .severityNonLocalized => none
  | .code => some p.code
  | .message => some p.message
  | .detail => p.detail
  | .hint => p.hint
  | .position => (p.position.bind (·.statementNumber?)).map toString
  | .internalPosition => (p.position.bind (·.queryNumber?)).map toString
  | .internalQuery => p.position.bind (·.query?)
  | .context => p.context
  | .schema => p.schema
  | .table => p.table
  | .column => p.column
  | .dataType => p.dataType
  | .constraint => p.constraint
  | .file => p.file
  | .line => p.line.map toString
  | .routine => p.routine
  | .unknown _ => none

theorem mem_optionalField_iff {field : FieldCode} {t? : Option String} :
    (c, text) ∈ optionalField field t? ↔ c = field ∧ t? = some text := by
  cases t? <;> simp [optionalField, eq_comm]

theorem mem_positionFields_iff {x : Option ErrorPosition} :
    (c, text) ∈ positionFields x ↔
      c = .position ∧ (x.bind (·.statementNumber?)).map toString = some text ∨
      c = .internalPosition ∧ (x.bind (·.queryNumber?)).map toString = some text ∨
      c = .internalQuery ∧ x.bind (·.query?) = some text := by
  rcases x with _ | ⟨n⟩ | ⟨n, query⟩ <;>
    simp [positionFields, ErrorPosition.statementNumber?, ErrorPosition.queryNumber?,
      ErrorPosition.query?, eq_comm]

theorem mem_fields_iff : (c, text) ∈ p.fields ↔ p.text? c = some text := by
  simp only [fields, List.mem_append, List.mem_cons, List.not_mem_nil, Prod.mk.injEq,
    mem_optionalField_iff, mem_positionFields_iff]
  cases c <;> simp [text?, eq_comm]

/-- The event has under every code the text that is due there. -/
theorem get?_toEvent (p : ServerError) (c : FieldCode) : p.toEvent.get? c = p.text? c := by
  have hfields : ∀ f ∈ p.fields, ∀ d ∈ p.fields, f.1 = d.1 → f = d := by
    rintro ⟨c, t⟩ hf ⟨d, u⟩ hd rfl
    have htexts := (mem_fields_iff.1 hf).symm.trans (mem_fields_iff.1 hd)
    rw [Option.some.inj htexts]
  refine Option.ext fun text => ?_
  rw [toEvent, Event.get?, Event.fields_ofFields, OrderedMap.get?_ofList_eq_some_iff_mem hfields,
    mem_fields_iff]

/-! ### The event tells the error -/

/-- The digits of a number tell it. -/
theorem toString_injective : Function.Injective (toString : Nat → String) := by
  intro m n h
  have hdigits : Nat.toDigits 10 m = Nat.toDigits 10 n := by
    rw [← Nat.toList_repr, ← Nat.toList_repr]
    exact congrArg String.toList h
  rw [← Nat.ofDigitChars_ten_toDigits (n := m), hdigits, Nat.ofDigitChars_ten_toDigits]

/-- Errors with the same text under every code are the same. -/
theorem eq_of_text?_eq (h : ∀ c, p.text? c = q.text? c) : p = q := by
  have hseverity : p.severity = q.severity :=
    ServerSeverity.word_injective (Option.some.inj (h .severity))
  have hcode : p.code = q.code := Option.some.inj (h .code)
  have hmessage : p.message = q.message := Option.some.inj (h .message)
  have hline : p.line = q.line := Option.map_injective toString_injective (h .line)
  have hposition : p.position = q.position := by
    have hstatement := Option.map_injective toString_injective (h .position)
    have hnumber := Option.map_injective toString_injective (h .internalPosition)
    have hquery : p.position.bind (·.query?) = q.position.bind (·.query?) := h .internalQuery
    rw [← ErrorPosition.ofFields?_parts p.position, ← ErrorPosition.ofFields?_parts q.position]
    exact congr (congr (congrArg ErrorPosition.ofFields? hstatement) hnumber) hquery
  have hdetail : p.detail = q.detail := h .detail
  have hhint : p.hint = q.hint := h .hint
  have hcontext : p.context = q.context := h .context
  have hschema : p.schema = q.schema := h .schema
  have htable : p.table = q.table := h .table
  have hcolumn : p.column = q.column := h .column
  have hdataType : p.dataType = q.dataType := h .dataType
  have hconstraint : p.constraint = q.constraint := h .constraint
  have hfile : p.file = q.file := h .file
  have hroutine : p.routine = q.routine := h .routine
  cases p; cases q
  simp_all

/-! ### The event can be sent -/

/-- The texts that the error holds as they are. -/
def texts (p : ServerError) : List String :=
  [some p.code, some p.message, p.detail, p.hint, p.context, p.schema, p.table, p.column,
    p.dataType, p.constraint, p.file, p.routine, p.position.bind (·.query?)].reduceOption

/-- What an event tells is a text of the error, the word for its severity, or a number. -/
theorem text?_cases (h : p.text? c = some text) :
    text ∈ p.texts ∨ text = p.severity.word ∨ ∃ n : Nat, text = toString n := by
  cases c with
  | severity => exact .inr (.inl (Option.some.inj h).symm)
  | position | internalPosition | line =>
      obtain ⟨n, -, rfl⟩ := Option.map_eq_some_iff.1 h
      exact .inr (.inr ⟨n, rfl⟩)
  | _ => exact .inl (by simp_all [text?, texts, List.reduceOption_mem_iff])

/-- Every text of the error is told under some code. -/
theorem exists_text?_of_mem_texts (h : text ∈ p.texts) : ∃ c, p.text? c = some text := by
  simp only [texts, List.reduceOption_mem_iff, List.mem_cons, List.not_mem_nil, or_false] at h
  rcases h with h | h | h | h | h | h | h | h | h | h | h | h | h
  exacts [⟨.code, h.symm⟩, ⟨.message, h.symm⟩, ⟨.detail, h.symm⟩, ⟨.hint, h.symm⟩,
    ⟨.context, h.symm⟩, ⟨.schema, h.symm⟩, ⟨.table, h.symm⟩, ⟨.column, h.symm⟩,
    ⟨.dataType, h.symm⟩, ⟨.constraint, h.symm⟩, ⟨.file, h.symm⟩, ⟨.routine, h.symm⟩,
    ⟨.internalQuery, h.symm⟩]

theorem nul_not_mem_word (s : ServerSeverity) : '\x00' ∉ s.word.toList := by
  cases s <;> decide

theorem nul_not_mem_toString (n : Nat) : '\x00' ∉ (toString n).toList := by
  intro h
  have hdigit := Nat.isDigit_of_mem_toDigits (b := 10) (n := n) (by decide) (by decide)
    (Nat.toList_repr ▸ h)
  exact absurd hdigit (by decide)

/-- A code that has a text has a meaning, so its byte does not end the body and means it. -/
theorem ofByte_byte_of_text? (h : p.text? c = some text) :
    c.byte ≠ 0 ∧ FieldCode.ofByte c.byte = c := by
  cases c with
  | unknown byte => simp [text?] at h
  | _ => exact ⟨by decide, rfl⟩

theorem sendable_toEvent_iff : p.toEvent.Sendable ↔ ∀ text ∈ p.texts, '\x00' ∉ text.toList := by
  have hmem : ∀ f ∈ p.toEvent.toList, p.text? f.1 = some f.2 := by
    intro f hf
    rw [← get?_toEvent]
    exact Event.mem_toList_iff.1 hf
  constructor
  · intro h text htext
    obtain ⟨c, hc⟩ := exists_text?_of_mem_texts htext
    rw [← get?_toEvent] at hc
    exact h.nul_not_mem (c, text) (Event.mem_toList_iff.2 hc)
  · intro h
    refine ⟨?_, fun f hf => (ofByte_byte_of_text? (hmem f hf)).1,
      fun f hf => (ofByte_byte_of_text? (hmem f hf)).2⟩
    intro f hf
    rcases text?_cases (hmem f hf) with htext | htext | ⟨n, htext⟩
    · exact h f.2 htext
    · rw [htext]
      exact nul_not_mem_word _
    · rw [htext]
      exact nul_not_mem_toString n

/-- **An event keeps all of a server error.**  Errors with the same event are the same, no event
of one has the severity that is not localized or a code without a meaning, and the wire carries
it just where no text of the error holds U+0000. -/
theorem toEvent_eq_iff_eq (p q : ServerError) :
    (p.toEvent = q.toEvent ↔ p = q) ∧
      p.toEvent.get? .severityNonLocalized = none ∧
      (∀ byte, p.toEvent.get? (.unknown byte) = none) ∧
      (Event.decode p.toEvent.encode = .ok p.toEvent ↔
        ∀ text ∈ p.texts, '\x00' ∉ text.toList) := by
  refine ⟨⟨?_, congrArg toEvent⟩, get?_toEvent p _, fun _ => get?_toEvent p _, ?_⟩
  · intro h
    refine eq_of_text?_eq fun c => ?_
    rw [← get?_toEvent, ← get?_toEvent, h]
  · rw [← sendable_toEvent_iff]
    exact ⟨Event.sendable_of_decode, Event.decode_encode_of_sendable⟩

end ServerError

end PgTriage
