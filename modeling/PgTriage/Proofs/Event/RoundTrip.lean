/-
Which events survive the wire.

An event is written field by field and nothing is refused, so an event that the wire
cannot carry is written as the body of another event, or of none.  Three things go
wrong: a text that holds U+0000 ends there, a code with the byte zero ends the body, and
an unknown code whose byte has a meaning is read back as the code with that meaning.

Nothing else goes wrong.  An event without these comes back as it was, and since reading
never makes an event with one of them, these events are exactly those that are read from
some body.
-/
import PgTriage.Proofs.Event.Decoding

namespace PgTriage.Event

open Wire (Cut Stuck)

/-- An event that the wire can carry. -/
structure Sendable (e : Event) : Prop where
  /-- No text holds the character that ends texts. -/
  nul_not_mem : ∀ f ∈ e.toList, '\x00' ∉ f.2.toList
  /-- No code has the byte that ends the body. -/
  byte_ne_zero : ∀ f ∈ e.toList, f.1.byte ≠ 0
  /-- Every code is the one that its byte means. -/
  ofByte_byte : ∀ f ∈ e.toList, FieldCode.ofByte f.1.byte = f.1

/-! ### Bodies that are read

A body is read exactly when it is a run of well-formed fields and the zero byte that ends
it.
-/

/-- The end of a body begins no field. -/
theorem stuck_terminator (more : List UInt8) : Stuck (0 :: more) := by
  intro hfield
  obtain ⟨f, after, hf, heq⟩ := hfield
  rw [f.encode_append] at heq
  exact hf.tag_ne_zero (List.cons.inj heq).1.symm

theorem decode_of_cut {body : List UInt8} {fields : List Wire.Field} (h : Cut body fields [0]) :
    decode body = .ok (ofFields (fields.map fun f => (FieldCode.ofByte f.tag, f.text))) :=
  (decode_eq_ok_iff (h.longest_of_stuck (stuck_terminator []))).2 ⟨rfl, rfl⟩

theorem exists_cut_of_decode {body : List UInt8} {e : Event} (h : decode body = .ok e) :
    ∃ fields, Cut body fields [0] ∧
      e = ofFields (fields.map fun f => (FieldCode.ofByte f.tag, f.text)) := by
  obtain ⟨fields, rest, hcut⟩ := Wire.exists_longestCut body
  obtain ⟨rfl, rfl⟩ := (decode_eq_ok_iff hcut).1 h
  exact ⟨fields, hcut.toCut, rfl⟩

/-- A body is a run of fields in one way only. -/
theorem eq_of_cut {body : List UInt8} {fields fields' : List Wire.Field}
    (h : Cut body fields [0]) (h' : Cut body fields' [0]) : fields = fields' :=
  ((h'.longest_of_stuck (stuck_terminator [])).unique
    (h.longest_of_stuck (stuck_terminator []))).1

/-! ### What is read can be written -/

theorem mem_toList_iff {e : Event} {c : FieldCode} {text : String} :
    (c, text) ∈ e.toList ↔ e.get? c = some text :=
  OrderedMap.get?_eq_some_iff.symm

/-- A field of an event that was read is a field of the body. -/
theorem exists_field_of_decode {body : List UInt8} {e : Event} (h : decode body = .ok e)
    {f : FieldCode × String} (hf : f ∈ e.toList) :
    ∃ d : Wire.Field, d.WellFormed ∧ FieldCode.ofByte d.tag = f.1 ∧ d.text = f.2 := by
  obtain ⟨fields, hcut, rfl⟩ := exists_cut_of_decode h
  obtain ⟨d, ⟨before, after, rfl, hc, -⟩, htext⟩ :=
    get?_ofFields_eq_some_iff.1 (mem_toList_iff.1 hf)
  exact ⟨d, hcut.wellFormed d (by simp), hc, htext⟩

theorem sendable_of_decode {body : List UInt8} {e : Event} (h : decode body = .ok e) :
    Sendable e := by
  refine ⟨?_, ?_, ?_⟩
  · intro f hf
    obtain ⟨d, hd, -, htext⟩ := exists_field_of_decode h hf
    rw [← htext, ← Utf8.zero_mem_encode_iff]
    exact hd.zero_not_mem
  · intro f hf
    obtain ⟨d, hd, hc, -⟩ := exists_field_of_decode h hf
    rw [← hc, FieldCode.byte_ofByte]
    exact hd.tag_ne_zero
  · intro f hf
    obtain ⟨d, -, hc, -⟩ := exists_field_of_decode h hf
    rw [← hc, FieldCode.byte_ofByte]

/-! ### What can be written is read back -/

/-- The fields as they stand in the body of an event. -/
def wireFields (e : Event) : List Wire.Field := e.toList.map fun f => ⟨f.1.byte, f.2⟩

theorem encode_eq_run (e : Event) : encode e = Wire.run e.wireFields ++ [0] := rfl

theorem Sendable.wellFormed {e : Event} (h : Sendable e) : ∀ f ∈ e.wireFields, f.WellFormed := by
  intro d hd
  obtain ⟨f, hf, rfl⟩ := List.mem_map.1 hd
  refine ⟨h.byte_ne_zero f hf, ?_⟩
  rw [Utf8.zero_mem_encode_iff]
  exact h.nul_not_mem f hf

theorem Sendable.cut {e : Event} (h : Sendable e) : Cut (encode e) e.wireFields [0] :=
  ⟨e.encode_eq_run, h.wellFormed⟩

/-- An event is made of its fields. -/
theorem ofFields_toList (e : Event) : ofFields e.toList = e := by
  have h : (ofFields e.toList).fields = e.fields := by
    rw [fields_ofFields]
    exact OrderedMap.ofList_entries e.fields
  exact congrArg Event.mk h

theorem decode_encode_of_sendable {e : Event} (h : Sendable e) : decode (encode e) = .ok e := by
  have hback : e.wireFields.map (fun f => (FieldCode.ofByte f.tag, f.text)) = e.toList := by
    rw [wireFields, List.map_map]
    conv_rhs => rw [← List.map_id e.toList]
    refine List.map_congr_left ?_
    intro f hf
    exact Prod.ext (h.ofByte_byte f hf) rfl
  rw [decode_of_cut h.cut, hback, ofFields_toList]

/--
**The wire carries exactly the events that are read from it.**  An event comes back from
its own body just where no text holds U+0000, no code has the byte zero and every code is
the one that its byte means, and these are the events that some body is read as.
-/
theorem decode_encode_eq_ok_iff :
    (∀ e : Event, decode (encode e) = .ok e ↔ Sendable e) ∧
      (∀ e : Event, Sendable e ↔ ∃ body, decode body = .ok e) ∧
      ∀ body : List UInt8, (decode body >>= fun e => decode (encode e)) = decode body := by
  refine ⟨?_, ?_, ?_⟩
  · exact fun e => ⟨sendable_of_decode, decode_encode_of_sendable⟩
  · intro e
    constructor
    · exact fun h => ⟨encode e, decode_encode_of_sendable h⟩
    · intro hread
      obtain ⟨body, hbody⟩ := hread
      exact sendable_of_decode hbody
  · intro body
    cases h : decode body with
    | error cause => rfl
    | ok e => exact decode_encode_of_sendable (sendable_of_decode h)

end PgTriage.Event
