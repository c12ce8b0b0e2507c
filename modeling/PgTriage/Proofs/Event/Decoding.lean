/-
What reading a body answers.

The longest run of fields that a body begins with is kept, and the bytes after it decide
the answer.  Of the five things that can stand there each excludes the others, so each
answer is given for one of them and for nothing else.

An event is read only where the body ends as it should.  It then has one text for every
code that a field of the body has, the one of the last such field, and no other code.
-/
import PgTriage.Proofs.Event.Framing
import PgTriage.Proofs.OrderedMap
import PgTriage.Proofs.Text.Utf8

namespace PgTriage

namespace Wire

/-- What reading answers where no field begins. -/
inductive Verdict : List UInt8 → Except DecodeError (List Field) → Prop where
  /-- The zero byte that ends the body. -/
  | terminated : Verdict [0] (.ok [])
  /-- Such a byte, with more after it. -/
  | trailing {more : List UInt8} (hmore : more ≠ []) :
      Verdict (0 :: more) (.error (.trailingBytes more.length))
  /-- Nothing at all. -/
  | missing : Verdict [] (.error .missingTerminator)
  /-- A tag whose text is not ended. -/
  | unterminated {tag : UInt8} {more : List UInt8} (htag : tag ≠ 0) (hmore : 0 ∉ more) :
      Verdict (tag :: more) (.error (.unterminatedField tag))
  /-- A tag whose text is not UTF-8. -/
  | invalid {tag : UInt8} {text more : List UInt8} (htag : tag ≠ 0) (htext : 0 ∉ text)
      (hutf8 : ¬ Utf8.WellFormed text) :
      Verdict (tag :: (text ++ 0 :: more)) (.error (.invalidUtf8 tag))

theorem Verdict.decode_eq {rest : List UInt8} {x : Except DecodeError (List Field)}
    (h : Verdict rest x) : decode rest = x := by
  cases h with
  | terminated => rw [decode]; rfl
  | trailing hmore =>
      rw [decode, if_pos rfl, if_neg (by simpa using hmore)]
  | missing => rw [decode]
  | unterminated htag hmore =>
      rw [decode_cons_of_ne_zero htag, Text.splitFirst?_eq_none_iff.2 hmore]
  | invalid htag htext hutf8 =>
      rw [decode_cons_of_ne_zero htag, Text.splitFirst?_eq_some_iff.2 ⟨rfl, htext⟩]
      simp only [Utf8.decode?_eq_none_iff.2 hutf8]

/-- Where no field begins, one of the five things stands. -/
theorem Stuck.exists_verdict {rest : List UInt8} (h : Stuck rest) : ∃ x, Verdict rest x := by
  cases rest with
  | nil => exact ⟨_, .missing⟩
  | cons tag more =>
      by_cases htag : tag = 0
      · subst htag
        cases more with
        | nil => exact ⟨_, .terminated⟩
        | cons b more => exact ⟨_, .trailing (List.cons_ne_nil b more)⟩
      · by_cases hmem : 0 ∈ more
        · obtain ⟨text, after, rfl, htext⟩ := List.eq_append_cons_of_mem hmem
          refine ⟨_, .invalid htag htext ?_⟩
          -- A text in UTF-8 would make the tag the beginning of a field.
          intro hutf8
          obtain ⟨s, rfl⟩ := hutf8
          exact h ⟨⟨tag, s⟩, after, ⟨htag, htext⟩, by simp [Field.encode]⟩
        · exact ⟨_, .unterminated htag hmem⟩

theorem Stuck.decode_eq_iff {rest : List UInt8} (h : Stuck rest)
    {x : Except DecodeError (List Field)} : decode rest = x ↔ Verdict rest x := by
  constructor
  · rintro rfl
    obtain ⟨y, hy⟩ := h.exists_verdict
    rwa [hy.decode_eq]
  · exact Verdict.decode_eq

theorem LongestCut.decode_eq {body rest : List UInt8} {fields : List Field}
    (h : LongestCut body fields rest) : decode body = (decode rest).map (fields ++ ·) := by
  rw [h.bytes_eq, decode_run h.wellFormed]

/-- A body is refused for what stands after its fields. -/
theorem LongestCut.decode_eq_error_iff {body rest : List UInt8} {fields : List Field}
    (h : LongestCut body fields rest) {cause : DecodeError} :
    decode body = .error cause ↔ Verdict rest (.error cause) := by
  rw [← h.stuck.decode_eq_iff, h.decode_eq]
  cases decode rest <;> simp [Except.map]

/-- A body that ends after its fields is read as those fields. -/
theorem LongestCut.decode_eq_ok_iff {body rest : List UInt8} {fields : List Field}
    (h : LongestCut body fields rest) {read : List Field} :
    decode body = .ok read ↔ rest = [0] ∧ read = fields := by
  rw [h.decode_eq]
  constructor
  · intro hok
    cases hrest : decode rest with
    | error cause => simp [hrest, Except.map] at hok
    | ok tail =>
        rw [h.stuck.decode_eq_iff] at hrest
        cases hrest
        simpa [Except.map, eq_comm, Verdict.terminated.decode_eq] using hok
  · intro hends
    obtain ⟨rfl, rfl⟩ := hends
    simp [Verdict.terminated.decode_eq, Except.map]

end Wire

namespace Event

open Wire (LongestCut Verdict)

variable {body rest : List UInt8} {fields : List Wire.Field}

theorem decode_eq_error_iff (h : LongestCut body fields rest) {cause : DecodeError} :
    decode body = .error cause ↔ Verdict rest (.error cause) := by
  rw [← h.decode_eq_error_iff, decode]
  cases Wire.decode body <;> simp [Except.map]

theorem decode_eq_ok_iff (h : LongestCut body fields rest) {e : Event} :
    decode body = .ok e ↔
      rest = [0] ∧ e = ofFields (fields.map fun f => (FieldCode.ofByte f.tag, f.text)) := by
  have hread : Wire.decode body = .ok fields ↔ rest = [0] := by simp [h.decode_eq_ok_iff]
  rw [← hread, decode]
  cases hwire : Wire.decode body with
  | error cause => simp [Except.map]
  | ok read =>
      obtain ⟨-, rfl⟩ := h.decode_eq_ok_iff.1 hwire
      simp [Except.map, eq_comm]

/-! ### The text of a code is that of its last field -/

theorem fields_ofFields (l : List (FieldCode × String)) :
    (ofFields l).fields = OrderedMap.ofList l := by
  have h : ∀ e : Event, (l.foldl (fun e f => e.set f.1 f.2) e).fields =
      l.foldl (fun m f => m.insert f.1 f.2) e.fields := by
    induction l with
    | nil => exact fun _ => rfl
    | cons f rest ih => exact fun e => ih (e.set f.1 f.2)
  exact h empty

/-- The last of the fields with a code. -/
def IsLast (fields : List Wire.Field) (c : FieldCode) (f : Wire.Field) : Prop :=
  ∃ before after, fields = before ++ f :: after ∧ FieldCode.ofByte f.tag = c ∧
    ∀ g ∈ after, FieldCode.ofByte g.tag ≠ c

theorem exists_isLast_iff {c : FieldCode} :
    (∃ f, IsLast fields c f) ↔ ∃ f ∈ fields, FieldCode.ofByte f.tag = c := by
  constructor
  · intro h
    obtain ⟨f, before, after, rfl, hc, -⟩ := h
    exact ⟨f, by simp, hc⟩
  · intro h
    induction fields with
    | nil => simp at h
    | cons g rest ih =>
        by_cases hrest : ∃ f ∈ rest, FieldCode.ofByte f.tag = c
        · obtain ⟨f, before, after, rfl, hlast⟩ := ih hrest
          exact ⟨f, g :: before, after, rfl, hlast⟩
        · obtain ⟨f, hf, hc⟩ := h
          rcases List.mem_cons.1 hf with rfl | hf
          · exact ⟨f, [], rest, rfl, hc, fun d hd hdc => hrest ⟨d, hd, hdc⟩⟩
          · exact absurd ⟨f, hf, hc⟩ hrest

theorem get?_ofFields_eq_some_iff {c : FieldCode} {text : String} :
    (ofFields (fields.map fun f => (FieldCode.ofByte f.tag, f.text))).get? c = some text ↔
      ∃ f, IsLast fields c f ∧ f.text = text := by
  rw [get?, fields_ofFields, OrderedMap.get?_ofList_eq_some_iff]
  constructor
  · intro h
    obtain ⟨before, after, hl, hafter⟩ := h
    obtain ⟨before', tail, rfl, -, htail⟩ := List.map_eq_append_iff.1 hl
    obtain ⟨f, after', rfl, hf, rfl⟩ := List.map_eq_cons_iff.1 htail
    obtain ⟨hc, htext⟩ := Prod.mk.inj hf
    refine ⟨f, ⟨before', after', rfl, hc, ?_⟩, htext⟩
    intro g hg
    exact hafter _ (List.mem_map_of_mem hg)
  · intro h
    obtain ⟨f, ⟨before, after, rfl, rfl, hafter⟩, rfl⟩ := h
    refine ⟨_, _, by rw [List.map_append, List.map_cons], ?_⟩
    simpa using hafter

theorem mem_keys_ofFields_iff {c : FieldCode} :
    c ∈ (ofFields (fields.map fun f => (FieldCode.ofByte f.tag, f.text))).fields.keys ↔
      ∃ f ∈ fields, FieldCode.ofByte f.tag = c := by
  rw [← exists_isLast_iff, OrderedMap.keys, List.mem_map]
  constructor
  · intro h
    obtain ⟨⟨k, v⟩, hmem, rfl⟩ := h
    obtain ⟨f, hf, -⟩ := get?_ofFields_eq_some_iff.1 (OrderedMap.get?_eq_some_iff.2 hmem)
    exact ⟨f, hf⟩
  · intro h
    obtain ⟨f, hf⟩ := h
    exact ⟨(c, f.text), OrderedMap.get?_eq_some_iff.1
      (get?_ofFields_eq_some_iff.2 ⟨f, hf, rfl⟩), rfl⟩

/-! ### The answer for every body -/

/-- What reading a body answers, told by its fields and by what stands after them. -/
structure DecidedBy (body : List UInt8) (fields : List Wire.Field) (rest : List UInt8) : Prop where
  /-- A body that ends after its fields is read. -/
  ok_iff : (∃ e, decode body = .ok e) ↔ rest = [0]
  /-- The bytes after the end are counted. -/
  trailing_iff : ∀ count, decode body = .error (.trailingBytes count) ↔
    ∃ more, rest = 0 :: more ∧ more ≠ [] ∧ count = rest.length - 1
  missing_iff : decode body = .error .missingTerminator ↔ rest = []
  unterminated_iff : ∀ tag, decode body = .error (.unterminatedField tag) ↔
    tag ≠ 0 ∧ ∃ more, rest = tag :: more ∧ 0 ∉ more
  invalid_iff : ∀ tag, decode body = .error (.invalidUtf8 tag) ↔
    tag ≠ 0 ∧ ∃ text more, rest = tag :: (text ++ 0 :: more) ∧ 0 ∉ text ∧ ¬ Utf8.WellFormed text
  /-- The last field of a code gives its text. -/
  get?_iff : ∀ e, decode body = .ok e → ∀ c text,
    e.get? c = some text ↔ ∃ f, IsLast fields c f ∧ f.text = text
  /-- No other codes are there. -/
  mem_keys_iff : ∀ e, decode body = .ok e → ∀ c,
    c ∈ e.fields.keys ↔ ∃ f ∈ fields, FieldCode.ofByte f.tag = c

theorem decidedBy_of_longestCut (h : LongestCut body fields rest) : DecidedBy body fields rest where
  ok_iff := by simp [decode_eq_ok_iff h]
  trailing_iff count := by
    rw [decode_eq_error_iff h]
    constructor
    · intro hv
      cases hv with
      | trailing hmore => exact ⟨_, rfl, hmore, by simp⟩
    · intro hrest
      obtain ⟨more, rfl, hmore, rfl⟩ := hrest
      exact .trailing hmore
  missing_iff := by
    rw [decode_eq_error_iff h]
    constructor
    · intro hv
      cases hv
      rfl
    · rintro rfl
      exact .missing
  unterminated_iff tag := by
    rw [decode_eq_error_iff h]
    constructor
    · intro hv
      cases hv with
      | unterminated htag hmore => exact ⟨htag, _, rfl, hmore⟩
    · intro hrest
      obtain ⟨htag, more, rfl, hmore⟩ := hrest
      exact .unterminated htag hmore
  invalid_iff tag := by
    rw [decode_eq_error_iff h]
    constructor
    · intro hv
      cases hv with
      | invalid htag htext hutf8 => exact ⟨htag, _, _, rfl, htext, hutf8⟩
    · intro hrest
      obtain ⟨htag, text, more, rfl, htext, hutf8⟩ := hrest
      exact .invalid htag htext hutf8
  get?_iff e he c text := by
    obtain ⟨-, rfl⟩ := (decode_eq_ok_iff h).1 he
    exact get?_ofFields_eq_some_iff
  mem_keys_iff e he c := by
    obtain ⟨-, rfl⟩ := (decode_eq_ok_iff h).1 he
    exact mem_keys_ofFields_iff

/--
**The longest run of fields decides.**  Every body begins with one longest run of
well-formed fields, and the bytes after it tell whether the body is read or with what
error it is refused.
-/
theorem exists_longestCut_decidedBy (body : List UInt8) :
    ∃ fields rest, LongestCut body fields rest ∧
      (∀ fields' rest', LongestCut body fields' rest' → fields' = fields ∧ rest' = rest) ∧
      DecidedBy body fields rest := by
  obtain ⟨fields, rest, h⟩ := Wire.exists_longestCut body
  exact ⟨fields, rest, h, fun _ _ h' => h.unique h', decidedBy_of_longestCut h⟩

end Event

end PgTriage
