/-
Bodies that are cut short, and bodies with more after them.

A body says by itself where it ends: at the zero byte that stands where a tag should.  So
whatever is added to a body that is read makes it one that is refused, and the error counts
what was added.

What is cut off is missed at the place of the cut.  A beginning of a body holds some of its
fields whole, and after them nothing, or a tag with a part of its text.  No part of a text
holds a zero byte, since the text holds none, and reading looks for the end of a text before
it looks whether the text is UTF-8.  A cut within a character is therefore told as a text
that is not ended, like any other cut within a field.
-/
import PgTriage.Proofs.Event.RoundTrip

namespace PgTriage

namespace Wire

/-- What the fields of a body begin with, and the error that tells where the rest is missed. -/
inductive CutOff (fields : List Field) : List UInt8 → DecodeError → Prop where
  /-- Between two fields, before the first or after the last. -/
  | between (before : List Field) {after : List Field} (hfields : fields = before ++ after) :
      CutOff fields (run before) .missingTerminator
  /-- Within a field, after its tag. -/
  | within (before : List Field) (f : Field) {after : List Field} {part : List UInt8}
      (hfields : fields = before ++ f :: after) (hpart : part <+: Utf8.encode f.text) :
      CutOff fields (run before ++ f.tag :: part) (.unterminatedField f.tag)

/-! ### Where a run of fields can be cut -/

theorem CutOff.cons {fields : List Field} {bytes : List UInt8} {cause : DecodeError}
    (h : CutOff fields bytes cause) (f : Field) :
    CutOff (f :: fields) (f.encode ++ bytes) cause := by
  cases h with
  | between before hfields => exact .between (f :: before) (by rw [hfields, List.cons_append])
  | within before g hfields hpart =>
      rw [← List.append_assoc, ← run_cons]
      exact .within (f :: before) g (by rw [hfields, List.cons_append]) hpart

theorem CutOff.prefix_run {fields : List Field} {bytes : List UInt8} {cause : DecodeError}
    (h : CutOff fields bytes cause) : bytes <+: run fields := by
  cases h with
  | between before hfields =>
      rw [hfields, run_append]
      exact List.prefix_append _ _
  | within before f hfields hpart =>
      rw [hfields, run_append, run_cons, Field.encode_append, List.prefix_append_right_inj,
        List.cons_prefix_cons]
      exact ⟨rfl, hpart.trans (List.prefix_append _ _)⟩

theorem exists_cutOff_of_prefix_run {fields : List Field} {bytes : List UInt8}
    (h : bytes <+: run fields) : ∃ cause, CutOff fields bytes cause := by
  induction fields generalizing bytes with
  | nil =>
      rw [List.prefix_nil.1 h]
      exact ⟨_, .between [] rfl⟩
  | cons f fields ih =>
      rw [run_cons, Field.encode_append, List.prefix_cons_iff] at h
      rcases h with rfl | ⟨more, rfl, hmore⟩
      · exact ⟨_, .between [] rfl⟩
      rcases List.prefix_or_prefix_of_prefix hmore (List.prefix_append _ _) with hpart | hwhole
      · exact ⟨_, .within [] f rfl hpart⟩
      -- The text stands there whole, and then nothing or the zero byte that ends it.
      obtain ⟨rest, rfl⟩ := hwhole
      rw [List.prefix_append_right_inj, List.prefix_cons_iff] at hmore
      rcases hmore with rfl | ⟨tail, rfl, htail⟩
      · rw [List.append_nil]
        exact ⟨_, .within [] f rfl (List.prefix_refl _)⟩
      · obtain ⟨cause, hcause⟩ := ih htail
        rw [← Field.encode_append]
        exact ⟨cause, hcause.cons f⟩

/-- What is not all of a body is a beginning of its fields. -/
theorem prefix_run_iff {fields : List Field} {bytes : List UInt8} :
    bytes <+: run fields ↔ bytes <+: encode fields ∧ bytes ≠ encode fields := by
  rw [encode_eq_run, List.prefix_concat_iff]
  constructor
  · intro h
    refine ⟨.inr h, ?_⟩
    rintro rfl
    have hle := h.length_le
    rw [List.length_append, List.length_singleton] at hle
    omega
  · rintro ⟨rfl | h, hne⟩
    · exact absurd rfl hne
    · exact h

/-! ### What reading answers there -/

/-- A field has a zero byte after its tag. -/
theorem stuck_of_zero_not_mem_tail {rest : List UInt8} (h : 0 ∉ rest.tail) : Stuck rest := by
  intro hfield
  obtain ⟨f, after, -, rfl⟩ := hfield
  rw [Field.encode_append, List.tail_cons] at h
  exact h (by simp)

theorem CutOff.exists_longestCut {fields : List Field} {bytes : List UInt8} {cause : DecodeError}
    (h : CutOff fields bytes cause) (hfields : ∀ f ∈ fields, f.WellFormed) :
    ∃ before rest, LongestCut bytes before rest ∧ Verdict rest (.error cause) := by
  cases h with
  | between before hsplit =>
      have hcut : Cut (run before) before [] :=
        ⟨(List.append_nil _).symm, fun f hf => hfields f (by simp [hsplit, hf])⟩
      exact ⟨before, [], hcut.longest_of_stuck (stuck_of_zero_not_mem_tail List.not_mem_nil), .missing⟩
  | @within before f after part hsplit hpart =>
      have hf := hfields f (by simp [hsplit])
      have hzero : 0 ∉ part := fun hmem => hf.zero_not_mem (hpart.subset hmem)
      have hcut : Cut (run before ++ f.tag :: part) before (f.tag :: part) :=
        ⟨rfl, fun g hg => hfields g (by simp [hsplit, hg])⟩
      exact ⟨before, _, hcut.longest_of_stuck (stuck_of_zero_not_mem_tail hzero),
        .unterminated hf.tag_ne_zero hzero⟩

end Wire

namespace Event

open Wire (Cut CutOff LongestCut)

variable {body : List UInt8} {fields : List Wire.Field}

theorem decode_of_cutOff (hfields : ∀ f ∈ fields, f.WellFormed) {bytes : List UInt8}
    {cause : DecodeError} (h : CutOff fields bytes cause) : decode bytes = .error cause := by
  obtain ⟨before, rest, hcut, hverdict⟩ := h.exists_longestCut hfields
  exact (decode_eq_error_iff hcut).2 hverdict

/-- What stands after the end of a body is counted. -/
theorem decode_append_of_ne_nil (hcut : Cut body fields [0]) {more : List UInt8}
    (hmore : more ≠ []) : decode (body ++ more) = .error (.trailingBytes more.length) := by
  have hlonger : Cut (body ++ more) fields (0 :: more) :=
    ⟨by simp [hcut.bytes_eq], hcut.wellFormed⟩
  rw [decode_eq_error_iff (hlonger.longest_of_stuck (stuck_terminator more))]
  exact .trailing hmore

/-- A body that shows where it ends, both to what is cut off before and to what goes on after. -/
structure EndsItself (body : List UInt8) (fields : List Wire.Field) : Prop
    extends Cut body fields [0] where
  /-- Whatever begins the body falls off between its fields or within one of them, -/
  exists_cutOff_iff : ∀ bytes, (∃ cause, CutOff fields bytes cause) ↔ bytes <+: body ∧ bytes ≠ body
  /-- and the error tells where. -/
  decode_cutOff : ∀ bytes cause, CutOff fields bytes cause → decode bytes = .error cause
  /-- It is told neither as a fault of a text, be it cut within a character, nor as bytes after
  the end. -/
  told_as_missing : ∀ bytes, bytes <+: body →
    (∀ tag, decode bytes ≠ .error (.invalidUtf8 tag)) ∧
      ∀ count, decode bytes ≠ .error (.trailingBytes count)
  /-- What goes on after the body is counted. -/
  decode_append : ∀ more, more ≠ [] →
    decode (body ++ more) = .error (.trailingBytes more.length)
  /-- No other body that is read begins with this one. -/
  eq_of_prefix : ∀ body', body <+: body' → (∃ e, decode body' = .ok e) → body' = body

/-- **A body ends itself.**  Of a body that is read no other beginning is read and nothing that
goes on after it, and the error tells which of the two it was and where. -/
theorem endsItself_of_decode {e : Event} (h : decode body = .ok e) :
    ∃ fields, EndsItself body fields := by
  obtain ⟨fields, hcut, -⟩ := exists_cut_of_decode h
  have hbody : body = Wire.encode fields := hcut.bytes_eq
  have hiff : ∀ bytes, (∃ cause, CutOff fields bytes cause) ↔ bytes <+: body ∧ bytes ≠ body := by
    intro bytes
    rw [hbody, ← Wire.prefix_run_iff]
    exact ⟨fun hcause => hcause.elim fun _ => CutOff.prefix_run, Wire.exists_cutOff_of_prefix_run⟩
  refine ⟨fields, ⟨hcut, hiff, ?_, ?_, ?_, ?_⟩⟩
  · exact fun bytes cause => decode_of_cutOff hcut.wellFormed
  · intro bytes hbytes
    by_cases hall : bytes = body
    · rw [hall, h]
      simp
    · obtain ⟨cause, hcause⟩ := (hiff bytes).2 ⟨hbytes, hall⟩
      rw [decode_of_cutOff hcut.wellFormed hcause]
      cases hcause <;> simp
  · exact fun more => decode_append_of_ne_nil hcut
  · rintro body' ⟨more, rfl⟩ ⟨e', he'⟩
    by_cases hmore : more = []
    · rw [hmore, List.append_nil]
    · rw [decode_append_of_ne_nil hcut hmore] at he'
      cases he'

/-- A body of two fields, cut within the one character of the second, and with a byte too many. -/
theorem endsItself_of_decode_accent :
    let body : List UInt8 := [67, 52, 50, 0, 77, 0xc3, 0xa9, 0, 0]
    decode body = .ok (ofFields [(.code, "42"), (.message, "\u00e9")]) ∧
      (∃ fields, EndsItself body fields) ∧
      decode [67, 52, 50, 0, 77, 0xc3] = .error (.unterminatedField 77) ∧
      decode (body ++ [0]) = .error (.trailingBytes 1) := by
  intro body
  have hcut : Cut body [⟨67, "42"⟩, ⟨77, "\u00e9"⟩] [0] := ⟨by decide, by decide⟩
  have hdecode := decode_of_cut hcut
  obtain ⟨fields, hends⟩ := endsItself_of_decode hdecode
  have hcutOff : CutOff [⟨67, "42"⟩, ⟨77, "\u00e9"⟩] [67, 52, 50, 0, 77, 0xc3]
      (.unterminatedField 77) :=
    .within [⟨67, "42"⟩] ⟨77, "\u00e9"⟩ rfl ⟨[0xa9], rfl⟩
  rw [eq_of_cut hcut hends.toCut] at hcutOff
  exact ⟨hdecode, ⟨fields, hends⟩, hends.decode_cutOff _ _ hcutOff,
    hends.decode_append [0] (List.cons_ne_nil _ _)⟩

end Event

end PgTriage
