/-
Where the fields of a body end.

Reading takes one field after another for as long as a field begins, and what stands
where none does decides the rest.  That place needs no reader to say where it is: it is
the end of the longest beginning of the body that is a run of well-formed fields.  There
is one such beginning and one way to see fields in it, because a field begins with its
tag and ends at the first zero byte after it.

At that place five things can stand, and each has an answer of its own: the end of the
body, the zero byte that ends it, such a byte with more after it, a tag whose text is not
ended, and a tag whose text is not UTF-8.
-/
import PgTriage.Event.Wire

namespace PgTriage.Wire

/-- A field as the format has it: neither its tag nor a byte of its text is zero. -/
structure Field.WellFormed (f : Field) : Prop where
  tag_ne_zero : f.tag ≠ 0
  zero_not_mem : 0 ∉ Utf8.encode f.text

instance (f : Field) : Decidable f.WellFormed :=
  decidable_of_iff (f.tag ≠ 0 ∧ 0 ∉ Utf8.encode f.text)
    ⟨fun h => ⟨h.1, h.2⟩, fun h => ⟨h.tag_ne_zero, h.zero_not_mem⟩⟩

/-- The bytes of a run of fields. -/
def run (fields : List Field) : List UInt8 := fields.flatMap Field.encode

@[simp] theorem run_nil : run [] = [] := rfl

@[simp] theorem run_cons (f : Field) (fields : List Field) :
    run (f :: fields) = f.encode ++ run fields := rfl

@[simp] theorem run_append (fields more : List Field) :
    run (fields ++ more) = run fields ++ run more :=
  List.flatMap_append

theorem encode_eq_run (fields : List Field) : encode fields = run fields ++ [0] := rfl

theorem Field.encode_append (f : Field) (after : List UInt8) :
    f.encode ++ after = f.tag :: (Utf8.encode f.text ++ 0 :: after) := by
  simp [Field.encode]

theorem Field.encode_ne_nil (f : Field) : f.encode ≠ [] := List.cons_ne_nil _ _

/-- A text ends at the first zero byte after it. -/
theorem Field.WellFormed.splitFirst?_text {f : Field} (hf : f.WellFormed) (after : List UInt8) :
    Text.splitFirst? 0 (Utf8.encode f.text ++ 0 :: after) = some (Utf8.encode f.text, after) :=
  Text.splitFirst?_eq_some_iff.2 ⟨rfl, hf.zero_not_mem⟩

/-- Two fields that begin the same bytes are the same field. -/
theorem Field.encode_append_inj {f g : Field} {after after' : List UInt8} (hf : f.WellFormed)
    (hg : g.WellFormed) (h : f.encode ++ after = g.encode ++ after') :
    f = g ∧ after = after' := by
  rw [Field.encode_append, Field.encode_append, List.cons.injEq] at h
  obtain ⟨htag, hrest⟩ := h
  have hsplit := hf.splitFirst?_text after
  rw [hrest, hg.splitFirst?_text] at hsplit
  simp only [Option.some.injEq, Prod.mk.injEq] at hsplit
  obtain ⟨htext, hafter⟩ := hsplit
  have hdecode := congrArg Utf8.decode? htext
  rw [Utf8.decode?_encode, Utf8.decode?_encode, Option.some.injEq] at hdecode
  cases f; cases g
  simp_all

/-! ### Reading past the fields -/

theorem decode_cons_of_ne_zero {tag : UInt8} (h : tag ≠ 0) (rest : List UInt8) :
    decode (tag :: rest) =
      match Text.splitFirst? 0 rest with
      | none => .error (.unterminatedField tag)
      | some (bytes, after) =>
        match Utf8.decode? bytes with
        | none => .error (.invalidUtf8 tag)
        | some text => (decode after).map (⟨tag, text⟩ :: ·) := by
  rw [decode, if_neg h]
  split
  · next hnone => rw [hnone]
  · next bytes after hsome =>
    cases hdecode : Utf8.decode? bytes with
    | none => simp only [hsome, hdecode]
    | some text => simp only [hsome, hdecode]

theorem decode_field {f : Field} (hf : f.WellFormed) (after : List UInt8) :
    decode (f.encode ++ after) = (decode after).map (f :: ·) := by
  rw [Field.encode_append, decode_cons_of_ne_zero hf.tag_ne_zero, hf.splitFirst?_text]
  simp only [Utf8.decode?_encode]

theorem decode_run {fields : List Field} (h : ∀ f ∈ fields, f.WellFormed) (rest : List UInt8) :
    decode (run fields ++ rest) = (decode rest).map (fields ++ ·) := by
  induction fields with
  | nil =>
      rw [run_nil, List.nil_append]
      cases decode rest <;> rfl
  | cons f fields ih =>
      rw [run_cons, List.append_assoc, decode_field (h f List.mem_cons_self),
        ih fun g hg => h g (List.mem_cons_of_mem f hg)]
      cases decode rest <;> rfl

/-! ### Cutting a body where no further field begins -/

/-- A body in two: a run of well-formed fields, and the bytes after them. -/
structure Cut (body : List UInt8) (fields : List Field) (rest : List UInt8) : Prop where
  bytes_eq : body = run fields ++ rest
  wellFormed : ∀ f ∈ fields, f.WellFormed

/-- A cut whose fields take up no fewer bytes than those of any other. -/
structure LongestCut (body : List UInt8) (fields : List Field) (rest : List UInt8) : Prop
    extends Cut body fields rest where
  longest : ∀ fields' rest', Cut body fields' rest' → (run fields').length ≤ (run fields).length

/-- No field begins here. -/
def Stuck (rest : List UInt8) : Prop :=
  ¬ ∃ f after, Field.WellFormed f ∧ rest = f.encode ++ after

/-- Every cut of the body ends within the fields of one that is stuck. -/
theorem Cut.eq_append {body rest : List UInt8} {fields : List Field} (hcut : Cut body fields rest)
    (hstuck : Stuck rest) :
    ∀ {fields' rest'}, Cut body fields' rest' → ∃ more, fields = fields' ++ more := by
  intro fields'
  induction fields' generalizing body fields with
  | nil => exact fun _ => ⟨fields, rfl⟩
  | cons f' fields' ih =>
      intro rest' hcut'
      have hf' := hcut'.wellFormed f' List.mem_cons_self
      have hbytes := hcut.bytes_eq.symm.trans hcut'.bytes_eq
      rw [run_cons, List.append_assoc] at hbytes
      cases fields with
      | nil => exact absurd ⟨f', _, hf', hbytes⟩ hstuck
      | cons f fields =>
          rw [run_cons, List.append_assoc] at hbytes
          have hf := hcut.wellFormed f List.mem_cons_self
          obtain ⟨rfl, hrest⟩ := Field.encode_append_inj hf hf' hbytes
          have htail : Cut (run fields ++ rest) fields rest :=
            ⟨rfl, fun g hg => hcut.wellFormed g (List.mem_cons_of_mem f hg)⟩
          have htail' : Cut (run fields ++ rest) fields' rest' :=
            ⟨hrest, fun g hg => hcut'.wellFormed g (List.mem_cons_of_mem f hg)⟩
          obtain ⟨more, rfl⟩ := ih htail htail'
          exact ⟨more, rfl⟩

theorem Cut.longest_of_stuck {body rest : List UInt8} {fields : List Field}
    (hcut : Cut body fields rest) (hstuck : Stuck rest) : LongestCut body fields rest := by
  refine ⟨hcut, ?_⟩
  intro fields' rest' hcut'
  obtain ⟨more, rfl⟩ := hcut.eq_append hstuck hcut'
  simp

/-- A longest cut is stuck, or one more field would lengthen it. -/
theorem LongestCut.stuck {body rest : List UInt8} {fields : List Field}
    (h : LongestCut body fields rest) : Stuck rest := by
  intro hfield
  obtain ⟨f, after, hf, rfl⟩ := hfield
  have hlonger : Cut body (fields ++ [f]) after := by
    refine ⟨by simp [h.bytes_eq], ?_⟩
    intro g hg
    rcases List.mem_append.1 hg with hg | hg
    · exact h.wellFormed g hg
    · rwa [List.mem_singleton.1 hg]
  have hle := h.longest _ _ hlonger
  have hpos := List.length_pos_iff.2 f.encode_ne_nil
  rw [run_append, List.length_append, run_cons, run_nil, List.append_nil] at hle
  omega

theorem LongestCut.unique {body rest rest' : List UInt8} {fields fields' : List Field}
    (h : LongestCut body fields rest) (h' : LongestCut body fields' rest') :
    fields' = fields ∧ rest' = rest := by
  obtain ⟨more, hmore⟩ := h.toCut.eq_append h.stuck h'.toCut
  obtain ⟨more', hmore'⟩ := h'.toCut.eq_append h'.stuck h.toCut
  have hfields : fields' = fields := by
    have hlen := congrArg List.length hmore
    have hlen' := congrArg List.length hmore'
    simp only [List.length_append] at hlen hlen'
    have hnil : more = [] := List.eq_nil_of_length_eq_zero (by omega)
    rw [hmore, hnil, List.append_nil]
  subst hfields
  exact ⟨rfl, List.append_cancel_left (h'.bytes_eq.symm.trans h.bytes_eq)⟩

/-- Cutting off one field after another ends, for each makes the body shorter. -/
theorem exists_longestCut (body : List UInt8) : ∃ fields rest, LongestCut body fields rest := by
  suffices h : ∃ fields rest, Cut body fields rest ∧ Stuck rest by
    obtain ⟨fields, rest, hcut, hstuck⟩ := h
    exact ⟨fields, rest, hcut.longest_of_stuck hstuck⟩
  induction hn : body.length using Nat.strongRecOn generalizing body with
  | _ n ih =>
      by_cases hfield : ∃ f after, Field.WellFormed f ∧ body = f.encode ++ after
      · obtain ⟨f, after, hf, hbody⟩ := hfield
        have hpos := List.length_pos_iff.2 f.encode_ne_nil
        have hlt : after.length < n := by
          rw [← hn, hbody, List.length_append]
          omega
        obtain ⟨fields, rest, hcut, hrest⟩ := ih _ hlt after rfl
        refine ⟨f :: fields, rest, ⟨?_, ?_⟩, hrest⟩
        · rw [hbody, hcut.bytes_eq, run_cons, List.append_assoc]
        · intro g hg
          rcases List.mem_cons.1 hg with rfl | hg
          · exact hf
          · exact hcut.wellFormed g hg
      · exact ⟨[], body, ⟨rfl, by simp⟩, hfield⟩

end PgTriage.Wire
