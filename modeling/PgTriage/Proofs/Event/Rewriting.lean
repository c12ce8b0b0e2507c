/-
Reading a body and writing it again.

An event keeps one text for every code and lists its codes in order.  A body that is read and
written again therefore comes out in order, with each code of its fields once and under it the
text of the last field that has the code.  The order is that in which the codes are declared,
those without a meaning last and by their bytes; it is not the order of the tags.

Nothing else of the body is lost and nothing is added, so what comes out depends on those last
texts alone.  A body that has its fields in order already has each code once, and of these the
fields of its event are the same list: it comes out as it was.  No other body does, for what
comes out is in order.
-/
import PgTriage.Proofs.Event.RoundTrip

namespace PgTriage

namespace FieldCode

/-- One code comes before another: it is declared earlier, or neither has a meaning and it has the
smaller byte. -/
inductive Precedes : FieldCode → FieldCode → Prop where
  | declared {c d : FieldCode} (h : c.ctorIdx < d.ctorIdx) : Precedes c d
  | unknown {a b : UInt8} (h : a < b) : Precedes (.unknown a) (.unknown b)

/-- The codes with a meaning are ranked as they are declared, and those without after them. -/
theorem rank_cases (c : FieldCode) :
    c.rank = c.ctorIdx ∧ c.ctorIdx < 18 ∨ ∃ b, c = .unknown b := by
  cases c with
  | unknown b => exact .inr ⟨b, rfl⟩
  | _ => exact .inl ⟨rfl, by decide⟩

theorem rank_unknown (b : UInt8) : (unknown b).rank = 18 + b.toNat := rfl

theorem ctorIdx_unknown (b : UInt8) : (unknown b).ctorIdx = 18 := rfl

theorem rank_lt_rank_of_declared {c d : FieldCode} (h : c.ctorIdx < d.ctorIdx) :
    c.rank < d.rank := by
  rcases rank_cases c with ⟨hc, -⟩ | ⟨a, rfl⟩
  · rcases rank_cases d with ⟨hd, -⟩ | ⟨b, rfl⟩
    · rwa [hc, hd]
    · rw [ctorIdx_unknown] at h
      rw [hc, rank_unknown]
      omega
  · -- Nothing is declared after the codes without a meaning.
    rw [ctorIdx_unknown] at h
    rcases rank_cases d with ⟨-, hd⟩ | ⟨b, rfl⟩
    · omega
    · exact absurd h (Nat.lt_irrefl 18)

/-- The order in which an event lists its codes. -/
theorem precedes_iff {c d : FieldCode} : Precedes c d ↔ compare c d = .lt := by
  rw [compare_eq, Nat.compare_eq_lt]
  constructor
  · intro h
    cases h with
    | declared h => exact rank_lt_rank_of_declared h
    | unknown h => exact Nat.add_lt_add_left (UInt8.lt_iff_toNat_lt.1 h) 18
  · intro h
    rcases Nat.lt_trichotomy c.ctorIdx d.ctorIdx with hlt | heq | hgt
    · exact .declared hlt
    · rcases rank_cases c with ⟨hc, hknown⟩ | ⟨a, rfl⟩
      · rcases rank_cases d with ⟨hd, -⟩ | ⟨b, rfl⟩
        · omega
        · rw [ctorIdx_unknown] at heq
          omega
      · rcases rank_cases d with ⟨-, hknown⟩ | ⟨b, rfl⟩
        · rw [ctorIdx_unknown] at heq
          omega
        · exact .unknown (UInt8.lt_iff_toNat_lt.2 (Nat.lt_of_add_lt_add_left h))
    · exact absurd (Nat.lt_trans h (rank_lt_rank_of_declared hgt)) (Nat.lt_irrefl _)

end FieldCode

namespace Wire

/-- The code that a field's tag means. -/
abbrev Field.code (f : Field) : FieldCode := .ofByte f.tag

/-- Every code comes before those after it. -/
def InOrder (fields : List Field) : Prop :=
  (fields.map Field.code).Pairwise FieldCode.Precedes

/-- A field is known by its code and its text. -/
theorem Field.mk_byte_code (f : Field) : (⟨f.code.byte, f.text⟩ : Field) = f := by
  rw [Field.code, FieldCode.byte_ofByte]

end Wire

namespace Event

open Wire (Cut InOrder)

variable {body : List UInt8} {fields : List Wire.Field} {e : Event}

/-! ### The fields that an event is written as -/

theorem Sendable.map_code_wireFields (h : Sendable e) :
    e.wireFields.map Wire.Field.code = e.fields.keys := by
  rw [wireFields, List.map_map, OrderedMap.keys]
  exact List.map_congr_left h.ofByte_byte

theorem Sendable.inOrder_wireFields (h : Sendable e) : InOrder e.wireFields := by
  rw [InOrder, h.map_code_wireFields]
  exact e.fields.pairwise_keys.imp FieldCode.precedes_iff.2

theorem IsLast.code_eq {c : FieldCode} {f : Wire.Field} (h : IsLast fields c f) : f.code = c := by
  obtain ⟨before, after, -, hc, -⟩ := h
  exact hc

/-- The fields an event is written as are the last ones of those it was made of. -/
theorem mem_wireFields_ofFields_iff {f : Wire.Field} :
    f ∈ (ofFields (fields.map fun f => (f.code, f.text))).wireFields ↔ IsLast fields f.code f := by
  rw [wireFields, List.mem_map]
  constructor
  · intro h
    obtain ⟨⟨c, text⟩, hmem, rfl⟩ := h
    obtain ⟨g, hg, rfl⟩ := get?_ofFields_eq_some_iff.1 (mem_toList_iff.1 hmem)
    obtain rfl := hg.code_eq
    rw [g.mk_byte_code]
    exact hg
  · intro h
    refine ⟨(f.code, f.text), ?_, f.mk_byte_code⟩
    exact mem_toList_iff.2 (get?_ofFields_eq_some_iff.2 ⟨f, h, rfl⟩)

/-- Fields that are in order make an event that is written as they are. -/
theorem wireFields_ofFields_of_inOrder (h : InOrder fields) :
    (ofFields (fields.map fun f => (f.code, f.text))).wireFields = fields := by
  have hpairwise : (fields.map fun f => (f.code, f.text)).Pairwise fun a b =>
      compare a.1 b.1 = .lt := by
    rw [List.pairwise_map]
    exact (List.pairwise_map.1 h).imp FieldCode.precedes_iff.1
  have hlisted : (ofFields (fields.map fun f => (f.code, f.text))).toList =
      fields.map fun f => (f.code, f.text) := by
    rw [toList, fields_ofFields, OrderedMap.ofList_entries ⟨_, hpairwise⟩]
  rw [wireFields, hlisted, List.map_map]
  calc fields.map _ = fields.map id := List.map_congr_left fun f _ => f.mk_byte_code
    _ = fields := List.map_id fields

/-! ### What comes out -/

/-- The text of the last field with a code. -/
def LastText (fields : List Wire.Field) (c : FieldCode) (text : String) : Prop :=
  ∃ f, IsLast fields c f ∧ f.text = text

/-- The fields that come out, in order, each code once and with its last text. -/
structure ListsLast (fields listed : List Wire.Field) : Prop where
  inOrder : InOrder listed
  /-- A code that is there comes out once. -/
  count_eq_one : ∀ f ∈ fields, (listed.map Wire.Field.code).count f.code = 1
  /-- Nothing comes out but the last field of its code. -/
  isLast : ∀ f ∈ listed, IsLast fields f.code f

theorem listsLast_wireFields (hcut : Cut body fields [0]) :
    ListsLast fields (ofFields (fields.map fun f => (f.code, f.text))).wireFields := by
  have hsendable := sendable_of_decode (decode_of_cut hcut)
  refine ⟨hsendable.inOrder_wireFields, ?_, fun f => mem_wireFields_ofFields_iff.1⟩
  intro f hf
  obtain ⟨g, hg⟩ := exists_isLast_iff.2 ⟨f, hf, rfl⟩
  have hcode : g.code = f.code := hg.code_eq
  have hmem : g ∈ (ofFields (fields.map fun f => (f.code, f.text))).wireFields :=
    mem_wireFields_ofFields_iff.2 (hcode ▸ hg)
  rw [← hcode, hsendable.map_code_wireFields]
  refine List.count_eq_one_of_mem (OrderedMap.nodup_keys _) ?_
  rw [← hsendable.map_code_wireFields]
  exact List.mem_map_of_mem hmem

theorem encode_eq_encode_iff {e' : Event} (h : Sendable e) (h' : Sendable e') :
    encode e = encode e' ↔ e = e' := by
  constructor
  · intro hbytes
    have hread := congrArg decode hbytes
    rw [decode_encode_of_sendable h, decode_encode_of_sendable h', Except.ok.injEq] at hread
    exact hread
  · exact congrArg encode

theorem eq_iff_lastText {fields' : List Wire.Field} :
    (ofFields (fields.map fun f => (f.code, f.text))) =
        ofFields (fields'.map fun f => (f.code, f.text)) ↔
      ∀ c text, LastText fields c text ↔ LastText fields' c text := by
  constructor
  · intro h c text
    rw [LastText, LastText, ← get?_ofFields_eq_some_iff, ← get?_ofFields_eq_some_iff, h]
  · intro h
    refine congrArg Event.mk (OrderedMap.ext_get? fun c => Option.ext fun text => ?_)
    exact get?_ofFields_eq_some_iff.trans ((h c text).trans get?_ofFields_eq_some_iff.symm)

/-- **What is read is written in order.**  Each code comes out once and with its last text, a body
comes out as it was just where it is in order already, and two bodies come out alike just where
their codes have the same last texts. -/
theorem listsLast_encode_of_decode (h : decode body = .ok e) :
    ∃ fields listed, Cut body fields [0] ∧ Cut (encode e) listed [0] ∧ ListsLast fields listed ∧
      (encode e = body ↔ InOrder fields) ∧
      ∀ body' e' fields', decode body' = .ok e' → Cut body' fields' [0] →
        (encode e' = encode e ↔ ∀ c text, LastText fields' c text ↔ LastText fields c text) := by
  obtain ⟨fields, hcut, rfl⟩ := exists_cut_of_decode h
  have hsendable := sendable_of_decode h
  refine ⟨fields, _, hcut, hsendable.cut, listsLast_wireFields hcut, ?_, ?_⟩
  · constructor
    · intro hbytes
      rw [eq_of_cut hcut (hbytes ▸ hsendable.cut)]
      exact hsendable.inOrder_wireFields
    · intro hinOrder
      rw [encode_eq_run, wireFields_ofFields_of_inOrder hinOrder]
      exact hcut.bytes_eq.symm
  · intro body' e' fields' h' hcut'
    rw [encode_eq_encode_iff (sendable_of_decode h') hsendable]
    rw [decode_of_cut hcut', Except.ok.injEq] at h'
    rw [← h', eq_iff_lastText]

/-- A tag without a meaning that comes first, and a code that comes twice. -/
theorem listsLast_encode_of_decode_repeated :
    let body : List UInt8 := [65, 120, 0, 77, 98, 0, 67, 49, 0, 67, 50, 0, 0]
    let e := ofFields [(.unknown 65, "x"), (.message, "b"), (.code, "1"), (.code, "2")]
    decode body = .ok e ∧ encode e = [67, 50, 0, 77, 98, 0, 65, 120, 0, 0] ∧
      ∃ fields listed, Cut body fields [0] ∧ Cut (encode e) listed [0] ∧ ListsLast fields listed ∧
        ¬ InOrder fields := by
  intro body e
  have hcut : Cut body [⟨65, "x"⟩, ⟨77, "b"⟩, ⟨67, "1"⟩, ⟨67, "2"⟩] [0] := ⟨by decide, by decide⟩
  have hdecode : decode body = .ok e := decode_of_cut hcut
  have hencode : encode e = [67, 50, 0, 77, 98, 0, 65, 120, 0, 0] := by decide
  obtain ⟨fields, listed, hfields, hlisted, hlists, hsame, -⟩ := listsLast_encode_of_decode hdecode
  refine ⟨hdecode, hencode, fields, listed, hfields, hlisted, hlists, ?_⟩
  rw [← hsame, hencode]
  decide

end Event

end PgTriage
