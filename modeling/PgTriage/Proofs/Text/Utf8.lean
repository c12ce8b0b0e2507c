/-
Where ASCII characters stand in UTF-8 bytes.

The bytes of a text are the bytes of its characters, one after another.  An ASCII
character is one byte, the character's own number, and every byte of any other character
is 0x80 or more.  A byte below 0x80 is therefore an ASCII character of the text; the zero
byte in particular is there exactly when the text holds U+0000.

No character's bytes begin those of another, so a text that begins with another one in
bytes begins with it in characters.  A character that comes before another has bytes that
come before the other's, so texts are in order by their bytes if they are by their
characters.
-/
import Mathlib.Data.List.Lex
import PgTriage.Text.Utf8

namespace PgTriage.Utf8

theorem encode_eq_flatMap (s : String) : encode s = s.toList.flatMap String.utf8EncodeChar := by
  have h : s.toUTF8 = s.toList.utf8Encode := by
    rw [String.toUTF8_eq_toByteArray, String.utf8Encode_toList]
  rw [encode, h]
  simp [List.utf8Encode]

/-- Bytes that are the form of some text. -/
def WellFormed (bytes : List UInt8) : Prop := ∃ s, encode s = bytes

theorem decode?_eq_none_iff {bytes : List UInt8} : decode? bytes = none ↔ ¬ WellFormed bytes := by
  rw [Option.eq_none_iff_forall_ne_some]
  constructor
  · intro h hbytes
    obtain ⟨s, hs⟩ := hbytes
    exact h s (decode?_eq_some_iff.2 hs.symm)
  · intro h s hs
    exact h ⟨s, (decode?_eq_some_iff.1 hs).symm⟩

/-! ### The bytes of one character -/

theorem encodeChar_of_lt {c : Char} (h : c.toNat < 0x80) :
    String.utf8EncodeChar c = [UInt8.ofNat c.toNat] := by
  have hle : c.val.toNat ≤ 0x7f := Nat.le_of_lt_succ h
  rw [String.utf8EncodeChar]
  simp only [if_pos hle]
  rfl

theorem le_of_mem_encodeChar {c : Char} (h : ¬ c.toNat < 0x80) {b : UInt8}
    (hb : b ∈ String.utf8EncodeChar c) : 0x80 ≤ b := by
  have hgt : ¬ c.val.toNat ≤ 0x7f := fun hle => h (Nat.lt_succ_of_le hle)
  rw [UInt8.le_iff_toNat_le]
  simp only [String.utf8EncodeChar, if_neg hgt] at hb
  split at hb
  · simp only [List.mem_cons, List.not_mem_nil, or_false] at hb
    rcases hb with rfl | rfl <;> simp <;> omega
  · split at hb
    · simp only [List.mem_cons, List.not_mem_nil, or_false] at hb
      rcases hb with rfl | rfl | rfl <;> simp <;> omega
    · simp only [List.mem_cons, List.not_mem_nil, or_false] at hb
      rcases hb with rfl | rfl | rfl | rfl <;> simp <;> omega

/-! ### The bytes of a text -/

/-- A byte below 0x80 is an ASCII character of the text. -/
theorem mem_encode_iff {s : String} {c : Char} (h : c.toNat < 0x80) :
    UInt8.ofNat c.toNat ∈ encode s ↔ c ∈ s.toList := by
  have hbyte : (UInt8.ofNat c.toNat).toNat = c.toNat := by simp; omega
  rw [encode_eq_flatMap, List.mem_flatMap]
  constructor
  · intro hmem
    obtain ⟨d, hd, hb⟩ := hmem
    by_cases hlt : d.toNat < 0x80
    · rw [encodeChar_of_lt hlt, List.mem_singleton] at hb
      have hdbyte : (UInt8.ofNat d.toNat).toNat = d.toNat := by simp; omega
      have hcd : c = d := by
        refine Char.toNat_inj.1 ?_
        rw [← hbyte, ← hdbyte, hb]
      rwa [hcd]
    · have hle := UInt8.le_iff_toNat_le.1 (le_of_mem_encodeChar hlt hb)
      rw [hbyte] at hle
      exact absurd h (Nat.not_lt.2 hle)
  · intro hc
    exact ⟨c, hc, by rw [encodeChar_of_lt h]; exact List.mem_singleton_self _⟩

/-- The zero byte is U+0000. -/
theorem zero_mem_encode_iff {s : String} : 0 ∈ encode s ↔ '\x00' ∈ s.toList :=
  mem_encode_iff (c := '\x00') (by decide)

/-- A text begins with another one in bytes exactly when it does in characters. -/
theorem encode_prefix_iff {s t : String} : encode s <+: encode t ↔ s.toList <+: t.toList := by
  constructor
  · intro h
    obtain ⟨bytes, hbytes⟩ := h
    refine List.isPrefix_of_utf8Encode_append_eq_utf8Encode bytes.toByteArray ?_
    rw [encode_eq_flatMap, encode_eq_flatMap] at hbytes
    rw [List.utf8Encode, List.utf8Encode, ← hbytes, List.toByteArray_append]
  · intro h
    obtain ⟨cs, hcs⟩ := h
    rw [encode_eq_flatMap, encode_eq_flatMap, ← hcs, List.flatMap_append]
    exact List.prefix_append _ _

/-! ### The order of texts -/

/-- Lists that differ before the first of them ends are in order whatever follows. -/
theorem append_lt_append {l m : List UInt8} (h : l < m) (hbegins : ¬ l <+: m)
    (r s : List UInt8) : l ++ r < m ++ s := by
  have hlex : List.Lex (· < ·) l m := h
  show List.Lex (· < ·) (l ++ r) (m ++ s)
  induction hlex with
  | nil => exact absurd List.nil_prefix hbegins
  | rel hab => exact .rel hab
  | cons htail ih =>
      refine .cons (ih htail fun hp => hbegins ?_)
      exact List.cons_prefix_cons.2 ⟨rfl, hp⟩

theorem not_encodeChar_prefix_of_ne {c d : Char} (h : c ≠ d) :
    ¬ String.utf8EncodeChar c <+: String.utf8EncodeChar d := by
  intro hp
  have hencode : encode (.singleton c) <+: encode (.singleton d) := by
    simpa [encode_eq_flatMap] using hp
  have hchars := encode_prefix_iff.1 hencode
  simp [List.cons_prefix_cons, h] at hchars

/-- A lead byte tells the number of bytes, and more of them mean a greater character.  Where the
numbers are the same, the bytes are the digits of the character. -/
theorem encodeChar_lt {c d : Char} (h : c < d) :
    String.utf8EncodeChar c < String.utf8EncodeChar d := by
  have hlt : c.val.toNat < d.val.toNat := h
  have hd : d.val.toNat < 0x110000 := by
    have hvalid := d.valid
    simp only [UInt32.isValidChar, Nat.isValidChar] at hvalid
    omega
  simp only [String.utf8EncodeChar]
  generalize c.val.toNat = m at *
  generalize d.val.toNat = n at *
  repeat' split
  all_goals
    simp only [List.cons_lt_cons_iff, List.nil_lt_cons, List.not_lt_nil, UInt8.lt_iff_toNat_lt,
      ← UInt8.toNat_inj, UInt8.toNat_ofNat']
    simp (disch := omega) only [Nat.mod_eq_of_lt]
    omega

theorem flatMap_encodeChar_lt {cs ds : List Char} (h : List.Lex (· < ·) cs ds) :
    cs.flatMap String.utf8EncodeChar < ds.flatMap String.utf8EncodeChar := by
  induction h with
  | @nil d ds =>
      have hlead : ∃ b rest, String.utf8EncodeChar d = b :: rest :=
        List.exists_cons_of_ne_nil String.utf8EncodeChar_ne_nil
      obtain ⟨b, rest, hbytes⟩ := hlead
      rw [List.flatMap_cons, hbytes]
      exact List.Lex.nil
  | rel hcd =>
      have hapart := not_encodeChar_prefix_of_ne (Char.ne_of_lt hcd)
      exact append_lt_append (encodeChar_lt hcd) hapart _ _
  | cons htail ih => exact List.Lex.append_left _ ih _

/-- The order of texts is that of their bytes. -/
theorem encode_lt_encode {s t : String} (h : s < t) : encode s < encode t := by
  rw [encode_eq_flatMap, encode_eq_flatMap]
  exact flatMap_encodeChar_lt h

end PgTriage.Utf8
