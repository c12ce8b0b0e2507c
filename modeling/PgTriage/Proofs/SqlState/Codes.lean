/-
Which codes a state or a class takes.

Codes are compared without regard to case and classes by two bytes, whatever text a
server sends in place of a code.  A code of digits leaves no room for case, so such a
state takes its own code and no other text.  The two characters of a class are ASCII, and
a text whose first two bytes are theirs begins with them: a byte below 0x80 never lies
inside another character.

Two texts that differ in case alone are taken by the same states and the same classes.  A
character keeps its size in lower case, so the first two bytes are those of the same
characters in both.
-/
import PgTriage.Proofs.Text.Ascii
import PgTriage.Proofs.Text.Utf8
import PgTriage.SqlState.Basic

namespace PgTriage

theorem utf8Size_eq_one_iff {c : Char} : c.utf8Size = 1 ↔ c.toNat < 0x80 := by
  rw [Char.utf8Size_eq_one_iff, UInt32.le_iff_toNat_le]
  exact Nat.lt_succ_iff.symm

theorem SqlState.isMatch_iff_eq {s : SqlState} (h : ∀ c ∈ s.code.toList, c.isAlpha = false)
    {candidate : String} : s.isMatch candidate = true ↔ candidate = s.code := by
  rw [isMatch, Ascii.same_iff_eq h, eq_comm]

theorem firstTwoBytes?_eq_some_pair_iff {cs : List Char} {x y : Char} :
    firstTwoBytes? cs = some [x, y] ↔
      x.utf8Size = 1 ∧ y.utf8Size = 1 ∧ ∃ rest, cs = x :: y :: rest := by
  cases cs with
  | nil => simp [firstTwoBytes?]
  | cons c tail =>
      cases tail with
      | nil => simp [firstTwoBytes?]
      | cons d rest =>
          simp only [firstTwoBytes?]
          constructor
          · intro h
            split at h
            · simp at h
            · split at h
              · next hsizes =>
                simp only [Option.some.injEq, List.cons.injEq, and_true] at h
                obtain ⟨rfl, rfl⟩ := h
                exact ⟨hsizes.1, hsizes.2, rest, rfl⟩
              · simp at h
          · intro h
            obtain ⟨hx, hy, rest', hcs⟩ := h
            simp only [List.cons.injEq] at hcs
            obtain ⟨rfl, rfl, rfl⟩ := hcs
            simp [hx, hy]

/-- Belonging to a class of two ASCII characters is beginning with them in either case. -/
theorem belongsToClass_iff {candidate classCode : String} {a b : Char} (ha : a.toNat < 0x80)
    (hb : b.toNat < 0x80) (hclass : classCode.toList = [a, b]) :
    belongsToClass candidate classCode = true ↔
      ∃ x y rest, candidate.toList = x :: y :: rest ∧ x.toLower = a.toLower ∧
        y.toLower = b.toLower := by
  have hbytes : firstTwoBytes? classCode.toList = some [a, b] :=
    firstTwoBytes?_eq_some_pair_iff.2
      ⟨utf8Size_eq_one_iff.2 ha, utf8Size_eq_one_iff.2 hb, [], hclass⟩
  rw [belongsToClass, hbytes]
  constructor
  · intro h
    cases hcs : firstTwoBytes? candidate.toList with
    | none => simp [hcs] at h
    | some cs =>
        simp only [hcs, beq_iff_eq, List.map_cons, List.map_nil, List.map_eq_cons_iff] at h
        obtain ⟨x, _, rfl, hx, y, _, rfl, hy, hnil⟩ := h
        rw [List.map_eq_nil_iff.1 hnil, firstTwoBytes?_eq_some_pair_iff] at hcs
        obtain ⟨-, -, rest, hrest⟩ := hcs
        exact ⟨x, y, rest, hrest, hx, hy⟩
  · intro h
    obtain ⟨x, y, rest, hrest, hx, hy⟩ := h
    -- What has an ASCII lower case is ASCII, so both characters are one byte.
    have hx1 : x.utf8Size = 1 := by
      rw [utf8Size_eq_one_iff, ← Ascii.toLower_lt_iff, hx, Ascii.toLower_lt_iff]
      exact ha
    have hy1 : y.utf8Size = 1 := by
      rw [utf8Size_eq_one_iff, ← Ascii.toLower_lt_iff, hy, Ascii.toLower_lt_iff]
      exact hb
    rw [firstTwoBytes?_eq_some_pair_iff.2 ⟨hx1, hy1, rest, hrest⟩]
    simp [hx, hy]

/-- A class of two digits takes the codes whose first two bytes are its own. -/
theorem SqlClass.contains_iff_of_digits {k : SqlClass} {a b : Char} (ha : a.isDigit = true)
    (hb : b.isDigit = true) (hcode : k.code.toList = [a, b]) {candidate : String} :
    k.contains candidate = true ↔ (Utf8.encode candidate).take 2 = Utf8.encode k.code := by
  have ha' : a.toNat < 0x80 := by rw [Ascii.isDigit_iff] at ha; omega
  have hb' : b.toNat < 0x80 := by rw [Ascii.isDigit_iff] at hb; omega
  have hlength : (Utf8.encode k.code).length = 2 := by
    rw [Utf8.encode_eq_flatMap, hcode]
    simp [Utf8.encodeChar_of_lt ha', Utf8.encodeChar_of_lt hb']
  have hchars : k.contains candidate = true ↔ k.code.toList <+: candidate.toList := by
    rw [contains, belongsToClass_iff ha' hb' hcode, hcode]
    constructor
    · intro h
      obtain ⟨x, y, rest, hrest, hx, hy⟩ := h
      rw [eq_comm, Ascii.toLower_eq_toLower_iff (Ascii.not_isAlpha_of_isDigit ha)] at hx
      rw [eq_comm, Ascii.toLower_eq_toLower_iff (Ascii.not_isAlpha_of_isDigit hb)] at hy
      exact ⟨rest, by simp [hrest, hx, hy]⟩
    · intro h
      obtain ⟨rest, hrest⟩ := h
      exact ⟨a, b, rest, hrest.symm, rfl, rfl⟩
  rw [hchars, ← Utf8.encode_prefix_iff, List.prefix_iff_eq_take, hlength, eq_comm]

/-! ### Texts that differ in case alone -/

theorem utf8Size_toLower (c : Char) : c.toLower.utf8Size = c.utf8Size := by
  by_cases h : c.toNat < 0x80
  · have hlower : c.toLower.toNat < 0x80 := Ascii.toLower_lt_iff.2 h
    rw [utf8Size_eq_one_iff.2 h, utf8Size_eq_one_iff.2 hlower]
  · have hlower : c.toLower = c := by
      refine Char.toNat_inj.1 ?_
      rw [Ascii.toNat_toLower, if_neg (by omega)]
    rw [hlower]

theorem firstTwoBytes?_map_toLower (cs : List Char) :
    firstTwoBytes? (cs.map Char.toLower) = (firstTwoBytes? cs).map (List.map Char.toLower) := by
  cases cs with
  | nil => rfl
  | cons c tail =>
      cases tail with
      | nil =>
          simp only [List.map_cons, List.map_nil, firstTwoBytes?, utf8Size_toLower]
          split <;> rfl
      | cons d rest =>
          simp only [List.map_cons, firstTwoBytes?, utf8Size_toLower]
          split
          · rfl
          · split <;> rfl

theorem belongsToClass_eq_of_lower_eq {c c' : String} (h : Ascii.lower c = Ascii.lower c')
    (classCode : String) : belongsToClass c classCode = belongsToClass c' classCode := by
  have hbytes : (firstTwoBytes? c.toList).map (List.map Char.toLower) =
      (firstTwoBytes? c'.toList).map (List.map Char.toLower) := by
    rw [← firstTwoBytes?_map_toLower, ← firstTwoBytes?_map_toLower, String.ofList_inj.1 h]
  unfold belongsToClass
  cases hc : firstTwoBytes? c.toList with
  | none =>
      rw [hc, Option.map_none, eq_comm, Option.map_eq_none_iff] at hbytes
      rw [hbytes]
  | some a =>
      rw [hc, Option.map_some, eq_comm, Option.map_eq_some_iff] at hbytes
      obtain ⟨a', ha', hlower⟩ := hbytes
      rw [ha']
      cases firstTwoBytes? classCode.toList with
      | none => rfl
      | some b => simp only [hlower]

theorem SqlState.isMatch_eq_of_lower_eq (s : SqlState) {c c' : String}
    (h : Ascii.lower c = Ascii.lower c') : s.isMatch c = s.isMatch c' := by
  rw [isMatch, isMatch, Ascii.same, Ascii.same, String.ofList_inj.1 h]

end PgTriage
