/-
What lower case does to ASCII.

Lower case moves the 26 capital letters and nothing else, and moves them among the
ASCII letters.  So it keeps the line between ASCII and the rest, and a character that is
no letter comes from itself alone: a text without letters is the same as another but for
case only when it is that text.
-/
import PgTriage.Text.Ascii

namespace PgTriage.Ascii

theorem toNat_toLower (c : Char) :
    c.toLower.toNat = if 65 ≤ c.toNat ∧ c.toNat ≤ 90 then c.toNat + 32 else c.toNat := by
  have hA : ('A').val ≤ c.val ↔ 65 ≤ c.toNat := UInt32.le_iff_toNat_le
  have hZ : c.val ≤ ('Z').val ↔ c.toNat ≤ 90 := UInt32.le_iff_toNat_le
  unfold Char.toLower
  by_cases h : 65 ≤ c.toNat ∧ c.toNat ≤ 90
  · have h' : ('A').val ≤ c.val ∧ c.val ≤ ('Z').val := ⟨hA.2 h.1, hZ.2 h.2⟩
    rw [dif_pos h', if_pos h]
    show (c.val + 32).toNat = c.val.toNat + 32
    rw [UInt32.toNat_add]
    have hle : c.val.toNat ≤ 90 := h.2
    simp only [UInt32.reduceToNat]
    omega
  · have h' : ¬ (('A').val ≤ c.val ∧ c.val ≤ ('Z').val) := fun hc => h ⟨hA.1 hc.1, hZ.1 hc.2⟩
    rw [dif_neg h', if_neg h]

/-- Lower case keeps the line between ASCII and the rest. -/
theorem toLower_lt_iff {c : Char} : c.toLower.toNat < 0x80 ↔ c.toNat < 0x80 := by
  rw [toNat_toLower]
  split <;> omega

theorem isAlpha_iff {c : Char} :
    c.isAlpha = true ↔ (65 ≤ c.toNat ∧ c.toNat ≤ 90) ∨ (97 ≤ c.toNat ∧ c.toNat ≤ 122) := by
  show (decide (c.val ≥ ('A').val ∧ c.val ≤ ('Z').val) ||
    (decide (c.val ≥ ('a').val) && decide (c.val ≤ ('z').val))) = true ↔ _
  simp [UInt32.le_iff_toNat_le, ← Char.toNat_val]

theorem isDigit_iff {c : Char} : c.isDigit = true ↔ 48 ≤ c.toNat ∧ c.toNat ≤ 57 := by
  simp [Char.isDigit, UInt32.le_iff_toNat_le, ← Char.toNat_val]

theorem not_isAlpha_of_isDigit {c : Char} (h : c.isDigit = true) : c.isAlpha = false := by
  rw [isDigit_iff] at h
  rw [← Bool.not_eq_true, isAlpha_iff]
  omega

/-- What is no letter is the lower case of itself alone. -/
theorem toLower_eq_toLower_iff {c d : Char} (hc : c.isAlpha = false) :
    c.toLower = d.toLower ↔ c = d := by
  constructor
  · intro h
    have hnat := congrArg Char.toNat h
    have hno : ¬ c.isAlpha = true := by simp [hc]
    rw [isAlpha_iff] at hno
    rw [toNat_toLower, toNat_toLower] at hnat
    refine Char.toNat_inj.1 ?_
    split at hnat <;> split at hnat <;> omega
  · rintro rfl
    rfl

theorem map_toLower_eq_iff {cs ds : List Char} (h : ∀ c ∈ cs, c.isAlpha = false) :
    cs.map Char.toLower = ds.map Char.toLower ↔ cs = ds := by
  induction cs generalizing ds with
  | nil => simp [eq_comm]
  | cons c cs ih =>
      cases ds with
      | nil => simp
      | cons d ds =>
          rw [List.map_cons, List.map_cons, List.cons.injEq, List.cons.injEq,
            toLower_eq_toLower_iff (h c List.mem_cons_self),
            ih fun x hx => h x (List.mem_cons_of_mem c hx)]

theorem same_iff_lower_eq {s t : String} : same s t = true ↔ lower s = lower t := by
  rw [same, beq_iff_eq, lower, lower, String.ofList_inj]

/-- A text without letters is the same as itself alone. -/
theorem same_iff_eq {s t : String} (hs : ∀ c ∈ s.toList, c.isAlpha = false) :
    same s t = true ↔ s = t := by
  rw [same, beq_iff_eq, map_toLower_eq_iff hs, String.toList_inj]

end PgTriage.Ascii
