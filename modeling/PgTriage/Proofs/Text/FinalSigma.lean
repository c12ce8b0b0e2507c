/-
The lower case of a text that goes on.

A text is put in lower case character by character, and only a capital sigma looks at what
follows it.  So a text that goes on begins with the lower case it has by itself, and the one
exception is its last capital sigma.  That sigma is final in the text by itself when a
letter stands before it and nothing but ignorable characters after it, and it is final no
more when the text goes on with a letter.  A sigma further left sees the last one, which is a
letter itself, and does not look beyond.

`lowerWithin` is the lower case of a stretch of a text.  It is as long as the lower case of the
stretch by itself, because both forms of the small sigma are one character, and so the one begins
with the other only where they are equal.
-/
import PgTriage.Proofs.Text.Lowercase

namespace PgTriage.Text

variable {before cs rest after : List Char} {c : Char}

/-- Lower case of the characters `cs` of a text in which `before`, which runs backwards, stands
before them and `after` follows. -/
def lowerWithin (before : List Char) : List Char → List Char → List Char
  | [], _ => []
  | c :: rest, after => lowerAt before c (rest ++ after) ++ lowerWithin (c :: before) rest after

/-- Among these characters a capital sigma ends a word, which has a letter before it, and in what
follows them the word goes on. -/
def SigmaGoesOn (before cs after : List Char) : Prop :=
  ∃ front ignored, cs = front ++ 'Σ' :: ignored ∧ (∀ c ∈ ignored, isCaseIgnorable c = true) ∧
    meetsCased (front.reverse ++ before) = true ∧ meetsCased after = true

/-! ### One character -/

theorem meetsCased_append_of_ignorable (h : ∀ c ∈ cs, isCaseIgnorable c = true)
    (after : List Char) : meetsCased (cs ++ after) = meetsCased after := by
  rw [meetsCased, List.dropWhile_append_of_pos h, meetsCased]

theorem meetsCased_append_of_not_ignorable (h : ¬ ∀ c ∈ cs, isCaseIgnorable c = true)
    (after : List Char) : meetsCased (cs ++ after) = meetsCased cs := by
  rw [← List.dropWhile_eq_nil_iff] at h
  rw [meetsCased, meetsCased, List.dropWhile_append, if_neg (by simpa using h)]
  obtain ⟨c, rest, hdrop⟩ := List.exists_cons_of_ne_nil h
  rw [hdrop, List.cons_append]

theorem meetsCased_of_ignorable (h : ∀ c ∈ cs, isCaseIgnorable c = true) :
    meetsCased cs = false := by
  rw [meetsCased, List.dropWhile_eq_nil_iff.2 h]

/-- A capital sigma is as final where more follows, but where the word goes on. -/
theorem isFinalSigma_append_eq_iff :
    isFinalSigma before (rest ++ after) = isFinalSigma before rest ↔
      ¬ ((∀ c ∈ rest, isCaseIgnorable c = true) ∧ meetsCased before = true ∧
        meetsCased after = true) := by
  by_cases h : ∀ c ∈ rest, isCaseIgnorable c = true
  · rw [isFinalSigma, isFinalSigma, meetsCased_append_of_ignorable h, meetsCased_of_ignorable h,
      and_iff_right h]
    cases meetsCased before <;> cases meetsCased after <;> decide
  · rw [isFinalSigma, isFinalSigma, meetsCased_append_of_not_ignorable h]
    exact iff_of_true rfl fun hall => h hall.1

theorem lowerAt_append_eq_iff :
    lowerAt before c (rest ++ after) = lowerAt before c rest ↔
      ¬ (c = 'Σ' ∧ (∀ c ∈ rest, isCaseIgnorable c = true) ∧ meetsCased before = true ∧
        meetsCased after = true) := by
  by_cases hc : c = 'Σ'
  · rw [lowerAt, lowerAt, if_pos hc, if_pos hc, and_iff_right hc, ← isFinalSigma_append_eq_iff]
    cases isFinalSigma before (rest ++ after) <;> cases isFinalSigma before rest <;> decide
  · rw [lowerAt, lowerAt, if_neg hc, if_neg hc]
    exact iff_of_true rfl fun hall => hc hall.1

/-- Whatever follows, a character is put in lower case to as many. -/
theorem length_lowerAt (before : List Char) (c : Char) (rest after : List Char) :
    (lowerAt before c rest).length = (lowerAt before c after).length := by
  by_cases hc : c = 'Σ'
  · rw [lowerAt, lowerAt, if_pos hc, if_pos hc]
    cases isFinalSigma before rest <;> cases isFinalSigma before after <;> rfl
  · rw [lowerAt, lowerAt, if_neg hc, if_neg hc]

/-! ### A text -/

theorem lowerFrom_append (before cs after : List Char) :
    lowerFrom before (cs ++ after) =
      lowerWithin before cs after ++ lowerFrom (cs.reverse ++ before) after := by
  induction cs generalizing before with
  | nil => rfl
  | cons c rest ih =>
      rw [List.cons_append, lowerFrom_cons, ih, lowerWithin, List.append_assoc,
        List.reverse_cons, List.append_assoc, List.singleton_append]

theorem length_lowerWithin (before cs after : List Char) :
    (lowerWithin before cs after).length = (lowerFrom before cs).length := by
  induction cs generalizing before with
  | nil => rfl
  | cons c rest ih =>
      rw [lowerWithin, lowerFrom_cons, List.length_append, List.length_append, ih,
        length_lowerAt before c (rest ++ after) rest]

theorem not_sigmaGoesOn_nil : ¬ SigmaGoesOn before [] after := by
  intro h
  obtain ⟨front, ignored, hcs, -⟩ := h
  simp at hcs

theorem sigmaGoesOn_cons_iff :
    SigmaGoesOn before (c :: rest) after ↔
      (c = 'Σ' ∧ (∀ c ∈ rest, isCaseIgnorable c = true) ∧ meetsCased before = true ∧
        meetsCased after = true) ∨ SigmaGoesOn (c :: before) rest after := by
  constructor
  · intro h
    obtain ⟨front, ignored, hcs, hignored, hbefore, hafter⟩ := h
    cases front with
    | nil =>
        rw [List.nil_append, List.cons.injEq] at hcs
        obtain ⟨rfl, rfl⟩ := hcs
        exact .inl ⟨rfl, hignored, hbefore, hafter⟩
    | cons d front =>
        rw [List.cons_append, List.cons.injEq] at hcs
        obtain ⟨rfl, rfl⟩ := hcs
        rw [List.reverse_cons, List.append_assoc] at hbefore
        exact .inr ⟨front, ignored, rfl, hignored, hbefore, hafter⟩
  · intro h
    rcases h with ⟨rfl, hignored, hbefore, hafter⟩ | ⟨front, ignored, rfl, hignored, hbefore, hafter⟩
    · exact ⟨[], rest, rfl, hignored, hbefore, hafter⟩
    · refine ⟨c :: front, ignored, rfl, hignored, ?_, hafter⟩
      rw [List.reverse_cons, List.append_assoc]
      exact hbefore

/-- A stretch has the lower case it has by itself, but where its last word goes on. -/
theorem lowerWithin_eq_lowerFrom_iff :
    lowerWithin before cs after = lowerFrom before cs ↔ ¬ SigmaGoesOn before cs after := by
  induction cs generalizing before with
  | nil => exact iff_of_true rfl not_sigmaGoesOn_nil
  | cons c rest ih =>
      rw [sigmaGoesOn_cons_iff, not_or, ← lowerAt_append_eq_iff, ← ih, lowerWithin, lowerFrom_cons]
      constructor
      · intro h
        exact List.append_inj h (length_lowerAt before c (rest ++ after) rest)
      · intro h
        rw [h.1, h.2]

/-- **A text that goes on begins with the lower case it has by itself, but where a final sigma is
final no more.** -/
theorem lowerFrom_prefix_append_iff :
    lowerFrom before cs <+: lowerFrom before (cs ++ after) ↔ ¬ SigmaGoesOn before cs after := by
  rw [← lowerWithin_eq_lowerFrom_iff, lowerFrom_append]
  constructor
  · intro h
    obtain ⟨more, hmore⟩ := h
    exact (List.append_inj hmore (length_lowerWithin before cs after).symm).1.symm
  · intro h
    rw [h]
    exact List.prefix_append _ _

end PgTriage.Text
