/-
What lower case settles.

Putting a text in lower case a second time changes nothing.  Two things make it so: no
lower-case form is one of the characters with rules of their own, and none has a
lower-case form other than itself.  The second is a property of the table as a whole, for
the form that one row gives must be covered by no other.  `LowercaseRow.clearOf` says it of
two rows by their ends alone, where alternate code points may interleave, so checking all
pairs of rows is enough.

The case of ASCII letters is lost on the way.  They are cased in either form and never
ignorable, so a capital sigma sees the same word around it, and every other character is
put in lower case by itself.
-/
import PgTriage.Proofs.Text.Ascii
import PgTriage.Proofs.Text.Blank
import PgTriage.Text.Lowercase

namespace PgTriage.Text

/-! ### Where the rows of the table lead -/

/-- The code point a row gives in place of `n`. -/
def LowercaseRow.image (row : LowercaseRow) (n : Nat) : Nat := (n + row.shift).toNat

/-- Where no row leads: the ASCII below its small letters, the blank characters above it, the two
characters with rules of their own, and what is no character. -/
def spared : List (Nat × Nat) :=
  [(0x0, 0x60), (0x80, 0xA0), (0x130, 0x130), (0x3A3, 0x3A3), (0x1680, 0x1680), (0x2000, 0x206F),
    (0x3000, 0x3000), (0xD800, 0xDFFF)]

/-- The row leads from code points to code points, and to none that is spared. -/
structure LowercaseRow.Sound (row : LowercaseRow) : Prop where
  step : row.step = 1 ∨ row.step = 2
  lower : 0 ≤ row.first + row.shift
  upper : row.image row.last < 0x110000
  spared : ∀ r ∈ spared, row.image row.last < r.1 ∨ r.2 < row.image row.first

instance (row : LowercaseRow) : Decidable row.Sound :=
  decidable_of_iff
    ((row.step = 1 ∨ row.step = 2) ∧ 0 ≤ row.first + row.shift ∧ row.image row.last < 0x110000 ∧
      ∀ r ∈ spared, row.image row.last < r.1 ∨ r.2 < row.image row.first)
    ⟨fun h => ⟨h.1, h.2.1, h.2.2.1, h.2.2.2⟩, fun h => ⟨h.step, h.lower, h.upper, h.spared⟩⟩

/-- No code point the row leads to is covered by the other.  Their ranges lie apart, or the other
row covers alternate code points and the row leads to those between them. -/
def LowercaseRow.clearOf (row other : LowercaseRow) : Bool :=
  -- There are many pairs of rows, and `Nat.blt` on numerals is a single step.
  Nat.blt (row.image row.last) other.first || Nat.blt other.last (row.image row.first) ||
    (other.step == 2 && (row.step == 2 || row.first == row.last) &&
      (row.image row.first + other.first) % 2 == 1)

theorem sound_lowercaseRows : ∀ row ∈ lowercaseRows, row.Sound := by decide +kernel

theorem clearOf_lowercaseRows :
    (lowercaseRows.all fun row => lowercaseRows.all row.clearOf) = true := by decide +kernel

section Rows

variable {row : LowercaseRow} {n : Nat}

/-- A row leads its code points to a range of the same length. -/
theorem image_bounds (hrow : row.Sound) (h : row.covers n = true) :
    row.image row.first ≤ row.image n ∧ row.image n ≤ row.image row.last ∧
      row.image n = row.image row.first + (n - row.first) := by
  simp only [LowercaseRow.covers, Bool.and_eq_true, decide_eq_true_eq] at h
  obtain ⟨⟨hfirst, hlast⟩, -⟩ := h
  have hlower := hrow.lower
  unfold LowercaseRow.image
  omega

theorem image_spared (hrow : row.Sound) (h : row.covers n = true) {r : Nat × Nat}
    (hr : r ∈ spared) : row.image n < r.1 ∨ r.2 < row.image n := by
  obtain ⟨hfirst, hlast, -⟩ := image_bounds hrow h
  have hspared := hrow.spared r hr
  omega

theorem isValidChar_image (hrow : row.Sound) (h : row.covers n = true) :
    (row.image n).isValidChar := by
  obtain ⟨-, hlast, -⟩ := image_bounds hrow h
  have hupper := hrow.upper
  have hsurrogate := image_spared hrow h (r := (0xD800, 0xDFFF)) (by decide)
  unfold Nat.isValidChar
  omega

theorem covers_image_eq_false {other : LowercaseRow} (hrow : row.Sound)
    (hclear : row.clearOf other = true) (h : row.covers n = true) :
    other.covers (row.image n) = false := by
  obtain ⟨hfirst, hlast, himage⟩ := image_bounds hrow h
  rw [← Bool.not_eq_true]
  simp only [LowercaseRow.covers, Bool.and_eq_true, decide_eq_true_eq, beq_iff_eq] at h ⊢
  simp only [LowercaseRow.clearOf, Bool.or_eq_true, Bool.and_eq_true, Nat.blt_eq, beq_iff_eq]
    at hclear
  obtain ⟨⟨hn, hn'⟩, hstep⟩ := h
  rintro ⟨⟨ho, ho'⟩, hostep⟩
  rcases hclear with (hbelow | habove) | ⟨⟨htwo, halternate⟩, hodd⟩
  · omega
  · omega
  · -- Both count in twos, from starts of different parity.
    rw [htwo] at hostep
    rcases halternate with htwo' | hone
    · rw [htwo'] at hstep
      omega
    · omega

end Rows

/-! ### One character -/

/-- The character is its own lower case, wherever it stands. -/
structure Settled (c : Char) : Prop where
  ne_sigma : c ≠ 'Σ'
  lowerChar_eq : lowerChar c = [c]

theorem toLower_toLower (c : Char) : c.toLower.toLower = c.toLower := by
  have hlower := Ascii.toNat_toLower c
  refine Char.toNat_inj.1 ?_
  rw [Ascii.toNat_toLower c.toLower, if_neg]
  split at hlower <;> omega

theorem lowerChar_of_lt {c : Char} (h : c.toNat < 0x80) : lowerChar c = [c.toLower] := by
  rw [lowerChar, if_pos h]

theorem settled_toLower {c : Char} (h : c.toNat < 0x80) : Settled c.toLower := by
  have hlower : c.toLower.toNat < 0x80 := Ascii.toLower_lt_iff.2 h
  refine ⟨?_, ?_⟩
  · intro hsigma
    rw [hsigma] at hlower
    exact absurd hlower (by decide)
  · rw [lowerChar_of_lt hlower, toLower_toLower]

theorem toNat_ofNat_image {row : LowercaseRow} {n : Nat} (hrow : row.Sound)
    (h : row.covers n = true) : (Char.ofNat (row.image n)).toNat = row.image n := by
  rw [Char.ofNat, dif_pos (isValidChar_image hrow h)]
  rfl

theorem settled_image {row : LowercaseRow} {n : Nat} (hmem : row ∈ lowercaseRows)
    (h : row.covers n = true) : Settled (Char.ofNat (row.image n)) := by
  have hrow := sound_lowercaseRows row hmem
  have hnat := toNat_ofNat_image hrow h
  have hsmall := image_spared hrow h (r := (0x0, 0x60)) (by decide)
  have hdotted := image_spared hrow h (r := (0x130, 0x130)) (by decide)
  have hsigma := image_spared hrow h (r := (0x3A3, 0x3A3)) (by decide)
  by_cases hascii : row.image n < 0x80
  · have hlower : (Char.ofNat (row.image n)).toLower = Char.ofNat (row.image n) := by
      refine Char.toNat_inj.1 ?_
      rw [Ascii.toNat_toLower, hnat, if_neg (by omega)]
    rw [← hlower]
    exact settled_toLower (by rw [hnat]; exact hascii)
  · have hclear : lowercaseRows.find? (·.covers (row.image n)) = none := by
      rw [List.find?_eq_none]
      intro other hother
      have hpair := List.all_eq_true.1 (List.all_eq_true.1 clearOf_lowercaseRows row hmem) other
        hother
      rw [covers_image_eq_false hrow hpair h]
      exact Bool.false_ne_true
    have hne : ∀ k, row.image n ≠ k.toNat → Char.ofNat (row.image n) ≠ k := by
      intro k hk heq
      rw [← heq, hnat] at hk
      exact hk rfl
    refine ⟨hne 'Σ' ?_, ?_⟩
    · show row.image n ≠ 0x3A3
      omega
    · have hnotDotted : Char.ofNat (row.image n) ≠ '\u0130' := by
        refine hne _ ?_
        show row.image n ≠ 0x130
        omega
      rw [lowerChar, hnat, if_neg hascii, if_neg hnotDotted, hclear]

/-- The characters that a character is put in lower case to, by where they come from. -/
theorem mem_lowerChar_cases {c d : Char} (hd : d ∈ lowerChar c) :
    (c.toNat < 0x80 ∧ d = c.toLower) ∨ (d = 'i' ∨ d = '\u0307') ∨
      (∃ row ∈ lowercaseRows, row.covers c.toNat = true ∧ d = Char.ofNat (row.image c.toNat)) ∨
      (lowerChar c = [c] ∧ d = c) := by
  by_cases hascii : c.toNat < 0x80
  · rw [lowerChar_of_lt hascii, List.mem_singleton] at hd
    exact .inl ⟨hascii, hd⟩
  · by_cases hdotted : c = '\u0130'
    · rw [lowerChar, if_neg hascii, if_pos hdotted] at hd
      refine .inr (.inl ?_)
      simpa only [List.mem_cons, List.not_mem_nil, or_false] using hd
    · cases hfind : lowercaseRows.find? (·.covers c.toNat) with
      | some row =>
          rw [lowerChar, if_neg hascii, if_neg hdotted, hfind] at hd
          have hcovers : row.covers c.toNat = true := by simpa using List.find?_some hfind
          have hmem := List.mem_of_find?_eq_some hfind
          exact .inr (.inr (.inl ⟨row, hmem, hcovers, List.mem_singleton.1 hd⟩))
      | none =>
          have hself : lowerChar c = [c] := by
            rw [lowerChar, if_neg hascii, if_neg hdotted, hfind]
          rw [hself, List.mem_singleton] at hd
          exact .inr (.inr (.inr ⟨hself, hd⟩))

/-- What a character is put in lower case to is its own lower case. -/
theorem settled_of_mem_lowerChar {c d : Char} (hc : c ≠ 'Σ') (hd : d ∈ lowerChar c) :
    Settled d := by
  rcases mem_lowerChar_cases hd with ⟨hascii, rfl⟩ | hdotted | ⟨row, hrow, hcovers, rfl⟩ |
    ⟨hself, rfl⟩
  · exact settled_toLower hascii
  · rcases hdotted with rfl | rfl
    · exact ⟨by decide, by decide⟩
    · exact ⟨by decide, by decide +kernel⟩
  · exact settled_image hrow hcovers
  · exact ⟨hc, hself⟩

theorem isBlank_image {row : LowercaseRow} {n : Nat} (hrow : row.Sound)
    (h : row.covers n = true) : isBlank (Char.ofNat (row.image n)) = false := by
  have hsmall := image_spared hrow h (r := (0x0, 0x60)) (by decide)
  have hlatin := image_spared hrow h (r := (0x80, 0xA0)) (by decide)
  have hogham := image_spared hrow h (r := (0x1680, 0x1680)) (by decide)
  have hgeneral := image_spared hrow h (r := (0x2000, 0x206F)) (by decide)
  have hideographic := image_spared hrow h (r := (0x3000, 0x3000)) (by decide)
  rw [← Bool.not_eq_true]
  simp only [isBlank, toNat_ofNat_image hrow h, Bool.or_eq_true, Bool.and_eq_true,
    decide_eq_true_eq, beq_iff_eq]
  omega

/-- The case of an ASCII letter does not make it blank. -/
theorem isBlank_toLower (c : Char) : isBlank c.toLower = isBlank c := by
  rw [Bool.eq_iff_iff]
  simp only [isBlank, Ascii.toNat_toLower, Bool.or_eq_true, Bool.and_eq_true, decide_eq_true_eq,
    beq_iff_eq]
  split <;> omega

/-- What is not blank is put in lower case to nothing blank. -/
theorem isBlank_of_mem_lowerChar {c d : Char} (hc : isBlank c = false) (hd : d ∈ lowerChar c) :
    isBlank d = false := by
  rcases mem_lowerChar_cases hd with ⟨-, rfl⟩ | hdotted | ⟨row, hrow, hcovers, rfl⟩ | ⟨-, rfl⟩
  · rw [isBlank_toLower, hc]
  · rcases hdotted with rfl | rfl <;> decide
  · exact isBlank_image (sound_lowercaseRows row hrow) hcovers
  · exact hc

/-! ### A text, character by character -/

/-- What stands for a character in the lower case of a text. -/
def lowerAt (before : List Char) (c : Char) (rest : List Char) : List Char :=
  if c = 'Σ' then (if isFinalSigma before rest then ['ς'] else ['σ']) else lowerChar c

theorem lowerFrom_cons (before : List Char) (c : Char) (rest : List Char) :
    lowerFrom before (c :: rest) = lowerAt before c rest ++ lowerFrom (c :: before) rest := rfl

theorem mem_lowerAt_cases {before rest : List Char} {c d : Char}
    (hd : d ∈ lowerAt before c rest) :
    (d = 'ς' ∨ d = 'σ') ∨ (c ≠ 'Σ' ∧ d ∈ lowerChar c) := by
  by_cases hsigma : c = 'Σ'
  · rw [lowerAt, if_pos hsigma] at hd
    split at hd
    · exact .inl (.inl (List.mem_singleton.1 hd))
    · exact .inl (.inr (List.mem_singleton.1 hd))
  · rw [lowerAt, if_neg hsigma] at hd
    exact .inr ⟨hsigma, hd⟩

theorem settled_of_mem_lowerAt {before rest : List Char} {c d : Char}
    (hd : d ∈ lowerAt before c rest) : Settled d := by
  rcases mem_lowerAt_cases hd with (rfl | rfl) | ⟨hsigma, hd⟩
  · exact ⟨by decide, by decide +kernel⟩
  · exact ⟨by decide, by decide +kernel⟩
  · exact settled_of_mem_lowerChar hsigma hd

theorem isBlank_of_mem_lowerAt {before rest : List Char} {c d : Char} (hc : isBlank c = false)
    (hd : d ∈ lowerAt before c rest) : isBlank d = false := by
  rcases mem_lowerAt_cases hd with (rfl | rfl) | ⟨-, hd⟩
  · decide
  · decide
  · exact isBlank_of_mem_lowerChar hc hd

theorem lowerAt_ne_nil (before : List Char) (c : Char) (rest : List Char) :
    lowerAt before c rest ≠ [] := by
  by_cases hsigma : c = 'Σ'
  · rw [lowerAt, if_pos hsigma]
    split <;> simp
  · rw [lowerAt, if_neg hsigma, lowerChar]
    split
    · simp
    · split
      · simp
      · split <;> simp

theorem settled_of_mem_lowerFrom {before cs : List Char} {d : Char}
    (hd : d ∈ lowerFrom before cs) : Settled d := by
  induction cs generalizing before with
  | nil => exact absurd hd List.not_mem_nil
  | cons c rest ih =>
      rw [lowerFrom_cons, List.mem_append] at hd
      rcases hd with hd | hd
      · exact settled_of_mem_lowerAt hd
      · exact ih hd

theorem lowerFrom_of_settled {before cs : List Char} (h : ∀ c ∈ cs, Settled c) :
    lowerFrom before cs = cs := by
  induction cs generalizing before with
  | nil => rfl
  | cons c rest ih =>
      have hc := h c List.mem_cons_self
      have hrest : lowerFrom (c :: before) rest = rest :=
        ih fun d hd => h d (List.mem_cons_of_mem c hd)
      rw [lowerFrom_cons, hrest, lowerAt, if_neg hc.ne_sigma, hc.lowerChar_eq]
      rfl

/-- **Lower case is settled the first time.** -/
theorem lower_lower (s : String) : lower (lower s) = lower s := by
  rw [lower, lower, String.toList_ofList, lowerFrom_of_settled fun c hc =>
    settled_of_mem_lowerFrom hc]

theorem lowerFrom_eq_nil_iff {before cs : List Char} : lowerFrom before cs = [] ↔ cs = [] := by
  cases cs with
  | nil => simp [lowerFrom]
  | cons c rest => simp [lowerFrom_cons, lowerAt_ne_nil]

/-! ### Blank ends -/

/-- Lower case makes no end of a text blank. -/
theorem Trimmed.lowerFrom {cs : List Char} (h : Trimmed cs) (before : List Char) :
    Trimmed (lowerFrom before cs) := by
  refine ⟨?_, ?_⟩
  · intro d hd
    cases cs with
    | nil => cases hd
    | cons c rest =>
        have hc := h.head c rfl
        rw [lowerFrom_cons, List.head?_append_of_ne_nil _ (lowerAt_ne_nil before c rest)] at hd
        exact isBlank_of_mem_lowerAt hc (List.mem_of_mem_head? hd)
  · have hlast := h.last
    clear h
    induction cs generalizing before with
    | nil => exact fun d hd => by cases hd
    | cons c rest ih =>
        intro d hd
        rw [lowerFrom_cons] at hd
        by_cases hrest : rest = []
        · subst hrest
          rw [Text.lowerFrom, List.append_nil] at hd
          exact isBlank_of_mem_lowerAt (hlast c rfl) (List.mem_of_mem_getLast? hd)
        · have hne : Text.lowerFrom (c :: before) rest ≠ [] := by
            rw [Ne, lowerFrom_eq_nil_iff]
            exact hrest
          rw [List.getLast?_append_of_ne_nil _ hne] at hd
          refine ih (c :: before) (fun x hx => hlast x ?_) d hd
          rw [List.getLast?_cons_of_ne_nil hrest]
          exact hx

/-! ### The case of ASCII letters -/

theorem isCased_of_isAlpha {c : Char} (h : c.isAlpha = true) : isCased c = true := by
  have hcapital : (0x41, 0x5A) ∈ casedRanges := by decide
  have hsmall : (0x61, 0x7A) ∈ casedRanges := by decide
  rw [isCased, inRanges_eq_true_iff]
  rcases Ascii.isAlpha_iff.1 h with hc | hc
  · exact ⟨_, hcapital, hc⟩
  · exact ⟨_, hsmall, hc⟩

theorem isCaseIgnorable_of_isAlpha {c : Char} (h : c.isAlpha = true) :
    isCaseIgnorable c = false := by
  have hapart : ∀ r ∈ caseIgnorableRanges,
      (r.2 < 0x41 ∨ 0x5A < r.1) ∧ (r.2 < 0x61 ∨ 0x7A < r.1) := by decide +kernel
  rw [isCaseIgnorable, ← Bool.not_eq_true, inRanges_eq_true_iff]
  rintro ⟨r, hr, hlower, hupper⟩
  have hr := hapart r hr
  have hc := Ascii.isAlpha_iff.1 h
  omega

/-- A letter of ASCII is a letter in lower case, and all other characters stay as they are. -/
theorem isAlpha_or_toLower_eq (c : Char) :
    (c.isAlpha = true ∧ c.toLower.isAlpha = true) ∨ c.toLower = c := by
  have hlower := Ascii.toNat_toLower c
  by_cases h : 65 ≤ c.toNat ∧ c.toNat ≤ 90
  · rw [if_pos h] at hlower
    refine .inl ⟨?_, ?_⟩
    · rw [Ascii.isAlpha_iff]
      omega
    · rw [Ascii.isAlpha_iff]
      omega
  · rw [if_neg h] at hlower
    exact .inr (Char.toNat_inj.1 hlower)

theorem isCased_toLower (c : Char) : isCased c.toLower = isCased c := by
  rcases isAlpha_or_toLower_eq c with ⟨hc, hlower⟩ | hself
  · rw [isCased_of_isAlpha hc, isCased_of_isAlpha hlower]
  · rw [hself]

theorem isCaseIgnorable_toLower (c : Char) : isCaseIgnorable c.toLower = isCaseIgnorable c := by
  rcases isAlpha_or_toLower_eq c with ⟨hc, hlower⟩ | hself
  · rw [isCaseIgnorable_of_isAlpha hc, isCaseIgnorable_of_isAlpha hlower]
  · rw [hself]

theorem lowerChar_toLower (c : Char) : lowerChar c.toLower = lowerChar c := by
  by_cases hascii : c.toNat < 0x80
  · rw [lowerChar_of_lt hascii, lowerChar_of_lt (Ascii.toLower_lt_iff.2 hascii), toLower_toLower]
  · rcases isAlpha_or_toLower_eq c with ⟨hc, -⟩ | hself
    · rw [Ascii.isAlpha_iff] at hc
      omega
    · rw [hself]

theorem meetsCased_map_toLower (cs : List Char) :
    meetsCased (cs.map Char.toLower) = meetsCased cs := by
  have hcomp : isCaseIgnorable ∘ Char.toLower = isCaseIgnorable := funext isCaseIgnorable_toLower
  rw [meetsCased, meetsCased, List.dropWhile_map, hcomp]
  cases cs.dropWhile isCaseIgnorable with
  | nil => rfl
  | cons c rest => exact isCased_toLower c

theorem lowerAt_map_toLower (before : List Char) (c : Char) (rest : List Char) :
    lowerAt (before.map Char.toLower) c.toLower (rest.map Char.toLower) =
      lowerAt before c rest := by
  have hsigma : 'Σ' = c.toLower ↔ 'Σ' = c :=
    Ascii.toLower_eq_toLower_iff (c := 'Σ') (by decide)
  by_cases h : c = 'Σ'
  · rw [lowerAt, lowerAt, if_pos (hsigma.2 h.symm).symm, if_pos h, isFinalSigma, isFinalSigma,
      meetsCased_map_toLower, meetsCased_map_toLower]
  · rw [lowerAt, lowerAt, if_neg fun hc => h (hsigma.1 hc.symm).symm, if_neg h, lowerChar_toLower]

theorem lowerFrom_map_toLower (before cs : List Char) :
    lowerFrom (before.map Char.toLower) (cs.map Char.toLower) = lowerFrom before cs := by
  induction cs generalizing before with
  | nil => rfl
  | cons c rest ih =>
      rw [List.map_cons, lowerFrom_cons, lowerFrom_cons, lowerAt_map_toLower]
      exact congrArg _ (ih (c :: before))

/-- Texts that differ in the case of ASCII letters alone have one lower case. -/
theorem lower_eq_of_ascii {s t : String} (h : Ascii.lower s = Ascii.lower t) :
    lower s = lower t := by
  rw [Ascii.lower, Ascii.lower, String.ofList_inj] at h
  rw [lower, lower, ← lowerFrom_map_toLower [] s.toList, ← lowerFrom_map_toLower [] t.toList, h]

end PgTriage.Text
