/-
Every look-up in the catalog has one answer.

A look-up writes the text in capitals and goes through the catalog for that very code,
while a test compares the text with one code whatever the case of either.  The two agree
because a code has no small letter: the capitals of a text are a code exactly when the
text is that code but for case.  No two rows have one code, so the first row that is found
is the only one.

The class of a state is looked up by the first two characters of its code, and a text
belongs to a class by its own first two.  A text that is a state's code but for case has
the same two but for case.  So the class of the state that is found is the one class that
the text belongs to, and there always is one: the catalog lists the class of every state.
-/
import Mathlib
import PgTriage.Proofs.Entries
import PgTriage.Proofs.SqlState.Codes

namespace PgTriage

/-! ### Rows under codes -/

/-- The capitals of a text are a code without small letters when it is that code but for case. -/
theorem Ascii.upper_eq_iff {text code : String} (h : code.toList.any Char.isLower = false) :
    Ascii.upper text = code ↔ Ascii.same code text = true := by
  have hcode : code.toList.map Char.toUpper = code.toList := by
    refine (List.map_congr_left fun c hc => ?_).trans (List.map_id code.toList)
    exact Char.toUpper_eq_of_not_isLower (List.any_eq_false.1 h c hc)
  rw [Ascii.same, beq_iff_eq, Ascii.upper, ← String.toList_inj, String.toList_ofList]
  constructor
  · intro hupper
    rw [← hupper, List.map_map]
    exact List.map_congr_left fun c _ => Char.toLower_toUpper_eq_toLower c
  · intro hlower
    calc text.toList.map Char.toUpper
        = (text.toList.map Char.toLower).map Char.toUpper := by simp
      _ = (code.toList.map Char.toLower).map Char.toUpper := by rw [hlower]
      _ = code.toList.map Char.toUpper := by simp
      _ = code.toList := hcode

section Rows

variable {α : Type} {code : α → String} {rows : List α}

/-- No two rows have one code, and no code has a small letter. -/
structure ListedByCode (code : α → String) (rows : List α) : Prop where
  nodup : (rows.map code).Nodup
  capitals : ∀ r ∈ rows, (code r).toList.any Char.isLower = false

namespace ListedByCode

variable {text : String} {r t : α}

/-- At most one code is the text but for case. -/
theorem unique (h : ListedByCode code rows) (hr : r ∈ rows) (ht : t ∈ rows)
    (hsame : Ascii.same (code r) text = true) (hsame' : Ascii.same (code t) text = true) :
    r = t := by
  have hcode : Ascii.upper text = code r := (Ascii.upper_eq_iff (h.capitals r hr)).2 hsame
  have hcode' : Ascii.upper text = code t := (Ascii.upper_eq_iff (h.capitals t ht)).2 hsame'
  exact List.inj_on_of_nodup_map h.nodup hr ht (hcode.symm.trans hcode')

/-- The row that is found is the one whose code the text is, but for case. -/
theorem find?_eq_some_iff (h : ListedByCode code rows) :
    rows.find? (fun r => code r == Ascii.upper text) = some r ↔
      r ∈ rows ∧ Ascii.same (code r) text = true := by
  have htest : ∀ r ∈ rows,
      (code r == Ascii.upper text) = true ↔ Ascii.same (code r) text = true := by
    intro r hr
    rw [beq_iff_eq, eq_comm, Ascii.upper_eq_iff (h.capitals r hr)]
  rw [find?_eq_some_iff_of_unique fun r hr t ht hrt htt =>
    h.unique hr ht ((htest r hr).1 hrt) ((htest t ht).1 htt), and_congr_right (htest r)]

end ListedByCode

end Rows

/-! ### The classes -/

namespace SqlClass

variable {k : SqlClass} {text : String}

/-- The code of a class is two characters of ASCII. -/
theorem code_of_mem_catalog : ∀ k ∈ catalog,
    k.code.toList.length = 2 ∧ k.code.toList.all (fun c => c.toNat < 0x80) = true := by
  decide +kernel

theorem listedByCode_catalog : ListedByCode code catalog where
  nodup := by decide +kernel
  capitals := by decide +kernel

theorem lookup?_eq_some_iff :
    lookup? text = some k ↔ k ∈ catalog ∧ Ascii.same k.code text = true :=
  listedByCode_catalog.find?_eq_some_iff

/-- A text belongs to the class whose code its first two characters are, but for case. -/
theorem contains_iff_same (hk : k ∈ catalog) :
    k.contains text = true ↔ Ascii.same k.code (.ofList (text.toList.take 2)) = true := by
  obtain ⟨hlength, hascii⟩ := code_of_mem_catalog k hk
  obtain ⟨a, b, hcode⟩ := List.length_eq_two.1 hlength
  simp only [hcode, List.all_cons, List.all_nil, Bool.and_true, Bool.and_eq_true,
    decide_eq_true_eq] at hascii
  rw [contains, belongsToClass_iff hascii.1 hascii.2 hcode, Ascii.same, beq_iff_eq, hcode,
    String.toList_ofList]
  constructor
  · intro h
    obtain ⟨x, y, rest, htext, hx, hy⟩ := h
    simp [htext, hx, hy]
  · intro h
    -- Fewer than two characters leave nothing to compare the second one with.
    rcases htext : text.toList with _ | ⟨x, _ | ⟨y, rest⟩⟩
    · simp [htext] at h
    · simp [htext] at h
    · simp only [htext, List.take_succ_cons, List.take_zero, List.map_cons, List.map_nil,
        List.cons.injEq, and_true] at h
      exact ⟨x, y, rest, rfl, h.1.symm, h.2.symm⟩

end SqlClass

/-! ### The states -/

namespace SqlState

variable {s : SqlState} {k : SqlClass} {text : String}

/-- A code read as one number, each character a digit. -/
def codeNumber (code : String) : Nat := code.toList.foldl (fun n c => 128 * n + c.toNat) 0

theorem nodup_code_catalog : (catalog.map code).Nodup := by
  -- The numbers are put in order first: neighbours are few, and all pairs are many.
  have hsorted : (((catalog.map code).map codeNumber).insertionSort (· ≤ ·)).IsChain (· < ·) := by
    decide +kernel
  have hnodup : (((catalog.map code).map codeNumber).insertionSort (· ≤ ·)).Nodup :=
    hsorted.pairwise.imp ne_of_lt
  exact ((List.perm_insertionSort _ _).nodup_iff.1 hnodup).of_map codeNumber

theorem listedByCode_catalog : ListedByCode code catalog where
  nodup := nodup_code_catalog
  capitals := by decide +kernel

/-- The state that is found is the one that takes the text. -/
theorem lookup_eq_ok_iff : lookup text = .ok s ↔ s ∈ catalog ∧ s.isMatch text = true := by
  have hfind : lookup text = .ok s ↔
      catalog.find? (fun s => s.code == Ascii.upper text) = some s := by
    unfold lookup
    split
    · next t ht => rw [ht, Except.ok.injEq, Option.some_inj]
    · next hnone => simp [hnone]
  rw [hfind, listedByCode_catalog.find?_eq_some_iff, isMatch]

theorem contains_some_iff : contains (some text) = true ↔ ∃ s, lookup text = .ok s := by
  rw [contains]
  cases lookup text with
  | ok s => exact iff_of_true rfl ⟨s, rfl⟩
  | error e => exact iff_of_false Bool.false_ne_true (by simp)

/-- What is not listed is given back as it was written. -/
theorem contains_some_eq_false_iff :
    contains (some text) = false ↔ lookup text = .error (.unknownSqlState text) := by
  rw [contains, lookup]
  cases catalog.find? (fun s => s.code == Ascii.upper text) with
  | some s => exact iff_of_false (by simp [Except.isOk, Except.toBool]) (by simp)
  | none => exact iff_of_true rfl rfl

/-- A state's class takes the texts that the state takes, and no other class does. -/
theorem contains_iff_sqlClass?_eq (hs : s.isMatch text = true) (hk : k ∈ SqlClass.catalog) :
    k.contains text = true ↔ s.sqlClass? = some k := by
  rw [isMatch, Ascii.same, beq_iff_eq] at hs
  rw [SqlClass.contains_iff_same hk, sqlClass?, SqlClass.lookup?_eq_some_iff, and_iff_right hk,
    classCode, Ascii.same, Ascii.same, String.toList_ofList, String.toList_ofList, List.map_take,
    List.map_take, hs]

/-- The first two characters of a state's code are the code of a class. -/
theorem take_code_mem_catalog : ∀ s ∈ catalog,
    s.code.toList.take 2 ∈ SqlClass.catalog.map (·.code.toList) := by
  decide +kernel

/-- Every state has a class. -/
theorem exists_sqlClass?_eq (hs : s ∈ catalog) : ∃ k ∈ SqlClass.catalog, s.sqlClass? = some k := by
  obtain ⟨k, hk, hcode⟩ := List.mem_map.1 (take_code_mem_catalog s hs)
  have hclassCode : s.classCode = k.code := by rw [classCode, ← hcode, String.ofList_toList]
  refine ⟨k, hk, ?_⟩
  rw [sqlClass?, hclassCode, SqlClass.lookup?_eq_some_iff]
  exact ⟨hk, Ascii.same_refl k.code⟩

end SqlState

/-! ### What the catalog says of a text -/

/-- The look-ups of the catalog and its tests agree about a text. -/
structure LookupsAgree (text : String) : Prop where
  /-- The state that is found is the one that takes the text. -/
  state : ∀ s, SqlState.lookup text = .ok s ↔ s ∈ SqlState.catalog ∧ s.isMatch text = true
  /-- No two states take the text. -/
  oneState : ∀ s ∈ SqlState.catalog, ∀ t ∈ SqlState.catalog,
    s.isMatch text = true → t.isMatch text = true → s = t
  /-- The text is listed if a state takes it. -/
  listed : SqlState.contains (some text) = true ↔
    ∃ s ∈ SqlState.catalog, s.isMatch text = true
  /-- What is not listed is told as it was written. -/
  unlisted : SqlState.contains (some text) = false ↔
    SqlState.lookup text = .error (.unknownSqlState text)
  /-- The class that is found is the one whose code the text is, but for case. -/
  sqlClass : ∀ k, SqlClass.lookup? text = some k ↔
    k ∈ SqlClass.catalog ∧ Ascii.same k.code text = true
  /-- A class takes a text whose first two characters are its code, but for case. -/
  inClass : ∀ k ∈ SqlClass.catalog, (k.contains text = true ↔
    Ascii.same k.code (.ofList (text.toList.take 2)) = true)
  /-- No two classes take the text. -/
  oneClass : ∀ k ∈ SqlClass.catalog, ∀ j ∈ SqlClass.catalog,
    k.contains text = true → j.contains text = true → k = j
  /-- The state that is found has a class, and that is the class which takes the text. -/
  classOfState : ∀ s, SqlState.lookup text = .ok s →
    ∃ k ∈ SqlClass.catalog, s.sqlClass? = some k ∧
      ∀ j ∈ SqlClass.catalog, (j.contains text = true ↔ j = k)

/-- **The look-ups of the catalog and its tests agree about every text.** -/
theorem lookupsAgree (text : String) : LookupsAgree text where
  state := fun s => SqlState.lookup_eq_ok_iff
  oneState := fun s hs t ht => SqlState.listedByCode_catalog.unique hs ht
  listed := by simp only [SqlState.contains_some_iff, SqlState.lookup_eq_ok_iff]
  unlisted := SqlState.contains_some_eq_false_iff
  sqlClass := fun k => SqlClass.lookup?_eq_some_iff
  inClass := fun k hk => SqlClass.contains_iff_same hk
  oneClass := by
    intro k hk j hj hcontains hcontains'
    rw [SqlClass.contains_iff_same hk] at hcontains
    rw [SqlClass.contains_iff_same hj] at hcontains'
    exact SqlClass.listedByCode_catalog.unique hk hj hcontains hcontains'
  classOfState := by
    intro s hlookup
    obtain ⟨hs, hmatch⟩ := SqlState.lookup_eq_ok_iff.1 hlookup
    obtain ⟨k, hk, hclass⟩ := SqlState.exists_sqlClass?_eq hs
    refine ⟨k, hk, hclass, fun j hj => ?_⟩
    rw [SqlState.contains_iff_sqlClass?_eq hmatch hj, hclass, Option.some_inj, eq_comm]

end PgTriage
