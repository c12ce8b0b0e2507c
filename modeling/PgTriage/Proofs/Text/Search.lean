/-
What the cuts of a text find.

A run to the last mark is the longest of the runs that end at one: of all the marks of
the line that pass the test, the scan backs up to the last.  A cut at a word is the
shortest of the cuts there are, for the scan tries every place of the line in turn.  A
search stops at the leftmost place where anything is found, and what stands before that
place holds no place of its own.  The pieces between separators are the only ones that
hold none themselves and make up the text when they are joined again.
-/
import Mathlib.Data.List.Basic
import Mathlib.Data.List.TakeWhile
import PgTriage.Text.Search

namespace PgTriage.Text

/-! ### The last mark of a line -/

/-- The run ends, on the line, at a mark whose continuation passes the test. -/
def EndsAtMark (mark : Char) (ok : List Char → Bool) (cs run : List Char) : Prop :=
  '\n' ∉ run ∧ ∃ rest, cs = run ++ mark :: rest ∧ ok rest = true

/-- The longest run that ends at a mark. -/
def EndsAtLastMark (mark : Char) (ok : List Char → Bool) (cs run : List Char) : Prop :=
  EndsAtMark mark ok cs run ∧ ∀ other, EndsAtMark mark ok cs other → other.length ≤ run.length

variable {mark : Char} {ok : List Char → Bool} {cs run other : List Char}

theorem not_endsAtMark_nil : ¬ EndsAtMark mark ok [] run := by
  intro h
  obtain ⟨_, rest, hcs, _⟩ := h
  simp at hcs

theorem endsAtMark_cons_iff {c : Char} :
    EndsAtMark mark ok (c :: cs) run ↔
      (run = [] ∧ c = mark ∧ ok cs = true) ∨
        ∃ tail, run = c :: tail ∧ c ≠ '\n' ∧ EndsAtMark mark ok cs tail := by
  constructor
  · intro h
    obtain ⟨hline, rest, hcs, hok⟩ := h
    cases run with
    | nil =>
        simp only [List.nil_append, List.cons.injEq] at hcs
        obtain ⟨rfl, rfl⟩ := hcs
        exact .inl ⟨rfl, rfl, hok⟩
    | cons d tail =>
        simp only [List.cons_append, List.cons.injEq] at hcs
        obtain ⟨rfl, rfl⟩ := hcs
        simp only [List.mem_cons, not_or] at hline
        exact .inr ⟨tail, rfl, Ne.symm hline.1, hline.2, rest, rfl, hok⟩
  · intro h
    rcases h with ⟨rfl, rfl, hok⟩ | ⟨tail, rfl, hc, hline, rest, rfl, hok⟩
    · exact ⟨List.not_mem_nil, cs, rfl, hok⟩
    · exact ⟨by simp [Ne.symm hc, hline], rest, rfl, hok⟩

theorem EndsAtMark.eq_of_length_eq (h : EndsAtMark mark ok cs run)
    (h' : EndsAtMark mark ok cs other) (hlength : run.length = other.length) : run = other := by
  obtain ⟨_, rest, hcs, _⟩ := h
  obtain ⟨_, rest', hcs', _⟩ := h'
  exact (List.append_inj (hcs.symm.trans hcs') hlength).1

theorem EndsAtLastMark.unique (h : EndsAtLastMark mark ok cs run)
    (h' : EndsAtLastMark mark ok cs other) : run = other :=
  h.1.eq_of_length_eq h'.1 (Nat.le_antisymm (h'.2 run h.1) (h.2 other h'.1))

/-- A mark that ends no line is found wherever there is one. -/
theorem beforeLast_eq_none_iff (hmark : mark ≠ '\n') :
    beforeLast mark ok cs = none ↔ ∀ run, ¬ EndsAtMark mark ok cs run := by
  induction cs with
  | nil => simp [beforeLast, not_endsAtMark_nil]
  | cons c cs ih =>
      simp only [endsAtMark_cons_iff, not_or, not_and, not_exists]
      unfold beforeLast
      by_cases hc : c = '\n'
      · simp [hc, Ne.symm hmark]
      · rw [if_neg hc]
        cases h : beforeLast mark ok cs with
        | some tail =>
            have hsome : ∃ run, EndsAtMark mark ok cs run := by
              have hne : ¬ ∀ run, ¬ EndsAtMark mark ok cs run := by
                rw [← ih, h]
                simp
              simpa using hne
            obtain ⟨run, hrun⟩ := hsome
            simp only [reduceCtorEq, false_iff]
            intro hnone
            exact (hnone (c :: run)).2 run rfl hc hrun
        | none =>
            have hnone := ih.1 h
            by_cases hhere : c = mark ∧ ok cs = true
            · simp only [hhere, and_self, if_true, reduceCtorEq, false_iff]
              intro hall
              exact (hall []).1 rfl trivial trivial
            · simp only [hhere, if_false, true_iff]
              exact fun run => ⟨fun _ hm hok => hhere ⟨hm, hok⟩, fun tail _ _ => hnone tail⟩

theorem endsAtLastMark_of_beforeLast (hmark : mark ≠ '\n')
    (h : beforeLast mark ok cs = some run) : EndsAtLastMark mark ok cs run := by
  induction cs generalizing run with
  | nil => simp [beforeLast] at h
  | cons c cs ih =>
      unfold beforeLast at h
      by_cases hc : c = '\n'
      · simp [hc] at h
      · rw [if_neg hc] at h
        cases hrest : beforeLast mark ok cs with
        | some tail =>
            simp only [hrest, Option.some.injEq] at h
            subst h
            obtain ⟨hends, hlongest⟩ := ih hrest
            refine ⟨endsAtMark_cons_iff.2 (.inr ⟨tail, rfl, hc, hends⟩), fun other hother => ?_⟩
            rcases endsAtMark_cons_iff.1 hother with ⟨rfl, _⟩ | ⟨tail', rfl, _, hends'⟩
            · simp
            · simpa using hlongest tail' hends'
        | none =>
            have hnone := (beforeLast_eq_none_iff hmark).1 hrest
            simp only [hrest, Option.ite_none_right_eq_some, Option.some.injEq] at h
            obtain ⟨⟨hm, hok⟩, rfl⟩ := h
            refine ⟨endsAtMark_cons_iff.2 (.inl ⟨rfl, hm, hok⟩), fun other hother => ?_⟩
            rcases endsAtMark_cons_iff.1 hother with ⟨rfl, _⟩ | ⟨tail', _, _, hends'⟩
            · simp
            · exact absurd hends' (hnone tail')

theorem beforeLast_eq_some_iff (hmark : mark ≠ '\n') :
    beforeLast mark ok cs = some run ↔ EndsAtLastMark mark ok cs run := by
  refine ⟨endsAtLastMark_of_beforeLast hmark, fun h => ?_⟩
  cases hfound : beforeLast mark ok cs with
  | none => exact absurd h.1 ((beforeLast_eq_none_iff hmark).1 hfound run)
  | some other => rw [(endsAtLastMark_of_beforeLast hmark hfound).unique h]

/-- What stands before the first line feed. -/
def firstLine (cs : List Char) : List Char := cs.takeWhile (· != '\n')

theorem not_mem_firstLine (cs : List Char) : '\n' ∉ firstLine cs := fun h => by
  simpa using List.mem_takeWhile_imp h

theorem firstLine_append (h : '\n' ∉ run) (cs : List Char) :
    firstLine (run ++ cs) = run ++ firstLine cs := by
  refine List.takeWhile_append_of_pos fun c hc => ?_
  rw [bne_iff_ne]
  rintro rfl
  exact h hc

theorem firstLine_cons {c : Char} (h : c ≠ '\n') (cs : List Char) :
    firstLine (c :: cs) = c :: firstLine cs :=
  List.takeWhile_cons_of_pos (bne_iff_ne.2 h)

/-- The runs that end at a mark, whatever follows it, are those of the line. -/
theorem endsAtMark_iff_firstLine (hmark : mark ≠ '\n') :
    EndsAtMark mark (fun _ => true) cs run ↔ ∃ after, firstLine cs = run ++ mark :: after := by
  constructor
  · intro h
    obtain ⟨hline, rest, rfl, -⟩ := h
    exact ⟨firstLine rest, by rw [firstLine_append hline, firstLine_cons hmark]⟩
  · intro h
    obtain ⟨after, hafter⟩ := h
    have hcs : firstLine cs ++ cs.dropWhile (· != '\n') = cs := List.takeWhile_append_dropWhile
    have hline := not_mem_firstLine cs
    rw [hafter, List.mem_append, not_or] at hline
    rw [hafter, List.append_assoc] at hcs
    exact ⟨hline.1, _, hcs.symm, rfl⟩

/-- The longest of them leaves no mark on the line. -/
theorem endsAtLastMark_iff_firstLine (hmark : mark ≠ '\n') :
    EndsAtLastMark mark (fun _ => true) cs run ↔
      ∃ after, firstLine cs = run ++ mark :: after ∧ mark ∉ after := by
  simp only [EndsAtLastMark, endsAtMark_iff_firstLine hmark]
  constructor
  · intro h
    obtain ⟨⟨after, hafter⟩, hlongest⟩ := h
    refine ⟨after, hafter, fun hmem => ?_⟩
    obtain ⟨between, rest, rfl⟩ := List.append_of_mem hmem
    have hlonger := hlongest (run ++ mark :: between) ⟨rest, by rw [hafter, List.append_assoc]; rfl⟩
    rw [List.length_append, List.length_cons] at hlonger
    omega
  · intro h
    obtain ⟨after, hafter, hlast⟩ := h
    refine ⟨⟨after, hafter⟩, ?_⟩
    intro other hother
    obtain ⟨after', hafter'⟩ := hother
    rcases List.append_eq_append_iff.1 (hafter.symm.trans hafter') with
      ⟨gap, rfl, hgap⟩ | ⟨gap, rfl, -⟩
    · -- A longer run would have its mark among what follows the mark of this one.
      cases gap with
      | nil => simp
      | cons c gap =>
          rw [List.cons_append, List.cons.injEq] at hgap
          exact absurd (hgap.2 ▸ List.mem_append_right gap List.mem_cons_self) hlast
    · simp

/-! ### The first occurrence of a word -/

section CutAt

variable {word before after before' after' : List Char}

/-- The word stands between these characters, of which the first ones end no line. -/
def CutsAt (word cs before after : List Char) : Prop :=
  cs = before ++ word ++ after ∧ '\n' ∉ before

/-- The word stands between these characters, and nowhere on the line any earlier. -/
def CutsFirst (word cs before after : List Char) : Prop :=
  CutsAt word cs before after ∧
    ∀ before' after', CutsAt word cs before' after' → before.length ≤ before'.length

theorem cutsAt_cons_iff {c : Char} :
    CutsAt word (c :: cs) before after ↔
      (before = [] ∧ word ++ after = c :: cs) ∨
        ∃ tail, before = c :: tail ∧ c ≠ '\n' ∧ CutsAt word cs tail after := by
  constructor
  · intro h
    obtain ⟨hcs, hline⟩ := h
    cases before with
    | nil => exact .inl ⟨rfl, hcs.symm⟩
    | cons d tail =>
        simp only [List.cons_append, List.cons.injEq] at hcs
        obtain ⟨rfl, rfl⟩ := hcs
        simp only [List.mem_cons, not_or] at hline
        exact .inr ⟨tail, rfl, Ne.symm hline.1, rfl, hline.2⟩
  · intro h
    rcases h with ⟨rfl, hcs⟩ | ⟨tail, rfl, hc, rfl, hline⟩
    · exact ⟨hcs.symm, List.not_mem_nil⟩
    · exact ⟨rfl, by simp [Ne.symm hc, hline]⟩

theorem CutsFirst.unique (h : CutsFirst word cs before after)
    (h' : CutsFirst word cs before' after') : before = before' ∧ after = after' := by
  have hlength := Nat.le_antisymm (h.2 _ _ h'.1) (h'.2 _ _ h.1)
  have hcs := h.1.1.symm.trans h'.1.1
  rw [List.append_assoc, List.append_assoc] at hcs
  obtain ⟨hbefore, hrest⟩ := List.append_inj hcs hlength
  exact ⟨hbefore, List.append_cancel_left hrest⟩

theorem cutsFirst_of_cutAt (h : cutAt word cs = some (before, after)) :
    CutsFirst word cs before after := by
  induction cs generalizing before with
  | nil => simp [cutAt] at h
  | cons c cs ih =>
      unfold cutAt at h
      cases hhere : word.isPrefixOf? (c :: cs) with
      | some rest =>
          simp only [hhere, Option.some.injEq, Prod.mk.injEq] at h
          obtain ⟨rfl, rfl⟩ := h
          rw [List.isPrefixOf?_eq_some_iff_append_eq] at hhere
          exact ⟨cutsAt_cons_iff.2 (.inl ⟨rfl, hhere⟩), fun _ _ _ => Nat.zero_le _⟩
      | none =>
          simp only [hhere] at h
          by_cases hc : c = '\n'
          · rw [if_pos hc] at h
            cases h
          · rw [if_neg hc] at h
            simp only [Option.map_eq_some_iff, Prod.exists, Prod.mk.injEq] at h
            obtain ⟨tail, rest, hrest, rfl, rfl⟩ := h
            obtain ⟨hcuts, hfirst⟩ := ih hrest
            refine ⟨cutsAt_cons_iff.2 (.inr ⟨tail, rfl, hc, hcuts⟩), ?_⟩
            intro before' after' hcuts'
            rcases cutsAt_cons_iff.1 hcuts' with ⟨-, hword⟩ | ⟨tail', rfl, -, htail⟩
            · rw [← List.isPrefixOf?_eq_some_iff_append_eq, hhere] at hword
              cases hword
            · simpa using hfirst tail' after' htail

/-- A word that is not empty is found wherever it starts on the line. -/
theorem cutAt_eq_none_iff (hword : word ≠ []) :
    cutAt word cs = none ↔ ∀ before after, ¬ CutsAt word cs before after := by
  induction cs with
  | nil => simp [cutAt, CutsAt, hword]
  | cons c cs ih =>
      simp only [cutsAt_cons_iff, not_or, not_and, not_exists]
      unfold cutAt
      cases hhere : word.isPrefixOf? (c :: cs) with
      | some rest =>
          rw [List.isPrefixOf?_eq_some_iff_append_eq] at hhere
          simp only [reduceCtorEq, false_iff]
          intro hall
          exact (hall [] rest).1 rfl hhere
      | none =>
          have hnot : ∀ after, word ++ after ≠ c :: cs := by
            intro after hword
            rw [← List.isPrefixOf?_eq_some_iff_append_eq, hhere] at hword
            cases hword
          by_cases hc : c = '\n'
          · refine iff_of_true (if_pos hc) fun before after => ⟨fun _ => hnot after, ?_⟩
            exact fun _ _ hne => absurd hc hne
          · simp only [hc, if_false, Option.map_eq_none_iff, ih]
            constructor
            · exact fun hall before after => ⟨fun _ => hnot after, fun tail _ _ => hall tail after⟩
            · exact fun hall before after => (hall (c :: before) after).2 before rfl hc

theorem cutAt_eq_some_iff (hword : word ≠ []) :
    cutAt word cs = some (before, after) ↔ CutsFirst word cs before after := by
  refine ⟨cutsFirst_of_cutAt, fun h => ?_⟩
  cases hfound : cutAt word cs with
  | none => exact absurd h.1 ((cutAt_eq_none_iff hword).1 hfound before after)
  | some found =>
      obtain ⟨rfl, rfl⟩ := (cutsFirst_of_cutAt hfound).unique h
      rfl

end CutAt

/-! ### The pieces between separators -/

section SplitAt

variable {separator : Char} {piece : List Char} {pieces : List (List Char)}

/-- The text is cut at every separator. -/
structure PiecesOf (separator : Char) (cs : List Char) (pieces : List (List Char)) : Prop where
  not_mem : ∀ piece ∈ pieces, separator ∉ piece
  joined : [separator].intercalate pieces = cs
  ne_nil : pieces ≠ []

theorem splitAt_eq_splitOn (separator : Char) (cs : List Char) :
    splitAt separator cs = cs.splitOn separator := by
  induction cs with
  | nil => rfl
  | cons c cs ih =>
      unfold splitAt
      rw [List.splitOn_cons_eq_if_modifyHead, ih]
      by_cases hc : c = separator
      · rw [if_pos hc, if_pos (by simpa using hc)]
      · rw [if_neg hc, if_neg (by simpa using hc)]
        cases hrest : cs.splitOn separator with
        | nil => exact absurd hrest (List.splitOn_ne_nil separator cs)
        | cons piece pieces => rfl

/-- What a piece holds is of the text, and no separator. -/
theorem mem_of_mem_splitAt {x : Char} (h : piece ∈ splitAt separator cs) (hx : x ∈ piece) :
    x ∈ cs ∧ x ≠ separator := by
  induction cs generalizing piece with
  | nil =>
      rw [List.mem_singleton.1 h] at hx
      exact absurd hx List.not_mem_nil
  | cons c cs ih =>
      have hcons : ∀ {piece}, piece ∈ splitAt separator cs → x ∈ piece →
          x ∈ c :: cs ∧ x ≠ separator := fun h hx => (ih h hx).imp_left (List.mem_cons_of_mem c)
      unfold splitAt at h
      by_cases hc : c = separator
      · rw [if_pos hc] at h
        rcases List.mem_cons.1 h with rfl | h
        · exact absurd hx List.not_mem_nil
        · exact hcons h hx
      · rw [if_neg hc] at h
        cases hrest : splitAt separator cs with
        | nil =>
            rw [hrest, List.mem_singleton] at h
            rw [h, List.mem_singleton] at hx
            exact ⟨hx ▸ List.mem_cons_self, hx ▸ hc⟩
        | cons first others =>
            rw [hrest] at h hcons
            rcases List.mem_cons.1 h with rfl | h
            · rcases List.mem_cons.1 hx with rfl | hx
              · exact ⟨List.mem_cons_self, hc⟩
              · exact hcons List.mem_cons_self hx
            · exact hcons (List.mem_cons_of_mem first h) hx

/-- There is one way to cut a text at every separator. -/
theorem piecesOf_iff : PiecesOf separator cs pieces ↔ pieces = splitAt separator cs := by
  constructor
  · intro h
    rw [splitAt_eq_splitOn, ← h.joined, List.splitOn_intercalate separator h.not_mem h.ne_nil]
  · rintro rfl
    refine ⟨fun _ h hmem => (mem_of_mem_splitAt h hmem).2 rfl, ?_, ?_⟩
    · rw [splitAt_eq_splitOn, List.intercalate_splitOn]
    · rw [splitAt_eq_splitOn]
      exact List.splitOn_ne_nil separator cs

end SplitAt

/-! ### The leftmost place -/

section FindFrom

variable {α : Type} {f : List Char → Option α} {a b : α} {before : List Char}

/-- Something is found in what follows these first characters. -/
def FoundAfter (f : List Char → Option α) (cs before : List Char) (a : α) : Prop :=
  ∃ rest, cs = before ++ rest ∧ f rest = some a

/-- Something is found after these first characters, and nothing any earlier. -/
def FirstFoundAfter (f : List Char → Option α) (cs before : List Char) (a : α) : Prop :=
  FoundAfter f cs before a ∧
    ∀ before' b, FoundAfter f cs before' b → before.length ≤ before'.length

theorem foundAfter_nil_iff : FoundAfter f [] before a ↔ before = [] ∧ f [] = some a := by
  constructor
  · intro h
    obtain ⟨rest, hcs, h⟩ := h
    obtain ⟨rfl, rfl⟩ := List.append_eq_nil_iff.1 hcs.symm
    exact ⟨rfl, h⟩
  · intro h
    obtain ⟨rfl, h⟩ := h
    exact ⟨[], rfl, h⟩

theorem foundAfter_cons_iff {c : Char} :
    FoundAfter f (c :: cs) before a ↔
      (before = [] ∧ f (c :: cs) = some a) ∨
        ∃ tail, before = c :: tail ∧ FoundAfter f cs tail a := by
  constructor
  · intro h
    obtain ⟨rest, hcs, h⟩ := h
    cases before with
    | nil =>
        rw [List.nil_append] at hcs
        exact .inl ⟨rfl, by rw [hcs, h]⟩
    | cons d tail =>
        simp only [List.cons_append, List.cons.injEq] at hcs
        obtain ⟨rfl, rfl⟩ := hcs
        exact .inr ⟨tail, rfl, rest, rfl, h⟩
  · intro hfound
    rcases hfound with ⟨rfl, h⟩ | ⟨tail, rfl, rest, rfl, h⟩
    · exact ⟨c :: cs, rfl, h⟩
    · exact ⟨rest, rfl, h⟩

theorem FirstFoundAfter.unique (h : FirstFoundAfter f cs before a)
    {before' : List Char} (h' : FirstFoundAfter f cs before' b) : a = b := by
  have hlength := Nat.le_antisymm (h.2 _ _ h'.1) (h'.2 _ _ h.1)
  obtain ⟨rest, hcs, hrest⟩ := h.1
  obtain ⟨rest', hcs', hrest'⟩ := h'.1
  obtain ⟨-, rfl⟩ := List.append_inj (hcs.symm.trans hcs') hlength
  exact Option.some.inj (hrest.symm.trans hrest')

theorem findFrom?_eq_none_iff :
    findFrom? f cs = none ↔ ∀ before a, ¬ FoundAfter f cs before a := by
  induction cs with
  | nil =>
      rw [findFrom?, Option.eq_none_iff_forall_ne_some]
      simp only [foundAfter_nil_iff, not_and]
      exact ⟨fun h _ a _ => h a, fun h a => h [] a rfl⟩
  | cons c cs ih =>
      simp only [foundAfter_cons_iff, not_or, not_and, not_exists]
      unfold findFrom?
      cases h : f (c :: cs) with
      | some a =>
          simp only [reduceCtorEq, false_iff]
          intro hall
          exact (hall [] a).1 rfl rfl
      | none =>
          rw [ih]
          constructor
          · exact fun hall before a => ⟨by simp, fun tail _ => hall tail a⟩
          · exact fun hall before a => (hall (c :: before) a).2 before rfl

theorem firstFoundAfter_of_findFrom? (h : findFrom? f cs = some a) :
    ∃ before, FirstFoundAfter f cs before a := by
  induction cs with
  | nil => exact ⟨[], foundAfter_nil_iff.2 ⟨rfl, h⟩, fun _ _ _ => Nat.zero_le _⟩
  | cons c cs ih =>
      unfold findFrom? at h
      cases hhere : f (c :: cs) with
      | some b =>
          rw [hhere] at h
          exact ⟨[], foundAfter_cons_iff.2 (.inl ⟨rfl, hhere.trans h⟩), fun _ _ _ => Nat.zero_le _⟩
      | none =>
          rw [hhere] at h
          obtain ⟨before, hfound, hfirst⟩ := ih h
          refine ⟨c :: before, foundAfter_cons_iff.2 (.inr ⟨before, rfl, hfound⟩), ?_⟩
          intro before' b hfound'
          rcases foundAfter_cons_iff.1 hfound' with ⟨_, hsome⟩ | ⟨tail, rfl, htail⟩
          · simp [hhere] at hsome
          · simpa using hfirst tail b htail

/-- A search finds what there is at the leftmost place where there is anything. -/
theorem findFrom?_eq_some_iff :
    findFrom? f cs = some a ↔ ∃ before, FirstFoundAfter f cs before a := by
  refine ⟨firstFoundAfter_of_findFrom?, fun ⟨before, h⟩ => ?_⟩
  cases hfound : findFrom? f cs with
  | none => exact absurd h.1 (findFrom?_eq_none_iff.1 hfound before a)
  | some b =>
      obtain ⟨before', h'⟩ := firstFoundAfter_of_findFrom? hfound
      rw [h'.unique h]

end FindFrom

end PgTriage.Text
