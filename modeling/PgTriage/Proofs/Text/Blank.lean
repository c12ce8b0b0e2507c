/-
What trimming leaves.

Trimming takes the blank characters from either end, so nothing is left of a text exactly
when it was blank to begin with.  What is left has no blank end, and a text without blank
ends is left as it is; so blank characters put around a text are taken off again and no
others.
-/
import Mathlib.Data.List.DropRight
import Mathlib.Data.List.TakeWhile
import PgTriage.Text.Blank

namespace PgTriage.Text

theorem trimChars_eq_nil_iff {cs : List Char} : trimChars cs = [] ↔ ∀ c ∈ cs, isBlank c = true := by
  simp only [trimChars, List.reverse_eq_nil_iff, List.dropWhile_eq_nil_iff, List.mem_reverse]
  constructor
  · intro h c hc
    rw [← List.takeWhile_append_dropWhile (p := isBlank) (l := cs), List.mem_append] at hc
    rcases hc with htake | hdrop
    · exact List.mem_takeWhile_imp htake
    · exact h c hdrop
  · intro h c hc
    exact h c ((List.dropWhile_suffix isBlank).mem hc)

/-- Nothing is left of a text exactly when it is blank. -/
theorem isEmpty_trim (s : String) : (trim s).isEmpty = blank s := by
  rw [Bool.eq_iff_iff, String.isEmpty_iff, trim, String.ofList_eq_empty_iff,
    trimChars_eq_nil_iff, blank, List.all_eq_true]

/-! ### Blank ends -/

theorem trimChars_eq_rdropWhile (cs : List Char) :
    trimChars cs = (cs.dropWhile isBlank).rdropWhile isBlank := rfl

theorem mem_of_mem_trimChars {c : Char} {cs : List Char} (h : c ∈ trimChars cs) : c ∈ cs := by
  rw [trimChars_eq_rdropWhile] at h
  exact (List.dropWhile_suffix isBlank).mem ((List.rdropWhile_prefix isBlank _).mem h)

/-- Neither end of the text is blank. -/
structure Trimmed (cs : List Char) : Prop where
  head : ∀ c ∈ cs.head?, isBlank c = false
  last : ∀ c ∈ cs.getLast?, isBlank c = false

theorem trimmed_trimChars (cs : List Char) : Trimmed (trimChars cs) := by
  rw [trimChars_eq_rdropWhile]
  refine ⟨?_, ?_⟩
  · intro c hc
    obtain ⟨dropped, hdropped⟩ := List.rdropWhile_prefix isBlank (cs.dropWhile isBlank)
    have hhead : (cs.dropWhile isBlank).head? = some c := by
      rw [← hdropped, List.head?_append, Option.mem_def.1 hc]
      rfl
    have hfirst := List.head?_dropWhile_not isBlank cs
    rw [hhead] at hfirst
    exact hfirst
  · intro c hc
    have hne : (cs.dropWhile isBlank).rdropWhile isBlank ≠ [] := by
      intro hnil
      rw [hnil] at hc
      cases hc
    have hlast := List.rdropWhile_last_not isBlank (cs.dropWhile isBlank) hne
    rw [List.getLast?_eq_some_getLast hne, Option.mem_some_iff] at hc
    rw [← hc]
    exact Bool.eq_false_iff.2 hlast

theorem Trimmed.trimChars_eq {cs : List Char} (h : Trimmed cs) : trimChars cs = cs := by
  have hhead : cs.dropWhile isBlank = cs := by
    cases cs with
    | nil => rfl
    | cons c rest => rw [List.dropWhile_cons_of_neg (by simp [h.head c rfl])]
  rw [trimChars_eq_rdropWhile, hhead, List.rdropWhile_eq_self_iff]
  intro hne
  have hlast := h.last _ (List.getLast?_eq_some_getLast hne)
  simp [hlast]

theorem trimmed_iff {cs : List Char} : Trimmed cs ↔ trimChars cs = cs :=
  ⟨Trimmed.trimChars_eq, fun h => h ▸ trimmed_trimChars cs⟩

instance (cs : List Char) : Decidable (Trimmed cs) := decidable_of_iff _ trimmed_iff.symm

/-- Blank characters around a text are taken off again. -/
theorem trimChars_append {before after : List Char} (hbefore : ∀ c ∈ before, isBlank c = true)
    (hafter : ∀ c ∈ after, isBlank c = true) (cs : List Char) :
    trimChars (before ++ cs ++ after) = trimChars cs := by
  have hreverse : ∀ c ∈ after.reverse, isBlank c = true := fun c hc =>
    hafter c (List.mem_reverse.1 hc)
  rw [List.append_assoc, trimChars, trimChars, List.dropWhile_append_of_pos hbefore,
    List.dropWhile_append]
  by_cases hnone : cs.dropWhile isBlank = []
  · -- Nothing but blanks is left, at whichever end they stand.
    have hblank : after.dropWhile isBlank = [] := by
      rw [List.dropWhile_eq_nil_iff]
      exact hafter
    rw [hnone, List.isEmpty_nil, if_pos rfl, hblank]
  · rw [if_neg (by simpa using hnone), List.reverse_append, List.dropWhile_append_of_pos hreverse]

theorem trimChars_map {f : Char → Char} (hf : ∀ c, isBlank (f c) = isBlank c)
    (cs : List Char) : trimChars (cs.map f) = (trimChars cs).map f := by
  have hcomp : isBlank ∘ f = isBlank := funext hf
  simp only [trimChars, List.dropWhile_map, ← List.map_reverse, hcomp]

end PgTriage.Text
