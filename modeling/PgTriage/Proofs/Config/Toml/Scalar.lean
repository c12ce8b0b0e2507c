/-
What a reader gives.

A reader takes something from the front of a text, or nothing.  `Yields` says of whatever
it may take that it has a property.  It passes through the ways readers are put together,
so what is said of a reader is said of its parts.  The first use of it is that a scalar
is no table, and so has no name twice.
-/
import PgTriage.Config.Toml.Scalar
import PgTriage.Proofs.Config.Value

namespace PgTriage.Config.Toml

/-- Whatever the reader takes has the property. -/
def Yields {α : Type} (P : α → Prop) (r : Read α) : Prop := ∀ a rest, r = some (a, rest) → P a

namespace Yields

variable {α β : Type} {P : α → Prop}

theorem none : Yields P none := by
  intro a rest h
  cases h

theorem some {a : α} {rest : List Char} (h : P a) : Yields P (some (a, rest)) := by
  intro b rest' hb
  cases hb
  exact h

theorem bind {r : Option β} {f : β → Read α} (h : ∀ b, r = .some b → Yields P (f b)) :
    Yields P (r.bind f) := by
  intro a rest ha
  obtain ⟨b, hb, hf⟩ := Option.bind_eq_some_iff.1 ha
  exact h b hb a rest hf

theorem map {r : Option β} {f : β → α × List Char} (h : ∀ b, r = .some b → P (f b).1) :
    Yields P (r.map f) := by
  intro a rest ha
  obtain ⟨b, hb, hf⟩ := Option.map_eq_some_iff.1 ha
  have hP := h b hb
  rwa [hf] at hP

theorem or {r s : Read α} (hr : Yields P r) (hs : Yields P s) : Yields P (r.or s) := by
  cases r with
  | none => exact hs
  | some a => exact hr

theorem ite {c : Prop} [Decidable c] {r s : Read α} (hr : Yields P r) (hs : Yields P s) :
    Yields P (if c then r else s) := by
  split
  · exact hr
  · exact hs

end Yields

/-! ### Scalars -/

open Value (Distinct)

theorem yields_basedInteger? (mark : Char) (cs : List Char) :
    Yields Distinct (basedInteger? mark cs) := by
  have hread : ∀ (base : Nat) (isDigit : Char → Bool), Yields Distinct
      ((digits? isDigit cs).bind fun r =>
        if inRange (numberOf base r.1) then some (.signed (numberOf base r.1), r.2) else none) := by
    intro base isDigit
    exact .bind fun r _ => .ite (.some (.signed _)) .none
  unfold basedInteger?
  split
  · exact hread 16 _
  · exact hread 8 _
  · exact hread 2 _
  · exact .none

theorem yields_decimal? (cs : List Char) : Yields Distinct (decimal? cs) := by
  simp only [decimal?, Option.bind_eq_bind]
  refine .bind fun whole _ => ?_
  -- with a fraction and without one, the number ends alike
  split
  all_goals
    refine .bind fun fraction _ => .bind fun exponent _ => ?_
    exact .ite (.ite (.some (.signed _)) .none) (.ite .none (.some (.float _)))

theorem yields_number? (cs : List Char) : Yields Distinct (number? cs) := by
  unfold number?
  split
  · exact .some (.float _)
  · exact .some (.float _)
  · split
    · split
      · exact yields_basedInteger? _ _
      · exact yields_decimal? _
    · exact yields_decimal? _

theorem yields_scalar? (cs : List Char) : Yields Distinct (scalar? cs) := by
  unfold scalar?
  split
  · exact .some (.bool true)
  · exact .some (.bool false)
  · exact .map fun s _ => .text s.1
  · exact .map fun s _ => .text s.1
  · exact yields_number? _

end PgTriage.Config.Toml
