/-
Computations that are watched.

A traced computation is its value together with everything an observer saw while it
ran, in order.  Running one after another joins the two traces.  There is nothing else
to it, so the laws below are those of lists and two computations are equal as soon as
their values and their traces are.
-/
namespace PgTriage

/-- A value together with what was observed while it was computed. -/
structure Traced (ω α : Type) where
  value : α
  trace : List ω
deriving DecidableEq, Repr

namespace Traced

variable {ω α β : Type}

@[ext] theorem ext' {t u : Traced ω α} (hv : t.value = u.value) (ht : t.trace = u.trace) :
    t = u := by
  cases t; cases u; simp_all

/-- A value that took no watching. -/
protected def pure (a : α) : Traced ω α := ⟨a, []⟩

/-- The second computation, which may depend on the value of the first, after the first. -/
protected def bind (t : Traced ω α) (k : α → Traced ω β) : Traced ω β :=
  ⟨(k t.value).value, t.trace ++ (k t.value).trace⟩

/-- One observation. -/
def tell (o : ω) : Traced ω Unit := ⟨(), [o]⟩

instance : Monad (Traced ω) where
  pure := Traced.pure
  bind := Traced.bind

/-! ### What the operations do to value and trace -/

@[simp] theorem value_pure (a : α) : (pure a : Traced ω α).value = a := rfl

@[simp] theorem trace_pure (a : α) : (pure a : Traced ω α).trace = [] := rfl

@[simp] theorem value_bind (t : Traced ω α) (k : α → Traced ω β) :
    (t >>= k).value = (k t.value).value := rfl

@[simp] theorem trace_bind (t : Traced ω α) (k : α → Traced ω β) :
    (t >>= k).trace = t.trace ++ (k t.value).trace := rfl

@[simp] theorem value_map (f : α → β) (t : Traced ω α) : (f <$> t).value = f t.value := rfl

@[simp] theorem trace_map (f : α → β) (t : Traced ω α) : (f <$> t).trace = t.trace := by
  show t.trace ++ [] = t.trace
  simp

@[simp] theorem value_tell (o : ω) : (tell o).value = () := rfl

@[simp] theorem trace_tell (o : ω) : (tell o).trace = [o] := rfl

instance : LawfulMonad (Traced ω) := LawfulMonad.mk' _
  (fun t => by ext1 <;> simp)
  (fun a k => by ext1 <;> simp)
  (fun t k l => by ext1 <;> simp)

/-- The value of a run of computations is the run of their values. -/
theorem value_foldlM (f : β → α → Traced ω β) (b : β) (l : List α) :
    (l.foldlM f b).value = l.foldl (fun b a => (f b a).value) b := by
  induction l generalizing b with
  | nil => rfl
  | cons a rest ih => exact ih (f b a).value

end Traced

end PgTriage
