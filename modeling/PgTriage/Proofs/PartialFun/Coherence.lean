/-
Every combinator keeps the contract.

A combinator answers whether it is defined and what its value is along two paths, and
nothing but its own text ties them together.  What is needed of a part is only that it is
coherent itself, and of what a composition feeds from not even that, since a composition
asks it for its value on both paths.

The value of a combination is then a matter of optional values alone: the first of two
that is there, a step taken on one, one fed into the next.  Observers leave no trace in
it.
-/
import PgTriage.PartialFun.Basic

namespace PgTriage.PartialFun

variable {ω α β γ : Type}

/-! ### The values of the combinators -/

@[simp] theorem value_tryApply_guard (p : α → Bool) (f : α → β) (x : α) :
    ((guard p f : PartialFun ω α β).tryApply x).value = if p x then some (f x) else none := rfl

@[simp] theorem value_tryApply_total (f : α → β) (x : α) :
    ((total f : PartialFun ω α β).tryApply x).value = some (f x) := rfl

@[simp] theorem value_tryApply_unliftTraced (f : α → Traced ω (Option β)) (x : α) :
    ((unliftTraced f).tryApply x).value = (f x).value := rfl

@[simp] theorem value_tryApply_unlift (f : α → Option β) (x : α) :
    ((unlift f : PartialFun ω α β).tryApply x).value = f x := rfl

@[simp] theorem value_tryApply_orElse (f g : PartialFun ω α β) (x : α) :
    ((f.orElse g).tryApply x).value = (f.tryApply x).value.or (g.tryApply x).value := by
  simp only [orElse, ofTry, Traced.value_bind]
  cases (f.tryApply x).value <;> rfl

@[simp] theorem value_tryApply_andThenTraced (f : PartialFun ω α β) (k : β → Traced ω γ) (x : α) :
    ((f.andThenTraced k).tryApply x).value =
      (f.tryApply x).value.map fun y => (k y).value := by
  simp only [andThenTraced, ofTry, Traced.value_bind]
  cases (f.tryApply x).value <;> rfl

@[simp] theorem value_tryApply_andThen (f : PartialFun ω α β) (k : β → γ) (x : α) :
    ((f.andThen k).tryApply x).value = (f.tryApply x).value.map k :=
  value_tryApply_andThenTraced f _ x

@[simp] theorem value_tryApply_compose (f : PartialFun ω β γ) (k : α → β) (x : α) :
    ((f.compose k).tryApply x).value = (f.tryApply (k x)).value := rfl

@[simp] theorem value_tryApply_composePartial (f : PartialFun ω β γ) (g : PartialFun ω α β)
    (x : α) :
    ((f.composePartial g).tryApply x).value =
      (g.tryApply x).value.bind fun y => (f.tryApply y).value := by
  simp only [composePartial, ofTry, Traced.value_bind]
  cases (g.tryApply x).value <;> rfl

@[simp] theorem value_tryApply_logged (f : PartialFun ω α β) (observe : α → ω) (x : α) :
    ((f.logged observe).tryApply x).value = (f.tryApply x).value := rfl

@[simp] theorem boxed_eq (f : PartialFun ω α β) : f.boxed = f := rfl

@[simp] theorem value_applyOrElse (f : PartialFun ω α β) (x : α) (fallback : α → β) :
    (f.applyOrElse x fallback).value = (f.tryApply x).value.getD (fallback x) := rfl

/-! ### The contract -/

theorem Coherent.value_apply {f : PartialFun ω α β} (hf : Coherent f) (x : α) :
    (f.apply x).value = orNotDefined (f.tryApply x).value := by
  rw [hf.apply_eq, Traced.value_map]

/-- Where the application is read off the optional value, the domain alone is to be shown. -/
theorem coherent_ofTry {isDefinedAt : α → Traced ω Bool} {tryApply : α → Traced ω (Option β)}
    (h : ∀ x, (isDefinedAt x).value = (tryApply x).value.isSome) :
    Coherent (ofTry isDefinedAt tryApply) :=
  ⟨h, fun _ => rfl⟩

theorem coherent_guard (p : α → Bool) (f : α → β) : Coherent (guard p f : PartialFun ω α β) := by
  refine coherent_ofTry fun x => ?_
  cases h : p x <;> simp

theorem coherent_total (f : α → β) : Coherent (total f : PartialFun ω α β) :=
  coherent_guard _ f

theorem coherent_unliftTraced (f : α → Traced ω (Option β)) : Coherent (unliftTraced f) :=
  coherent_ofTry fun _ => rfl

theorem coherent_unlift (f : α → Option β) : Coherent (unlift f : PartialFun ω α β) :=
  coherent_unliftTraced _

theorem Coherent.orElse {f g : PartialFun ω α β} (hf : Coherent f) (hg : Coherent g) :
    Coherent (f.orElse g) := by
  refine coherent_ofTry fun x => ?_
  simp only [Traced.value_bind, hf.isDefinedAt_eq]
  cases (f.tryApply x).value with
  | none => simpa using hg.isDefinedAt_eq x
  | some y => rfl

theorem Coherent.andThenTraced {f : PartialFun ω α β} (hf : Coherent f) (k : β → Traced ω γ) :
    Coherent (f.andThenTraced k) := by
  refine coherent_ofTry fun x => ?_
  simp only [Traced.value_bind, hf.isDefinedAt_eq]
  cases (f.tryApply x).value <;> rfl

theorem Coherent.andThen {f : PartialFun ω α β} (hf : Coherent f) (k : β → γ) :
    Coherent (f.andThen k) :=
  hf.andThenTraced _

theorem Coherent.compose {f : PartialFun ω β γ} (hf : Coherent f) (k : α → β) :
    Coherent (f.compose k) :=
  coherent_ofTry fun x => hf.isDefinedAt_eq (k x)

theorem Coherent.composePartial {f : PartialFun ω β γ} (hf : Coherent f)
    (g : PartialFun ω α β) : Coherent (f.composePartial g) := by
  refine coherent_ofTry fun x => ?_
  simp only [Traced.value_bind]
  cases (g.tryApply x).value with
  | none => rfl
  | some y => exact hf.isDefinedAt_eq y

theorem Coherent.logged {f : PartialFun ω α β} (hf : Coherent f) (observe : α → ω) :
    Coherent (f.logged observe) := by
  refine ⟨hf.isDefinedAt_eq, fun x => ?_⟩
  simp only [PartialFun.logged, hf.apply_eq, map_bind]

end PgTriage.PartialFun
