/-
What observers see.

An application is seen alike whichever way it is asked for.  A test of the domain may be
seen too, for two combinators test by applying: a composition applies what it feeds from,
and a function made from an optional one runs it.  What is seen of a test is then a part
of what is seen of an application, in the same order.

The part is found by following both paths at once.  Where a choice tests its first
function and leaves the second alone, an application has to leave the second alone too,
so the paths stay together only because a function is defined exactly where it has a
value: the contract is needed for the traces as much as for the values.

A test is not seen at all as long as no observer stands where it would run one.
`Term.ObservedByTests` says where that is.
-/
import PgTriage.Proofs.PartialFun.Terms

namespace PgTriage.PartialFun

variable {ω α β γ : Type}

/-! ### The traces of the combinators -/

@[simp] theorem trace_tryApply_guard (p : α → Bool) (f : α → β) (x : α) :
    ((guard p f : PartialFun ω α β).tryApply x).trace = [] := rfl

@[simp] theorem trace_tryApply_unliftTraced (f : α → Traced ω (Option β)) (x : α) :
    ((unliftTraced f).tryApply x).trace = (f x).trace := rfl

@[simp] theorem trace_tryApply_unlift (f : α → Option β) (x : α) :
    ((unlift f : PartialFun ω α β).tryApply x).trace = [] := rfl

/-- The second function is seen only where the first has no value. -/
@[simp] theorem trace_tryApply_orElse (f g : PartialFun ω α β) (x : α) :
    ((f.orElse g).tryApply x).trace =
      (f.tryApply x).trace ++ (f.tryApply x).value.elim (g.tryApply x).trace fun _ => [] := by
  simp only [orElse, ofTry, Traced.trace_bind]
  cases (f.tryApply x).value <;> rfl

@[simp] theorem trace_tryApply_andThenTraced (f : PartialFun ω α β) (k : β → Traced ω γ) (x : α) :
    ((f.andThenTraced k).tryApply x).trace =
      (f.tryApply x).trace ++ (f.tryApply x).value.elim [] fun y => (k y).trace := by
  simp only [andThenTraced, ofTry, Traced.trace_bind]
  cases (f.tryApply x).value with
  | none => rfl
  | some y => simp

@[simp] theorem trace_tryApply_andThen (f : PartialFun ω α β) (k : β → γ) (x : α) :
    ((f.andThen k).tryApply x).trace = (f.tryApply x).trace := by
  rw [andThen, trace_tryApply_andThenTraced]
  cases (f.tryApply x).value <;> simp

@[simp] theorem trace_tryApply_compose (f : PartialFun ω β γ) (k : α → β) (x : α) :
    ((f.compose k).tryApply x).trace = (f.tryApply (k x)).trace := rfl

@[simp] theorem trace_tryApply_composePartial (f : PartialFun ω β γ) (g : PartialFun ω α β)
    (x : α) :
    ((f.composePartial g).tryApply x).trace =
      (g.tryApply x).trace ++ (g.tryApply x).value.elim [] fun y => (f.tryApply y).trace := by
  simp only [composePartial, ofTry, Traced.trace_bind]
  cases (g.tryApply x).value <;> rfl

@[simp] theorem trace_tryApply_logged (f : PartialFun ω α β) (observe : α → ω) (x : α) :
    ((f.logged observe).tryApply x).trace = observe x :: (f.tryApply x).trace := rfl

@[simp] theorem trace_isDefinedAt_unliftTraced (f : α → Traced ω (Option β)) (x : α) :
    ((unliftTraced f).isDefinedAt x).trace = (f x).trace :=
  Traced.trace_map _ _

@[simp] theorem trace_isDefinedAt_orElse (f g : PartialFun ω α β) (x : α) :
    ((f.orElse g).isDefinedAt x).trace =
      (f.isDefinedAt x).trace ++
        if (f.isDefinedAt x).value then [] else (g.isDefinedAt x).trace := by
  simp only [orElse, ofTry, Traced.trace_bind]
  cases (f.isDefinedAt x).value <;> rfl

/-- A composition applies what it feeds from, also to test. -/
@[simp] theorem trace_isDefinedAt_composePartial (f : PartialFun ω β γ) (g : PartialFun ω α β)
    (x : α) :
    ((f.composePartial g).isDefinedAt x).trace =
      (g.tryApply x).trace ++ (g.tryApply x).value.elim [] fun y => (f.isDefinedAt y).trace := by
  simp only [composePartial, ofTry, Traced.trace_bind]
  cases (g.tryApply x).value <;> rfl

@[simp] theorem trace_applyOrElse (f : PartialFun ω α β) (x : α) (fallback : α → β) :
    (f.applyOrElse x fallback).trace = (f.tryApply x).trace :=
  Traced.trace_map _ _

theorem Coherent.trace_apply {f : PartialFun ω α β} (hf : Coherent f) (x : α) :
    (f.apply x).trace = (f.tryApply x).trace := by
  rw [hf.apply_eq, Traced.trace_map]

/-! ### A test is seen as part of an application -/

/-- What is seen of a test of the domain is seen of an application, in the same order. -/
def TestsWithin (f : PartialFun ω α β) : Prop :=
  ∀ x, (f.isDefinedAt x).trace.Sublist (f.tryApply x).trace

theorem testsWithin_guard (p : α → Bool) (f : α → β) :
    (guard p f : PartialFun ω α β).TestsWithin :=
  fun _ => List.Sublist.refl []

theorem testsWithin_unliftTraced (f : α → Traced ω (Option β)) : (unliftTraced f).TestsWithin := by
  intro x
  simp only [trace_isDefinedAt_unliftTraced, trace_tryApply_unliftTraced, List.Sublist.refl]

theorem TestsWithin.orElse {f g : PartialFun ω α β} (hf : f.TestsWithin) (hg : g.TestsWithin)
    (hcoherent : f.Coherent) : (f.orElse g).TestsWithin := by
  intro x
  -- The contract makes both paths go on to the second function in the same case.
  rw [trace_isDefinedAt_orElse, trace_tryApply_orElse, hcoherent.isDefinedAt_eq]
  cases (f.tryApply x).value with
  | none => exact (hf x).append (hg x)
  | some y => exact (hf x).append (List.Sublist.refl [])

theorem TestsWithin.andThen {f : PartialFun ω α β} (hf : f.TestsWithin) (k : β → γ) :
    (f.andThen k).TestsWithin := by
  intro x
  rw [trace_tryApply_andThen]
  exact hf x

theorem TestsWithin.compose {f : PartialFun ω β γ} (hf : f.TestsWithin) (k : α → β) :
    (f.compose k).TestsWithin := by
  intro x
  rw [trace_tryApply_compose]
  exact hf (k x)

theorem TestsWithin.composePartial {f : PartialFun ω β γ} (hf : f.TestsWithin)
    (g : PartialFun ω α β) : (f.composePartial g).TestsWithin := by
  intro x
  rw [trace_isDefinedAt_composePartial, trace_tryApply_composePartial]
  refine List.Sublist.append (List.Sublist.refl _) ?_
  cases (g.tryApply x).value with
  | none => exact List.Sublist.refl []
  | some y => exact hf y

theorem TestsWithin.logged {f : PartialFun ω α β} (hf : f.TestsWithin) (observe : α → ω) :
    (f.logged observe).TestsWithin := by
  intro x
  rw [trace_tryApply_logged]
  exact (hf x).cons (observe x)

/-! ### Functions that are not seen -/

/-- An application is not seen. -/
def AppliesUnseen (f : PartialFun ω α β) : Prop := ∀ x, (f.tryApply x).trace = []

/-- A test of the domain is not seen. -/
def TestsUnseen (f : PartialFun ω α β) : Prop := ∀ x, (f.isDefinedAt x).trace = []

theorem appliesUnseen_guard (p : α → Bool) (f : α → β) :
    (guard p f : PartialFun ω α β).AppliesUnseen :=
  trace_tryApply_guard p f

theorem appliesUnseen_unlift (f : α → Option β) : (unlift f : PartialFun ω α β).AppliesUnseen :=
  trace_tryApply_unlift f

theorem AppliesUnseen.orElse {f g : PartialFun ω α β} (hf : f.AppliesUnseen)
    (hg : g.AppliesUnseen) : (f.orElse g).AppliesUnseen := by
  intro x
  rw [trace_tryApply_orElse, hf x, hg x]
  cases (f.tryApply x).value <;> rfl

theorem AppliesUnseen.andThen {f : PartialFun ω α β} (hf : f.AppliesUnseen) (k : β → γ) :
    (f.andThen k).AppliesUnseen := by
  intro x
  rw [trace_tryApply_andThen, hf x]

theorem AppliesUnseen.compose {f : PartialFun ω β γ} (hf : f.AppliesUnseen) (k : α → β) :
    (f.compose k).AppliesUnseen := by
  intro x
  rw [trace_tryApply_compose, hf (k x)]

theorem AppliesUnseen.composePartial {f : PartialFun ω β γ} {g : PartialFun ω α β}
    (hf : f.AppliesUnseen) (hg : g.AppliesUnseen) : (f.composePartial g).AppliesUnseen := by
  intro x
  rw [trace_tryApply_composePartial, hg x]
  cases (g.tryApply x).value with
  | none => rfl
  | some y => exact hf y

theorem testsUnseen_guard (p : α → Bool) (f : α → β) :
    (guard p f : PartialFun ω α β).TestsUnseen :=
  fun _ => rfl

/-- Testing runs the function. -/
theorem testsUnseen_unliftTraced {f : α → Traced ω (Option β)}
    (h : (unliftTraced f).AppliesUnseen) : (unliftTraced f).TestsUnseen := by
  intro x
  rw [trace_isDefinedAt_unliftTraced]
  exact h x

theorem TestsUnseen.orElse {f g : PartialFun ω α β} (hf : f.TestsUnseen) (hg : g.TestsUnseen) :
    (f.orElse g).TestsUnseen := by
  intro x
  rw [trace_isDefinedAt_orElse, hf x, hg x]
  simp

theorem TestsUnseen.compose {f : PartialFun ω β γ} (hf : f.TestsUnseen) (k : α → β) :
    (f.compose k).TestsUnseen :=
  fun x => hf (k x)

theorem TestsUnseen.composePartial {f : PartialFun ω β γ} {g : PartialFun ω α β}
    (hf : f.TestsUnseen) (hg : g.AppliesUnseen) : (f.composePartial g).TestsUnseen := by
  intro x
  rw [trace_isDefinedAt_composePartial, hg x]
  cases (g.tryApply x).value with
  | none => rfl
  | some y => exact hf y

namespace Term

/-! ### Where the observers of a term stand -/

/-- An observer stands somewhere in the term. -/
def Observed {α β : Type} : Term ω α β → Prop
  | .guard _ _ | .total _ | .unlift _ => False
  | .relift t | .andThen t _ | .compose t _ | .boxed t => t.Observed
  | .orElse t u | .composePartial t u => t.Observed ∨ u.Observed
  | .logged _ _ => True

/-- An observer stands under a lift or in what a composition feeds from. -/
def ObservedByTests {α β : Type} : Term ω α β → Prop
  | .guard _ _ | .total _ | .unlift _ => False
  | .relift t => t.Observed
  | .andThen t _ | .compose t _ | .logged t _ | .boxed t => t.ObservedByTests
  | .orElse t u => t.ObservedByTests ∨ u.ObservedByTests
  | .composePartial t u => t.ObservedByTests ∨ u.Observed

theorem testsWithin_denote {α β : Type} (t : Term ω α β) : t.denote.TestsWithin := by
  induction t with
  | guard p f => exact testsWithin_guard p f
  | total f => exact testsWithin_guard _ f
  | unlift f => exact testsWithin_unliftTraced _
  | relift t ih => exact testsWithin_unliftTraced _
  | orElse t u iht ihu => exact iht.orElse ihu t.coherent_denote
  | andThen t k ih => exact ih.andThen k
  | compose t k ih => exact ih.compose k
  | composePartial t u iht ihu => exact iht.composePartial u.denote
  | logged t observe ih => exact ih.logged observe
  | boxed t ih => exact ih

theorem appliesUnseen_denote {α β : Type} {t : Term ω α β} (h : ¬ t.Observed) :
    t.denote.AppliesUnseen := by
  induction t with
  | guard p f => exact appliesUnseen_guard p f
  | total f => exact appliesUnseen_guard _ f
  | unlift f => exact appliesUnseen_unlift f
  | relift t ih => exact ih h
  | orElse t u iht ihu => exact (iht fun ht => h (.inl ht)).orElse (ihu fun hu => h (.inr hu))
  | andThen t k ih => exact (ih h).andThen k
  | compose t k ih => exact (ih h).compose k
  | composePartial t u iht ihu =>
      exact (iht fun ht => h (.inl ht)).composePartial (ihu fun hu => h (.inr hu))
  | logged t observe ih => exact absurd trivial h
  | boxed t ih => exact ih h

theorem testsUnseen_denote {α β : Type} {t : Term ω α β} (h : ¬ t.ObservedByTests) :
    t.denote.TestsUnseen := by
  induction t with
  | guard p f => exact testsUnseen_guard p f
  | total f => exact testsUnseen_guard _ f
  | unlift f => exact testsUnseen_unliftTraced (appliesUnseen_unlift f)
  | relift t ih => exact testsUnseen_unliftTraced (appliesUnseen_denote (t := t) h)
  | orElse t u iht ihu => exact (iht fun ht => h (.inl ht)).orElse (ihu fun hu => h (.inr hu))
  | andThen t k ih => exact ih h
  | compose t k ih => exact (ih h).compose k
  | composePartial t u iht ihu =>
      exact (iht fun ht => h (.inl ht)).composePartial (appliesUnseen_denote fun hu => h (.inr hu))
  | logged t observe ih => exact ih h
  | boxed t ih => exact ih h

/-- **An application is seen alike however it is asked for, and a test as a part of it.**  A test
is not seen where no observer stands under a lift or before a composition. -/
theorem trace_isDefinedAt_sublist (t : Term ω α β) (x : α) :
    (t.denote.apply x).trace = (t.denote.tryApply x).trace ∧
      (t.denote.lift x).trace = (t.denote.tryApply x).trace ∧
      (∀ fallback, (t.denote.applyOrElse x fallback).trace = (t.denote.tryApply x).trace) ∧
      (t.denote.isDefinedAt x).trace.Sublist (t.denote.tryApply x).trace ∧
      (¬ t.ObservedByTests → (t.denote.isDefinedAt x).trace = []) := by
  refine ⟨t.coherent_denote.trace_apply x, rfl, ?_, t.testsWithin_denote x, ?_⟩
  · intro fallback
    rw [trace_applyOrElse]
  · intro h
    exact testsUnseen_denote h x

/-- An observer on what a composition feeds is seen of an application and not of a test. -/
theorem trace_isDefinedAt_observed_after_halving :
    let t : Term Nat Nat Nat := .composePartial (.logged (.guard (0 < ·) (· - 1)) id)
      (.unlift fun n => if n % 2 = 0 then some (n / 2) else none)
    ¬ t.ObservedByTests ∧ (t.denote.isDefinedAt 6).trace = [] ∧
      (t.denote.applyOrElse 6 id).trace = [3] := by
  intro t
  have h : ¬ t.ObservedByTests := by simp [t, ObservedByTests, Observed]
  obtain ⟨-, -, hfallback, -, htest⟩ := trace_isDefinedAt_sublist t 6
  exact ⟨h, htest h, hfallback id⟩

-- An observer under a lift is seen of a test as well.
example : ((Term.relift (.logged (.total id) id) : Term Nat Nat Nat).denote.isDefinedAt 6).trace =
    [6] := rfl

end Term

end PgTriage.PartialFun
