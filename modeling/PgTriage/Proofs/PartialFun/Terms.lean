/-
Every term answers from one optional value.

A term is asked five things at an input: whether it is defined, for its value if it has
one, for its value or an error, for the value of the lifted function, and for its value or
a fallback.  `Term.value?` reads one optional value off the term and never looks at an
observer.  The five answers are that value, told in five ways.

A term may lose observers anywhere, some or all of them: under a lift, in what a
composition feeds from, on either side of a choice.  `Unobserved` says that it lost some
and is otherwise the same.  Since `value?` passes observers over, the two terms have the
same value, and so the same answers.
-/
import PgTriage.PartialFun.Term
import PgTriage.Proofs.PartialFun.Coherence

namespace PgTriage.PartialFun

variable {ω α β γ : Type}

/-! ### Five answers -/

/-- What the function answers at an input comes from this optional value. -/
structure AnswersBy (f : PartialFun ω α β) (x : α) (y? : Option β) : Prop where
  tryApply : (f.tryApply x).value = y?
  isDefinedAt : (f.isDefinedAt x).value = true ↔ y?.isSome = true
  apply_ok (y : β) : (f.apply x).value = .ok y ↔ y? = some y
  apply_error : (f.apply x).value = .error .notDefined ↔ y? = none
  lift : (f.lift x).value = y?
  applyOrElse (fallback : α → β) : (f.applyOrElse x fallback).value = y?.getD (fallback x)

theorem orNotDefined_eq_ok_iff {y? : Option β} {y : β} :
    orNotDefined y? = .ok y ↔ y? = some y := by
  cases y? <;> simp [orNotDefined]

theorem orNotDefined_eq_error_iff {y? : Option β} :
    orNotDefined y? = .error .notDefined ↔ y? = none := by
  cases y? <;> simp [orNotDefined]

/-- The contract is what makes the five answers one. -/
theorem Coherent.answersBy {f : PartialFun ω α β} (hf : Coherent f) (x : α) :
    f.AnswersBy x (f.tryApply x).value where
  tryApply := rfl
  isDefinedAt := by rw [hf.isDefinedAt_eq]
  apply_ok y := by rw [hf.value_apply, orNotDefined_eq_ok_iff]
  apply_error := by rw [hf.value_apply, orNotDefined_eq_error_iff]
  lift := rfl
  applyOrElse fallback := value_applyOrElse f x fallback

namespace Term

/-! ### The value of a term -/

/-- The value of a term, if it has one.  Observers are passed over. -/
def value? {α β : Type} : Term ω α β → α → Option β
  | .guard p f, x => if p x then some (f x) else none
  | .total f, x => some (f x)
  | .unlift f, x => f x
  | .relift t, x => t.value? x
  | .orElse t u, x => (t.value? x).or (u.value? x)
  | .andThen t k, x => (t.value? x).map k
  | .compose t k, x => t.value? (k x)
  | .composePartial t u, x => (u.value? x).bind t.value?
  | .logged t _, x => t.value? x
  | .boxed t, x => t.value? x

theorem value_tryApply_denote {α β : Type} (t : Term ω α β) (x : α) :
    (t.denote.tryApply x).value = t.value? x := by
  induction t with
  | guard p f => exact value_tryApply_guard p f x
  | total f => exact value_tryApply_total f x
  | unlift f => exact value_tryApply_unlift f x
  | relift t ih => exact ih x
  | orElse t u iht ihu =>
      rw [denote, value_tryApply_orElse, iht, ihu]
      rfl
  | andThen t k ih =>
      rw [denote, value_tryApply_andThen, ih]
      rfl
  | compose t k ih => exact ih (k x)
  | composePartial t u iht ihu =>
      rw [denote, value_tryApply_composePartial, ihu]
      exact Option.bind_congr fun y _ => iht y
  | logged t observe ih => exact ih x
  | boxed t ih => exact ih x

/-- Terms stand for functions that keep the contract. -/
theorem coherent_denote {α β : Type} (t : Term ω α β) : t.denote.Coherent := by
  induction t with
  | guard p f => exact coherent_guard p f
  | total f => exact coherent_total f
  | unlift f => exact coherent_unlift f
  | relift t ih => exact coherent_unliftTraced _
  | orElse t u iht ihu => exact iht.orElse ihu
  | andThen t k ih => exact ih.andThen k
  | compose t k ih => exact ih.compose k
  | composePartial t u iht ihu => exact iht.composePartial u.denote
  | logged t observe ih => exact ih.logged observe
  | boxed t ih => exact ih

/-! ### Taking observers away -/

/-- The second term is the first without some of its observers, wherever they stand. -/
inductive Unobserved : ∀ {α β : Type}, Term ω α β → Term ω α β → Prop
  | guard {α β : Type} (p : α → Bool) (f : α → β) : Unobserved (.guard p f) (.guard p f)
  | total {α β : Type} (f : α → β) : Unobserved (.total f) (.total f)
  | unlift {α β : Type} (f : α → Option β) : Unobserved (.unlift f) (.unlift f)
  | relift {α β : Type} {t t' : Term ω α β} (h : Unobserved t t') :
      Unobserved (.relift t) (.relift t')
  | orElse {α β : Type} {t t' u u' : Term ω α β} (ht : Unobserved t t') (hu : Unobserved u u') :
      Unobserved (.orElse t u) (.orElse t' u')
  | andThen {α β γ : Type} {t t' : Term ω α β} (k : β → γ) (h : Unobserved t t') :
      Unobserved (.andThen t k) (.andThen t' k)
  | compose {α β γ : Type} {t t' : Term ω β γ} (k : α → β) (h : Unobserved t t') :
      Unobserved (.compose t k) (.compose t' k)
  | composePartial {α β γ : Type} {t t' : Term ω β γ} {u u' : Term ω α β}
      (ht : Unobserved t t') (hu : Unobserved u u') :
      Unobserved (.composePartial t u) (.composePartial t' u')
  | boxed {α β : Type} {t t' : Term ω α β} (h : Unobserved t t') :
      Unobserved (.boxed t) (.boxed t')
  /-- An observer that stays. -/
  | keep {α β : Type} {t t' : Term ω α β} (observe : α → ω) (h : Unobserved t t') :
      Unobserved (.logged t observe) (.logged t' observe)
  /-- An observer that is taken away. -/
  | drop {α β : Type} {t t' : Term ω α β} (observe : α → ω) (h : Unobserved t t') :
      Unobserved (.logged t observe) t'

theorem Unobserved.value?_eq {α β : Type} {t u : Term ω α β} (h : Unobserved t u) (x : α) :
    u.value? x = t.value? x := by
  induction h with
  | guard p f => rfl
  | total f => rfl
  | unlift f => rfl
  | relift h ih => exact ih x
  | orElse ht hu iht ihu => rw [value?, value?, iht, ihu]
  | andThen k h ih => rw [value?, value?, ih]
  | compose k h ih => exact ih (k x)
  | composePartial ht hu iht ihu =>
      rw [value?, value?, ihu]
      exact Option.bind_congr fun y _ => iht y
  | boxed h ih => exact ih x
  | keep observe h ih => exact ih x
  | drop observe h ih => exact ih x

/-- **A term answers alike however it is asked, and as before with fewer observers.**  What it
answers by is its value. -/
theorem answersBy_tryApply (t : Term ω α β) (x : α) :
    (t.denote.tryApply x).value = t.value? x ∧
      t.denote.AnswersBy x (t.denote.tryApply x).value ∧
      ∀ u, Unobserved t u → u.denote.AnswersBy x (t.denote.tryApply x).value := by
  refine ⟨t.value_tryApply_denote x, t.coherent_denote.answersBy x, ?_⟩
  intro u h
  have hvalue : (u.denote.tryApply x).value = (t.denote.tryApply x).value := by
    rw [value_tryApply_denote, value_tryApply_denote, h.value?_eq]
  rw [← hvalue]
  exact u.coherent_denote.answersBy x

/-- An observer under a lift goes, and so does one in what the composition feeds from. -/
theorem answersBy_some_two_unobserved :
    let t : Term String Nat Nat := .composePartial
      (.relift (.logged (.guard (0 < ·) (· - 1)) fun _ => "lowered"))
      (.logged (.unlift fun n => if n % 2 = 0 then some (n / 2) else none) fun _ => "halved")
    let u : Term String Nat Nat := .composePartial
      (.relift (.guard (0 < ·) (· - 1)))
      (.unlift fun n => if n % 2 = 0 then some (n / 2) else none)
    Unobserved t u ∧ u.denote.AnswersBy 6 (some 2) := by
  intro t u
  have h : Unobserved t u :=
    .composePartial (.relift (.drop _ (.guard _ _))) (.drop _ (.unlift _))
  exact ⟨h, (answersBy_tryApply t 6).2.2 u h⟩

end Term

end PgTriage.PartialFun
