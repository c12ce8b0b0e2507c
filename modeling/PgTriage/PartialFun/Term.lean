/-
Terms of the algebra of partial functions.

A term writes down how a partial function is put together, so that what holds of every
combination can be said once, by induction on the term.  `denote` is the function a
term stands for.
-/
import PgTriage.PartialFun.Basic

namespace PgTriage.PartialFun

/-- A combination of partial functions whose observers see values of `ω`. -/
inductive Term (ω : Type) : Type → Type → Type 1 where
  | guard {α β : Type} (p : α → Bool) (f : α → β) : Term ω α β
  | total {α β : Type} (f : α → β) : Term ω α β
  | unlift {α β : Type} (f : α → Option β) : Term ω α β
  | relift {α β : Type} (t : Term ω α β) : Term ω α β
  | orElse {α β : Type} (t u : Term ω α β) : Term ω α β
  | andThen {α β γ : Type} (t : Term ω α β) (k : β → γ) : Term ω α γ
  | compose {α β γ : Type} (t : Term ω β γ) (k : α → β) : Term ω α γ
  | composePartial {α β γ : Type} (t : Term ω β γ) (u : Term ω α β) : Term ω α γ
  | logged {α β : Type} (t : Term ω α β) (observe : α → ω) : Term ω α β
  | boxed {α β : Type} (t : Term ω α β) : Term ω α β

/-- The partial function a term stands for. -/
def Term.denote {ω α β : Type} : Term ω α β → PartialFun ω α β
  | .guard p f => PartialFun.guard p f
  | .total f => PartialFun.total f
  | .unlift f => PartialFun.unlift f
  | .relift t => PartialFun.unliftTraced t.denote.lift
  | .orElse t u => t.denote.orElse u.denote
  | .andThen t k => t.denote.andThen k
  | .compose t k => t.denote.compose k
  | .composePartial t u => t.denote.composePartial u.denote
  | .logged t observe => t.denote.logged observe
  | .boxed t => t.denote.boxed

end PgTriage.PartialFun
