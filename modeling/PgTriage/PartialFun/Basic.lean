/-
Partial functions.

A partial function can be asked three things at an input: whether it is defined there,
for its value if it has one, and for its value or the error that it has none.  A
combinator answers each question by asking its parts, so the answers are computed along
different paths, and each may be observed on the way.  What ties them together is
`Coherent`: a function is defined exactly where it has a value.  Every combinator keeps
it.

Observation is part of the meaning.  A logged function is observed whenever a value is
asked of it and never when only its definedness is; but a composition learns whether it
is defined by applying the function it feeds from, and a function made from an optional
one learns it by running it.
-/
import PgTriage.PartialFun.Traced

namespace PgTriage

/-- The function has no value at the given input. -/
inductive NotDefined where
  | notDefined
deriving DecidableEq, Repr

/-- The error's text. -/
def NotDefined.message (_ : NotDefined) : String :=
  "partial function is not defined at the given input"

/-- A value, or the error that there is none. -/
def orNotDefined {β : Type} : Option β → Except NotDefined β
  | some b => .ok b
  | none => .error .notDefined

/-- A partial function from `α` to `β` whose observers see values of `ω`. -/
structure PartialFun (ω α β : Type) where
  /-- Whether the input lies in the domain. -/
  isDefinedAt : α → Traced ω Bool
  /-- The value, if there is one. -/
  tryApply : α → Traced ω (Option β)
  /-- The value, or the error that there is none. -/
  apply : α → Traced ω (Except NotDefined β)

namespace PartialFun

variable {ω α β γ : Type}

/-- A partial function whose application is read off its optional value. -/
def ofTry (isDefinedAt : α → Traced ω Bool) (tryApply : α → Traced ω (Option β)) :
    PartialFun ω α β where
  isDefinedAt := isDefinedAt
  tryApply := tryApply
  apply x := orNotDefined <$> tryApply x

/-- Defined where the predicate holds. -/
def guard (p : α → Bool) (f : α → β) : PartialFun ω α β :=
  ofTry (fun x => pure (p x)) (fun x => pure (if p x then some (f x) else none))

/-- Defined everywhere. -/
def total (f : α → β) : PartialFun ω α β :=
  guard (fun _ => true) f

/-- Defined where an optional function, itself possibly watched, has a value. -/
def unliftTraced (f : α → Traced ω (Option β)) : PartialFun ω α β :=
  ofTry (fun x => Option.isSome <$> f x) f

/-- Defined where an optional function has a value. -/
def unlift (f : α → Option β) : PartialFun ω α β :=
  unliftTraced fun x => pure (f x)

/-- The optional function that goes with a partial one. -/
def lift (f : PartialFun ω α β) : α → Traced ω (Option β) :=
  f.tryApply

/-- The value, or what the fallback makes of the input. -/
def applyOrElse (f : PartialFun ω α β) (x : α) (fallback : α → β) : Traced ω β :=
  (·.getD (fallback x)) <$> f.tryApply x

/-- The first function where it is defined, the second elsewhere. -/
def orElse (f g : PartialFun ω α β) : PartialFun ω α β :=
  ofTry
    (fun x => do
      if ← f.isDefinedAt x then pure true else g.isDefinedAt x)
    (fun x => do
      match ← f.tryApply x with
      | some y => pure (some y)
      | none => g.tryApply x)

/-- The function followed by a step on its value, which may be observed. -/
def andThenTraced (f : PartialFun ω α β) (k : β → Traced ω γ) : PartialFun ω α γ :=
  ofTry f.isDefinedAt
    (fun x => do
      match ← f.tryApply x with
      | some y => some <$> k y
      | none => pure none)

/-- The function followed by a total one; the domain is the same. -/
def andThen (f : PartialFun ω α β) (k : β → γ) : PartialFun ω α γ :=
  f.andThenTraced fun y => pure (k y)

/-- The function after a total one. -/
def compose (f : PartialFun ω β γ) (k : α → β) : PartialFun ω α γ :=
  ofTry (fun x => f.isDefinedAt (k x)) (fun x => f.tryApply (k x))

/-- The function after another partial one, which is applied even to test the domain. -/
def composePartial (f : PartialFun ω β γ) (g : PartialFun ω α β) : PartialFun ω α γ :=
  ofTry
    (fun x => do
      match ← g.tryApply x with
      | some y => f.isDefinedAt y
      | none => pure false)
    (fun x => do
      match ← g.tryApply x with
      | some y => f.tryApply y
      | none => pure none)

/-- The same function, observed at each input a value is asked of it for. -/
def logged (f : PartialFun ω α β) (observe : α → ω) : PartialFun ω α β where
  isDefinedAt := f.isDefinedAt
  tryApply x := do
    Traced.tell (observe x)
    f.tryApply x
  apply x := do
    Traced.tell (observe x)
    f.apply x

/-- The same function, known by its three answers alone. -/
def boxed (f : PartialFun ω α β) : PartialFun ω α β where
  isDefinedAt x := f.isDefinedAt x
  tryApply x := f.tryApply x
  apply x := f.apply x

/-! ### The contract every partial function keeps -/

/-- Defined exactly where there is a value, and applied by the same path. -/
structure Coherent (f : PartialFun ω α β) : Prop where
  /-- The domain is where values are. -/
  isDefinedAt_eq (x : α) : (f.isDefinedAt x).value = (f.tryApply x).value.isSome
  /-- Applying gives the value, or the error that there is none, observed alike. -/
  apply_eq (x : α) : f.apply x = orNotDefined <$> f.tryApply x

end PartialFun

end PgTriage
