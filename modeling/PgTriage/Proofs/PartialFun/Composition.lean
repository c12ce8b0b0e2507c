/-
Composition and its laws.

Partial functions compose as optional steps do.  Composition is associative, the total identity
is neutral on both sides, a total step before or after a function is a composition with it, and
a function is had back from its lifted one.  Where a law speaks of nothing but what is asked of
the parts and in which order, its two sides are the same function; where one side tests by
applying and the other does not, the contract makes the tests agree.  Applications are seen
alike on both sides of all of these.

What feeds a choice can be fed to each of its functions instead, and the answers stay the same.
It is then asked by each of them, though.  The second function of the choice asks again
exactly where the first has passed the input on: where nothing was fed to it, or something at
which it is not defined.
-/
import PgTriage.Proofs.PartialFun.Choice

namespace PgTriage.PartialFun

variable {ω α β γ δ ε : Type}

/-! ### Functions that are told apart by nothing -/

/-- Two functions are defined at the same inputs and have the same values. -/
structure SameAnswers (f g : PartialFun ω α β) : Prop where
  isDefinedAt_eq (x : α) : (f.isDefinedAt x).value = (g.isDefinedAt x).value
  tryApply_eq (x : α) : (f.tryApply x).value = (g.tryApply x).value

/-- Two functions with the same answers that are also seen alike, in whichever way they are asked
for a value. -/
structure SeenAlike (f g : PartialFun ω α β) : Prop extends SameAnswers f g where
  trace_tryApply_eq (x : α) : (f.tryApply x).trace = (g.tryApply x).trace
  trace_lift_eq (x : α) : (f.lift x).trace = (g.lift x).trace
  trace_applyOrElse_eq (x : α) (fallback : α → β) :
    (f.applyOrElse x fallback).trace = (g.applyOrElse x fallback).trace
  /-- Functions that are applied by the path of their optional values. -/
  trace_apply_eq (hf : f.Coherent) (hg : g.Coherent) (x : α) : (f.apply x).trace = (g.apply x).trace

/-- Asking for the optional value is what all the other ways do. -/
theorem seenAlike_of_tryApply_eq {f g : PartialFun ω α β}
    (hdefined : ∀ x, (f.isDefinedAt x).value = (g.isDefinedAt x).value)
    (htry : ∀ x, f.tryApply x = g.tryApply x) : SeenAlike f g where
  isDefinedAt_eq := hdefined
  tryApply_eq x := by rw [htry]
  trace_tryApply_eq x := by rw [htry]
  trace_lift_eq x := by rw [lift, lift, htry]
  trace_applyOrElse_eq x fallback := by rw [trace_applyOrElse, trace_applyOrElse, htry]
  trace_apply_eq hf hg x := by rw [hf.trace_apply, hg.trace_apply, htry]

theorem SeenAlike.refl (f : PartialFun ω α β) : SeenAlike f f :=
  seenAlike_of_tryApply_eq (fun _ => rfl) fun _ => rfl

/-! ### Sides that are the same function -/

theorem value_isDefinedAt_composePartial (f : PartialFun ω β γ) (g : PartialFun ω α β) (x : α) :
    ((f.composePartial g).isDefinedAt x).value =
      (g.tryApply x).value.elim false fun y => (f.isDefinedAt y).value := by
  simp only [composePartial, ofTry, Traced.value_bind]
  cases (g.tryApply x).value <;> rfl

theorem composePartial_assoc (f : PartialFun ω γ δ) (g : PartialFun ω β γ)
    (h : PartialFun ω α β) :
    (f.composePartial g).composePartial h = f.composePartial (g.composePartial h) := by
  refine congrArg₂ ofTry (funext fun x => ?_) (funext fun x => ?_)
  · simp only [composePartial, ofTry, bind_assoc]
    exact bind_congr fun y => by cases y <;> rfl
  · simp only [composePartial, ofTry, bind_assoc]
    exact bind_congr fun y => by cases y <;> rfl

theorem composePartial_total (f : PartialFun ω β γ) (k : α → β) :
    f.composePartial (total k) = f.compose k := rfl

/-! ### Sides that test in different ways -/

theorem tryApply_andThen (f : PartialFun ω α β) (k : β → γ) (x : α) :
    (f.andThen k).tryApply x = Option.map k <$> f.tryApply x := by
  refine Traced.ext' (value_tryApply_andThen f k x) ?_
  rw [trace_tryApply_andThen, Traced.trace_map]

theorem tryApply_total_composePartial (f : PartialFun ω α β) (k : β → γ) (x : α) :
    ((total k).composePartial f).tryApply x = Option.map k <$> f.tryApply x := by
  refine Traced.ext' ?_ ?_
  · rw [value_tryApply_composePartial, Traced.value_map]
    cases (f.tryApply x).value <;> rfl
  · rw [trace_tryApply_composePartial, Traced.trace_map]
    cases (f.tryApply x).value <;> exact List.append_nil _

/-- A total step that is fed by a function is defined where the function has a value. -/
theorem value_isDefinedAt_total_composePartial (f : PartialFun ω α β) (k : β → γ) (x : α) :
    (((total k).composePartial f).isDefinedAt x).value = (f.tryApply x).value.isSome := by
  rw [value_isDefinedAt_composePartial]
  cases (f.tryApply x).value <;> rfl

theorem ValuedOnDomain.seenAlike_andThen {f : PartialFun ω α β} (hf : f.ValuedOnDomain)
    (k : β → γ) : SeenAlike (f.andThen k) ((total k).composePartial f) := by
  refine seenAlike_of_tryApply_eq (fun x => ?_) fun x => ?_
  · rw [value_isDefinedAt_total_composePartial]
    exact hf x
  · rw [tryApply_andThen, tryApply_total_composePartial]

theorem ValuedOnDomain.seenAlike_total_id {f : PartialFun ω α β} (hf : f.ValuedOnDomain) :
    SeenAlike ((total id).composePartial f) f := by
  refine seenAlike_of_tryApply_eq (fun x => ?_) fun x => ?_
  · rw [value_isDefinedAt_total_composePartial]
    exact (hf x).symm
  · rw [tryApply_total_composePartial, Option.map_id_fun, id_map]

theorem seenAlike_composePartial_total_id (f : PartialFun ω α β) :
    SeenAlike (f.composePartial (total id)) f :=
  seenAlike_of_tryApply_eq (fun _ => rfl) fun _ => rfl

theorem ValuedOnDomain.seenAlike_unliftTraced_lift {f : PartialFun ω α β}
    (hf : f.ValuedOnDomain) : SeenAlike (unliftTraced f.lift) f :=
  seenAlike_of_tryApply_eq (fun x => (hf x).symm) fun _ => rfl

/-! ### A choice that is fed -/

theorem sameAnswers_orElse_composePartial (f f' : PartialFun ω β γ) (g : PartialFun ω α β) :
    SameAnswers ((f.orElse f').composePartial g)
      ((f.composePartial g).orElse (f'.composePartial g)) where
  isDefinedAt_eq x := by
    simp only [value_isDefinedAt_composePartial, value_isDefinedAt_orElse]
    cases (g.tryApply x).value <;> rfl
  tryApply_eq x := by
    simp only [value_tryApply_composePartial, value_tryApply_orElse]
    cases (g.tryApply x).value <;> rfl

/-- The first function of a choice passes the input on: it is fed nothing, or something at which it
is not defined. -/
def PassesOn (f : PartialFun ω β γ) (g : PartialFun ω α β) (x : α) : Prop :=
  (g.isDefinedAt x).value = false ∨
    ∃ y, (g.tryApply x).value = some y ∧ (f.isDefinedAt y).value = false

/-- What is seen where each function of a choice is fed for itself, beside what is seen where the
choice is fed. -/
structure FeedSeenAgain (f f' : PartialFun ω β γ) (g : PartialFun ω α β) (x : α) : Prop where
  /-- Where the first function passes on, the feed is seen once more, after what is seen of the
  first function and before what is seen of the second. -/
  of_passesOn : PassesOn f g x → ∃ rest,
    (((f.orElse f').composePartial g).tryApply x).trace =
      ((f.composePartial g).tryApply x).trace ++ rest ∧
    (((f.composePartial g).orElse (f'.composePartial g)).tryApply x).trace =
      ((f.composePartial g).tryApply x).trace ++ ((g.tryApply x).trace ++ rest)
  /-- Elsewhere nothing is seen twice. -/
  of_not_passesOn : ¬ PassesOn f g x →
    (((f.composePartial g).orElse (f'.composePartial g)).tryApply x).trace =
      (((f.orElse f').composePartial g).tryApply x).trace

theorem ValuedOnDomain.passesOn_iff {f : PartialFun ω β γ} {g : PartialFun ω α β}
    (hf : f.ValuedOnDomain) (hg : g.ValuedOnDomain) {x : α} :
    PassesOn f g x ↔ ((f.composePartial g).tryApply x).value = none := by
  rw [PassesOn, hg x, value_tryApply_composePartial]
  cases (g.tryApply x).value with
  | none => simp
  | some y => simp [hf y]

/-- What feeds the choice is seen before either of its functions. -/
theorem trace_orElse_composePartial (f f' : PartialFun ω β γ) (g : PartialFun ω α β) (x : α) :
    (((f.orElse f').composePartial g).tryApply x).trace =
      ((f.composePartial g).tryApply x).trace ++
        ((f.composePartial g).tryApply x).value.elim
          ((g.tryApply x).value.elim [] fun y => (f'.tryApply y).trace) fun _ => [] := by
  rw [trace_tryApply_composePartial, trace_tryApply_composePartial, value_tryApply_composePartial]
  cases (g.tryApply x).value with
  | none => exact (List.append_nil _).symm
  | some y =>
      rw [Option.elim_some, Option.elim_some, Option.bind_some, trace_tryApply_orElse,
        List.append_assoc]
      rfl

theorem ValuedOnDomain.feedSeenAgain {f : PartialFun ω β γ} {g : PartialFun ω α β}
    (hf : f.ValuedOnDomain) (hg : g.ValuedOnDomain) (f' : PartialFun ω β γ) (x : α) :
    FeedSeenAgain f f' g x where
  of_passesOn h := by
    rw [hf.passesOn_iff hg] at h
    refine ⟨(g.tryApply x).value.elim [] fun y => (f'.tryApply y).trace, ?_, ?_⟩
    · rw [trace_orElse_composePartial, h]
      rfl
    · rw [trace_tryApply_orElse, h, Option.elim_none, trace_tryApply_composePartial f']
  of_not_passesOn h := by
    rw [hf.passesOn_iff hg] at h
    obtain ⟨z, hz⟩ := Option.ne_none_iff_exists'.1 h
    rw [trace_tryApply_orElse, trace_orElse_composePartial, hz]
    rfl

/-- The feed is seen as often on both sides just where it is not seen or not passed on. -/
theorem FeedSeenAgain.trace_eq_iff {f f' : PartialFun ω β γ} {g : PartialFun ω α β} {x : α}
    (h : FeedSeenAgain f f' g x) :
    (((f.composePartial g).orElse (f'.composePartial g)).tryApply x).trace =
        (((f.orElse f').composePartial g).tryApply x).trace ↔
      (PassesOn f g x → (g.tryApply x).trace = []) := by
  by_cases hpasses : PassesOn f g x
  · obtain ⟨rest, hfed, hapart⟩ := h.of_passesOn hpasses
    rw [hfed, hapart, List.append_cancel_left_eq, List.append_left_eq_self]
    exact ⟨fun hnil _ => hnil, fun hnil => hnil hpasses⟩
  · exact ⟨fun _ hpasses' => absurd hpasses' hpasses, fun _ => h.of_not_passesOn hpasses⟩

/-! ### All laws -/

/-- The laws of composition, for a function that is fed by two others in turn and for a second one
to choose from where it has no value. -/
structure KleisliLaws (f f' : PartialFun ω γ δ) (g : PartialFun ω β γ) (h : PartialFun ω α β) :
    Prop where
  assoc : SeenAlike ((f.composePartial g).composePartial h) (f.composePartial (g.composePartial h))
  total_id_left : SeenAlike ((total id).composePartial f) f
  total_id_right : SeenAlike (f.composePartial (total id)) f
  /-- A total step before a function feeds it. -/
  compose_eq (k : β → γ) : SeenAlike (f.compose k) (f.composePartial (total k))
  /-- A total step after a function is fed by it. -/
  andThen_eq {ε : Type} (k : δ → ε) : SeenAlike (f.andThen k) ((total k).composePartial f)
  unlift_lift : SeenAlike (unliftTraced f.lift) f
  /-- What feeds a choice can be fed to each of its functions, -/
  orElse_composePartial : SameAnswers ((f.orElse f').composePartial g)
    ((f.composePartial g).orElse (f'.composePartial g))
  /-- which shows where the first of them passes on -/
  feedSeenAgain (x : β) : FeedSeenAgain f f' g x
  /-- and only there, if the feed is seen at all. -/
  trace_eq_iff (x : β) :
    (((f.composePartial g).orElse (f'.composePartial g)).tryApply x).trace =
        (((f.orElse f').composePartial g).tryApply x).trace ↔
      (PassesOn f g x → (g.tryApply x).trace = [])

/-- **Partial functions compose as optional steps do.**  The sides of each law answer alike, and
applications are seen alike but where a feed is asked twice. -/
theorem kleisliLaws {f : PartialFun ω γ δ} {g : PartialFun ω β γ} (hf : f.ValuedOnDomain)
    (hg : g.ValuedOnDomain) (f' : PartialFun ω γ δ) (h : PartialFun ω α β) :
    KleisliLaws f f' g h where
  assoc := composePartial_assoc f g h ▸ SeenAlike.refl _
  total_id_left := hf.seenAlike_total_id
  total_id_right := seenAlike_composePartial_total_id f
  compose_eq k := composePartial_total f k ▸ SeenAlike.refl _
  andThen_eq k := hf.seenAlike_andThen k
  unlift_lift := hf.seenAlike_unliftTraced_lift
  orElse_composePartial := sameAnswers_orElse_composePartial f f' g
  feedSeenAgain := hf.feedSeenAgain hg f'
  trace_eq_iff x := (hf.feedSeenAgain hg f' x).trace_eq_iff

/-- A watched feed, and a first function that passes on what it is fed. -/
theorem kleisliLaws_halved :
    let large : PartialFun String Nat Nat := guard (100 < ·) id
    let next : PartialFun String Nat Nat := total (· + 1)
    let half : PartialFun String Nat Nat :=
      (unlift fun n => if n % 2 = 0 then some (n / 2) else none).logged fun _ => "even?"
    large.ValuedOnDomain ∧ half.ValuedOnDomain ∧ KleisliLaws large next half half ∧
      ((large.orElse next).composePartial half).tryApply 6 = ⟨some 4, ["even?"]⟩ ∧
      ((large.composePartial half).orElse (next.composePartial half)).tryApply 6 =
        ⟨some 4, ["even?", "even?"]⟩ := by
  intro large next half
  have hlarge : large.ValuedOnDomain := (coherent_guard _ _).isDefinedAt_eq
  have hhalf : half.ValuedOnDomain := ((coherent_unlift _).logged _).isDefinedAt_eq
  exact ⟨hlarge, hhalf, kleisliLaws hlarge hhalf next half, rfl, rfl⟩

end PgTriage.PartialFun
