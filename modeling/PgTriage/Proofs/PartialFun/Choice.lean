/-
Choices among many functions.

A choice is made between two functions, and a longer one between choices, so the functions
of a chain stand in an order and under brackets.  The brackets do not matter, neither to
the answer nor to what is seen of it: `tryEach` asks the functions of a list one after
another until one has a value, and every chain over the list comes to that.

No contract is needed so far, since asking for a value looks at values alone.  It is
needed to say the same by domains.  Where each function is defined exactly where it has a
value, the one that `tryEach` stops at is the first that is defined, those before it were
asked in vain and those after it were not asked.
-/
import Mathlib.Data.List.Basic
import PgTriage.Proofs.PartialFun.Observation

namespace PgTriage.PartialFun

variable {ω α β γ δ : Type}

/-- Defined exactly where there is a value. -/
def ValuedOnDomain (f : PartialFun ω α β) : Prop :=
  ∀ x, (f.isDefinedAt x).value = (f.tryApply x).value.isSome

/-- The function chooses among the listed ones, in their order and under some brackets. -/
inductive ChoiceOf : List (PartialFun ω α β) → PartialFun ω α β → Prop
  | one (f : PartialFun ω α β) : ChoiceOf [f] f
  | orElse {fs gs : List (PartialFun ω α β)} {f g : PartialFun ω α β} (hf : ChoiceOf fs f)
      (hg : ChoiceOf gs g) : ChoiceOf (fs ++ gs) (f.orElse g)

/-- This is an answer of the first of the functions that is defined at `x`, and what was seen is
what is seen of them up to that one, each asked in the same way.  Where none is defined there is
nothing to answer, and all of them are seen. -/
inductive AnswersAsFirst (x : α) (ask : PartialFun ω α β → Traced ω γ) (nothing : γ)
    (fs : List (PartialFun ω α β)) (answer : Traced ω γ) : Prop
  | decided (before after : List (PartialFun ω α β)) (f : PartialFun ω α β)
      (hfs : fs = before ++ f :: after)
      (hbefore : ∀ g ∈ before, (g.isDefinedAt x).value = false)
      (hf : (f.isDefinedAt x).value = true)
      (hvalue : answer.value = (ask f).value)
      (htrace : answer.trace = before.flatMap (fun g => (ask g).trace) ++ (ask f).trace)
  | undecided (hfs : ∀ f ∈ fs, (f.isDefinedAt x).value = false)
      (hvalue : answer.value = nothing)
      (htrace : answer.trace = fs.flatMap fun f => (ask f).trace)

/-! ### Brackets do not matter -/

/-- The value of the first function that has one, each asked only after those before it. -/
def tryEach : List (PartialFun ω α β) → α → Traced ω (Option β)
  | [], _ => pure none
  | f :: rest, x => do
    match ← f.tryApply x with
    | some y => pure (some y)
    | none => tryEach rest x

theorem value_tryEach_cons (f : PartialFun ω α β) (rest : List (PartialFun ω α β)) (x : α) :
    (tryEach (f :: rest) x).value = (f.tryApply x).value.or (tryEach rest x).value := by
  simp only [tryEach, Traced.value_bind]
  cases (f.tryApply x).value <;> rfl

theorem trace_tryEach_cons (f : PartialFun ω α β) (rest : List (PartialFun ω α β)) (x : α) :
    (tryEach (f :: rest) x).trace =
      (f.tryApply x).trace ++ (f.tryApply x).value.elim (tryEach rest x).trace fun _ => [] := by
  simp only [tryEach, Traced.trace_bind]
  cases (f.tryApply x).value <;> rfl

theorem value_tryEach_append (fs gs : List (PartialFun ω α β)) (x : α) :
    (tryEach (fs ++ gs) x).value = (tryEach fs x).value.or (tryEach gs x).value := by
  induction fs with
  | nil => rfl
  | cons f rest ih =>
      rw [List.cons_append, value_tryEach_cons, value_tryEach_cons, ih, Option.or_assoc]

theorem trace_tryEach_append (fs gs : List (PartialFun ω α β)) (x : α) :
    (tryEach (fs ++ gs) x).trace =
      (tryEach fs x).trace ++ (tryEach fs x).value.elim (tryEach gs x).trace fun _ => [] := by
  induction fs with
  | nil => rfl
  | cons f rest ih =>
      rw [List.cons_append, trace_tryEach_cons, trace_tryEach_cons, value_tryEach_cons, ih]
      cases (f.tryApply x).value with
      | none => exact (List.append_assoc ..).symm
      | some y => simp

/-- A chain asks its functions one after another, whatever its brackets. -/
theorem ChoiceOf.tryApply_eq {fs : List (PartialFun ω α β)} {chain : PartialFun ω α β}
    (h : ChoiceOf fs chain) (x : α) : chain.tryApply x = tryEach fs x := by
  induction h with
  | one f =>
      refine Traced.ext' ?_ ?_
      · rw [value_tryEach_cons]
        exact (Option.or_none ..).symm
      · rw [trace_tryEach_cons]
        cases (f.tryApply x).value <;> exact (List.append_nil _).symm
  | orElse hf hg ihf ihg =>
      refine Traced.ext' ?_ ?_
      · rw [value_tryApply_orElse, value_tryEach_append, ihf, ihg]
      · rw [trace_tryApply_orElse, trace_tryEach_append, ihf, ihg]

theorem value_isDefinedAt_orElse (f g : PartialFun ω α β) (x : α) :
    ((f.orElse g).isDefinedAt x).value = ((f.isDefinedAt x).value || (g.isDefinedAt x).value) := by
  simp only [orElse, ofTry, Traced.value_bind]
  cases (f.isDefinedAt x).value <;> rfl

/-- A chain is defined where one of its functions is. -/
theorem ChoiceOf.value_isDefinedAt {fs : List (PartialFun ω α β)} {chain : PartialFun ω α β}
    (h : ChoiceOf fs chain) (x : α) :
    (chain.isDefinedAt x).value = fs.any fun f => (f.isDefinedAt x).value := by
  induction h with
  | one f => simp
  | orElse hf hg ihf ihg => rw [value_isDefinedAt_orElse, List.any_append, ihf, ihg]

/-- What each function has and a choice of two keeps, a chain has. -/
theorem ChoiceOf.has {fs : List (PartialFun ω α β)} {chain : PartialFun ω α β}
    (h : ChoiceOf fs chain) {P : PartialFun ω α β → Prop} (hfs : ∀ f ∈ fs, P f)
    (horElse : ∀ f g, P f → P g → P (f.orElse g)) : P chain := by
  induction h with
  | one f => exact hfs f (List.mem_singleton_self f)
  | orElse hf hg ihf ihg =>
      have hfirst := ihf fun f hmem => hfs f (List.mem_append_left _ hmem)
      have hsecond := ihg fun f hmem => hfs f (List.mem_append_right _ hmem)
      exact horElse _ _ hfirst hsecond

theorem ChoiceOf.coherent {fs : List (PartialFun ω α β)} {chain : PartialFun ω α β}
    (h : ChoiceOf fs chain) (hfs : ∀ f ∈ fs, f.Coherent) : chain.Coherent :=
  h.has hfs fun _ _ hf hg => hf.orElse hg

/-! ### The first that is defined -/

/-- A function that is not defined is passed over, and seen nevertheless. -/
theorem AnswersAsFirst.cons {x : α} {ask : PartialFun ω α β → Traced ω γ} {nothing : γ}
    {f : PartialFun ω α β} {rest : List (PartialFun ω α β)} {answer answer' : Traced ω γ}
    (h : AnswersAsFirst x ask nothing rest answer) (hf : (f.isDefinedAt x).value = false)
    (hvalue : answer'.value = answer.value)
    (htrace : answer'.trace = (ask f).trace ++ answer.trace) :
    AnswersAsFirst x ask nothing (f :: rest) answer' := by
  cases h with
  | decided before after g hrest hbefore hg hgvalue hgtrace =>
      have hskipped : ∀ d ∈ f :: before, (d.isDefinedAt x).value = false :=
        List.forall_mem_cons.2 ⟨hf, hbefore⟩
      refine .decided (f :: before) after g ?_ hskipped hg ?_ ?_
      · rw [hrest, List.cons_append]
      · rw [hvalue, hgvalue]
      · rw [htrace, hgtrace, List.flatMap_cons, List.append_assoc]
  | undecided hrest hnothing hall =>
      refine .undecided (List.forall_mem_cons.2 ⟨hf, hrest⟩) ?_ ?_
      · rw [hvalue, hnothing]
      · rw [htrace, hall, List.flatMap_cons]

/-- Asking one after another stops at the first function that is defined. -/
theorem answersAsFirst_tryEach {fs : List (PartialFun ω α β)}
    (hfs : ∀ f ∈ fs, f.ValuedOnDomain) (x : α) :
    AnswersAsFirst x (·.tryApply x) none fs (tryEach fs x) := by
  induction fs with
  | nil => exact .undecided (by simp) rfl rfl
  | cons f rest ih =>
      have hdefined := hfs f List.mem_cons_self x
      have hvalue := value_tryEach_cons f rest x
      have htrace := trace_tryEach_cons f rest x
      cases hf : (f.tryApply x).value with
      | some y =>
          rw [hf] at hdefined hvalue htrace
          refine .decided [] rest f rfl (by simp) hdefined ?_ ?_
          · rw [hvalue, hf]
            rfl
          · rw [htrace]
            exact List.append_nil _
      | none =>
          rw [hf] at hdefined hvalue htrace
          have hrest := ih fun g hg => hfs g (List.mem_cons_of_mem f hg)
          exact hrest.cons hdefined hvalue htrace

/-- What is asked by a step on another answer is answered alike. -/
theorem AnswersAsFirst.map {x : α} {ask : PartialFun ω α β → Traced ω γ}
    {ask' : PartialFun ω α β → Traced ω δ} {nothing : γ} {fs : List (PartialFun ω α β)}
    {answer : Traced ω γ} (h : AnswersAsFirst x ask nothing fs answer) (k : γ → δ)
    (hfs : ∀ f ∈ fs, ask' f = k <$> ask f) :
    AnswersAsFirst x ask' (k nothing) fs (k <$> answer) := by
  have htraces : ∀ f ∈ fs, (ask' f).trace = (ask f).trace := by
    intro f hf
    rw [hfs f hf, Traced.trace_map]
  cases h with
  | decided before after f hsplit hbefore hf hvalue htrace =>
      have hmem : f ∈ fs := by simp [hsplit]
      have hbeforeMem : ∀ g ∈ before, g ∈ fs := by
        intro g hg
        simp [hsplit, hg]
      refine .decided before after f hsplit hbefore hf ?_ ?_
      · rw [hfs f hmem, Traced.value_map, Traced.value_map, hvalue]
      · rw [Traced.trace_map, htrace, htraces f hmem,
          List.flatMap_congr fun g hg => htraces g (hbeforeMem g hg)]
  | undecided hnone hvalue htrace =>
      refine .undecided hnone ?_ ?_
      · rw [Traced.value_map, hvalue]
      · rw [Traced.trace_map, htrace, List.flatMap_congr htraces]

/-- **A chain answers as the first of its functions that is defined.**  It does so whichever way
it is asked for its value and whatever its brackets are, and no function after that one is
seen. -/
theorem answersAsFirst_of_choiceOf {fs : List (PartialFun ω α β)} {chain : PartialFun ω α β}
    (h : ChoiceOf fs chain) (hfs : ∀ f ∈ fs, f.ValuedOnDomain) (x : α) :
    ((chain.isDefinedAt x).value = true ↔ ∃ f ∈ fs, (f.isDefinedAt x).value = true) ∧
      AnswersAsFirst x (·.tryApply x) none fs (chain.tryApply x) ∧
      AnswersAsFirst x (·.lift x) none fs (chain.lift x) ∧
      (∀ fallback, AnswersAsFirst x (·.applyOrElse x fallback) (fallback x) fs
        (chain.applyOrElse x fallback)) ∧
      ((∀ f ∈ fs, f.Coherent) →
        AnswersAsFirst x (·.apply x) (.error .notDefined) fs (chain.apply x)) := by
  have htry : AnswersAsFirst x (·.tryApply x) none fs (chain.tryApply x) := by
    rw [h.tryApply_eq]
    exact answersAsFirst_tryEach hfs x
  refine ⟨?_, htry, htry, ?_, ?_⟩
  · rw [h.value_isDefinedAt, List.any_eq_true]
  · intro fallback
    exact htry.map (·.getD (fallback x)) fun _ _ => rfl
  · intro hcoherent
    rw [(h.coherent hcoherent).apply_eq]
    exact htry.map orNotDefined fun f hf => (hcoherent f hf).apply_eq x

/-- Three watched functions, the last two under brackets.  The second decides, and the third is
not seen. -/
theorem answersAsFirst_of_choiceOf_halved :
    let large : PartialFun String Nat Nat := (guard (100 < ·) id).logged fun _ => "large?"
    let half : PartialFun String Nat Nat :=
      (unlift fun n => if n % 2 = 0 then some (n / 2) else none).logged fun _ => "even?"
    let next : PartialFun String Nat Nat := (total (· + 1)).logged fun _ => "any"
    let chain := large.orElse (half.orElse next)
    ChoiceOf [large, half, next] chain ∧ (∀ f ∈ [large, half, next], f.Coherent) ∧
      AnswersAsFirst 6 (·.apply 6) (.error .notDefined) [large, half, next] (chain.apply 6) ∧
      chain.apply 6 = ⟨.ok 3, ["large?", "even?"]⟩ := by
  intro large half next chain
  have hchoice : ChoiceOf [large, half, next] chain := .orElse (.one _) (.orElse (.one _) (.one _))
  have hcoherent : ∀ f ∈ [large, half, next], f.Coherent := by
    have hlarge : large.Coherent := (coherent_guard _ _).logged _
    have hhalf : half.Coherent := (coherent_unlift _).logged _
    have hnext : next.Coherent := (coherent_total _).logged _
    simp [hlarge, hhalf, hnext]
  have hvalued : ∀ f ∈ [large, half, next], f.ValuedOnDomain := fun f hf =>
    (hcoherent f hf).isDefinedAt_eq
  obtain ⟨-, -, -, -, happly⟩ := answersAsFirst_of_choiceOf hchoice hvalued 6
  exact ⟨hchoice, hcoherent, happly hcoherent, rfl⟩

end PgTriage.PartialFun
