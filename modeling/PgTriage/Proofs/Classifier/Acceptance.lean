/-
Which failures are classified.

A failure is classified exactly when it carries an event, whatever the event holds, and
the classifier says beforehand that it will be.  It says so by asking the rules whether
they are defined and classifies by asking them for a value, so the two answers come along
different paths; the contract the pipeline keeps makes them one, and the chain's having a
value for every event leaves the event's being there as the only condition.

A failure that is handed back is not mistaken for one that was classified, even where it
is a classified one itself: nothing is its own cause.
-/
import PgTriage.Classifier.Basic
import PgTriage.Proofs.Classifier.Rules

namespace PgTriage

/-- Nothing is its own cause. -/
theorem Failure.ne_classified_self (f : Failure) (d : Diagnosis) : f ≠ .classified d (some f) := by
  intro h
  have hsize := congrArg sizeOf h
  simp only [Failure.classified.sizeOf_spec, Option.some.sizeOf_spec] at hsize
  omega

namespace Classifier

/-! ### The pipeline -/

theorem coherent_pipeline (c : Classifier) : c.pipeline.Coherent := by
  unfold pipeline
  rw [PartialFun.boxed_eq]
  exact (Rule.coherent_chain c.settings).composePartial eventOf

theorem value_tryApply_pipeline (c : Classifier) (f : Failure) :
    (c.pipeline.tryApply f).value =
      f.event?.map fun e => e.diagnose (Rule.kindOf c.settings e) := by
  unfold pipeline
  rw [PartialFun.boxed_eq, PartialFun.value_tryApply_composePartial, eventOf,
    PartialFun.value_tryApply_unlift]
  simp only [Rule.value_tryApply_chain]
  cases f.event? <;> rfl

theorem value_accepts (c : Classifier) (f : Failure) :
    (c.accepts f).value = f.event?.isSome := by
  show (c.pipeline.isDefinedAt f).value = f.event?.isSome
  rw [c.coherent_pipeline.isDefinedAt_eq, value_tryApply_pipeline, Option.isSome_map]

/-! ### A failure with an event, and one without -/

variable {c : Classifier} {f : Failure} {e : Event}

theorem classify_of_event (h : f.event? = some e) :
    c.classify f =
      ⟨.ok ⟨e.diagnose (Rule.kindOf c.settings e), some f⟩, (c.pipeline.tryApply f).trace,
        [.classified c.dialect (Rule.kindOf c.settings e).name]⟩ := by
  have hvalue := value_tryApply_pipeline c f
  rw [h, Option.map_some] at hvalue
  simp only [classify, hvalue]
  rfl

theorem classify_of_no_event (h : f.event? = none) :
    c.classify f =
      ⟨.error ⟨c.dialect, f⟩, (c.pipeline.tryApply f).trace ++ [.refused c.dialect f.describe],
        [.refused c.dialect]⟩ := by
  have hvalue := value_tryApply_pipeline c f
  rw [h, Option.map_none] at hvalue
  simp only [classify, hvalue]

theorem value_classifyOrPass_of_event (h : f.event? = some e) :
    (c.classifyOrPass f).value =
      .classified (e.diagnose (Rule.kindOf c.settings e)) (some f) := by
  rw [classifyOrPass, Recorded.value_map, classify_of_event h]
  rfl

theorem value_classifyOrPass_of_no_event (h : f.event? = none) :
    (c.classifyOrPass f).value = f := by
  rw [classifyOrPass, Recorded.value_map, classify_of_no_event h]

/-- What a classifier makes of a failure, by the event the failure carries. -/
def Treats (c : Classifier) (f : Failure) : Option Event → Prop
  | some e => ∃ d, ((Rule.chain c.settings).apply e).value = .ok d ∧
      (c.classify f).value = .ok ⟨d, some f⟩ ∧
      (c.classifyOrPass f).value = .classified d (some f)
  | none => ∃ r, (c.classify f).value = .error r ∧ r.dialect = c.dialect ∧ r.failure = f ∧
      (c.classifyOrPass f).value = f

theorem treats_event? (c : Classifier) (f : Failure) : c.Treats f f.event? := by
  cases h : f.event? with
  | some e =>
      have hclassify := congrArg Recorded.value (classify_of_event (c := c) h)
      exact ⟨_, Rule.value_apply_chain c.settings e, hclassify, value_classifyOrPass_of_event h⟩
  | none =>
      have hclassify := congrArg Recorded.value (classify_of_no_event (c := c) h)
      exact ⟨_, hclassify, rfl, rfl, value_classifyOrPass_of_no_event h⟩

theorem exists_classify_ok_iff (c : Classifier) (f : Failure) :
    (∃ x, (c.classify f).value = .ok x) ↔ f.event?.isSome = true := by
  cases h : f.event? with
  | some e => simp [classify_of_event h]
  | none => simp [classify_of_no_event h]

theorem exists_classifyOrPass_classified_iff (c : Classifier) (f : Failure) :
    (∃ d, (c.classifyOrPass f).value = .classified d (some f)) ↔ f.event?.isSome = true := by
  cases h : f.event? with
  | some e => simp [value_classifyOrPass_of_event h]
  | none =>
      rw [value_classifyOrPass_of_no_event h]
      simp [f.ne_classified_self]

/-- **A failure is accepted, classified and replaced exactly when it carries an event.**  The
diagnosis is then the chain's, and otherwise the failure comes back as it was. -/
theorem accepts_iff_and_treats (c : Classifier) (f : Failure) :
    ((c.accepts f).value = true ↔ f.event?.isSome = true) ∧
      ((∃ x, (c.classify f).value = .ok x) ↔ f.event?.isSome = true) ∧
      ((∃ d, (c.classifyOrPass f).value = .classified d (some f)) ↔ f.event?.isSome = true) ∧
      c.Treats f f.event? ∧
      ∀ c' : Classifier, (c'.accepts f).value = (c.accepts f).value := by
  refine ⟨?_, exists_classify_ok_iff c f, exists_classifyOrPass_classified_iff c f,
    treats_event? c f, ?_⟩
  · rw [value_accepts]
  · intro c'
    rw [value_accepts, value_accepts]

example (c : Classifier) (text : String) (e : Event) :
    (c.accepts (.context text (.event e))).value = false := rfl

end Classifier

end PgTriage
