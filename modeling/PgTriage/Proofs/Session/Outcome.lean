/-
What becomes of a failure in a call.

Some calls are given a failure to classify and the others only ask.  A call that is given
one makes a diagnosis from it or hands it back, and which of the two is decided by the
failure alone: by whether it carries an event.

All of these calls classify in the same way and differ in the shape they tell the outcome
in.  Two of them answer with a failure whatever became of the one they were given.  Even
there the outcomes cannot be confused: a diagnosis that was made has the failure for its
cause, so it is never the failure itself, be that a classified one.
-/
import PgTriage.Session
import PgTriage.Proofs.Classifier.Acceptance
import PgTriage.Proofs.PartialFun.Observation

namespace PgTriage

/-- The failure a call is to classify, if it is to classify one. -/
def Call.failure? : Call → Option Failure
  | .classify f | .classifyOrPass f | .settle (.error f) => some f
  | .classifyEvent e => some (.event e)
  | .accepts _ | .eventOf _ | .dialect | .describe | .settle (.ok _) => none

namespace Answer

/-- The answer is a diagnosis that was made from the failure and has it for its cause. -/
inductive Diagnoses (f : Failure) (d : Diagnosis) : Answer → Prop
  | classification : Diagnoses f d (.classification (.ok ⟨d, some f⟩))
  | passed : Diagnoses f d (.passed (.classified d (some f)))
  | classified : Diagnoses f d (.classified ⟨d, some f⟩)
  | settled : Diagnoses f d (.settled (.error (.classified d (some f))))

/-- The answer hands the failure back as it was. -/
inductive Refuses (f : Failure) : Answer → Prop
  | classification (dialect : String) : Refuses f (.classification (.error ⟨dialect, f⟩))
  | passed : Refuses f (.passed f)
  | settled : Refuses f (.settled (.error f))

variable {f g : Failure} {d d' : Diagnosis} {a : Answer}

theorem refuses_passed_iff : Refuses f (.passed g) ↔ f = g := by
  constructor
  · intro h
    cases h
    rfl
  · rintro rfl
    exact .passed

theorem refuses_settled_iff : Refuses f (.settled (.error g)) ↔ f = g := by
  constructor
  · intro h
    cases h
    rfl
  · rintro rfl
    exact .settled

/-- No answer both makes a diagnosis from a failure and hands it back. -/
theorem Diagnoses.not_refuses (h : Diagnoses f d a) : ¬ Refuses f a := by
  cases h with
  | classification => exact nofun
  | passed =>
      rw [refuses_passed_iff]
      exact f.ne_classified_self d
  | classified => exact nofun
  | settled =>
      rw [refuses_settled_iff]
      exact f.ne_classified_self d

theorem Diagnoses.unique (h : Diagnoses f d a) (h' : Diagnoses f d' a) : d = d' := by
  cases h <;> cases h' <;> rfl

end Answer

namespace Call

/-- How a call that is given a failure tells what became of it. -/
def shape : Call → Except Rejection Classified → Answer
  | .classifyOrPass _, .ok x => .passed x.toFailure
  | .classifyOrPass _, .error r => .passed r.failure
  | .classifyEvent _, .ok x => .classified x
  | .settle _, .ok x => .settled (.error x.toFailure)
  | .settle _, .error r => .settled (.error r.failure)
  | _, outcome => .classification outcome

theorem diagnoses_shape {call : Call} {f : Failure} (hcall : call.failure? = some f)
    (d : Diagnosis) : (call.shape (.ok ⟨d, some f⟩)).Diagnoses f d := by
  cases call with
  | classify g => exact .classification
  | classifyOrPass g => exact .passed
  | classifyEvent e => exact .classified
  | settle outcome => exact .settled
  | accepts _ | eventOf _ | dialect | describe => cases hcall

/-- An event is never handed back, so how that would be told does not matter. -/
theorem refuses_shape {call : Call} {f : Failure} (hcall : call.failure? = some f)
    (he : f.event? = none) (dialect : String) :
    (call.shape (.error ⟨dialect, f⟩)).Refuses f := by
  cases call with
  | classify g => exact .classification dialect
  | classifyOrPass g => exact .passed
  | classifyEvent e =>
      obtain rfl := Option.some.inj hcall
      cases he
  | settle outcome => exact .settled
  | accepts _ | eventOf _ | dialect | describe => cases hcall

end Call

namespace Classifier

variable {c : Classifier} {call : Call} {f : Failure} {e : Event} {d : Diagnosis}

/-! ### A call that is given a failure -/

/-- A call that is given a failure answers with the outcome of classifying it, in its own shape. -/
theorem answer_eq_map_shape (c : Classifier) (hcall : call.failure? = some f) :
    c.answer call = (c.classify f).map call.shape := by
  cases call with
  | classify g =>
      obtain rfl := Option.some.inj hcall
      rfl
  | classifyOrPass g =>
      obtain rfl := Option.some.inj hcall
      rw [answer, classifyOrPass]
      generalize c.classify g = r
      obtain ⟨_ | _, log, tallies⟩ := r <;> rfl
  | classifyEvent e =>
      obtain rfl := Option.some.inj hcall
      rw [classify_of_event (c := c) (f := .event e) rfl, answer, classifyEvent,
        PartialFun.value_applyOrElse, PartialFun.trace_applyOrElse, value_tryApply_pipeline]
      rfl
  | settle outcome =>
      cases outcome with
      | ok text => cases hcall
      | error g =>
          obtain rfl := Option.some.inj hcall
          rw [answer, settle, classifyOrPass]
          generalize c.classify g = r
          obtain ⟨_ | _, log, tallies⟩ := r <;> rfl
  | accepts _ | eventOf _ | dialect | describe => cases hcall

theorem answer_of_event (hcall : call.failure? = some f) (he : f.event? = some e) :
    ∃ a : Answer, a.Diagnoses f (e.diagnose (Rule.kindOf c.settings e)) ∧
      c.answer call =
        ⟨a, (c.pipeline.tryApply f).trace,
          [.classified c.dialect (Rule.kindOf c.settings e).name]⟩ := by
  refine ⟨_, Call.diagnoses_shape hcall _, ?_⟩
  rw [answer_eq_map_shape c hcall, classify_of_event he]
  rfl

theorem answer_of_no_event (hcall : call.failure? = some f) (he : f.event? = none) :
    ∃ a : Answer, a.Refuses f ∧
      c.answer call =
        ⟨a, (c.pipeline.tryApply f).trace ++ [.refused c.dialect f.describe],
          [.refused c.dialect]⟩ := by
  refine ⟨_, Call.refuses_shape hcall he c.dialect, ?_⟩
  rw [answer_eq_map_shape c hcall, classify_of_no_event he]
  rfl

/-- Calls that only ask count nothing. -/
theorem tallies_answer_of_no_failure (hcall : call.failure? = none) :
    (c.answer call).tallies = [] := by
  cases call with
  | classify f | classifyOrPass f | classifyEvent e => cases hcall
  | settle outcome =>
      cases outcome with
      | ok text => rfl
      | error f => cases hcall
  | accepts _ | eventOf _ | dialect | describe => rfl

/-! ### Which of the two becomes of it -/

theorem diagnoses_answer_iff (hcall : call.failure? = some f) :
    (c.answer call).value.Diagnoses f d ↔
      ∃ e, f.event? = some e ∧ d = e.diagnose (Rule.kindOf c.settings e) := by
  cases he : f.event? with
  | some e =>
      obtain ⟨a, ha, hanswer⟩ := answer_of_event (c := c) hcall he
      rw [hanswer]
      constructor
      · intro h
        exact ⟨e, rfl, h.unique ha⟩
      · rintro ⟨e', he', rfl⟩
        obtain rfl := Option.some.inj he'
        exact ha
  | none =>
      obtain ⟨a, ha, hanswer⟩ := answer_of_no_event (c := c) hcall he
      rw [hanswer]
      constructor
      · intro h
        exact absurd ha h.not_refuses
      · rintro ⟨e, he', -⟩
        cases he'

theorem refuses_answer_iff (hcall : call.failure? = some f) :
    (c.answer call).value.Refuses f ↔ f.event? = none := by
  cases he : f.event? with
  | some e =>
      obtain ⟨a, ha, hanswer⟩ := answer_of_event (c := c) hcall he
      rw [hanswer]
      exact ⟨fun h => absurd h ha.not_refuses, nofun⟩
  | none =>
      obtain ⟨a, ha, hanswer⟩ := answer_of_no_event (c := c) hcall he
      rw [hanswer]
      exact ⟨fun _ => rfl, fun _ => ha⟩

end Classifier

end PgTriage
