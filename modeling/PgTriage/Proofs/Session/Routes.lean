/-
The routes by which a server error comes to be classified.

An application holds a server error as its client gives it, or in the client's wrapping, or
as the event that is read out of either.  A classifier takes any of them as a failure, and
an event as such besides.  What it finds, logs and counts is settled by the event alone, so
the routes differ in nothing but the cause: each names the failure it was given.

The route for an event has a diagnosis of its own to fall back on and counts by itself.  It
comes to the same, for an event is a failure that carries itself, and the rules have a
diagnosis for each: there is nothing to fall back from.
-/
import PgTriage.Proofs.Classifier.RuleLog
import PgTriage.Proofs.Session.Counting

namespace PgTriage

@[simp] theorem Counters.bumpAll_singleton (counters : Counters) (t : Tally) :
    counters.bumpAll [t] = counters.bump t := rfl

namespace Classifier

variable {c : Classifier} {f : Failure} {e : Event}

/-- All of a classification but its cause is settled by the event. -/
theorem classify_eq_of_event (h : f.event? = some e) :
    c.classify f =
      ⟨.ok ⟨e.diagnose (Rule.kindOf c.settings e), some f⟩,
        ((Rule.chain c.settings).tryApply e).trace,
        [.classified c.dialect (Rule.kindOf c.settings e).name]⟩ := by
  rw [classify_of_event h, trace_tryApply_pipeline, h]
  rfl

/-- The rules have a diagnosis for every event, so whatever there is to fall back on is not
looked at. -/
theorem applyOrElse_pipeline_event (c : Classifier) (e : Event) (fallback : Failure → Diagnosis) :
    c.pipeline.applyOrElse (.event e) fallback =
      ⟨e.diagnose (Rule.kindOf c.settings e), ((Rule.chain c.settings).tryApply e).trace⟩ := by
  refine Traced.ext' ?_ ?_
  · rw [PartialFun.value_applyOrElse, value_tryApply_pipeline]
    rfl
  · rw [PartialFun.trace_applyOrElse, trace_tryApply_pipeline]
    rfl

theorem classifyEvent_eq (c : Classifier) (e : Event) :
    c.classifyEvent e =
      ⟨⟨e.diagnose (Rule.kindOf c.settings e), some (.event e)⟩,
        ((Rule.chain c.settings).tryApply e).trace,
        [.classified c.dialect (Rule.kindOf c.settings e).name]⟩ := by
  simp only [classifyEvent, applyOrElse_pipeline_event]
  rfl

theorem classify_event_eq (c : Classifier) (e : Event) :
    c.classify (.event e) = (c.classifyEvent e).map .ok := by
  rw [classify_eq_of_event (f := .event e) rfl, classifyEvent_eq]
  rfl

/-- **A server error is classified alike on every route.**  The diagnosis is the chain's, the log
is the same, one and the same counter goes up by one, and the cause is the failure that was
given.  An event as such is classified as the failure it is, and nothing to fall back on is
used. -/
theorem classify_alike_on_routes (c : Classifier) (p : ServerError) :
    (∃ d log tally, ((Rule.chain c.settings).apply p.toEvent).value = .ok d ∧
      c.classify (.server p) = ⟨.ok ⟨d, some (.server p)⟩, log, [tally]⟩ ∧
      c.classify (.client (.server p)) = ⟨.ok ⟨d, some (.client (.server p))⟩, log, [tally]⟩ ∧
      c.classify (.event p.toEvent) = ⟨.ok ⟨d, some (.event p.toEvent)⟩, log, [tally]⟩ ∧
      c.classifyEvent p.toEvent = ⟨⟨d, some (.event p.toEvent)⟩, log, [tally]⟩ ∧
      tally = .classified c.dialect d.kind.name ∧
      ∀ (counters : Counters) t, (counters.bumpAll [tally]).get? t =
        if t = tally then some ((counters.get? tally).getD 0 + 1) else counters.get? t) ∧
    ∀ e, c.classify (.event e) = (c.classifyEvent e).map .ok ∧
      ∀ fallback, (c.pipeline.applyOrElse (.event e) fallback).value =
        (c.classifyEvent e).value.diagnosis := by
  refine ⟨?_, ?_⟩
  · have hchain := Rule.value_apply_chain c.settings p.toEvent
    have hserver := classify_eq_of_event (c := c) (f := .server p) rfl
    have hclient := classify_eq_of_event (c := c) (f := .client (.server p)) rfl
    have hfailure := classify_eq_of_event (c := c) (f := .event p.toEvent) rfl
    have hevent := classifyEvent_eq c p.toEvent
    generalize Rule.kindOf c.settings p.toEvent = kind at *
    refine ⟨_, _, _, hchain, hserver, hclient, hfailure, hevent, rfl, ?_⟩
    intro counters t
    rw [Counters.bumpAll_singleton, Counters.get?_bump]
  · intro e
    refine ⟨classify_event_eq c e, fun fallback => ?_⟩
    rw [applyOrElse_pipeline_event, classifyEvent_eq]

end Classifier

end PgTriage
