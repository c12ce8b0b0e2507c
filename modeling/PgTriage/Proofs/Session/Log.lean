/-
What a call logs.

A call that is given a failure logs by what becomes of it.  A failure handed back is a
single warning: without an event the rules are never asked, so they log nothing, and not
even the event that would have been logged before them.  A diagnosis is told once, by the
rule it came from, after the event itself where the settings ask for that.

The entries are written out here, level and fields, apart from the events the library
logs them as.
-/
import PgTriage.Proofs.Classifier.RuleLog
import PgTriage.Proofs.Session.Outcome

namespace PgTriage

/-! ### Entries -/

/-- An entry of the log: its level, and its fields in order. -/
abbrev LogEntry := LogLevel × List (String × String)

/-- The entry an event is written as. -/
def LogEvent.entry (l : LogEvent) : LogEntry := (l.level, l.fields)

/-- A failure was handed back. -/
def refusalEntry (dialect error : String) : LogEntry :=
  (.warn, [("message", "Error not accepted by translator"), ("dialect", dialect),
    ("error", error)])

/-- The rules are about to see an event, of which this is told as far as it is there. -/
def inputEntry (code? message? : Option String) : LogEntry :=
  (.trace, [("message", "Evaluating classification rules"), ("sql_state", code?.getD ""),
    ("message", message?.getD "")])

/-- A rule decided. -/
def decisionEntry (d : Diagnosis) : LogEntry :=
  (.debug, [("message", "Classification rule matched"), ("rule", d.kind.ruleLabel),
    ("kind", d.kind.name), ("sql_state", d.sqlState.getD "")])

namespace Classifier

/-! ### The log of a call -/

theorem log_answer_of_event {c : Classifier} {call : Call} {f : Failure} {e : Event}
    (hcall : call.failure? = some f) (he : f.event? = some e) :
    (c.answer call).log =
      (if c.settings.logRuleInputs then [Rule.inputEvent e] else []) ++
        [(e.diagnose (Rule.kindOf c.settings e)).decisionEvent] := by
  obtain ⟨a, -, hanswer⟩ := answer_of_event (c := c) hcall he
  rw [hanswer, ← Rule.trace_tryApply_chain]
  exact (trace_tryApply_pipeline c f).trans (by rw [he]; rfl)

theorem log_answer_of_no_event {c : Classifier} {call : Call} {f : Failure}
    (hcall : call.failure? = some f) (he : f.event? = none) :
    (c.answer call).log = [.refused c.dialect f.describe] := by
  obtain ⟨a, -, hanswer⟩ := answer_of_no_event (c := c) hcall he
  rw [hanswer, trace_tryApply_pipeline, he]
  rfl

/-- **A refusal is logged as one warning and a diagnosis as one decision.**  The decision comes
after the event, which is logged exactly if the settings ask for it.  Asking whether a failure
would be classified logs nothing. -/
theorem entries_answer (c : Classifier) (call : Call) (f : Failure)
    (hcall : call.failure? = some f) :
    ((c.answer call).value.Refuses f ∨ ∃ d, (c.answer call).value.Diagnoses f d) ∧
      ((c.answer call).value.Refuses f →
        (c.answer call).log.map LogEvent.entry = [refusalEntry c.dialect f.describe]) ∧
      (∀ d, (c.answer call).value.Diagnoses f d → ∃ e, f.event? = some e ∧
        (c.answer call).log.map LogEvent.entry =
          (if c.settings.logRuleInputs then [inputEntry e.code? e.message?] else []) ++
            [decisionEntry d]) ∧
      ∀ g, (c.answer (.accepts g)).log = [] := by
  refine ⟨?_, ?_, ?_, fun g => c.log_accepts g⟩
  · cases he : f.event? with
    | none => exact .inl ((refuses_answer_iff hcall).2 he)
    | some e => exact .inr ⟨_, (diagnoses_answer_iff hcall).2 ⟨e, he, rfl⟩⟩
  · intro h
    rw [log_answer_of_no_event hcall ((refuses_answer_iff hcall).1 h)]
    rfl
  · intro d h
    obtain ⟨e, he, rfl⟩ := (diagnoses_answer_iff hcall).1 h
    refine ⟨e, he, ?_⟩
    rw [log_answer_of_event hcall he, List.map_append]
    by_cases hinputs : c.settings.logRuleInputs
    · rw [if_pos hinputs, if_pos hinputs]
      rfl
    · rw [if_neg hinputs, if_neg hinputs]
      rfl

/-- A connection that is not authorized, by a classifier that logs what the rules see. -/
theorem entries_answer_unauthorized :
    let c : Classifier := ⟨"main", "pk_", true⟩
    let e : Event := .ofFields [(.code, "28000"), (.message, "no entry")]
    let call : Call := .classifyOrPass e
    call.failure? = some (.event e) ∧
      (c.answer call).value.Diagnoses e (e.diagnose .authorization) ∧
      (c.answer call).log.map LogEvent.entry =
        [(.trace, [("message", "Evaluating classification rules"), ("sql_state", "28000"),
            ("message", "no entry")]),
          (.debug, [("message", "Classification rule matched"), ("rule", "authorization"),
            ("kind", "authorization"), ("sql_state", "28000")])] := by
  intro c e call
  have hkind : Rule.kindOf c.settings e = .authorization := by decide
  have hdiagnoses : (c.answer call).value.Diagnoses e (e.diagnose .authorization) :=
    (diagnoses_answer_iff rfl).2 ⟨e, rfl, by rw [hkind]⟩
  obtain ⟨-, -, hentries, -⟩ := entries_answer c call e rfl
  obtain ⟨e', he, hlog⟩ := hentries _ hdiagnoses
  obtain rfl := Option.some.inj he
  exact ⟨rfl, hdiagnoses, hlog⟩

end Classifier

end PgTriage
