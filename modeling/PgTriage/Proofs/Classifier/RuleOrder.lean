/-
How far the order of the rules matters.

Each rule but the last looks for codes that begin with two bytes of its own, and a code
begins with one pair of bytes alone.  So no event is taken by two of these rules, with one
exception: a malformed UUID is a data exception too.  What is left of the order is that the
narrower of those two comes first and that the rule that takes everything comes last.

Any order that keeps to this gives the very same chain, whatever its brackets are.  It
answers alike, and it is seen alike, because the rules are silent where they are undefined
and no test is seen at all.
-/
import PgTriage.Proofs.Classifier.Decision
import PgTriage.Proofs.Classifier.RuleLog
import PgTriage.Proofs.PartialFun.Order

namespace PgTriage

/-- The names of the rules that look for a code, in the order they are tried. -/
def RuleName.specific : List RuleName :=
  [.invalidUuid, .dataException, .integrity, .authorization]

/-- The names of all rules, in the order they are tried. -/
def RuleName.inOrder : List RuleName := specific ++ [.catchAll]

/-- What the codes begin with that the rule looks for. -/
def RuleName.codeStart? : RuleName → Option String
  | .invalidUuid | .dataException => some "22"
  | .integrity => some "23"
  | .authorization => some "28"
  | .catchAll => none

/-- All rules in an order where the malformed UUID is looked for before other data exceptions,
and what takes everything comes last. -/
structure RuleName.KeepsPrecedence (order : List RuleName) : Prop where
  perm : order.Perm RuleName.inOrder
  uuid_before_data : [.invalidUuid, .dataException].Sublist order
  catchAll_last : order.getLast? = some .catchAll

/-! ### Orders of rules -/

/-- The rules that such an order turns round look for different codes. -/
theorem RuleName.KeepsPrecedence.codeStart?_ne {order : List RuleName}
    (h : KeepsPrecedence order) {name name' : RuleName}
    (hfirst : [name, name'].Sublist inOrder) (hturned : [name', name].Sublist order) :
    ∃ start start', name.codeStart? = some start ∧ name'.codeStart? = some start' ∧
      start ≠ start' := by
  have hnodup : order.Nodup := h.perm.nodup_iff.2 (by decide)
  have hpair : (name = .invalidUuid ∧ name' = .dataException) ∨ name' = .catchAll ∨
      (name.codeStart?.isSome ∧ name'.codeStart?.isSome ∧
        name.codeStart? ≠ name'.codeStart?) := by
    cases name <;> cases name' <;> revert hfirst <;> decide
  rcases hpair with ⟨rfl, rfl⟩ | rfl | ⟨hstart, hstart', hne⟩
  · exact absurd hturned (PartialFun.not_sublist_swap hnodup h.uuid_before_data)
  · obtain ⟨first, rfl⟩ := List.getLast?_eq_some_iff.1 h.catchAll_last
    exact absurd hturned (PartialFun.not_sublist_of_last hnodup name)
  · obtain ⟨start, hstart⟩ := Option.isSome_iff_exists.1 hstart
    obtain ⟨start', hstart'⟩ := Option.isSome_iff_exists.1 hstart'
    refine ⟨start, start', hstart, hstart', ?_⟩
    rintro rfl
    exact hne (hstart.trans hstart'.symm)

/-- A code begins in one way. -/
theorem Event.CodeBegins.unique {e : Event} {start start' : String} (h : e.CodeBegins start)
    (h' : e.CodeBegins start') : start = start' := by
  obtain ⟨c, hc, hbytes⟩ := h
  obtain ⟨c', hc', hbytes'⟩ := h'
  obtain rfl := Option.some.inj (hc.symm.trans hc')
  have hdecode := congrArg Utf8.decode? (hbytes.symm.trans hbytes')
  rwa [Utf8.decode?_encode, Utf8.decode?_encode, Option.some.injEq] at hdecode

/-- The code of malformed texts is one of the data exceptions. -/
theorem Event.codeBegins_of_invalidTextRepresentation {e : Event}
    (h : ∃ c, e.code? = some c ∧ Ascii.lower c = "22p02") : e.CodeBegins "22" := by
  obtain ⟨c, hc, hlower⟩ := h
  rw [← inClass_dataException_iff, inClass, hc, Option.any_some, SqlClass.contains]
  have hsame : Ascii.lower c = Ascii.lower "22p02" := by
    rw [hlower]
    decide
  rw [belongsToClass_eq_of_lower_eq hsame]
  decide

/-- A malformed UUID is a data exception. -/
theorem Event.TellsMalformedUuid.codeBegins {e : Event} {value : String}
    (h : e.TellsMalformedUuid value) : e.CodeBegins "22" :=
  codeBegins_of_invalidTextRepresentation h.1

namespace Rule

/-- The rule of a name. -/
def named (settings : Settings) : RuleName → Rule
  | .invalidUuid => invalidUuid
  | .dataException => dataException
  | .integrity => integrity settings
  | .authorization => authorization
  | .catchAll => catchAll

variable {settings : Settings} {e : Event}

theorem coherent_named (settings : Settings) (name : RuleName) :
    (named settings name).Coherent := by
  cases name with
  | invalidUuid => exact coherent_invalidUuid
  | dataException => exact coherent_dataException
  | integrity => exact coherent_integrity settings
  | authorization => exact coherent_authorization
  | catchAll => exact coherent_catchAll

theorem logsDecision_named (settings : Settings) (name : RuleName) :
    (named settings name).LogsDecision := by
  cases name with
  | invalidUuid => exact logsDecision_invalidUuid
  | dataException => exact logsDecision_dataException
  | integrity => exact logsDecision_integrity settings
  | authorization => exact logsDecision_authorization
  | catchAll => exact logsDecision_catchAll

theorem testsUnseen_named (settings : Settings) (name : RuleName) :
    (named settings name).TestsUnseen := by
  cases name with
  | invalidUuid => exact testsUnseen_invalidUuid
  | dataException => exact testsUnseen_announcing_guard _ _ _
  | integrity => exact testsUnseen_integrity settings
  | authorization => exact testsUnseen_announcing_guard _ _ _
  | catchAll => exact testsUnseen_announcing_guard (fun _ => true) _ _

theorem LogsDecision.unseenWithoutValue {rule : Rule} (h : rule.LogsDecision) :
    rule.UnseenWithoutValue := by
  intro e hnone
  rw [h e, hnone]
  rfl

theorem choiceOf_bareChain (settings : Settings) :
    PartialFun.ChoiceOf (RuleName.inOrder.map (named settings)) (bareChain settings) :=
  .orElse (.orElse (.orElse (.orElse (.one _) (.one _)) (.one _)) (.one _)) (.one _)

/-! ### Where the rules are defined -/

theorem mem_domain_invalidUuid_iff :
    e ∈ invalidUuid.domain ↔ ∃ value, e.TellsMalformedUuid value := by
  rw [coherent_invalidUuid.mem_domain_iff_isSome, value_tryApply_invalidUuid, Option.isSome_map,
    Option.isSome_iff_exists]
  simp only [Event.malformedUuid?_eq_some_iff]

theorem mem_domain_dataException_iff : e ∈ dataException.domain ↔ e.CodeBegins "22" := by
  rw [coherent_dataException.mem_domain_iff_isSome, value_tryApply_dataException,
    ← Event.inClass_dataException_iff]
  simp

theorem mem_domain_integrity_iff :
    e ∈ (integrity settings).domain ↔ ∃ v, e.TellsViolation settings v := by
  rw [(coherent_integrity settings).mem_domain_iff_isSome, value_tryApply_integrity,
    Option.isSome_map, Option.isSome_iff_exists]
  simp only [Event.violationOf?_eq_some_iff]

theorem mem_domain_authorization_iff : e ∈ authorization.domain ↔ e.CodeBegins "28" := by
  rw [coherent_authorization.mem_domain_iff_isSome, value_tryApply_authorization,
    ← Event.inClass_invalidAuthorizationSpecification_iff]
  simp

/-- A rule that looks for a code finds it. -/
theorem codeBegins_of_mem_domain {name : RuleName} {start : String}
    (hstart : name.codeStart? = some start) (h : e ∈ (named settings name).domain) :
    e.CodeBegins start := by
  cases name with
  | invalidUuid =>
      obtain rfl := Option.some.inj hstart
      obtain ⟨value, hvalue⟩ := mem_domain_invalidUuid_iff.1 h
      exact hvalue.codeBegins
  | dataException =>
      obtain rfl := Option.some.inj hstart
      exact mem_domain_dataException_iff.1 h
  | integrity =>
      obtain rfl := Option.some.inj hstart
      obtain ⟨v, hv⟩ := mem_domain_integrity_iff.1 h
      exact hv.codeBegins
  | authorization =>
      obtain rfl := Option.some.inj hstart
      exact mem_domain_authorization_iff.1 h
  | catchAll => cases hstart

/-- Rules that look for different codes overlap nowhere. -/
theorem not_mem_domain_of_codeStart?_ne {name name' : RuleName} {start start' : String}
    (hstart : name.codeStart? = some start) (hstart' : name'.codeStart? = some start')
    (hne : start ≠ start') (he : e ∈ (named settings name).domain) :
    e ∉ (named settings name').domain := by
  intro he'
  exact hne ((codeBegins_of_mem_domain hstart he).unique (codeBegins_of_mem_domain hstart' he'))

theorem domain_inter_eq_empty (settings : Settings) (name name' : RuleName)
    {start start' : String} (hstart : name.codeStart? = some start)
    (hstart' : name'.codeStart? = some start') (hne : start ≠ start') :
    (named settings name).domain ∩ (named settings name').domain = ∅ := by
  refine Set.eq_empty_of_forall_notMem fun e he => ?_
  exact not_mem_domain_of_codeStart?_ne hstart hstart' hne he.1 he.2

/-! ### Other orders -/

/-- An order that keeps the precedence gives the chain itself, under any brackets. -/
theorem eq_bareChain {order : List RuleName} (h : RuleName.KeepsPrecedence order) {rule : Rule}
    (hrule : PartialFun.ChoiceOf (order.map (named settings)) rule) :
    rule = bareChain settings := by
  have hcoherent : rule.Coherent := hrule.coherent fun f hf => by
    obtain ⟨name, -, rfl⟩ := List.mem_map.1 hf
    exact coherent_named settings name
  have htests : rule.TestsUnseen := hrule.testsUnseen fun f hf => by
    obtain ⟨name, -, rfl⟩ := List.mem_map.1 hf
    exact testsUnseen_named settings name
  refine hcoherent.eq_of_tryApply_eq (coherent_bareChain settings) htests
    (testsUnseen_bareChain settings) fun e => ?_
  rw [hrule.tryApply_eq, (choiceOf_bareChain settings).tryApply_eq]
  refine (PartialFun.tryEach_eq_of_perm (coherent_named settings)
    (fun name => (logsDecision_named settings name).unseenWithoutValue) h.perm.symm ?_).symm
  intro name name' hfirst hturned hdefined
  obtain ⟨start, start', hstart, hstart', hne⟩ := h.codeStart?_ne hfirst hturned
  exact not_mem_domain_of_codeStart?_ne hstart hstart' hne hdefined

/-- What no rule looks for is generic. -/
theorem kindOf_eq_generic_iff :
    kindOf settings e = .generic ↔
      ∀ name ∈ RuleName.specific, e ∉ (named settings name).domain := by
  constructor
  · intro h
    have hkind := Event.hasKind_kindOf settings e
    rw [h] at hkind
    obtain _ | _ | _ | _ | ⟨huuid, hdata, hviolation, hauthorization⟩ := hkind
    intro name hname
    cases name with
    | invalidUuid =>
        intro hmem
        obtain ⟨value, hvalue⟩ := mem_domain_invalidUuid_iff.1 hmem
        exact huuid value hvalue
    | dataException => exact mt mem_domain_dataException_iff.1 hdata
    | integrity =>
        intro hmem
        obtain ⟨v, hv⟩ := mem_domain_integrity_iff.1 hmem
        exact hviolation v hv
    | authorization => exact mt mem_domain_authorization_iff.1 hauthorization
    | catchAll => exact absurd hname (by decide)
  · intro h
    refine (Event.HasKind.generic ?_ ?_ ?_ ?_).eq_kindOf.symm
    · intro value hvalue
      exact h .invalidUuid (by decide) (mem_domain_invalidUuid_iff.2 ⟨value, hvalue⟩)
    · exact mt mem_domain_dataException_iff.2 (h .dataException (by decide))
    · intro v hv
      exact h .integrity (by decide) (mem_domain_integrity_iff.2 ⟨v, hv⟩)
    · exact mt mem_domain_authorization_iff.2 (h .authorization (by decide))

/-- Watching what goes into a rule does not change what comes out, and is seen first. -/
theorem apply_chain_eq (settings : Settings) (e : Event) :
    ((chain settings).apply e).value = ((bareChain settings).apply e).value ∧
      ((chain settings).apply e).trace =
        (if settings.logRuleInputs then [inputEvent e] else []) ++
          ((bareChain settings).apply e).trace := by
  unfold chain
  by_cases h : settings.logRuleInputs
  · rw [if_pos h, if_pos h]
    exact ⟨rfl, rfl⟩
  · rw [if_neg h, if_neg h]
    exact ⟨rfl, rfl⟩

/-- **Of the order of the rules only two things matter.**  A malformed UUID is looked for before
other data exceptions, and what takes everything comes last; all other rules overlap nowhere.  Every
order that keeps to this makes the same chain, with the same log, and without its last rule the
chain is undefined exactly at the events it calls generic. -/
theorem chain_eq_of_keepsPrecedence (settings : Settings) :
    (invalidUuid.domain ⊆ dataException.domain ∧
      dataException.domain ∩ (integrity settings).domain = ∅ ∧
      dataException.domain ∩ authorization.domain = ∅ ∧
      (integrity settings).domain ∩ authorization.domain = ∅) ∧
    (∀ order rule, RuleName.KeepsPrecedence order →
      PartialFun.ChoiceOf (order.map (named settings)) rule →
        (chain settings = if settings.logRuleInputs then rule.logged inputEvent else rule) ∧
        ∀ e, ((chain settings).apply e).value = (rule.apply e).value ∧
          ((chain settings).apply e).trace =
            (if settings.logRuleInputs then [inputEvent e] else []) ++ (rule.apply e).trace) ∧
    ∀ (order : List RuleName) rule, order.Perm RuleName.specific →
      PartialFun.ChoiceOf (order.map (named settings)) rule →
        ∀ e, e ∉ rule.domain ↔
          ∃ d, ((chain settings).apply e).value = .ok d ∧ d.kind = .generic := by
  refine ⟨⟨?_, ?_, ?_, ?_⟩, ?_, ?_⟩
  · intro e he
    obtain ⟨value, hvalue⟩ := mem_domain_invalidUuid_iff.1 he
    exact mem_domain_dataException_iff.2 hvalue.codeBegins
  · exact domain_inter_eq_empty settings .dataException .integrity rfl rfl (by decide)
  · exact domain_inter_eq_empty settings .dataException .authorization rfl rfl (by decide)
  · exact domain_inter_eq_empty settings .integrity .authorization rfl rfl (by decide)
  · intro order rule horder hrule
    rw [eq_bareChain horder hrule]
    exact ⟨rfl, apply_chain_eq settings⟩
  · intro order rule hperm hrule e
    have hundefined : e ∉ rule.domain ↔
        ∀ name ∈ RuleName.specific, e ∉ (named settings name).domain := by
      rw [hrule.mem_domain_iff]
      simp [hperm.mem_iff]
    rw [hundefined, ← kindOf_eq_generic_iff, value_apply_chain]
    constructor
    · intro h
      exact ⟨_, rfl, h⟩
    · rintro ⟨d, hd, hkind⟩
      obtain rfl := Except.ok.inj hd
      exact hkind

/-- The rules from the last to the first but for the two places, under other brackets, at a
malformed UUID. -/
theorem chain_eq_of_keepsPrecedence_malformedUuid :
    let settings : Settings := ⟨"main", "pk_", true⟩
    let order : List RuleName :=
      [.authorization, .integrity, .invalidUuid, .dataException, .catchAll]
    let rule : Rule := authorization.orElse ((integrity settings).orElse
      (invalidUuid.orElse (dataException.orElse catchAll)))
    let rest : Rule := authorization.orElse ((integrity settings).orElse
      (invalidUuid.orElse dataException))
    let e : Event := .ofFields [(.code, "22p02"),
      (.message, "invalid input syntax for type uuid: \"x\"")]
    RuleName.KeepsPrecedence order ∧ PartialFun.ChoiceOf (order.map (named settings)) rule ∧
      (order.dropLast.Perm RuleName.specific ∧
        PartialFun.ChoiceOf (order.dropLast.map (named settings)) rest) ∧
      ((chain settings).apply e).value = (rule.apply e).value ∧
      ((chain settings).apply e).trace = inputEvent e :: (rule.apply e).trace ∧
      (rule.apply e).trace = [.ruleMatched "invalid_uuid" "invalid_uuid" "22p02"] ∧
      e ∈ rest.domain := by
  intro settings order rule rest e
  have hkeeps : RuleName.KeepsPrecedence order := ⟨by decide, by decide, rfl⟩
  have hrule : PartialFun.ChoiceOf (order.map (named settings)) rule :=
    .orElse (.one _) (.orElse (.one _) (.orElse (.one _) (.orElse (.one _) (.one _))))
  have hspecific : order.dropLast.Perm RuleName.specific := by decide
  have hrest : PartialFun.ChoiceOf (order.dropLast.map (named settings)) rest :=
    .orElse (.one _) (.orElse (.one _) (.orElse (.one _) (.one _)))
  obtain ⟨-, horders, hlast⟩ := chain_eq_of_keepsPrecedence settings
  obtain ⟨-, happly⟩ := horders order rule hkeeps hrule
  obtain ⟨hvalue, htrace⟩ := happly e
  refine ⟨hkeeps, hrule, ⟨hspecific, hrest⟩, hvalue, htrace, by decide, ?_⟩
  by_contra hundefined
  obtain ⟨d, hd, hkind⟩ := (hlast _ rest hspecific hrest e).1 hundefined
  have hdecided : kindOf settings e = .invalidUuid "x" := by decide
  rw [value_apply_chain, hdecided] at hd
  obtain rfl := Except.ok.inj hd
  cases hkind

-- Looked for first, data exceptions would hide a malformed UUID.
example :
    let e : Event := .ofFields [(.code, "22P02"),
      (.message, "invalid input syntax for type uuid: \"x\"")]
    ((dataException.orElse invalidUuid).tryApply e).value = some (e.diagnose .data) := by
  decide

end Rule

end PgTriage
