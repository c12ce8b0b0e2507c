/-
Failures handed from classifier to classifier.

A failure is given to one classifier, what that hands on to the next, and so forth.  What a
classifier hands on carries no event: it is a classified failure, which has the event in
its cause at most, where nobody looks; or it is the failure as it was, which had none.  So
the first classifier settles what comes out at the end, and all others refuse what they
are given and count that.
-/
import PgTriage.Proofs.Session.Counting

namespace PgTriage

namespace Classifier

/-- What is handed on carries no event. -/
theorem event?_classifyOrPass (c : Classifier) (f : Failure) :
    (c.classifyOrPass f).value.event? = none := by
  cases h : f.event? with
  | some e =>
      rw [value_classifyOrPass_of_event h]
      rfl
  | none =>
      rw [value_classifyOrPass_of_no_event h]
      exact h

/-- The failure handed through the classifiers, from the first to the last. -/
def handOn (f : Failure) (cs : List Classifier) : Failure :=
  cs.foldl (fun g c => (c.classifyOrPass g).value) f

/-- A failure without an event goes through as it is. -/
theorem handOn_of_no_event {f : Failure} (h : f.event? = none) (cs : List Classifier) :
    handOn f cs = f := by
  induction cs with
  | nil => rfl
  | cons c rest ih =>
      show handOn (c.classifyOrPass f).value rest = f
      rw [value_classifyOrPass_of_no_event h]
      exact ih

end Classifier

namespace Session

open Classifier (handOn)

/-- The steps by which a failure is handed through the classifiers. -/
def relay (f : Failure) : List Classifier → List Step
  | [] => []
  | c :: rest => ⟨c, .classifyOrPass f⟩ :: relay (c.classifyOrPass f).value rest

/-- A failure without an event is given to each of them as it is. -/
theorem relay_of_no_event {f : Failure} (h : f.event? = none) (cs : List Classifier) :
    relay f cs = cs.map fun c => ⟨c, .classifyOrPass f⟩ := by
  induction cs with
  | nil => rfl
  | cons c rest ih =>
      show (⟨c, .classifyOrPass f⟩ : Step) :: relay (c.classifyOrPass f).value rest = _
      rw [Classifier.value_classifyOrPass_of_no_event h, ih, List.map_cons]

/-! ### What the steps answer and count -/

theorem map_answer_run (steps : List Step) (counters : Counters) :
    (run counters steps).map (·.answer) = steps.map fun s => (s.classifier.answer s.call).value := by
  induction steps generalizing counters with
  | nil => rfl
  | cons s rest ih => exact congrArg (_ :: ·) (ih (counters.bumpAll s.tallies))

/-- A step counts the diagnosis it makes or its refusal. -/
theorem tallies_classifyOrPass (c : Classifier) (f : Failure) :
    Step.tallies ⟨c, .classifyOrPass f⟩ =
      [f.event?.elim (.refused c.dialect) fun e =>
        .classified c.dialect (Rule.kindOf c.settings e).name] := by
  rw [Step.tallies_eq_toList]
  rfl

/-- Each step counts one thing, and these are counted one after another. -/
def CountEach (steps : List Step) (ts : List Tally) : Prop :=
  steps.map Step.tallies = ts.map ([·])

theorem CountEach.countersAfter_eq {steps : List Step} {ts : List Tally} (h : CountEach steps ts)
    (counters : Counters) : countersAfter counters steps = counters.bumpAll ts := by
  rw [countersAfter_eq_bumpAll, List.flatMap_def, h, ← List.flatMap_def,
    List.flatMap_singleton']

theorem countEach_relay_of_no_event {f : Failure} (h : f.event? = none) (cs : List Classifier) :
    CountEach (relay f cs) (cs.map fun c => .refused c.dialect) := by
  rw [CountEach, relay_of_no_event h, List.map_map, List.map_map]
  refine List.map_congr_left fun c _ => ?_
  show Step.tallies ⟨c, .classifyOrPass f⟩ = [.refused c.dialect]
  rw [tallies_classifyOrPass, h, Option.elim_none]

theorem countEach_relay_of_event {f : Failure} {e : Event} (h : f.event? = some e)
    (c : Classifier) (rest : List Classifier) :
    CountEach (relay f (c :: rest))
      (.classified c.dialect (Rule.kindOf c.settings e).name ::
        rest.map fun t => .refused t.dialect) := by
  have hrest := countEach_relay_of_no_event (c.event?_classifyOrPass f) rest
  show Step.tallies ⟨c, .classifyOrPass f⟩ ::
    (relay (c.classifyOrPass f).value rest).map Step.tallies = _
  rw [tallies_classifyOrPass, h, Option.elim_some, hrest]
  rfl

/-- Everyone answers with what the first hands on. -/
theorem map_answer_relay (c : Classifier) (rest : List Classifier) (f : Failure)
    (counters : Counters) :
    (run counters (relay f (c :: rest))).map (·.answer) =
      (c :: rest).map fun _ => .passed (c.classifyOrPass f).value := by
  have hevent := c.event?_classifyOrPass f
  rw [map_answer_run]
  show Answer.passed (c.classifyOrPass f).value :: (relay _ rest).map _ = _
  rw [relay_of_no_event hevent, List.map_map, List.map_cons]
  refine congrArg (_ :: ·) (List.map_congr_left fun t _ => ?_)
  exact congrArg Answer.passed (Classifier.value_classifyOrPass_of_no_event hevent)

/-- **The first classifier settles what becomes of a failure that is handed on.**  Whatever it
makes of it goes through all others unchanged: nothing is classified again, put into another
cause or taken out of its own.  The first counts the diagnosis it made, the others a refusal
each; a failure without an event is refused by all of them and comes back as it was. -/
theorem handOn_eq_first (c : Classifier) (rest : List Classifier) (f : Failure) :
    handOn f (c :: rest) = (c.classifyOrPass f).value ∧
      (∀ counters, (run counters (relay f (c :: rest))).map (·.answer) =
        (c :: rest).map fun _ => .passed (c.classifyOrPass f).value) ∧
      (∀ e, f.event? = some e → ∃ d, ((Rule.chain c.settings).apply e).value = .ok d ∧
        (c.classifyOrPass f).value = .classified d (some f) ∧
        CountEach (relay f (c :: rest))
          (.classified c.dialect d.kind.name :: rest.map fun t => .refused t.dialect) ∧
        ∀ counters, countersAfter counters (relay f (c :: rest)) =
          counters.bumpAll
            (.classified c.dialect d.kind.name :: rest.map fun t => .refused t.dialect)) ∧
      (f.event? = none → (c.classifyOrPass f).value = f ∧
        CountEach (relay f (c :: rest)) ((c :: rest).map fun t => .refused t.dialect) ∧
        ∀ counters, countersAfter counters (relay f (c :: rest)) =
          counters.bumpAll ((c :: rest).map fun t => .refused t.dialect)) := by
  refine ⟨?_, map_answer_relay c rest f, ?_, ?_⟩
  · exact Classifier.handOn_of_no_event (c.event?_classifyOrPass f) rest
  · intro e he
    have hcount := countEach_relay_of_event he c rest
    exact ⟨_, Rule.value_apply_chain c.settings e,
      Classifier.value_classifyOrPass_of_event he, hcount, hcount.countersAfter_eq⟩
  · intro he
    have hcount := countEach_relay_of_no_event he (c :: rest)
    exact ⟨Classifier.value_classifyOrPass_of_no_event he, hcount, hcount.countersAfter_eq⟩

/-- A violated unique constraint, which the second classifier would take for a primary key. -/
theorem handOn_eq_first_of_three :
    let first : Classifier := ⟨"main", "", false⟩
    let second : Classifier := ⟨"other", "pk_", true⟩
    let e : Event := .ofFields [(.code, "23505"), (.table, "orders"), (.constraint, "pk_orders")]
    let foreign : Failure := .context "while saving" e
    (e : Failure).event? = some e ∧ foreign.event? = none ∧
      (∃ d, handOn e [first, second, first] = .classified d (some e) ∧
        d.kind.name = "unique_violation") ∧
      countersAfter .none (relay e [first, second, first]) = Counters.none.bumpAll
        [.classified "main" "unique_violation", .refused "other", .refused "main"] ∧
      handOn foreign [first, second] = foreign ∧
      countersAfter .none (relay foreign [first, second]) =
        Counters.none.bumpAll [.refused "main", .refused "other"] := by
  intro first second e foreign
  obtain ⟨hhanded, -, hevent, -⟩ := handOn_eq_first first [second, first] e
  obtain ⟨d, hd, hvalue, -, hcounters⟩ := hevent e rfl
  obtain ⟨hforeign, -, -, hnone⟩ := handOn_eq_first first [second] foreign
  obtain ⟨hsame, -, hrefused⟩ := hnone rfl
  have hkind : d.kind.name = "unique_violation" := by
    rw [Rule.value_apply_chain] at hd
    obtain rfl := Except.ok.inj hd
    decide
  rw [hkind] at hcounters
  exact ⟨rfl, rfl, ⟨d, hhanded.trans hvalue, hkind⟩, hcounters .none, hforeign.trans hsame,
    hrefused .none⟩

end Session

end PgTriage
