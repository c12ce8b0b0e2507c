/-
What a session counts.

A step counts once or not at all.  It counts a diagnosis it made, by dialect and kind, or
a failure it handed back, by dialect, and the counters are what all steps count one after
another.  Counting is adding, so a counter stands at the number of steps it counts and the
order of the steps does not matter; and a counter comes into being with the first of them,
so there are no counters at zero.

The steps a counter counts are told by their answers, not by what the calls report for
counting.  `Step.tally?` is what joins the two: it is read off the failure a step is given,
a call reports it and nothing else, and the answer is one the counter counts exactly when
it is that counter.
-/
import Mathlib.Data.List.Infix
import PgTriage.Proofs.OrderedMap
import PgTriage.Proofs.Session.Outcome

namespace PgTriage

namespace Counters

/-! ### Counting a list -/

theorem get?_bump (counters : Counters) (t u : Tally) :
    (counters.bump t).get? u =
      if u = t then some ((counters.get? t).getD 0 + 1) else counters.get? u :=
  OrderedMap.get?_insert counters t u _

/-- Each counter goes up by the number of times it is listed, and is there from then on. -/
theorem get?_bumpAll (ts : List Tally) (counters : Counters) (t : Tally) :
    (counters.bumpAll ts).get? t =
      if ts.count t = 0 then counters.get? t
      else some ((counters.get? t).getD 0 + ts.count t) := by
  induction ts generalizing counters with
  | nil => rfl
  | cons u rest ih =>
      show ((counters.bump u).bumpAll rest).get? t = _
      rw [ih, get?_bump, List.count_cons]
      by_cases htu : t = u
      · subst htu
        by_cases hrest : rest.count t = 0
        · simp [hrest]
        · simp [hrest]
          omega
      · have hut : ¬ u = t := fun h => htu h.symm
        simp [htu, hut]

theorem bumpAll_append (counters : Counters) (ts us : List Tally) :
    counters.bumpAll (ts ++ us) = (counters.bumpAll ts).bumpAll us :=
  List.foldl_append

theorem bumpAll_eq_of_perm (counters : Counters) {ts us : List Tally} (h : ts.Perm us) :
    counters.bumpAll ts = counters.bumpAll us := by
  refine OrderedMap.ext_get? fun t => ?_
  rw [get?_bumpAll, get?_bumpAll, h.count_eq]

end Counters

namespace Session

/-! ### What a step counts -/

/-- What the call of a step reports for counting. -/
def Step.tallies (s : Step) : List Tally := (s.classifier.answer s.call).tallies

/-- A classifier of this dialect made a diagnosis of this kind. -/
def Step.Diagnoses (s : Step) (dialect kind : String) : Prop :=
  s.classifier.dialect = dialect ∧ ∃ f d, s.call.failure? = some f ∧
    (s.classifier.answer s.call).value.Diagnoses f d ∧ d.kind.name = kind

/-- A classifier of this dialect handed back the failure it was given. -/
def Step.Refuses (s : Step) (dialect : String) : Prop :=
  s.classifier.dialect = dialect ∧ ∃ f, s.call.failure? = some f ∧
    (s.classifier.answer s.call).value.Refuses f

/-- The one thing a step counts, if it counts any, by the failure it is given. -/
def Step.tally? (s : Step) : Option Tally :=
  s.call.failure?.map fun f =>
    f.event?.elim (.refused s.classifier.dialect) fun e =>
      .classified s.classifier.dialect (Rule.kindOf s.classifier.settings e).name

theorem Step.tallies_eq_toList (s : Step) : s.tallies = s.tally?.toList := by
  unfold tally?
  cases hcall : s.call.failure? with
  | none => exact Classifier.tallies_answer_of_no_failure hcall
  | some f =>
      cases he : f.event? with
      | some e =>
          obtain ⟨a, -, hanswer⟩ := Classifier.answer_of_event (c := s.classifier) hcall he
          rw [tallies, hanswer, Option.map_some, he]
          rfl
      | none =>
          obtain ⟨a, -, hanswer⟩ := Classifier.answer_of_no_event (c := s.classifier) hcall he
          rw [tallies, hanswer, Option.map_some, he]
          rfl

theorem Step.diagnoses_iff {s : Step} {dialect kind : String} :
    s.Diagnoses dialect kind ↔ s.tally? = some (.classified dialect kind) := by
  constructor
  · rintro ⟨rfl, f, d, hcall, hdiagnoses, rfl⟩
    obtain ⟨e, he, rfl⟩ := (Classifier.diagnoses_answer_iff hcall).1 hdiagnoses
    rw [tally?, hcall, Option.map_some, he]
    rfl
  · intro h
    obtain ⟨f, hcall, htally⟩ := Option.map_eq_some_iff.1 h
    cases he : f.event? with
    | some e =>
        rw [he] at htally
        obtain ⟨rfl, rfl⟩ := Tally.classified.inj htally
        exact ⟨rfl, f, _, hcall, (Classifier.diagnoses_answer_iff hcall).2 ⟨e, he, rfl⟩, rfl⟩
    | none =>
        rw [he] at htally
        cases htally

theorem Step.refuses_iff {s : Step} {dialect : String} :
    s.Refuses dialect ↔ s.tally? = some (.refused dialect) := by
  constructor
  · rintro ⟨rfl, f, hcall, hrefuses⟩
    have he := (Classifier.refuses_answer_iff hcall).1 hrefuses
    rw [tally?, hcall, Option.map_some, he]
    rfl
  · intro h
    obtain ⟨f, hcall, htally⟩ := Option.map_eq_some_iff.1 h
    cases he : f.event? with
    | some e =>
        rw [he] at htally
        cases htally
    | none =>
        rw [he] at htally
        obtain rfl := Tally.refused.inj htally
        exact ⟨rfl, f, hcall, (Classifier.refuses_answer_iff hcall).2 he⟩

instance (s : Step) (dialect kind : String) : Decidable (s.Diagnoses dialect kind) :=
  decidable_of_iff _ Step.diagnoses_iff.symm

instance (s : Step) (dialect : String) : Decidable (s.Refuses dialect) :=
  decidable_of_iff _ Step.refuses_iff.symm

/-- The step is one of those the counter counts. -/
def Step.CountedBy (s : Step) : Tally → Prop
  | .classified dialect kind => s.Diagnoses dialect kind
  | .refused dialect => s.Refuses dialect

instance (s : Step) : (t : Tally) → Decidable (s.CountedBy t)
  | .classified dialect kind => inferInstanceAs (Decidable (s.Diagnoses dialect kind))
  | .refused dialect => inferInstanceAs (Decidable (s.Refuses dialect))

theorem Step.countedBy_iff {s : Step} {t : Tally} : s.CountedBy t ↔ s.tally? = some t := by
  cases t with
  | classified dialect kind => exact Step.diagnoses_iff
  | refused dialect => exact Step.refuses_iff

/-- What a step reports has a counter once if the counter counts the step. -/
theorem Step.count_tallies (s : Step) (t : Tally) :
    s.tallies.count t = if s.CountedBy t then 1 else 0 := by
  rw [tallies_eq_toList]
  cases h : s.tally? with
  | none =>
      have hnot : ¬ s.CountedBy t := by simp [countedBy_iff, h]
      rw [if_neg hnot]
      rfl
  | some u =>
      simp only [countedBy_iff, h, Option.some.injEq, Option.toList_some, List.count_singleton,
        beq_iff_eq]

/-! ### What a run of steps counts -/

theorem countersAfter_eq_bumpAll (steps : List Step) (counters : Counters) :
    countersAfter counters steps = counters.bumpAll (steps.flatMap Step.tallies) := by
  induction steps generalizing counters with
  | nil => rfl
  | cons s rest ih =>
      rw [List.flatMap_cons, Counters.bumpAll_append]
      exact ih (counters.bumpAll s.tallies)

theorem count_flatMap_tallies (steps : List Step) (t : Tally) :
    (steps.flatMap Step.tallies).count t = steps.countP (·.CountedBy t) := by
  induction steps with
  | nil => rfl
  | cons s rest ih =>
      rw [List.flatMap_cons, List.count_append, ih, s.count_tallies, List.countP_cons, Nat.add_comm]
      simp only [decide_eq_true_eq]

/-- A counter is there once a step was counted, and stands at the number of such steps. -/
theorem get?_countersAfter_eq_some_iff {steps : List Step} {t : Tally} {n : Nat} :
    (countersAfter .none steps).get? t = some n ↔ n = steps.countP (·.CountedBy t) ∧ 0 < n := by
  rw [countersAfter_eq_bumpAll, Counters.get?_bumpAll, count_flatMap_tallies]
  by_cases h : steps.countP (·.CountedBy t) = 0
  · rw [if_pos h, h]
    constructor
    · exact nofun
    · rintro ⟨rfl, hpos⟩
      cases hpos
  · rw [if_neg h]
    constructor
    · intro hn
      have hcount : 0 + steps.countP (·.CountedBy t) = n := Option.some.inj hn
      omega
    · rintro ⟨rfl, -⟩
      show some (0 + _) = some _
      rw [Nat.zero_add]

/-- Each step reports the counters of the session up to it. -/
theorem map_counters_run (steps : List Step) (counters : Counters) :
    (run counters steps).map (·.counters) = steps.inits.tail.map (countersAfter counters) := by
  induction steps generalizing counters with
  | nil => rfl
  | cons s rest ih =>
      have hrest : rest.inits = [] :: rest.inits.tail := by cases rest <;> rfl
      rw [List.inits_cons, List.tail_cons, List.map_map, hrest, List.map_cons]
      exact congrArg (_ :: ·) (ih (counters.bumpAll s.tallies))

/-- The counters of a session: each by its name and labels, with the number of steps it
counts, which is not zero. -/
inductive Counted (steps : List Step) : String → List (String × String) → Nat → Prop
  | diagnosed {n : Nat} (dialect kind : String)
      (hn : n = steps.countP (·.Diagnoses dialect kind)) (hpos : 0 < n) :
      Counted steps "db_error_translations_total" [("dialect", dialect), ("kind", kind)] n
  | refused {n : Nat} (dialect : String)
      (hn : n = steps.countP (·.Refuses dialect)) (hpos : 0 < n) :
      Counted steps "db_error_translation_rejections_total" [("dialect", dialect)] n

/-- **The counters of a session count its diagnoses and its refusals, and nothing else.**  The
order of the steps does not matter, and steps that only ask leave the counters alone. -/
theorem counted_countersAfter (steps : List Step) :
    (∀ name labels n,
        (∃ t, (t, n) ∈ (countersAfter .none steps).entries ∧ t.name = name ∧ t.labels = labels) ↔
          Counted steps name labels n) ∧
      (∀ reordered, steps.Perm reordered →
        countersAfter .none reordered = countersAfter .none steps) ∧
      (∀ c call before after, call.failure? = none →
        countersAfter .none (before ++ ⟨c, call⟩ :: after) =
          countersAfter .none (before ++ after)) ∧
      (run .none steps).map (·.counters) = steps.inits.tail.map (countersAfter .none) := by
  refine ⟨?_, ?_, ?_, map_counters_run steps .none⟩
  · intro name labels n
    constructor
    · rintro ⟨t, hmem, rfl, rfl⟩
      obtain ⟨hn, hpos⟩ :=
        get?_countersAfter_eq_some_iff.1 (OrderedMap.get?_eq_some_iff.2 hmem)
      cases t with
      | classified dialect kind => exact .diagnosed dialect kind hn hpos
      | refused dialect => exact .refused dialect hn hpos
    · intro h
      cases h with
      | diagnosed dialect kind hn hpos =>
          refine ⟨.classified dialect kind, ?_, rfl, rfl⟩
          exact OrderedMap.get?_eq_some_iff.1 (get?_countersAfter_eq_some_iff.2 ⟨hn, hpos⟩)
      | refused dialect hn hpos =>
          refine ⟨.refused dialect, ?_, rfl, rfl⟩
          exact OrderedMap.get?_eq_some_iff.1 (get?_countersAfter_eq_some_iff.2 ⟨hn, hpos⟩)
  · intro reordered h
    rw [countersAfter_eq_bumpAll, countersAfter_eq_bumpAll]
    exact Counters.bumpAll_eq_of_perm .none (h.symm.flatMap_right Step.tallies)
  · intro c call before after hcall
    have hnone : Step.tallies ⟨c, call⟩ = [] := Classifier.tallies_answer_of_no_failure hcall
    rw [countersAfter_eq_bumpAll, countersAfter_eq_bumpAll, List.flatMap_append,
      List.flatMap_append, List.flatMap_cons, hnone, List.nil_append]

/-- Two classifiers of one dialect count into one counter, whichever is asked first. -/
theorem counted_countersAfter_one_dialect :
    let e : Event := .ofFields [(.code, "28000")]
    let first : Step := ⟨⟨"main", "pk_", true⟩, .classifyOrPass e⟩
    let second : Step := ⟨⟨"main", "", false⟩, .classifyEvent e⟩
    let asked : Step := ⟨⟨"main", "", false⟩, .accepts e⟩
    [first, second, asked].Perm [second, first, asked] ∧ asked.call.failure? = none ∧
      countersAfter .none [second, first, asked] = countersAfter .none [first, second] ∧
      ∃ t, (t, 2) ∈ (countersAfter .none [first, second, asked]).entries ∧
        t.name = "db_error_translations_total" ∧
        t.labels = [("dialect", "main"), ("kind", "authorization")] := by
  intro e first second asked
  have hperm : [first, second, asked].Perm [second, first, asked] := .swap ..
  obtain ⟨hcounted, hreordered, hasked, -⟩ := counted_countersAfter [first, second, asked]
  refine ⟨hperm, rfl, ?_, ?_⟩
  · rw [hreordered _ hperm]
    exact hasked asked.classifier asked.call [first, second] [] rfl
  · refine (hcounted _ _ _).2 (.diagnosed "main" "authorization" ?_ ?_)
    · decide
    · decide

end Session

end PgTriage
