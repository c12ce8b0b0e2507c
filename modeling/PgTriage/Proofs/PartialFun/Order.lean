/-
Which part of the order of a choice matters.

Two functions that are never defined at the same input can be tried in either order.  So
the order of a whole list of functions matters only between those that overlap, and a list
that is put into another order answers alike as long as it turns round no two functions
that are both defined at the input.

The induction takes the first function of the one list and looks for it in the other.  If
it is defined there, nothing before it is, for it was turned round with all of that.  If it
is not, it can be left out of both lists.  What is seen comes out alike only if a function
without a value is not seen either; a watched function would be seen to be passed over.
-/
import Mathlib.Data.Set.Basic
import PgTriage.Proofs.PartialFun.Choice

namespace PgTriage.PartialFun

variable {ω α β : Type}

/-- Where the function is defined. -/
def domain (f : PartialFun ω α β) : Set α := {x | (f.isDefinedAt x).value = true}

theorem mem_domain_iff {f : PartialFun ω α β} {x : α} :
    x ∈ f.domain ↔ (f.isDefinedAt x).value = true :=
  Iff.rfl

/-- A function is not seen where it has no value. -/
def UnseenWithoutValue (f : PartialFun ω α β) : Prop :=
  ∀ x, (f.tryApply x).value = none → (f.tryApply x).trace = []

theorem Coherent.mem_domain_iff_isSome {f : PartialFun ω α β} (hf : f.Coherent) {x : α} :
    x ∈ f.domain ↔ (f.tryApply x).value.isSome = true := by
  rw [mem_domain_iff, hf.isDefinedAt_eq]

theorem Coherent.not_mem_domain_iff {f : PartialFun ω α β} (hf : f.Coherent) {x : α} :
    x ∉ f.domain ↔ (f.tryApply x).value = none := by
  rw [hf.mem_domain_iff_isSome, Option.not_isSome_iff_eq_none]

theorem ChoiceOf.mem_domain_iff {fs : List (PartialFun ω α β)} {chain : PartialFun ω α β}
    (h : ChoiceOf fs chain) {x : α} : x ∈ chain.domain ↔ ∃ f ∈ fs, x ∈ f.domain := by
  rw [PartialFun.mem_domain_iff, h.value_isDefinedAt, List.any_eq_true]
  exact Iff.rfl

theorem ChoiceOf.testsUnseen {fs : List (PartialFun ω α β)} {chain : PartialFun ω α β}
    (h : ChoiceOf fs chain) (hfs : ∀ f ∈ fs, f.TestsUnseen) : chain.TestsUnseen :=
  h.has hfs fun _ _ hf hg => hf.orElse hg

/-- Functions whose tests are not seen are told apart by their values alone. -/
theorem Coherent.eq_of_tryApply_eq {f g : PartialFun ω α β} (hf : f.Coherent) (hg : g.Coherent)
    (hfTests : f.TestsUnseen) (hgTests : g.TestsUnseen)
    (h : ∀ x, f.tryApply x = g.tryApply x) : f = g := by
  have htests : f.isDefinedAt = g.isDefinedAt := by
    funext x
    refine Traced.ext' ?_ ?_
    · rw [hf.isDefinedAt_eq, hg.isDefinedAt_eq, h]
    · rw [hfTests x, hgTests x]
  have happly : f.apply = g.apply := by
    funext x
    rw [hf.apply_eq, hg.apply_eq, h]
  have htry : f.tryApply = g.tryApply := funext h
  obtain ⟨_, _, _⟩ := f
  obtain ⟨_, _, _⟩ := g
  simp_all

/-! ### Passing functions over -/

theorem tryEach_cons_of_some {f : PartialFun ω α β} {x : α} {y : β}
    (hf : (f.tryApply x).value = some y) (rest : List (PartialFun ω α β)) :
    tryEach (f :: rest) x = f.tryApply x := by
  refine Traced.ext' ?_ ?_
  · rw [value_tryEach_cons, hf, Option.some_or]
  · rw [trace_tryEach_cons, hf]
    exact List.append_nil _

theorem tryEach_cons_of_none {f : PartialFun ω α β} {x : α} (hf : (f.tryApply x).value = none)
    (hunseen : (f.tryApply x).trace = []) (rest : List (PartialFun ω α β)) :
    tryEach (f :: rest) x = tryEach rest x := by
  refine Traced.ext' ?_ ?_
  · rw [value_tryEach_cons, hf, Option.none_or]
  · rw [trace_tryEach_cons, hf, hunseen]
    rfl

/-- What comes after a list of functions matters as far as it answers. -/
theorem tryEach_append_congr {gs hs : List (PartialFun ω α β)} {x : α}
    (h : tryEach gs x = tryEach hs x) (fs : List (PartialFun ω α β)) :
    tryEach (fs ++ gs) x = tryEach (fs ++ hs) x := by
  refine Traced.ext' ?_ ?_
  · rw [value_tryEach_append, value_tryEach_append, h]
  · rw [trace_tryEach_append, trace_tryEach_append, h]

theorem tryEach_append_of_none {fs : List (PartialFun ω α β)} {x : α}
    (hfs : ∀ f ∈ fs, (f.tryApply x).value = none ∧ (f.tryApply x).trace = [])
    (gs : List (PartialFun ω α β)) : tryEach (fs ++ gs) x = tryEach gs x := by
  induction fs with
  | nil => rfl
  | cons f rest ih =>
      obtain ⟨⟨hvalue, htrace⟩, hrest⟩ := List.forall_mem_cons.1 hfs
      rw [List.cons_append, tryEach_cons_of_none hvalue htrace]
      exact ih hrest

/-! ### Putting functions into another order -/

variable {ι : Type}

theorem pair_sublist_cons_iff {i j k : ι} {rest : List ι} :
    [i, j].Sublist (k :: rest) ↔ [i, j].Sublist rest ∨ i = k ∧ j ∈ rest := by
  rw [List.sublist_cons_iff]
  simp [and_assoc]

/-- Two that come in one order do not come in the other as well. -/
theorem not_sublist_swap {order : List ι} (h : order.Nodup) {i j : ι}
    (hij : [i, j].Sublist order) : ¬ [j, i].Sublist order := by
  induction order with
  | nil => simp at hij
  | cons k rest ih =>
      obtain ⟨hk, hrest⟩ := List.nodup_cons.1 h
      intro hji
      rcases pair_sublist_cons_iff.1 hij with hijRest | ⟨rfl, hj⟩
      · rcases pair_sublist_cons_iff.1 hji with hjiRest | ⟨rfl, -⟩
        · exact ih hrest hijRest hjiRest
        · exact hk (hijRest.mem (by simp))
      · rcases pair_sublist_cons_iff.1 hji with hjiRest | ⟨rfl, hi⟩
        · exact hk (hjiRest.mem (by simp))
        · exact hk hi

/-- The last one comes before none. -/
theorem not_sublist_of_last {first : List ι} {i : ι} (h : (first ++ [i]).Nodup) (j : ι) :
    ¬ [i, j].Sublist (first ++ [i]) := by
  have hlast : i ∉ first.reverse := by
    rw [List.mem_reverse]
    intro hmem
    exact (List.nodup_append.1 h).2.2 i hmem i (List.mem_singleton_self i) rfl
  intro hij
  have hreverse : [j, i].Sublist (i :: first.reverse) := by simpa using hij.reverse
  rcases pair_sublist_cons_iff.1 hreverse with hrest | ⟨-, hi⟩
  · exact hlast (hrest.mem (by simp))
  · exact hlast hi

/-- **Only the order of functions that overlap matters.**  The names in another order stand for
functions that answer alike at `x`, as long as no two are turned round that are both defined
there. -/
theorem tryEach_eq_of_perm {f : ι → PartialFun ω α β} (hcoherent : ∀ i, (f i).Coherent)
    (hunseen : ∀ i, (f i).UnseenWithoutValue) {x : α} {order order' : List ι}
    (hperm : order.Perm order')
    (hturned : ∀ i j, [i, j].Sublist order → [j, i].Sublist order' → x ∈ (f i).domain →
      x ∉ (f j).domain) :
    tryEach (order.map f) x = tryEach (order'.map f) x := by
  induction order generalizing order' with
  | nil =>
      obtain rfl := hperm.nil_eq
      rfl
  | cons i rest ih =>
      obtain ⟨before, after, rfl⟩ := List.append_of_mem (hperm.subset List.mem_cons_self)
      have hrest : rest.Perm (before ++ after) :=
        (hperm.trans List.perm_middle).cons_inv
      rw [List.map_cons, List.map_append, List.map_cons]
      cases hi : ((f i).tryApply x).value with
      | some y =>
          have hdefined : x ∈ (f i).domain := by
            rw [(hcoherent i).mem_domain_iff_isSome, hi, Option.isSome_some]
          -- All that comes before `i` in the other order was turned round with it.
          have hbefore : ∀ g ∈ before.map f,
              (g.tryApply x).value = none ∧ (g.tryApply x).trace = [] := by
            intro g hg
            obtain ⟨j, hj, rfl⟩ := List.mem_map.1 hg
            have hmem : j ∈ rest := hrest.mem_iff.2 (List.mem_append_left after hj)
            have hji : [j, i].Sublist (before ++ i :: after) :=
              (List.singleton_sublist.2 hj).append (List.singleton_sublist.2 List.mem_cons_self)
            have hnot := hturned i j ((List.singleton_sublist.2 hmem).cons_cons i) hji hdefined
            have hnone := (hcoherent j).not_mem_domain_iff.1 hnot
            exact ⟨hnone, hunseen j x hnone⟩
          rw [tryEach_append_of_none hbefore, tryEach_cons_of_some hi, tryEach_cons_of_some hi]
      | none =>
          -- Passing `i` over in both lists leaves what the induction hypothesis is about.
          have hpassed := tryEach_cons_of_none hi (hunseen i x hi)
          have hturnedRest : ∀ j k, [j, k].Sublist rest → [k, j].Sublist (before ++ after) →
              x ∈ (f j).domain → x ∉ (f k).domain := by
            intro j k hjk hkj
            have hkj' := hkj.trans ((List.sublist_cons_self i after).append_left before)
            exact hturned j k (hjk.cons i) hkj'
          calc tryEach (f i :: rest.map f) x
              = tryEach (rest.map f) x := hpassed _
            _ = tryEach ((before ++ after).map f) x := ih hrest hturnedRest
            _ = tryEach (before.map f ++ after.map f) x := by rw [List.map_append]
            _ = tryEach (before.map f ++ f i :: after.map f) x :=
                tryEach_append_congr (hpassed _).symm _

end PgTriage.PartialFun
