/-
The text a message says is no UUID.

The message is read as a pattern: one of two openings, which end in a quote, then any
characters of the line, then a quote.  Where it can be read in several ways the leftmost
one counts, and of those that begin there the longest.  The two openings never stand at
one place, so trying them in order loses nothing, and what follows an opening is read up
to the last quote of the line.
-/
import Mathlib.Data.List.Basic
import PgTriage.Classifier.Rules
import PgTriage.Proofs.Text.Search

namespace PgTriage.Rule

/-- The words before the text and the quote that opens it, with what the server says of its
kind. -/
def openingWith (kind : String) : String := "invalid input syntax for " ++ kind ++ "uuid: \""

/-- What servers say of the kind; the older ones say nothing. -/
def uuidKinds : List String := ["type ", ""]

/-- The characters are an opening, the captured ones, which stay on the line, and a quote. -/
def ReadsUuid (cs captured : List Char) : Prop :=
  '\n' ∉ captured ∧
    ∃ kind ∈ uuidKinds, ∃ after, cs = (openingWith kind).toList ++ captured ++ '"' :: after

/-- No reading that begins here captures more. -/
def ReadsMost (cs captured : List Char) : Prop :=
  ReadsUuid cs captured ∧ ∀ other, ReadsUuid cs other → other.length ≤ captured.length

/-- The leftmost place where the message can be read captures these characters at most. -/
def CapturesUuid (message captured : List Char) : Prop :=
  ∃ before rest, message = before ++ rest ∧ ReadsMost rest captured ∧
    ∀ before' rest' other, message = before' ++ rest' → ReadsUuid rest' other →
      before.length ≤ before'.length

theorem uuidKind_unique {kind kind' : String} {rest rest' : List Char}
    (h : kind ∈ uuidKinds) (h' : kind' ∈ uuidKinds)
    (heq : (openingWith kind).toList ++ rest = (openingWith kind').toList ++ rest') :
    kind = kind' := by
  have hfree : ∀ s ∈ uuidKinds, ∀ t ∈ uuidKinds,
      (openingWith s).toList <+: (openingWith t).toList → s = t := by decide
  rcases List.prefix_or_prefix_of_prefix (List.prefix_append (openingWith kind).toList rest)
    (heq ▸ List.prefix_append (openingWith kind').toList rest') with hp | hp
  · exact hfree kind h kind' h' hp
  · exact (hfree kind' h' kind h hp).symm

/-- After an opening, a reading is a run that ends at a quote. -/
theorem readsUuid_append_iff {kind : String} (h : kind ∈ uuidKinds) {rest captured : List Char} :
    ReadsUuid ((openingWith kind).toList ++ rest) captured ↔
      Text.EndsAtMark '"' (fun _ => true) rest captured := by
  constructor
  · intro hreads
    obtain ⟨hline, kind', h', after, heq⟩ := hreads
    rw [List.append_assoc] at heq
    obtain rfl := uuidKind_unique h h' heq
    exact ⟨hline, after, List.append_cancel_left heq, rfl⟩
  · intro hends
    obtain ⟨hline, after, hrest, _⟩ := hends
    exact ⟨hline, kind, h, after, by rw [hrest, List.append_assoc]⟩

theorem readsMost_append_iff {kind : String} (h : kind ∈ uuidKinds) {rest captured : List Char} :
    ReadsMost ((openingWith kind).toList ++ rest) captured ↔
      Text.EndsAtLastMark '"' (fun _ => true) rest captured := by
  simp only [ReadsMost, readsUuid_append_iff h, Text.EndsAtLastMark]

theorem ReadsUuid.exists_opening {cs captured : List Char} (h : ReadsUuid cs captured) :
    ∃ kind ∈ uuidKinds, ∃ rest, cs = (openingWith kind).toList ++ rest := by
  obtain ⟨_, kind, hkind, after, hcs⟩ := h
  exact ⟨kind, hkind, captured ++ '"' :: after, by rw [hcs, List.append_assoc]⟩

/-! ### What the search finds -/

theorem uuidOpenings_eq : uuidOpenings = uuidKinds.map openingWith := by decide

/-- The openings are tried in the order of the kinds. -/
theorem uuidLiteralHere?_eq (cs : List Char) :
    uuidLiteralHere? cs = uuidKinds.findSome? fun kind =>
      ((openingWith kind).toList.isPrefixOf? cs).bind (Text.beforeLast '"' fun _ => true) := by
  rw [uuidLiteralHere?, uuidOpenings_eq, List.findSome?_map]
  rfl

theorem readsMost_of_uuidLiteralHere? {cs captured : List Char}
    (h : uuidLiteralHere? cs = some captured) : ReadsMost cs captured := by
  rw [uuidLiteralHere?_eq] at h
  obtain ⟨kind, hkind, hbind⟩ := List.exists_of_findSome?_eq_some h
  obtain ⟨rest, hrest, hrun⟩ := Option.bind_eq_some_iff.1 hbind
  rw [List.isPrefixOf?_eq_some_iff_append_eq] at hrest
  rw [← hrest, readsMost_append_iff hkind]
  exact (Text.beforeLast_eq_some_iff (by decide)).1 hrun

theorem uuidLiteralHere?_eq_none_iff {cs : List Char} :
    uuidLiteralHere? cs = none ↔ ∀ captured, ¬ ReadsUuid cs captured := by
  constructor
  · intro h captured hreads
    obtain ⟨kind, hkind, rest, rfl⟩ := hreads.exists_opening
    rw [uuidLiteralHere?_eq] at h
    have hnone := List.findSome?_eq_none_iff.1 h kind hkind
    rw [List.isPrefixOf?_eq_some_iff_append_eq.2 rfl, Option.bind_some,
      Text.beforeLast_eq_none_iff (by decide)] at hnone
    exact hnone captured ((readsUuid_append_iff hkind).1 hreads)
  · intro h
    cases hfound : uuidLiteralHere? cs with
    | none => rfl
    | some captured => exact absurd (readsMost_of_uuidLiteralHere? hfound).1 (h captured)

theorem uuidLiteralHere?_eq_some_iff {cs captured : List Char} :
    uuidLiteralHere? cs = some captured ↔ ReadsMost cs captured := by
  refine ⟨readsMost_of_uuidLiteralHere?, fun h => ?_⟩
  cases hfound : uuidLiteralHere? cs with
  | none => exact absurd h.1 (uuidLiteralHere?_eq_none_iff.1 hfound captured)
  | some other =>
      have hother := readsMost_of_uuidLiteralHere? hfound
      obtain ⟨kind, hkind, rest, rfl⟩ := h.1.exists_opening
      rw [readsMost_append_iff hkind] at h hother
      rw [hother.unique h]

/-- The search captures what the leftmost of the longest readings does. -/
theorem uuidLiteral?_eq_some_iff {message value : String} :
    uuidLiteral? message = some value ↔ CapturesUuid message.toList value.toList := by
  have hfound : uuidLiteral? message = some value ↔
      Text.findFrom? uuidLiteralHere? message.toList = some value.toList := by
    rw [uuidLiteral?, Option.map_eq_some_iff]
    constructor
    · intro h
      obtain ⟨captured, h, hvalue⟩ := h
      rw [← hvalue, String.toList_ofList, h]
    · intro h
      exact ⟨value.toList, h, String.ofList_toList⟩
  rw [hfound, Text.findFrom?_eq_some_iff]
  constructor
  · intro h
    obtain ⟨before, ⟨rest, hcs, hhere⟩, hfirst⟩ := h
    refine ⟨before, rest, hcs, uuidLiteralHere?_eq_some_iff.1 hhere, ?_⟩
    intro before' rest' other hcs' hreads
    cases hsome : uuidLiteralHere? rest' with
    | none => exact absurd hreads (uuidLiteralHere?_eq_none_iff.1 hsome other)
    | some captured => exact hfirst before' captured ⟨rest', hcs', hsome⟩
  · intro h
    obtain ⟨before, rest, hcs, hmost, hfirst⟩ := h
    refine ⟨before, ⟨rest, hcs, uuidLiteralHere?_eq_some_iff.2 hmost⟩, ?_⟩
    intro before' captured ⟨rest', hcs', hhere⟩
    exact hfirst before' rest' captured hcs' (uuidLiteralHere?_eq_some_iff.1 hhere).1

example : uuidLiteral? "invalid input syntax for type uuid: \"a\"b\" at 7" = some "a\"b" := by
  decide +kernel

end PgTriage.Rule
