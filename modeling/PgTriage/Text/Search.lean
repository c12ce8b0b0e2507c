/-
Cutting a text at a mark.

The scans over server texts are built from three cuts: before the last mark on a line
that passes a test on what follows it, before the first occurrence of a word on a line,
and at every separator.  A line ends at a line feed only.
-/
namespace PgTriage.Text

/--
What stands before the last `mark` of the line, of those marks whose continuation passes
`ok`.  The continuation is all the text after the mark, across lines.
-/
def beforeLast (mark : Char) (ok : List Char → Bool) : List Char → Option (List Char)
  | [] => none
  | c :: rest =>
    if c = '\n' then none
    else
      match beforeLast mark ok rest with
      | some run => some (c :: run)
      | none => if c = mark ∧ ok rest = true then some [] else none

/-- The text on either side of the first occurrence of `word` that starts on this line. -/
def cutAt (word : List Char) : List Char → Option (List Char × List Char)
  | [] => none
  | c :: rest =>
    match word.isPrefixOf? (c :: rest) with
    | some after => some ([], after)
    | none =>
      if c = '\n' then none
      else (cutAt word rest).map fun (before, after) => (c :: before, after)

/-- The result at the leftmost place where `f` has one for the text from there on. -/
def findFrom? {α : Type} (f : List Char → Option α) : List Char → Option α
  | [] => f []
  | c :: rest =>
    match f (c :: rest) with
    | some a => some a
    | none => findFrom? f rest

/-- The pieces between separators, one more than there are separators. -/
def splitAt (separator : Char) : List Char → List (List Char)
  | [] => [[]]
  | c :: rest =>
    if c = separator then [] :: splitAt separator rest
    else
      match splitAt separator rest with
      | [] => [[c]]
      | piece :: pieces => (c :: piece) :: pieces

/-- What stands before the first `mark` and what stands after it. -/
def splitFirst? {α : Type} [DecidableEq α] (mark : α) : List α → Option (List α × List α)
  | [] => none
  | a :: rest =>
    if a = mark then some ([], rest)
    else (splitFirst? mark rest).map fun (before, after) => (a :: before, after)

theorem splitFirst?_eq_some_iff {α : Type} [DecidableEq α] {mark : α} {l before after : List α} :
    splitFirst? mark l = some (before, after) ↔ l = before ++ mark :: after ∧ mark ∉ before := by
  induction l generalizing before with
  | nil => simp [splitFirst?]
  | cons a rest ih =>
    by_cases h : a = mark
    · subst h
      cases before with
      | nil => simp [splitFirst?, eq_comm]
      | cons b before =>
        simp only [splitFirst?, if_true, Option.some.injEq, Prod.mk.injEq, List.cons_append,
          List.cons.injEq, List.mem_cons, not_or]
        constructor
        · rintro ⟨hnil, _⟩; simp at hnil
        · rintro ⟨⟨rfl, _⟩, hne, _⟩; exact absurd rfl hne
    · cases before with
      | nil => simp [splitFirst?, h]
      | cons b before =>
        simp only [splitFirst?, if_neg h, Option.map_eq_some_iff, Prod.mk.injEq, Prod.exists,
          List.cons_append, List.cons.injEq, List.mem_cons, not_or]
        constructor
        · rintro ⟨x, y, hxy, ⟨rfl, rfl⟩, rfl⟩
          obtain ⟨rfl, hx⟩ := ih.1 hxy
          exact ⟨⟨rfl, rfl⟩, fun e => h e.symm, hx⟩
        · rintro ⟨⟨rfl, rfl⟩, _, hb⟩
          exact ⟨before, after, ih.2 ⟨rfl, hb⟩, ⟨rfl, rfl⟩, rfl⟩

theorem splitFirst?_eq_none_iff {α : Type} [DecidableEq α] {mark : α} {l : List α} :
    splitFirst? mark l = none ↔ mark ∉ l := by
  induction l with
  | nil => simp [splitFirst?]
  | cons a rest ih =>
    by_cases h : a = mark
    · simp [splitFirst?, h]
    · simp [splitFirst?, h, ih, Ne.symm h]

end PgTriage.Text
