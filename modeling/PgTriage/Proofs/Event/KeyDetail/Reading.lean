/-
What a key detail tells.

A detail is read once from left to right: the columns are cut off at the first `)=(` that
leaves them a character, and the values run from there to a closing parenthesis of the same
line, the last that a blank follows or, where none does, the last at all.

The same groups come of two patterns tried one after the other, of which the first asks for
a blank after the values.  Among the ways a pattern fits, the shortest columns count, and
then the longest values.  Reading once is enough because a later `)=(` gains nothing: what
can be read after it can be read after the first one as well, with the text in between made
part of the values.  So the first `)=(` decides both patterns, and they differ only in where
the values end.
-/
import PgTriage.Event.KeyDetail
import PgTriage.Proofs.Diagnosis.InvalidValues
import PgTriage.Proofs.Text.Blank
import PgTriage.Proofs.Text.Search

namespace PgTriage.KeyDetail

variable {detail : String} {g : Groups} {rest columns values after columns' after' run : List Char}
  {ok : List Char → Bool}

/-! ### The parts of a detail -/

/-- What stands between the columns and the values. -/
def divider : List Char := [')', '=', '(']

/-- After blank characters the detail begins with `Key (`, and this is the rest. -/
def Opens (detail : String) (rest : List Char) : Prop :=
  ∃ blanks, (∀ c ∈ blanks, Text.isBlank c = true) ∧
    detail.toList = blanks ++ ("Key (".toList ++ rest)

/-- At least one character of the line, then the divider, then the rest. -/
def Divides (rest columns after : List Char) : Prop :=
  Text.CutsAt divider rest columns after ∧ columns ≠ []

/-- No column group is shorter. -/
def DividesFirst (rest columns after : List Char) : Prop :=
  Divides rest columns after ∧
    ∀ columns' after', Divides rest columns' after' → columns.length ≤ columns'.length

/-- A blank character comes next. -/
def blankNext (rest : List Char) : Bool := rest.head?.any Text.isBlank

/-- The values: up to the last closing parenthesis of the line that a blank follows, or, where
there is no such, up to the last of the line. -/
inductive ValueGroup (after : List Char) : List Char → Prop where
  | beforeBlank {values : List Char} (h : Text.EndsAtLastMark ')' blankNext after values) :
      ValueGroup after values
  | last {values : List Char} (hnone : ∀ run, ¬ Text.EndsAtMark ')' blankNext after run)
      (h : Text.EndsAtLastMark ')' (fun _ => true) after values) : ValueGroup after values

/-- The groups of the detail. -/
def HasGroups (detail : String) (g : Groups) : Prop :=
  ∃ rest after, Opens detail rest ∧ DividesFirst rest g.columns after ∧ ValueGroup after g.values

/-- The texts between the commas of a group, trimmed. -/
def Tokens (group : List Char) (tokens : List String) : Prop :=
  ∃ pieces, Text.PiecesOf ',' group pieces ∧
    tokens = pieces.map fun piece => Text.trim (.ofList piece)

/-- What the detail tells: the columns with their values if both groups have the same number of
entries, and nothing otherwise. -/
inductive Tells (detail : String) : InvalidValues → Prop where
  | pairs {g : Groups} {columns values : List String} {told : InvalidValues}
      (hgroups : HasGroups detail g) (hcolumns : Tokens g.columns columns)
      (hvalues : Tokens g.values values) (hlength : columns.length = values.length)
      (hgathers : InvalidValues.Gathers (columns.zip values) told) : Tells detail told
  | uneven {g : Groups} {columns values : List String} (hgroups : HasGroups detail g)
      (hcolumns : Tokens g.columns columns) (hvalues : Tokens g.values values)
      (hlength : columns.length ≠ values.length) : Tells detail .empty
  | noGroups (hnone : ∀ g, ¬ HasGroups detail g) : Tells detail .empty

/-! ### Reading once -/

theorem opens_iff :
    Opens detail rest ↔
      "Key (".toList.isPrefixOf? (detail.toList.dropWhile Text.isBlank) = some rest := by
  rw [List.isPrefixOf?_eq_some_iff_append_eq]
  constructor
  · intro h
    obtain ⟨blanks, hblanks, htext⟩ := h
    rw [htext, List.dropWhile_append_of_pos hblanks]
    rfl
  · intro h
    refine ⟨detail.toList.takeWhile Text.isBlank, fun c => List.mem_takeWhile_imp, ?_⟩
    rw [h, List.takeWhile_append_dropWhile]

theorem divides_cons_iff {c : Char} :
    Divides (c :: rest) columns after ↔
      ∃ tail, columns = c :: tail ∧ c ≠ '\n' ∧ Text.CutsAt divider rest tail after := by
  rw [Divides, Text.cutsAt_cons_iff]
  constructor
  · rintro ⟨⟨rfl, -⟩ | h, hne⟩
    · exact absurd rfl hne
    · exact h
  · rintro ⟨tail, rfl, h⟩
    exact ⟨.inr ⟨tail, rfl, h⟩, List.cons_ne_nil c tail⟩

theorem dividesFirst_cons_iff {c : Char} {tail : List Char} :
    DividesFirst (c :: rest) (c :: tail) after ↔
      c ≠ '\n' ∧ Text.CutsFirst divider rest tail after := by
  simp only [DividesFirst, divides_cons_iff, Text.CutsFirst]
  constructor
  · rintro ⟨⟨tail', htail, hc, hcuts⟩, hfirst⟩
    obtain rfl := (List.cons.inj htail).2
    refine ⟨hc, hcuts, fun before' after' hcuts' => ?_⟩
    simpa using hfirst (c :: before') after' ⟨before', rfl, hc, hcuts'⟩
  · rintro ⟨hc, hcuts, hfirst⟩
    refine ⟨⟨tail, rfl, hc, hcuts⟩, ?_⟩
    rintro _ after' ⟨before', rfl, -, hcuts'⟩
    simpa using hfirst before' after' hcuts'

theorem startsBlank_eq : startsBlank = blankNext := by
  funext rest
  cases rest <;> rfl

theorem valueGroup?_eq_some_iff : valueGroup? after = some values ↔ ValueGroup after values := by
  rw [valueGroup?, startsBlank_eq, Option.or_eq_some_iff, Text.beforeLast_eq_some_iff (by decide),
    Text.beforeLast_eq_none_iff (by decide), Text.beforeLast_eq_some_iff (by decide)]
  constructor
  · rintro (h | ⟨hnone, h⟩)
    · exact .beforeBlank h
    · exact .last hnone h
  · rintro (h | ⟨hnone, h⟩)
    · exact .inl h
    · exact .inr ⟨hnone, h⟩

theorem groupsFrom?_eq_some_iff :
    groupsFrom? rest = some g ↔
      ∃ after, DividesFirst rest g.columns after ∧ ValueGroup after g.values := by
  obtain ⟨columns, values⟩ := g
  cases rest with
  | nil => simp [groupsFrom?, DividesFirst, Divides, Text.CutsAt, divider]
  | cons c rest =>
      rw [groupsFrom?]
      by_cases hc : c = '\n'
      · simp [hc, DividesFirst, divides_cons_iff]
      · rw [if_neg hc]
        simp only [Option.bind_eq_some_iff, Option.map_eq_some_iff, Prod.exists,
          valueGroup?_eq_some_iff, Groups.mk.injEq]
        constructor
        · rintro ⟨tail, after, hcut, values', hvalues, rfl, rfl⟩
          rw [← divider, Text.cutAt_eq_some_iff (by decide)] at hcut
          exact ⟨after, dividesFirst_cons_iff.2 ⟨hc, hcut⟩, hvalues⟩
        · rintro ⟨after, hfirst, hvalues⟩
          obtain ⟨tail, rfl, -, -⟩ := divides_cons_iff.1 hfirst.1
          refine ⟨tail, after, ?_, values, hvalues, rfl, rfl⟩
          rw [← divider, Text.cutAt_eq_some_iff (by decide)]
          exact (dividesFirst_cons_iff.1 hfirst).2

theorem groups?_eq_some_iff : groups? detail = some g ↔ HasGroups detail g := by
  rw [groups?, Option.bind_eq_some_iff, HasGroups]
  refine exists_congr fun rest => ?_
  rw [← opens_iff, groupsFrom?_eq_some_iff]
  exact (exists_and_left).symm

theorem groups?_eq_none_iff : groups? detail = none ↔ ∀ g, ¬ HasGroups detail g := by
  rw [Option.eq_none_iff_forall_ne_some]
  exact forall_congr' fun _ => not_congr groups?_eq_some_iff

theorem tokens_iff {group : List Char} {tokens : List String} :
    Tokens group tokens ↔ tokens = entries group := by
  have hentries : entries group =
      (Text.splitAt ',' group).map fun piece => Text.trim (.ofList piece) := by
    simp only [entries, Text.trim, String.toList_ofList]
  simp only [Tokens, Text.piecesOf_iff, exists_eq_left, hentries]

theorem tells_iff {told : InvalidValues} : Tells detail told ↔ told = parse (some detail) := by
  rw [parse, Option.bind_some]
  cases hgroups : groups? detail with
  | none =>
      have hnone := groups?_eq_none_iff.1 hgroups
      constructor
      · rintro (⟨h, -⟩ | ⟨h, -⟩ | -)
        · exact absurd h (hnone _)
        · exact absurd h (hnone _)
        · rfl
      · rintro rfl
        exact .noGroups hnone
  | some g =>
      have hg := groups?_eq_some_iff.1 hgroups
      have hunique : ∀ g', HasGroups detail g' → g' = g := fun g' h =>
        Option.some.inj ((groups?_eq_some_iff.2 h).symm.trans hgroups)
      show Tells detail told ↔ told =
        if (entries g.columns).length = (entries g.values).length then
          .ofList ((entries g.columns).zip (entries g.values)) else .empty
      constructor
      · intro h
        cases h with
        | pairs h hcolumns hvalues hlength hgathers =>
            obtain rfl := hunique _ h
            rw [tokens_iff] at hcolumns hvalues
            subst hcolumns hvalues
            rw [if_pos hlength, InvalidValues.gathers_iff.1 hgathers]
        | uneven h hcolumns hvalues hlength =>
            obtain rfl := hunique _ h
            rw [tokens_iff] at hcolumns hvalues
            subst hcolumns hvalues
            rw [if_neg hlength]
        | noGroups hnone => exact absurd hg (hnone g)
      · rintro rfl
        by_cases hlength : (entries g.columns).length = (entries g.values).length
        · rw [if_pos hlength]
          exact .pairs hg (tokens_iff.2 rfl) (tokens_iff.2 rfl) hlength
            (InvalidValues.gathers_ofList _)
        · rw [if_neg hlength]
          exact .uneven hg (tokens_iff.2 rfl) (tokens_iff.2 rfl) hlength

/-- The detail has both groups, and they have the same number of entries. -/
def TellsPairs (detail : Option String) : Prop :=
  ∃ text g columns values, detail = some text ∧ HasGroups text g ∧ Tokens g.columns columns ∧
    Tokens g.values values ∧ columns.length = values.length

theorem tellsPairs_iff {detail : Option String} :
    TellsPairs detail ↔ ∃ g, detail.bind groups? = some g ∧
      (entries g.columns).length = (entries g.values).length := by
  simp only [TellsPairs, tokens_iff, ← groups?_eq_some_iff, Option.bind_eq_some_iff]
  constructor
  · rintro ⟨text, g, _, _, hdetail, hgroups, rfl, rfl, hlength⟩
    exact ⟨g, ⟨text, hdetail, hgroups⟩, hlength⟩
  · rintro ⟨g, ⟨text, hdetail, hgroups⟩, hlength⟩
    exact ⟨text, g, _, _, hdetail, hgroups, rfl, rfl, hlength⟩

/-- Reading finds nothing, or it pairs the entries of two groups. -/
theorem parse_cases (detail : Option String) :
    (¬ TellsPairs detail ∧ parse detail = .empty) ∨
      ∃ text g, detail = some text ∧ HasGroups text g ∧
        (entries g.columns).length = (entries g.values).length ∧
        parse detail = .ofList ((entries g.columns).zip (entries g.values)) := by
  rw [tellsPairs_iff, parse]
  cases hfound : detail.bind groups? with
  | none => exact .inl ⟨by simp, rfl⟩
  | some g =>
      obtain ⟨text, hdetail, hgroups⟩ := Option.bind_eq_some_iff.1 hfound
      by_cases hlength : (entries g.columns).length = (entries g.values).length
      · exact .inr ⟨text, g, hdetail, groups?_eq_some_iff.1 hgroups, hlength, if_pos hlength⟩
      · exact .inl ⟨by simpa using hlength, if_neg hlength⟩

/-! ### Trying two patterns -/

/-- A pattern fits: the values end at a closing parenthesis whose continuation passes the test. -/
def Fits (ok : List Char → Bool) (detail : String) (g : Groups) : Prop :=
  ∃ rest after, Opens detail rest ∧ Divides rest g.columns after ∧
    Text.EndsAtMark ')' ok after g.values

/-- The pattern fits so, and of all the ways it does the columns are shortest, and of those the
values longest. -/
def FitsBest (ok : List Char → Bool) (detail : String) (g : Groups) : Prop :=
  Fits ok detail g ∧ ∀ g', Fits ok detail g' → g.columns.length < g'.columns.length ∨
    g.columns.length = g'.columns.length ∧ g'.values.length ≤ g.values.length

/-- The pattern that asks for a blank is tried first. -/
inductive Captures (detail : String) (g : Groups) : Prop where
  | first (h : FitsBest blankNext detail g)
  | second (hnone : ∀ g', ¬ Fits blankNext detail g')
      (h : FitsBest (fun _ => true) detail g)

theorem Opens.unique {rest' : List Char} (h : Opens detail rest) (h' : Opens detail rest') :
    rest = rest' :=
  Option.some.inj ((opens_iff.1 h).symm.trans (opens_iff.1 h'))

theorem Divides.after_eq (h : Divides rest columns after) (h' : Divides rest columns' after')
    (hlength : columns.length = columns'.length) : columns = columns' ∧ after = after' := by
  have htext := h.1.1.symm.trans h'.1.1
  rw [List.append_assoc, List.append_assoc] at htext
  obtain ⟨hcolumns, hafter⟩ := List.append_inj htext hlength
  exact ⟨hcolumns, List.append_cancel_left hafter⟩

/-- What can be read after a later divider can be read after an earlier one. -/
theorem Divides.exists_endsAtMark (h : Divides rest columns after)
    (h' : Divides rest columns' after') (hlength : columns.length ≤ columns'.length)
    (hends : Text.EndsAtMark ')' ok after' run) : ∃ run', Text.EndsAtMark ')' ok after run' := by
  obtain ⟨hline, more, hafter', hok⟩ := hends
  have htext : columns ++ (divider ++ after) = columns' ++ (divider ++ after') := by
    rw [← List.append_assoc, ← List.append_assoc, ← h.1.1, ← h'.1.1]
  -- The text from the one divider to the end of the other is no shorter than a divider.
  obtain ⟨gap, hgap⟩ : columns <+: columns' :=
    List.prefix_of_prefix_length_le (htext ▸ List.prefix_append columns _)
      (List.prefix_append columns' _) hlength
  rw [← hgap, List.append_assoc, ← List.append_assoc gap] at htext
  have hrest := List.append_cancel_left htext
  obtain ⟨between, hbetween⟩ : divider <+: gap ++ divider :=
    List.prefix_of_prefix_length_le (hrest ▸ List.prefix_append divider _)
      (List.prefix_append (gap ++ divider) _) (by simp)
  rw [← hbetween, List.append_assoc] at hrest
  refine ⟨between ++ run, ?_, more, ?_, hok⟩
  · have hcolumns' : '\n' ∉ columns' := h'.1.2
    rw [← hgap, List.mem_append, not_or] at hcolumns'
    have hboth : '\n' ∉ gap ++ divider := by
      rw [List.mem_append, not_or]
      exact ⟨hcolumns'.2, by decide⟩
    rw [← hbetween, List.mem_append, not_or] at hboth
    rw [List.mem_append, not_or]
    exact ⟨hboth.2, hline⟩
  · rw [List.append_cancel_left hrest, hafter', List.append_assoc]

/-- Shortest columns come of the first divider, and the values that go with them are the longest
to be read after it. -/
theorem fitsBest_iff :
    FitsBest ok detail g ↔ ∃ rest after, Opens detail rest ∧ DividesFirst rest g.columns after ∧
      Text.EndsAtLastMark ')' ok after g.values := by
  constructor
  · rintro ⟨⟨rest, after, hopens, hdivides, hends⟩, hbest⟩
    refine ⟨rest, after, hopens, ⟨hdivides, ?_⟩, hends, ?_⟩
    · intro columns' after' hdivides'
      rcases Nat.le_total g.columns.length columns'.length with hle | hle
      · exact hle
      · obtain ⟨run, hrun⟩ := hdivides'.exists_endsAtMark hdivides hle hends
        rcases hbest ⟨columns', run⟩ ⟨rest, after', hopens, hdivides', hrun⟩ with hlt | heq
        · exact Nat.le_of_lt hlt
        · exact Nat.le_of_eq heq.1
    · intro other hother
      rcases hbest ⟨g.columns, other⟩ ⟨rest, after, hopens, hdivides, hother⟩ with hlt | heq
      · exact absurd hlt (Nat.lt_irrefl _)
      · exact heq.2
  · rintro ⟨rest, after, hopens, ⟨hdivides, hfirst⟩, hends, hlongest⟩
    refine ⟨⟨rest, after, hopens, hdivides, hends⟩, ?_⟩
    rintro g' ⟨rest', after', hopens', hdivides', hends'⟩
    obtain rfl := hopens.unique hopens'
    rcases Nat.lt_or_eq_of_le (hfirst _ _ hdivides') with hlt | heq
    · exact .inl hlt
    · obtain ⟨-, rfl⟩ := hdivides.after_eq hdivides' heq
      exact .inr ⟨heq, hlongest _ hends'⟩

/-- After the first divider nothing can be read that passes the test exactly where no way fits. -/
theorem DividesFirst.forall_not_fits_iff (h : DividesFirst rest columns after)
    (hopens : Opens detail rest) :
    (∀ g, ¬ Fits ok detail g) ↔ ∀ run, ¬ Text.EndsAtMark ')' ok after run := by
  constructor
  · intro hnone run hrun
    exact hnone ⟨columns, run⟩ ⟨rest, after, hopens, h.1, hrun⟩
  · rintro hnone g ⟨rest', after', hopens', hdivides', hends'⟩
    obtain rfl := hopens.unique hopens'
    obtain ⟨run, hrun⟩ := h.1.exists_endsAtMark hdivides' (h.2 _ _ hdivides') hends'
    exact hnone run hrun

/-- Reading once finds what the two patterns capture. -/
theorem hasGroups_iff_captures : HasGroups detail g ↔ Captures detail g := by
  constructor
  · rintro ⟨rest, after, hopens, hfirst, hblank | ⟨hnone, hlast⟩⟩
    · exact .first (fitsBest_iff.2 ⟨rest, after, hopens, hfirst, hblank⟩)
    · exact .second ((hfirst.forall_not_fits_iff hopens).2 hnone)
        (fitsBest_iff.2 ⟨rest, after, hopens, hfirst, hlast⟩)
  · rintro (h | ⟨hnone, h⟩)
    · obtain ⟨rest, after, hopens, hfirst, hblank⟩ := fitsBest_iff.1 h
      exact ⟨rest, after, hopens, hfirst, .beforeBlank hblank⟩
    · obtain ⟨rest, after, hopens, hfirst, hlast⟩ := fitsBest_iff.1 h
      exact ⟨rest, after, hopens, hfirst,
        .last ((hfirst.forall_not_fits_iff hopens).1 hnone) hlast⟩

/-- **A detail is read in one pass as its parts are described, and as the two patterns capture
them.**  Every detail tells something, if only an empty list; an absent one tells nothing, and
the columns are those of the values that are told. -/
theorem parse_eq_iff_tells :
    (∀ detail told, parse (some detail) = told ↔ Tells detail told) ∧
      (∀ detail g, HasGroups detail g ↔ Captures detail g) ∧
      parse none = .empty ∧ ∀ detail, KeyDetail.columns detail = (parse detail).columns := by
  refine ⟨fun detail told => ?_, fun _ _ => hasGroups_iff_captures, rfl, fun _ => rfl⟩
  rw [tells_iff, eq_comm]

-- A divider among the values, and parentheses before and after the one that ends them.
example :
    (parse (some "Key (a, b)=(1)=(2), (x) y) of (z)")).entries =
      [("a", "1)=(2)"), ("b", "(x) y")] := by
  decide +kernel

end PgTriage.KeyDetail
