/-
Which name a text mentions first.

The scan goes over the text place by place and remembers of what it has passed only whether
the last character belongs to a word.  That is all there is to know: a keyword counts where
a word begins, at the beginning of the text or after a character of no word.  At one place
there is one name at most, for it runs from the first double quote on to the second.  So
the name that is found is the one mentioned at the leftmost place, and a keyword whose quotes
are empty or not closed is no mention at all.
-/
import Mathlib.Data.List.Basic
import Mathlib.Data.List.TakeDrop
import Mathlib.Data.List.TakeWhile
import PgTriage.Text.QuotedName
import PgTriage.Text.Search

namespace PgTriage.Text

variable {keywords : List String} {inWord : Bool} {cs before name other : List Char}

/-- The text begins with a keyword, a space and a name in double quotes. -/
def NameAfter (keywords : List String) (cs name : List Char) : Prop :=
  ∃ keyword ∈ keywords, ∃ after,
    cs = keyword.toList ++ ' ' :: '"' :: (name ++ '"' :: after) ∧ name ≠ [] ∧ '"' ∉ name

/-- After these characters a word begins, a keyword, and it gives a name.  `inWord` says whether
a word goes on where there are no such characters. -/
def MentionsFrom (keywords : List String) (inWord : Bool) (cs before name : List Char) : Prop :=
  (before.getLast?.map isWord).getD inWord = false ∧
    ∃ rest, cs = before ++ rest ∧ NameAfter keywords rest name

/-- After these characters of the text a name is mentioned. -/
def Mentions (keywords : List String) (cs before name : List Char) : Prop :=
  (∀ c ∈ before.getLast?, isWord c = false) ∧
    ∃ rest, cs = before ++ rest ∧ NameAfter keywords rest name

/-- A name is mentioned in the text, and none at a place further left. -/
def MentionsFirst (keywords : List String) (s name : String) : Prop :=
  ∃ before, Mentions keywords s.toList before name.toList ∧
    ∀ before' other, Mentions keywords s.toList before' other → before.length ≤ before'.length

/-! ### The name at one place -/

theorem closedName?_eq_some_iff :
    closedName? cs = some name ↔ name ≠ [] ∧ '"' ∉ name ∧ ∃ after, cs = name ++ '"' :: after := by
  rw [closedName?, List.span_eq_takeWhile_dropWhile]
  constructor
  · intro h
    have hcs := List.takeWhile_append_dropWhile (p := (· != '"')) (l := cs)
    have hclosing := List.head?_dropWhile_not (· != '"') cs
    have hrun : '"' ∉ cs.takeWhile (· != '"') := fun hmem => by
      simpa using List.mem_takeWhile_imp hmem
    cases htake : cs.takeWhile (· != '"') with
    | nil => simp [htake] at h
    | cons c run =>
        cases hdrop : cs.dropWhile (· != '"') with
        | nil => simp [htake, hdrop] at h
        | cons d after =>
            simp only [htake, hdrop, Option.some.injEq] at h
            obtain rfl : d = '"' := by simpa [hdrop] using hclosing
            rw [htake, hdrop, h] at hcs
            rw [htake, h] at hrun
            exact ⟨h ▸ List.cons_ne_nil c run, hrun, after, hcs.symm⟩
  · rintro ⟨hne, hrun, after, rfl⟩
    have hall : ∀ c ∈ name, (c != '"') = true := by
      intro c hc
      rw [bne_iff_ne]
      rintro rfl
      exact hrun hc
    obtain ⟨c, run, rfl⟩ := List.exists_cons_of_ne_nil hne
    rw [List.takeWhile_append_of_pos hall, List.dropWhile_append_of_pos hall]
    simp

/-- No keyword has a quote in it, so the name stands between the first quote and the second. -/
theorem NameAfter.unique (hkeywords : ∀ keyword ∈ keywords, '"' ∉ keyword.toList)
    (h : NameAfter keywords cs name) (h' : NameAfter keywords cs other) : name = other := by
  have hquotes : ∀ {n}, NameAfter keywords cs n → ∃ opening rest after,
      splitFirst? '"' cs = some (opening, rest) ∧ splitFirst? '"' rest = some (n, after) := by
    rintro n ⟨keyword, hkeyword, after, hcs, -, hn⟩
    refine ⟨keyword.toList ++ [' '], n ++ '"' :: after, after, ?_, ?_⟩
    · refine splitFirst?_eq_some_iff.2 ⟨by rw [hcs, List.append_assoc]; rfl, ?_⟩
      simpa using hkeywords keyword hkeyword
    · exact splitFirst?_eq_some_iff.2 ⟨rfl, hn⟩
  obtain ⟨opening, rest, after, hopening, hname⟩ := hquotes h
  obtain ⟨opening', rest', after', hopening', hother⟩ := hquotes h'
  obtain ⟨-, rfl⟩ := Prod.mk.inj (Option.some.inj (hopening.symm.trans hopening'))
  exact (Prod.mk.inj (Option.some.inj (hname.symm.trans hother))).1

theorem nameAfter_of_nameAfter? (h : nameAfter? keywords cs = some name) :
    NameAfter keywords cs name := by
  obtain ⟨keyword, hkeyword, hbind⟩ := List.exists_of_findSome?_eq_some h
  obtain ⟨rest, hrest, hclosed⟩ := Option.bind_eq_some_iff.1 hbind
  obtain ⟨hne, hname, after, rfl⟩ := closedName?_eq_some_iff.1 hclosed
  rw [List.isPrefixOf?_eq_some_iff_append_eq, List.append_assoc] at hrest
  exact ⟨keyword, hkeyword, after, hrest.symm, hne, hname⟩

theorem nameAfter?_eq_none_iff :
    nameAfter? keywords cs = none ↔ ∀ name, ¬ NameAfter keywords cs name := by
  constructor
  · rintro h name ⟨keyword, hkeyword, after, rfl, hne, hname⟩
    have hnone := List.findSome?_eq_none_iff.1 h keyword hkeyword
    have hstart : (keyword.toList ++ [' ', '"']).isPrefixOf?
        (keyword.toList ++ ' ' :: '"' :: (name ++ '"' :: after)) = some (name ++ '"' :: after) := by
      rw [List.isPrefixOf?_eq_some_iff_append_eq, List.append_assoc]
      rfl
    rw [hstart, Option.bind_some, closedName?_eq_some_iff.2 ⟨hne, hname, after, rfl⟩] at hnone
    cases hnone
  · intro h
    cases hfound : nameAfter? keywords cs with
    | none => rfl
    | some name => exact absurd (nameAfter_of_nameAfter? hfound) (h name)

/-! ### The leftmost place -/

theorem not_mentionsFrom_nil : ¬ MentionsFrom keywords inWord [] before name := by
  rintro ⟨-, rest, hcs, keyword, -, after, rfl, -⟩
  simp at hcs

theorem mentionsFrom_cons_iff {c : Char} :
    MentionsFrom keywords inWord (c :: cs) before name ↔
      (before = [] ∧ inWord = false ∧ NameAfter keywords (c :: cs) name) ∨
        ∃ tail, before = c :: tail ∧ MentionsFrom keywords (isWord c) cs tail name := by
  have hlast : ∀ tail : List Char, ((c :: tail).getLast?.map isWord).getD inWord =
      (tail.getLast?.map isWord).getD (isWord c) := by
    intro tail
    rw [List.getLast?_cons]
    cases tail.getLast? <;> rfl
  constructor
  · rintro ⟨hword, rest, hcs, hname⟩
    cases before with
    | nil =>
        rw [List.nil_append] at hcs
        exact .inl ⟨rfl, hword, hcs ▸ hname⟩
    | cons d tail =>
        rw [List.cons_append, List.cons.injEq] at hcs
        obtain ⟨rfl, rfl⟩ := hcs
        exact .inr ⟨tail, rfl, hlast tail ▸ hword, rest, rfl, hname⟩
  · rintro (⟨rfl, hword, hname⟩ | ⟨tail, rfl, hword, rest, rfl, hname⟩)
    · exact ⟨hword, c :: cs, rfl, hname⟩
    · exact ⟨(hlast tail).trans hword, rest, rfl, hname⟩

theorem nameHere?_eq_none_iff :
    (if inWord then none else nameAfter? keywords cs) = none ↔
      (inWord = false → ∀ name, ¬ NameAfter keywords cs name) := by
  cases inWord with
  | true => simp
  | false => simp [nameAfter?_eq_none_iff]

theorem findNameFrom_eq_none_iff :
    findNameFrom keywords inWord cs = none ↔
      ∀ before name, ¬ MentionsFrom keywords inWord cs before name := by
  induction cs generalizing inWord with
  | nil => exact iff_of_true rfl fun _ _ => not_mentionsFrom_nil
  | cons c cs ih =>
      simp only [mentionsFrom_cons_iff, not_or, not_and, not_exists]
      unfold findNameFrom
      cases hhere : if inWord then none else nameAfter? keywords (c :: cs) with
      | some name =>
          simp only [reduceCtorEq, false_iff]
          intro hall
          have hnone := nameHere?_eq_none_iff.2 fun hword name => (hall [] name).1 rfl hword
          rw [hhere] at hnone
          cases hnone
      | none =>
          simp only [ih]
          constructor
          · intro hall before name
            refine ⟨fun _ hword => nameHere?_eq_none_iff.1 hhere hword name, ?_⟩
            exact fun tail _ => hall tail name
          · exact fun hall before name => (hall (c :: before) name).2 before rfl

theorem exists_mentionsFrom_of_findNameFrom (h : findNameFrom keywords inWord cs = some name) :
    ∃ before, MentionsFrom keywords inWord cs before name ∧
      ∀ before' other, MentionsFrom keywords inWord cs before' other →
        before.length ≤ before'.length := by
  induction cs generalizing inWord with
  | nil => simp [findNameFrom] at h
  | cons c cs ih =>
      unfold findNameFrom at h
      cases hhere : if inWord then none else nameAfter? keywords (c :: cs) with
      | some found =>
          simp only [hhere, Option.some.injEq] at h
          subst h
          rw [Option.ite_none_left_eq_some, Bool.not_eq_true] at hhere
          obtain ⟨hword, hname⟩ := hhere
          refine ⟨[], ?_, fun _ _ _ => Nat.zero_le _⟩
          exact mentionsFrom_cons_iff.2 (.inl ⟨rfl, hword, nameAfter_of_nameAfter? hname⟩)
      | none =>
          simp only [hhere] at h
          obtain ⟨before, hmentions, hfirst⟩ := ih h
          refine ⟨c :: before, mentionsFrom_cons_iff.2 (.inr ⟨before, rfl, hmentions⟩), ?_⟩
          intro before' other hother
          rcases mentionsFrom_cons_iff.1 hother with ⟨-, hword, hname⟩ | ⟨tail, rfl, htail⟩
          · exact absurd hname (nameHere?_eq_none_iff.1 hhere hword other)
          · simpa using hfirst tail other htail

/-! ### From quote to quote -/

/-- A keyword begins a word of these characters and ends them, but for a space. -/
def announces (keywords : List String) (inWord : Bool) : List Char → Bool
  | [] => false
  | c :: cs =>
    (!inWord && keywords.any fun keyword => keyword.toList ++ [' '] == c :: cs) ||
      announces keywords (isWord c) cs

theorem exists_suffix_of_announces (h : announces keywords inWord cs = true) :
    ∃ keyword ∈ keywords, keyword.toList ++ [' '] <:+ cs := by
  induction cs generalizing inWord with
  | nil => cases h
  | cons c cs ih =>
      rw [announces, Bool.or_eq_true, Bool.and_eq_true, List.any_eq_true] at h
      rcases h with ⟨-, keyword, hkeyword, heq⟩ | h
      · exact ⟨keyword, hkeyword, beq_iff_eq.1 heq ▸ List.suffix_rfl⟩
      · obtain ⟨keyword, hkeyword, hsuffix⟩ := ih h
        exact ⟨keyword, hkeyword, hsuffix.trans (List.suffix_cons c cs)⟩

theorem announces_eq_false (h : ∀ keyword ∈ keywords, ¬ keyword.toList ++ [' '] <:+ cs) :
    announces keywords inWord cs = false := by
  rw [← Bool.not_eq_true]
  intro hannounces
  obtain ⟨keyword, hkeyword, hsuffix⟩ := exists_suffix_of_announces hannounces
  exact h keyword hkeyword hsuffix

theorem closedName?_eq_none (h : '"' ∉ cs) : closedName? cs = none := by
  cases hclosed : closedName? cs with
  | none => rfl
  | some name =>
      obtain ⟨-, -, after, rfl⟩ := closedName?_eq_some_iff.1 hclosed
      simp at h

theorem findNameFrom_eq_none (h : '"' ∉ cs) : findNameFrom keywords inWord cs = none := by
  rw [findNameFrom_eq_none_iff]
  rintro before name ⟨-, rest, rfl, keyword, -, after, rfl, -⟩
  simp at h

/-- A keyword and its space stand before the first quote, or no name is here. -/
theorem nameAfter_append_quote_iff (hkeywords : ∀ keyword ∈ keywords, '"' ∉ keyword.toList)
    {q : List Char} (hq : '"' ∉ q) (rest : List Char) :
    NameAfter keywords (q ++ '"' :: rest) name ↔
      (∃ keyword ∈ keywords, keyword.toList ++ [' '] = q) ∧ closedName? rest = some name := by
  rw [closedName?_eq_some_iff]
  constructor
  · rintro ⟨keyword, hkeyword, after, hcs, hne, hname⟩
    have hquote : '"' ∉ keyword.toList ++ [' '] := by simpa using hkeywords keyword hkeyword
    have hcs' : q ++ '"' :: rest =
        (keyword.toList ++ [' ']) ++ '"' :: (name ++ '"' :: after) := by simpa using hcs
    obtain ⟨hopening, hrest⟩ := Prod.mk.inj (Option.some.inj
      ((splitFirst?_eq_some_iff.2 ⟨rfl, hq⟩).symm.trans
        (splitFirst?_eq_some_iff.2 ⟨hcs', hquote⟩)))
    exact ⟨⟨keyword, hkeyword, hopening.symm⟩, hne, hname, after, hrest⟩
  · rintro ⟨⟨keyword, hkeyword, rfl⟩, hne, hname, after, rfl⟩
    exact ⟨keyword, hkeyword, after, by simp, hne, hname⟩

theorem nameAfter?_append_quote (hkeywords : ∀ keyword ∈ keywords, '"' ∉ keyword.toList)
    {q : List Char} (hq : '"' ∉ q) (rest : List Char) :
    nameAfter? keywords (q ++ '"' :: rest) =
      if keywords.any fun keyword => keyword.toList ++ [' '] == q then closedName? rest
      else none := by
  have hany : (keywords.any fun keyword => keyword.toList ++ [' '] == q) = true ↔
      ∃ keyword ∈ keywords, keyword.toList ++ [' '] = q := by
    simp only [List.any_eq_true, beq_iff_eq]
  cases hfound : nameAfter? keywords (q ++ '"' :: rest) with
  | some name =>
      obtain ⟨hkeyword, hclosed⟩ :=
        (nameAfter_append_quote_iff hkeywords hq rest).1 (nameAfter_of_nameAfter? hfound)
      rw [if_pos (hany.2 hkeyword), hclosed]
  | none =>
      symm
      rw [ite_eq_right_iff, hany, Option.eq_none_iff_forall_ne_some]
      intro hkeyword name hclosed
      exact nameAfter?_eq_none_iff.1 hfound name
        ((nameAfter_append_quote_iff hkeywords hq rest).2 ⟨hkeyword, hclosed⟩)

/-- What the scan finds after a quote depends on what comes before only by whether a keyword
announces a name there. -/
theorem findNameFrom_append_quote (hkeywords : ∀ keyword ∈ keywords, '"' ∉ keyword.toList)
    {q : List Char} (hq : '"' ∉ q) (rest : List Char) :
    findNameFrom keywords inWord (q ++ '"' :: rest) =
      (if announces keywords inWord q then closedName? rest else none).or
        (findNameFrom keywords false rest) := by
  induction q generalizing inWord with
  | nil =>
      have hhere : nameAfter? keywords ('"' :: rest) = none := by
        rw [← List.nil_append ('"' :: rest), nameAfter?_append_quote hkeywords hq]
        simp
      have hword : isWord '"' = false := by decide
      simp [findNameFrom, announces, hhere, hword]
  | cons c q ih =>
      have hhere := nameAfter?_append_quote hkeywords hq rest
      rw [List.mem_cons, not_or] at hq
      rw [List.cons_append] at hhere ⊢
      rw [findNameFrom, ih hq.2, hhere, announces]
      cases inWord with
      | true => simp
      | false =>
          cases keywords.any fun keyword => keyword.toList ++ [' '] == c :: q with
          | false => simp
          | true => cases closedName? rest <;> simp

theorem findNameFrom_of_announces (hkeywords : ∀ keyword ∈ keywords, '"' ∉ keyword.toList)
    {q : List Char} (hq : '"' ∉ q) (h : announces keywords inWord q = true) (hne : name ≠ [])
    (hname : '"' ∉ name) (rest : List Char) :
    findNameFrom keywords inWord (q ++ '"' :: (name ++ '"' :: rest)) = some name := by
  rw [findNameFrom_append_quote hkeywords hq, if_pos h,
    closedName?_eq_some_iff.2 ⟨hne, hname, rest, rfl⟩, Option.some_or]

theorem findNameFrom_of_not_announces (hkeywords : ∀ keyword ∈ keywords, '"' ∉ keyword.toList)
    {q : List Char} (hq : '"' ∉ q) (h : announces keywords inWord q = false) (rest : List Char) :
    findNameFrom keywords inWord (q ++ '"' :: rest) = findNameFrom keywords false rest := by
  rw [findNameFrom_append_quote hkeywords hq, h, if_neg Bool.false_ne_true, Option.none_or]

/-- A quote that no other follows opens no name. -/
theorem findNameFrom_of_last_quote (hkeywords : ∀ keyword ∈ keywords, '"' ∉ keyword.toList)
    {q rest : List Char} (hq : '"' ∉ q) (hrest : '"' ∉ rest) :
    findNameFrom keywords inWord (q ++ '"' :: rest) = none := by
  rw [findNameFrom_append_quote hkeywords hq, closedName?_eq_none hrest,
    findNameFrom_eq_none hrest, ite_self, Option.none_or]

/-! ### The first name of a text -/

theorem mentionsFrom_false_iff :
    MentionsFrom keywords false cs before name ↔ Mentions keywords cs before name := by
  rw [MentionsFrom, Mentions]
  cases before.getLast? <;> simp

theorem MentionsFirst.unique (hkeywords : ∀ keyword ∈ keywords, '"' ∉ keyword.toList)
    {s found found' : String} (h : MentionsFirst keywords s found)
    (h' : MentionsFirst keywords s found') : found = found' := by
  obtain ⟨before, hmentions, hfirst⟩ := h
  obtain ⟨before', hmentions', hfirst'⟩ := h'
  have hlength := Nat.le_antisymm (hfirst _ _ hmentions') (hfirst' _ _ hmentions)
  obtain ⟨-, rest, hcs, hname⟩ := hmentions
  obtain ⟨-, rest', hcs', hname'⟩ := hmentions'
  obtain ⟨-, rfl⟩ := List.append_inj (hcs.symm.trans hcs') hlength
  exact String.toList_inj.1 (hname.unique hkeywords hname')

theorem findName?_eq_none_iff {s : String} :
    findName? keywords s = none ↔ ∀ before name, ¬ Mentions keywords s.toList before name := by
  simp only [findName?, Option.map_eq_none_iff, findNameFrom_eq_none_iff, mentionsFrom_false_iff]

/-- The scan finds the name that is mentioned first. -/
theorem findName?_eq_some_iff (hkeywords : ∀ keyword ∈ keywords, '"' ∉ keyword.toList)
    {s found : String} : findName? keywords s = some found ↔ MentionsFirst keywords s found := by
  have hsound : ∀ {n}, findName? keywords s = some n → MentionsFirst keywords s n := by
    intro n h
    obtain ⟨name, hname, rfl⟩ := Option.map_eq_some_iff.1 h
    simpa [MentionsFirst, mentionsFrom_false_iff] using exists_mentionsFrom_of_findNameFrom hname
  refine ⟨hsound, fun h => ?_⟩
  cases hfound : findName? keywords s with
  | none =>
      obtain ⟨before, hmentions, -⟩ := h
      exact absurd hmentions (findName?_eq_none_iff.1 hfound before _)
  | some n => rw [(hsound hfound).unique hkeywords h]

end PgTriage.Text
