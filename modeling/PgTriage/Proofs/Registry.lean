/-
What a registry finds.

A registry is built by calls, and each call enters a translator under a list of names.  The
names come down to one list, in the order of the calls and then of each call's own list,
and entering one of them is the step: it binds the name's normal form, unless nothing is
left of the name.  `LatestAt` follows the list from its end in the same way, so a look-up
finds the latest entry whose name has the normal form that is looked for.  Every outcome that
the entries leave a look-up is the one that it gives, so they leave no other.

The normal form is what makes look-ups agree with each other.  It is normal already, so
every name that is listed finds its own entry; it is empty for blank names alone, so the
names that nothing can be registered under are those that look-ups turn away; and it is the
same for names that differ in the case of ASCII letters or in the blanks around them.
-/
import PgTriage.Proofs.Entries
import PgTriage.Proofs.OrderedMap
import PgTriage.Proofs.Text.Lowercase
import PgTriage.Proofs.Text.Utf8
import PgTriage.Registry

namespace PgTriage

/-! ### The normal form of a name -/

theorem toList_normalName (name : String) :
    (normalName name).toList = Text.lowerFrom [] (Text.trimChars name.toList) := by
  rw [normalName, Text.lower, Text.trim, String.toList_ofList, String.toList_ofList]

theorem normalName_normalName (name : String) : normalName (normalName name) = normalName name := by
  have htrimmed : Text.Trimmed (normalName name).toList := by
    rw [toList_normalName]
    exact (Text.trimmed_trimChars name.toList).lowerFrom []
  have htrim : Text.trim (normalName name) = normalName name := by
    rw [Text.trim, htrimmed.trimChars_eq, String.ofList_toList]
  have hlower : Text.lower (normalName name) = normalName name := Text.lower_lower _
  rw [normalName, htrim, hlower]

theorem isEmpty_normalName (name : String) : (normalName name).isEmpty = Text.blank name := by
  rw [← Text.isEmpty_trim, Bool.eq_iff_iff, String.isEmpty_iff, String.isEmpty_iff,
    ← String.toList_eq_nil_iff, ← String.toList_eq_nil_iff, toList_normalName,
    Text.lowerFrom_eq_nil_iff, Text.trim, String.toList_ofList]

theorem normalName_eq_empty_iff {name : String} :
    normalName name = "" ↔ Text.blank name = true := by
  rw [← isEmpty_normalName, String.isEmpty_iff]

theorem normalName_ne_empty_iff {name : String} :
    normalName name ≠ "" ↔ Text.blank name = false := by
  rw [Ne, normalName_eq_empty_iff, Bool.not_eq_true]

/-- Names that differ in the case of ASCII letters have one normal form, and are trimmed alike. -/
theorem normalName_eq_of_same {name name' : String} (h : Ascii.same name name' = true) :
    normalName name = normalName name' ∧
      Ascii.same (Text.trim name) (Text.trim name') = true := by
  have hlower : name.toList.map Char.toLower = name'.toList.map Char.toLower := beq_iff_eq.1 h
  have htrim : (Text.trimChars name.toList).map Char.toLower =
      (Text.trimChars name'.toList).map Char.toLower := by
    rw [← Text.trimChars_map Text.isBlank_toLower, hlower,
      Text.trimChars_map Text.isBlank_toLower]
  refine ⟨?_, ?_⟩
  · rw [← String.toList_inj, toList_normalName, toList_normalName,
      ← Text.lowerFrom_map_toLower, htrim, Text.lowerFrom_map_toLower]
  · rw [Ascii.same, Text.trim, Text.trim, String.toList_ofList, String.toList_ofList, htrim]
    exact beq_self_eq_true _

theorem trim_append {before after : String} (hbefore : Text.blank before = true)
    (hafter : Text.blank after = true) (name : String) :
    Text.trim (before ++ name ++ after) = Text.trim name := by
  rw [Text.trim, Text.trim, String.toList_append, String.toList_append,
    Text.trimChars_append (List.all_eq_true.1 hbefore) (List.all_eq_true.1 hafter)]

/-! ### Entering names -/

variable {τ : Type}

/-- A call that registers a translator under names. -/
structure Registration (τ : Type) where
  names : List String
  translator : τ

/-- The names of the calls with their translators, in the order they are entered in. -/
def Registration.entries (calls : List (Registration τ)) : List (String × τ) :=
  calls.flatMap fun call => call.names.map fun name => (name, call.translator)

/-- The latest entry whose name is this key, once it is trimmed and in lower case, is of this
translator. -/
def LatestAt (entries : List (String × τ)) (key : String) (t : τ) : Prop :=
  ∃ before name after, entries = before ++ (name, t) :: after ∧
    Text.lower (Text.trim name) = key ∧ ∀ e ∈ after, Text.lower (Text.trim e.1) ≠ key

theorem latestAt_iff_lastUnder {entries : List (String × τ)} {key : String} {t : τ} :
    LatestAt entries key t ↔ Entries.LastUnder normalName entries key t := Iff.rfl

theorem not_latestAt_nil {key : String} {t : τ} : ¬ LatestAt [] key t :=
  mt latestAt_iff_lastUnder.1 Entries.not_lastUnder_nil

/-- An entry at the end is the latest for the normal form of its name, and for no other. -/
theorem latestAt_concat_iff {entries : List (String × τ)} {e : String × τ} {key : String} {t : τ} :
    LatestAt (entries ++ [e]) key t ↔
      if key = normalName e.1 then t = e.2 else LatestAt entries key t := by
  rw [latestAt_iff_lastUnder, latestAt_iff_lastUnder, Entries.lastUnder_concat_iff]

theorem exists_latestAt_iff {entries : List (String × τ)} {key : String} :
    (∃ t, LatestAt entries key t) ↔ ∃ e ∈ entries, normalName e.1 = key := by
  induction entries using List.reverseRecOn with
  | nil => simp [not_latestAt_nil]
  | append_singleton entries e ih =>
      simp only [latestAt_concat_iff]
      by_cases hkey : key = normalName e.1
      · simp [hkey]
      · have hkey' : ¬ normalName e.1 = key := fun h => hkey h.symm
        simp [hkey, hkey', ih, or_and_right, exists_or]

namespace Registry

section Entering

variable [HasDialect τ]

/-- The registry after the calls, made one after another. -/
def registerAll (r : Registry τ) (calls : List (Registration τ)) : Traced LogEvent (Registry τ) :=
  calls.foldlM (fun r call => r.register call.names call.translator) r

/-- The registry with one more entry. -/
def enter (r : Registry τ) (e : String × τ) : Registry τ := (r.registerName e.1 e.2).value

/-- What the calls come down to are the entries of all of them. -/
theorem value_registerAll (r : Registry τ) (calls : List (Registration τ)) :
    (r.registerAll calls).value = (Registration.entries calls).foldl enter r := by
  simp only [registerAll, register, Traced.value_foldlM, Registration.entries,
    List.foldl_flatMap, List.foldl_map]
  rfl

/-- One entry binds the normal form of its name, unless the name is blank. -/
theorem get?_enter (r : Registry τ) (e : String × τ) (key : String) :
    (r.enter e).translators.get? key =
      if key ≠ "" ∧ key = normalName e.1 then some e.2 else r.translators.get? key := by
  unfold enter registerName
  by_cases hblank : normalName e.1 = ""
  · simp [hblank]
  · have hempty : (normalName e.1).isEmpty = false := by
      rw [← Bool.not_eq_true, String.isEmpty_iff]
      exact hblank
    simp only [hempty]
    show (r.translators.insert (normalName e.1) e.2).get? key = _
    rw [OrderedMap.get?_insert]
    by_cases hkey : key = normalName e.1
    · rw [if_pos hkey, if_pos ⟨hkey ▸ hblank, hkey⟩]
    · rw [if_neg hkey, if_neg fun h => hkey h.2]

/-- A registry that the entries have been entered in binds every key but the empty one to the
translator of its latest entry. -/
def Binds (r : Registry τ) (entries : List (String × τ)) : Prop :=
  ∀ key t, r.translators.get? key = some t ↔ key ≠ "" ∧ LatestAt entries key t

/-- Entering one more keeps the keys bound to their latest entries. -/
theorem Binds.enter {r : Registry τ} {entries : List (String × τ)} (h : r.Binds entries)
    (e : String × τ) : (r.enter e).Binds (entries ++ [e]) := by
  intro key t
  rw [get?_enter, latestAt_concat_iff]
  by_cases hempty : key = ""
  · rw [if_neg fun h => h.1 hempty, h]
    simp [hempty]
  · by_cases hkey : key = normalName e.1
    · rw [if_pos ⟨hempty, hkey⟩, if_pos hkey]
      simp [hempty, eq_comm]
    · rw [if_neg fun h => hkey h.2, if_neg hkey, h]

theorem binds_foldl_enter (entries : List (String × τ)) :
    (entries.foldl enter empty).Binds entries := by
  induction entries using List.reverseRecOn with
  | nil => exact fun key t => by simp [empty, not_latestAt_nil]
  | append_singleton entries e ih =>
      rw [List.foldl_append, List.foldl_cons, List.foldl_nil]
      exact ih.enter e

end Entering

/-! ### Looking names up -/

variable {r : Registry τ} {entries : List (String × τ)}

/-- What looking a name up is to give after the entries. -/
inductive Finds (entries : List (String × τ)) : Option String → Except RegistryError τ → Prop
  | absent : Finds entries none (.error .missingDialect)
  | blank {name : String} (hblank : Text.blank name = true) :
      Finds entries (some name) (.error .missingDialect)
  | latest {name : String} {t : τ} (hblank : Text.blank name = false)
      (hlatest : LatestAt entries (Text.lower (Text.trim name)) t) : Finds entries (some name) (.ok t)
  | unknown {name : String} (hblank : Text.blank name = false)
      (hnone : ∀ e ∈ entries, Text.lower (Text.trim e.1) ≠ Text.lower (Text.trim name)) :
      Finds entries (some name) (.error (.unknownDialect (Text.trim name)))

/-- The outcomes are the same, up to case in the name that nothing is registered under. -/
inductive SameOutcome : Except RegistryError τ → Except RegistryError τ → Prop
  | found (t : τ) : SameOutcome (.ok t) (.ok t)
  | missing : SameOutcome (.error .missingDialect) (.error .missingDialect)
  | unknown {name name' : String} (hsame : Ascii.same name name' = true) :
      SameOutcome (.error (.unknownDialect name)) (.error (.unknownDialect name'))

theorem get_of_blank {name : String} (hblank : Text.blank name = true) :
    r.get (some name) = .error .missingDialect := by
  simp [get, isEmpty_normalName, hblank]

/-- A name that is not blank is looked up by its normal form. -/
theorem get_of_not_blank {name : String} (hblank : Text.blank name = false) :
    r.get (some name) =
      ((r.translators.get? (normalName name)).map .ok).getD
        (.error (.unknownDialect (Text.trim name))) := by
  simp only [get, Option.getD_some, isEmpty_normalName, hblank]
  cases r.translators.get? (normalName name) <;> rfl

/-- Nothing is bound to a key where no name comes to it. -/
theorem Binds.get?_eq_none_iff (h : r.Binds entries) {key : String} (hkey : key ≠ "") :
    r.translators.get? key = none ↔ ∀ e ∈ entries, normalName e.1 ≠ key := by
  have hbound : (∃ t, r.translators.get? key = some t) ↔ ∃ e ∈ entries, normalName e.1 = key := by
    simp only [h key, hkey, ne_eq, not_false_eq_true, true_and, exists_latestAt_iff]
  rw [← not_iff_not, ← Ne, Option.ne_none_iff_exists', hbound]
  simp only [ne_eq, not_forall, not_not, exists_prop]

theorem Binds.finds (h : r.Binds entries) (name? : Option String) :
    Finds entries name? (r.get name?) := by
  cases name? with
  | none => exact .absent
  | some name =>
      cases hblank : Text.blank name with
      | true =>
          rw [get_of_blank hblank]
          exact .blank hblank
      | false =>
          rw [get_of_not_blank hblank]
          cases hget : r.translators.get? (normalName name) with
          | some t => exact .latest hblank ((h _ t).1 hget).2
          | none =>
              have hkey := normalName_ne_empty_iff.2 hblank
              exact .unknown hblank ((h.get?_eq_none_iff hkey).1 hget)

theorem Binds.get_eq_of_finds (h : r.Binds entries) {name? : Option String}
    {o : Except RegistryError τ} (hfinds : Finds entries name? o) : r.get name? = o := by
  cases hfinds with
  | absent => rfl
  | blank hblank => exact get_of_blank hblank
  | latest hblank hlatest =>
      have hkey := normalName_ne_empty_iff.2 hblank
      rw [get_of_not_blank hblank, (h _ _).2 ⟨hkey, hlatest⟩]
      rfl
  | unknown hblank hnone =>
      have hkey := normalName_ne_empty_iff.2 hblank
      rw [get_of_not_blank hblank, (h.get?_eq_none_iff hkey).2 hnone]
      rfl

/-- The entries leave a look-up one outcome, and that is what it gives. -/
theorem Binds.get_eq_iff_finds (h : r.Binds entries) {name? : Option String}
    {o : Except RegistryError τ} : r.get name? = o ↔ Finds entries name? o := by
  constructor
  · rintro rfl
    exact h.finds name?
  · exact h.get_eq_of_finds

theorem contains_iff {name : String} : r.contains name = true ↔ normalName name ∈ r.dialects := by
  rw [contains, dialects, OrderedMap.mem_keys_iff, OrderedMap.contains, Option.isSome_iff_exists]

theorem pairwise_dialects : r.dialects.Pairwise fun a b => Utf8.encode a < Utf8.encode b := by
  refine r.translators.pairwise_keys.imp fun {a b} hlt => ?_
  refine Utf8.encode_lt_encode ?_
  change compareOfLessAndEq a b = .lt at hlt
  rwa [compareOfLessAndEq_eq_lt] at hlt

/-- Names are listed once each, so the registry has as many as another list of the same names. -/
theorem size_eq_of_mem_dialects_iff (names : List String) (hnames : names.Nodup)
    (h : ∀ name, name ∈ r.dialects ↔ name ∈ names) : r.size = names.length := by
  have hsize : r.size = r.dialects.length := (List.length_map _).symm
  have hnodup : r.dialects.Nodup := r.translators.nodup_keys
  rw [hsize]
  exact ((List.perm_ext_iff_of_nodup hnodup hnames).2 h).length_eq

/-- The empty name is never listed: an entry has it for its normal form when its name is blank. -/
theorem Binds.mem_dialects_iff (h : r.Binds entries) {key : String} :
    key ∈ r.dialects ↔ key ≠ "" ∧ ∃ e ∈ entries, normalName e.1 = key := by
  rw [dialects, OrderedMap.mem_keys_iff, ← exists_latestAt_iff, ← exists_and_left]
  exact exists_congr fun t => h key t

theorem Binds.listed_iff (h : r.Binds entries) {name : String} :
    name ∈ r.dialects ↔ ∃ e ∈ entries, Text.blank e.1 = false ∧ normalName e.1 = name := by
  rw [h.mem_dialects_iff]
  constructor
  · intro h
    obtain ⟨hne, e, he, rfl⟩ := h
    exact ⟨e, he, normalName_ne_empty_iff.1 hne, rfl⟩
  · intro h
    obtain ⟨e, he, hblank, rfl⟩ := h
    exact ⟨normalName_ne_empty_iff.2 hblank, e, he, rfl⟩

/-- A listed name is the normal form of a name, so it is its own. -/
theorem Binds.normalName_of_mem (h : r.Binds entries) {name : String} (hname : name ∈ r.dialects) :
    normalName name = name := by
  obtain ⟨e, -, -, rfl⟩ := h.listed_iff.1 hname
  exact normalName_normalName e.1

/-- A look-up succeeds when the normal form of the name is listed. -/
theorem Binds.get_eq_ok_iff (h : r.Binds entries) {name : String} :
    (∃ t, r.get (some name) = .ok t) ↔ normalName name ∈ r.dialects := by
  cases hblank : Text.blank name with
  | true =>
      have hempty : normalName name = "" := normalName_eq_empty_iff.2 hblank
      simp [get_of_blank hblank, h.mem_dialects_iff, hempty]
  | false =>
      rw [get_of_not_blank hblank, dialects, OrderedMap.mem_keys_iff]
      cases r.translators.get? (normalName name) <;> simp

/-- Case and the blanks around a name are of no account. -/
theorem sameOutcome_get {name name' before after : String} (hsame : Ascii.same name name' = true)
    (hbefore : Text.blank before = true) (hafter : Text.blank after = true) :
    SameOutcome (r.get (some name)) (r.get (some (before ++ name' ++ after))) := by
  obtain ⟨hnormal, htrim⟩ := normalName_eq_of_same hsame
  have hnormal' : normalName (before ++ name' ++ after) = normalName name := by
    rw [hnormal, normalName, trim_append hbefore hafter, normalName]
  have hblank' : Text.blank (before ++ name' ++ after) = Text.blank name := by
    rw [← isEmpty_normalName, hnormal', isEmpty_normalName]
  cases hblank : Text.blank name with
  | true =>
      rw [get_of_blank hblank, get_of_blank (hblank'.trans hblank)]
      exact .missing
  | false =>
      rw [get_of_not_blank hblank, get_of_not_blank (hblank'.trans hblank), hnormal',
        trim_append hbefore hafter]
      cases r.translators.get? (normalName name) with
      | some t => exact .found t
      | none => exact .unknown htrim

/-- What a registry shows of the entries it was built from. -/
structure Records (r : Registry τ) (entries : List (String × τ)) : Prop where
  /-- Looking a name up finds the latest entry of its normal form, or tells why there is none, and
  it gives nothing else. -/
  get_eq_iff_finds : ∀ name? o, r.get name? = o ↔ Finds entries name? o
  /-- It contains the names that looking up succeeds for. -/
  contains_iff_get : ∀ name, r.contains name = true ↔ ∃ t, r.get (some name) = .ok t
  /-- The names are listed in the order of their bytes, each of them once. -/
  increasing : r.dialects.Pairwise fun a b => Utf8.encode a < Utf8.encode b
  /-- Listed are the normal forms of the names that are not blank. -/
  listed_iff : ∀ name, name ∈ r.dialects ↔
    ∃ e ∈ entries, Text.blank e.1 = false ∧ Text.lower (Text.trim e.1) = name
  size_eq : r.size = r.dialects.length
  /-- A listed name is in normal form, and finds a translator. -/
  listed_found : ∀ name ∈ r.dialects,
    Text.lower (Text.trim name) = name ∧ ∃ t, r.get (some name) = .ok t
  /-- Names that differ in the case of ASCII letters and in the blanks around them find the same. -/
  alike : ∀ name name' before after, Ascii.same name name' = true → Text.blank before = true →
    Text.blank after = true →
      SameOutcome (r.get (some name)) (r.get (some (before ++ name' ++ after)))

/-- **A registry built by any calls records what they entered.** -/
theorem records_registerAll [HasDialect τ] (calls : List (Registration τ)) :
    (empty.registerAll calls).value.Records (Registration.entries calls) := by
  have hbinds : (empty.registerAll calls).value.Binds (Registration.entries calls) := by
    rw [value_registerAll]
    exact binds_foldl_enter _
  exact {
    get_eq_iff_finds := fun _ _ => hbinds.get_eq_iff_finds
    contains_iff_get := fun _ => contains_iff.trans hbinds.get_eq_ok_iff.symm
    increasing := pairwise_dialects
    listed_iff := fun _ => hbinds.listed_iff
    size_eq := (List.length_map _).symm
    listed_found := fun name hname => by
      have hnormal := hbinds.normalName_of_mem hname
      refine ⟨hnormal, hbinds.get_eq_ok_iff.2 ?_⟩
      rw [hnormal]
      exact hname
    alike := fun _ _ _ _ hsame hbefore hafter => sameOutcome_get hsame hbefore hafter }

end Registry

end PgTriage
