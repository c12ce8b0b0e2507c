/-
How messages tell of malformed UUIDs.

The server says `invalid input syntax for type uuid: `, or leaves out the word `type`, and
quotes the text.  It does not escape quotes in the text, so where the text ends cannot be told
from the quotes alone.  It is taken to run up to the last quote of the line, and the first
place counts where such words and a quote are followed by another quote on the line.  That
gives back every text of one line, whatever quotes it holds, as long as no quote follows it on
the line, because a message that begins with the words has no place before them.
-/
import PgTriage.Proofs.Classifier.RuleOrder

namespace PgTriage.Rule

variable {message before rest captured : List Char}

/-- After these characters the message opens a quoted text, and the line has another quote. -/
def OpensAt (message before rest : List Char) : Prop :=
  (∃ kind ∈ uuidKinds, message = before ++ ((openingWith kind).toList ++ rest)) ∧
    '"' ∈ Text.firstLine rest

/-- The message does so at no place further left. -/
def OpensFirst (message before rest : List Char) : Prop :=
  OpensAt message before rest ∧
    ∀ before' rest', OpensAt message before' rest' → before.length ≤ before'.length

/-- The characters reach up to the last quote of the line. -/
def ReachesLastQuote (rest captured : List Char) : Prop :=
  ∃ after, Text.firstLine rest = captured ++ '"' :: after ∧ '"' ∉ after

/-! ### Readings and openings -/

theorem reachesLastQuote_iff :
    ReachesLastQuote rest captured ↔
      Text.EndsAtLastMark '"' (fun _ => true) rest captured :=
  (Text.endsAtLastMark_iff_firstLine (by decide)).symm

theorem quote_mem_firstLine_iff :
    '"' ∈ Text.firstLine rest ↔ ∃ run, Text.EndsAtMark '"' (fun _ => true) rest run := by
  have hmark : '"' ≠ '\n' := by decide
  simp only [Text.endsAtMark_iff_firstLine hmark, List.mem_iff_append]

/-- Where the message opens a text, it can be read. -/
theorem OpensAt.exists_readsUuid (h : OpensAt message before rest) :
    ∃ kind ∈ uuidKinds, message = before ++ ((openingWith kind).toList ++ rest) ∧
      ∃ run, ReadsUuid ((openingWith kind).toList ++ rest) run := by
  obtain ⟨⟨kind, hkind, hmessage⟩, hquote⟩ := h
  obtain ⟨run, hrun⟩ := quote_mem_firstLine_iff.1 hquote
  exact ⟨kind, hkind, hmessage, run, (readsUuid_append_iff hkind).2 hrun⟩

/-- Where the message can be read, it opens a text. -/
theorem ReadsUuid.exists_opensAt {cs : List Char} (h : ReadsUuid cs captured)
    (hmessage : message = before ++ cs) :
    ∃ kind ∈ uuidKinds, ∃ rest, cs = (openingWith kind).toList ++ rest ∧
      OpensAt message before rest := by
  obtain ⟨kind, hkind, rest, rfl⟩ := h.exists_opening
  have hquote := quote_mem_firstLine_iff.2 ⟨captured, (readsUuid_append_iff hkind).1 h⟩
  exact ⟨kind, hkind, rest, rfl, ⟨kind, hkind, hmessage⟩, hquote⟩

/-- The text runs from the first opening to the last quote of the line. -/
theorem capturesUuid_iff :
    CapturesUuid message captured ↔
      ∃ before rest, OpensFirst message before rest ∧ ReachesLastQuote rest captured := by
  constructor
  · intro h
    obtain ⟨before, cs, hmessage, hmost, hfirst⟩ := h
    obtain ⟨kind, hkind, rest, rfl, hopens⟩ := hmost.1.exists_opensAt hmessage
    refine ⟨before, rest, ⟨hopens, ?_⟩, ?_⟩
    · intro before' rest' hopens'
      obtain ⟨kind', -, hmessage', run, hrun⟩ := hopens'.exists_readsUuid
      exact hfirst before' _ run hmessage' hrun
    · exact reachesLastQuote_iff.2 ((readsMost_append_iff hkind).1 hmost)
  · intro h
    obtain ⟨before, rest, ⟨hopens, hfirst⟩, hlast⟩ := h
    obtain ⟨kind, hkind, hmessage, -⟩ := hopens.exists_readsUuid
    refine ⟨before, (openingWith kind).toList ++ rest, hmessage, ?_, ?_⟩
    · exact (readsMost_append_iff hkind).2 (reachesLastQuote_iff.1 hlast)
    · intro before' cs' run hmessage' hrun
      obtain ⟨-, -, rest', -, hopens'⟩ := hrun.exists_opensAt hmessage'
      exact hfirst before' rest' hopens'

theorem uuidLiteral?_eq_none_iff {message : String} :
    uuidLiteral? message = none ↔ ∀ before rest, ¬ OpensAt message.toList before rest := by
  rw [uuidLiteral?, Option.map_eq_none_iff, Text.findFrom?_eq_none_iff]
  constructor
  · intro h before rest hopens
    obtain ⟨kind, -, hmessage, run, hrun⟩ := hopens.exists_readsUuid
    cases hhere : uuidLiteralHere? ((openingWith kind).toList ++ rest) with
    | none => exact uuidLiteralHere?_eq_none_iff.1 hhere run hrun
    | some captured => exact h before captured ⟨_, hmessage, hhere⟩
  · intro h before captured hfound
    obtain ⟨cs, hmessage, hhere⟩ := hfound
    have hmost := uuidLiteralHere?_eq_some_iff.1 hhere
    obtain ⟨-, -, rest, -, hopens⟩ := hmost.1.exists_opensAt hmessage
    exact h before rest hopens

theorem isSome_uuidLiteral?_iff {message : String} :
    (uuidLiteral? message).isSome = true ↔ ∃ before rest, OpensAt message.toList before rest := by
  rw [Option.isSome_iff_ne_none, Ne, uuidLiteral?_eq_none_iff]
  simp only [not_forall, not_not]

/-! ### The text itself -/

theorem ReachesLastQuote.not_mem (h : ReachesLastQuote rest captured) : '\n' ∉ captured := by
  obtain ⟨after, hline, -⟩ := h
  intro hmem
  refine Text.not_mem_firstLine rest ?_
  rw [hline]
  exact List.mem_append_left _ hmem

/-- A text of one line is captured whole if no quote follows it on the line: what begins with the
words has no place further left. -/
theorem capturesUuid_written {kind : String} {literal trailing : List Char}
    (hkind : kind ∈ uuidKinds) (hliteral : '\n' ∉ literal)
    (htrailing : '"' ∉ Text.firstLine trailing) :
    CapturesUuid ((openingWith kind).toList ++ (literal ++ '"' :: trailing)) literal := by
  have hline : Text.firstLine (literal ++ '"' :: trailing) =
      literal ++ '"' :: Text.firstLine trailing := by
    rw [Text.firstLine_append hliteral, Text.firstLine_cons (by decide)]
  refine capturesUuid_iff.2 ⟨[], literal ++ '"' :: trailing, ⟨⟨⟨kind, hkind, rfl⟩, ?_⟩, ?_⟩, ?_⟩
  · rw [hline]
    exact List.mem_append_right _ List.mem_cons_self
  · exact fun _ _ _ => Nat.zero_le _
  · exact ⟨_, hline, htrailing⟩

end PgTriage.Rule

namespace PgTriage.Event

open Rule

variable {settings : Settings} {e : Event} {value : String}

/-- The diagnosis is what the message makes it, given that the code is that of malformed texts. -/
structure DecidedByMessage (e : Event) (d : Diagnosis) : Prop where
  /-- The rule takes the event if its message opens a text somewhere. -/
  isDefinedAt_iff : (invalidUuid.isDefinedAt e).value = true ↔
    ∃ m, e.get? .message = some m ∧ ∃ before rest, OpensAt m.toList before rest
  /-- What the rule gives is what all rules together find. -/
  apply_eq : (invalidUuid.isDefinedAt e).value = true → (invalidUuid.apply e).value = .ok d
  /-- The text runs from the first opening to the last quote of the line. -/
  invalidUuid_iff : ∀ value, d.kind = .invalidUuid value ↔
    ∃ m, e.get? .message = some m ∧ ∃ before rest, OpensFirst m.toList before rest ∧
      ReachesLastQuote rest value.toList
  line : ∀ value, d.kind = .invalidUuid value → '\n' ∉ value.toList
  /-- A text of one line is given back, quotes and all, where no quote follows it on the line. -/
  written : ∀ kind ∈ uuidKinds, ∀ literal trailing : String, '\n' ∉ literal.toList →
    '"' ∉ Text.firstLine trailing.toList →
    e.get? .message = some (openingWith kind ++ literal ++ "\"" ++ trailing) →
    d.kind = .invalidUuid literal
  /-- The events that the rule leaves go to the next. -/
  data_iff : d.kind = .data ↔ (invalidUuid.isDefinedAt e).value = false

/-- With the code of malformed texts, the event is told as a malformed UUID or as just data. -/
theorem kindOf_of_invalidTextRepresentation (settings : Settings)
    (hcode : ∃ c, e.code? = some c ∧ Ascii.lower c = "22p02") :
    kindOf settings e = (malformedUuid? e).elim .data .invalidUuid := by
  have hdata : e.inClass .dataException = true :=
    inClass_dataException_iff.2 (codeBegins_of_invalidTextRepresentation hcode)
  unfold kindOf
  cases malformedUuid? e with
  | some value => rfl
  | none => simp [hdata]

theorem kindOf_eq_invalidUuid_iff
    (hcode : ∃ c, e.code? = some c ∧ Ascii.lower c = "22p02") :
    kindOf settings e = .invalidUuid value ↔
      ∃ m, e.get? .message = some m ∧ CapturesUuid m.toList value.toList := by
  have htells : e.TellsMalformedUuid value ↔
      ∃ m, e.get? .message = some m ∧ CapturesUuid m.toList value.toList :=
    and_iff_right hcode
  rw [kindOf_of_invalidTextRepresentation settings hcode, ← htells, ← malformedUuid?_eq_some_iff]
  cases malformedUuid? e <;> simp

theorem value_isDefinedAt_invalidUuid (e : Event) :
    (invalidUuid.isDefinedAt e).value = (malformedUuid? e).isSome := by
  rw [coherent_invalidUuid.isDefinedAt_eq, value_tryApply_invalidUuid, Option.isSome_map]

theorem value_isDefinedAt_invalidUuid_iff
    (hcode : ∃ c, e.code? = some c ∧ Ascii.lower c = "22p02") :
    (invalidUuid.isDefinedAt e).value = true ↔
      ∃ m, e.get? .message = some m ∧ ∃ before rest, OpensAt m.toList before rest := by
  rw [value_isDefinedAt_invalidUuid, malformedUuid?,
    if_pos (hasState_invalidTextRepresentation_iff.2 hcode)]
  show (Option.bind (e.get? .message) uuidLiteral?).isSome = true ↔ _
  cases e.get? .message with
  | none => simp
  | some m => simp [isSome_uuidLiteral?_iff]

/-- **A malformed text is a UUID or not, and which one, by the message alone.** -/
theorem exists_apply_chain_decidedByMessage (settings : Settings)
    (hcode : ∃ c, e.code? = some c ∧ Ascii.lower c = "22p02") :
    ∃ d, ((chain settings).apply e).value = .ok d ∧ e.DecidedByMessage d := by
  have hkindOf := kindOf_of_invalidTextRepresentation settings hcode
  refine ⟨_, value_apply_chain settings e, ?_⟩
  exact
    { isDefinedAt_iff := value_isDefinedAt_invalidUuid_iff hcode
      apply_eq := by
        intro h
        rw [value_isDefinedAt_invalidUuid] at h
        obtain ⟨value, hvalue⟩ := Option.isSome_iff_exists.1 h
        rw [coherent_invalidUuid.value_apply, value_tryApply_invalidUuid, hkindOf, hvalue]
        rfl
      invalidUuid_iff := by
        intro value
        show kindOf settings e = .invalidUuid value ↔ _
        rw [kindOf_eq_invalidUuid_iff hcode]
        simp only [capturesUuid_iff]
      line := by
        intro value h
        obtain ⟨m, -, hcaptures⟩ := (kindOf_eq_invalidUuid_iff hcode).1 h
        obtain ⟨before, rest, -, hlast⟩ := capturesUuid_iff.1 hcaptures
        exact hlast.not_mem
      written := by
        -- The message begins with the words, so nothing that the text holds comes before them.
        intro kind hkind literal trailing hliteral htrailing hmessage
        refine (kindOf_eq_invalidUuid_iff hcode).2 ⟨_, hmessage, ?_⟩
        have hwritten := capturesUuid_written hkind hliteral htrailing
        simpa using hwritten
      data_iff := by
        show kindOf settings e = .data ↔ _
        rw [hkindOf, value_isDefinedAt_invalidUuid]
        cases malformedUuid? e <;> simp }

/-- The text holds quotes and the words themselves, and the next line has quotes too. -/
theorem exists_apply_chain_decidedByMessage_quoted :
    let literal := "a\" or invalid input syntax for type uuid: \"b"
    let e : Event := .ofFields [(.code, "22p02"),
      (.message, openingWith "" ++ literal ++ "\"" ++ " at 7\n\"next\" line")]
    (∃ c, e.code? = some c ∧ Ascii.lower c = "22p02") ∧
      ∃ d, ((chain .standard).apply e).value = .ok d ∧ e.DecidedByMessage d ∧
        d.kind = .invalidUuid literal := by
  intro literal e
  have hcode : ∃ c, e.code? = some c ∧ Ascii.lower c = "22p02" := ⟨"22p02", by decide, by decide⟩
  obtain ⟨d, hd, hdecided⟩ := exists_apply_chain_decidedByMessage .standard hcode
  exact ⟨hcode, d, hd, hdecided,
    hdecided.written "" (by decide) literal _ (by decide) (by decide) rfl⟩

end PgTriage.Event
