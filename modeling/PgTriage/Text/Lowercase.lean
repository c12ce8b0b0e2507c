/-
Lower case over all of Unicode.

Dialect names and constraint names are compared without regard to case, so both sides
are put in lower case first.  Almost every character has one lower-case partner or is
its own.  Two have rules of their own: a capital I with a dot above becomes a small i
and a combining dot, and a capital sigma takes its final form at the end of a word.
-/
import PgTriage.Text.Ranges
import PgTriage.Text.LowercaseTable

namespace PgTriage.Text

/-- The property Cased. -/
def isCased (c : Char) : Bool := inRanges casedRanges c.toNat

/-- The property Case_Ignorable. -/
def isCaseIgnorable (c : Char) : Bool := inRanges caseIgnorableRanges c.toNat

/-- Whether the row maps the code point `n`. -/
def LowercaseRow.covers (row : LowercaseRow) (n : Nat) : Bool :=
  row.first ≤ n && n ≤ row.last && (n - row.first) % row.step == 0

/-- The lower-case form of a character, out of context. -/
def lowerChar (c : Char) : List Char :=
  if c.toNat < 0x80 then [c.toLower]
  else if c = '\u0130' then ['i', '\u0307']
  else
    match lowercaseRows.find? (·.covers c.toNat) with
    | some row => [Char.ofNat (c.toNat + row.shift).toNat]
    | none => [c]

/-- Whether the first character that is not case-ignorable is cased. -/
def meetsCased (cs : List Char) : Bool :=
  match cs.dropWhile isCaseIgnorable with
  | [] => false
  | c :: _ => isCased c

/--
A capital sigma is final when a cased letter stands before it in the word and none
after it; `before` runs backwards from the sigma.
-/
def isFinalSigma (before after : List Char) : Bool :=
  meetsCased before && !meetsCased after

/-- Lower case of what follows the characters `before`, which run backwards. -/
def lowerFrom (before : List Char) : List Char → List Char
  | [] => []
  | c :: rest =>
    (if c = 'Σ' then (if isFinalSigma before rest then ['ς'] else ['σ']) else lowerChar c) ++
      lowerFrom (c :: before) rest

/-- The text in lower case. -/
def lower (s : String) : String :=
  .ofList (lowerFrom [] s.toList)

end PgTriage.Text
