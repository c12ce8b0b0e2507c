/-
Letter case over ASCII alone.

SQLSTATE codes, condition names, log levels and environment variable names are written
in ASCII, and two of them that differ only in the case of ASCII letters are the same
name.  Every other character stands for itself, however it is written in capitals.
-/
namespace PgTriage.Ascii

/-- The text with its ASCII letters in lower case. -/
def lower (s : String) : String :=
  .ofList (s.toList.map Char.toLower)

/-- The text with its ASCII letters in upper case. -/
def upper (s : String) : String :=
  .ofList (s.toList.map Char.toUpper)

/-- Whether two texts are the same but for the case of ASCII letters. -/
def same (s t : String) : Bool :=
  s.toList.map Char.toLower == t.toList.map Char.toLower

theorem same_refl (s : String) : same s s = true := by simp [same]

theorem same_comm (s t : String) : same s t = same t s := by
  simp only [same, BEq.comm]

/-- The blank characters of ASCII that an environment value may be padded with. -/
def isBlank (c : Char) : Bool :=
  c == ' ' || c == '\t' || c == '\n' || c == '\r' || c == '\x0c'

end PgTriage.Ascii
