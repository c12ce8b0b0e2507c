/-
Word characters.

A name quoted in a server text is found by the keyword before it, and a keyword counts
only where a word begins.  What belongs to a word is decided by Unicode properties:
letters, decimal digits, marks, connector punctuation and the two joiners.

Words are told by version 16 of the standard.  What a version later counts as a letter
or a number is one where a single character is asked for, and no part of a word.
-/
import PgTriage.Text.Ranges
import PgTriage.Text.WordTable

namespace PgTriage.Text

/-- Letters, decimal digits, marks, connectors and joiners. -/
def isWord (c : Char) : Bool :=
  if c.toNat < 0x80 then c.isAlphanum || c == '_'
  else
    (inRanges letterOrDigitRanges c.toNat || inRanges joiningRanges c.toNat) &&
      !inRanges recentRanges c.toNat

/-- Letters and numbers of every kind. -/
def isAlphanumeric (c : Char) : Bool :=
  if c.toNat < 0x80 then c.isAlphanum
  else inRanges letterOrDigitRanges c.toNat || inRanges otherNumberRanges c.toNat

end PgTriage.Text
