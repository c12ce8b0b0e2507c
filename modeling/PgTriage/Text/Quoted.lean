/-
Quoted texts.

A text is quoted between double quotes so that every character can be told apart: the
quote and the backslash are escaped, line breaks and tabs have letters, and a character
without a visible form of its own is spelled by its code point in hexadecimal.
-/
import PgTriage.Text.Ranges
import PgTriage.Text.PrintableTable

namespace PgTriage.Text

/-- Whether the character has a visible form that does not depend on its neighbour. -/
def standsForItself (c : Char) : Bool :=
  if c.toNat < 0x80 then 0x20 ≤ c.toNat && c.toNat < 0x7F
  else !inRanges graphemeExtendRanges c.toNat && !inRanges unprintableRanges c.toNat

/-- How a character is written inside quotes. -/
def quoteChar (c : Char) : List Char :=
  if c = '\x00' then ['\\', '0']
  else if c = '\t' then ['\\', 't']
  else if c = '\r' then ['\\', 'r']
  else if c = '\n' then ['\\', 'n']
  else if c = '"' then ['\\', '"']
  else if c = '\\' then ['\\', '\\']
  else if standsForItself c then [c]
  else ['\\', 'u', '\x7b'] ++ Nat.toDigits 16 c.toNat ++ ['\x7d']

/-- The text between double quotes. -/
def quote (s : String) : String :=
  .ofList ('"' :: s.toList.flatMap quoteChar ++ ['"'])

/-- The texts, each quoted, in brackets and separated by commas. -/
def quoteList (texts : List String) : String :=
  "[" ++ ", ".intercalate (texts.map quote) ++ "]"

end PgTriage.Text
