/-
Blank characters, and texts trimmed of them.

A character is blank when it has the property White_Space: the ASCII controls from tab
to carriage return, the space, the next-line control, and the spaces and separators
above ASCII.  The zero-width space and the byte order mark are not blank.
-/
namespace PgTriage.Text

/-- The property White_Space. -/
def isBlank (c : Char) : Bool :=
  let n := c.toNat
  (0x9 ≤ n && n ≤ 0xD) || n == 0x20 || n == 0x85 || n == 0xA0 || n == 0x1680 ||
    (0x2000 ≤ n && n ≤ 0x200A) || n == 0x2028 || n == 0x2029 || n == 0x202F ||
    n == 0x205F || n == 0x3000

/-- The characters between the blank ones at either end. -/
def trimChars (cs : List Char) : List Char :=
  ((cs.dropWhile isBlank).reverse.dropWhile isBlank).reverse

/-- The text without the blank characters at either end. -/
def trim (s : String) : String :=
  .ofList (trimChars s.toList)

/-- A text of blank characters only, the empty one included. -/
def blank (s : String) : Bool :=
  s.toList.all isBlank

end PgTriage.Text
