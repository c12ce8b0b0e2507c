/-
Values given in the environment.

The text of an environment variable is read as a value in a small notation: truth
values, quoted texts, lists in brackets and tables in braces.  Anything else is a word
that runs up to the next comma or bracket; it is a number if it reads as one, and a text
if not.  A text that is not a value as a whole stands for itself, so reading never
fails.
-/
import PgTriage.Config.Toml.Scalar
import PgTriage.Text.Ascii
import PgTriage.Text.Blank

namespace PgTriage.Config.EnvValue

open Toml (Read hexChar? escape? consRead isPlain sign numberOf)

/-- The text after the blank characters of ASCII it begins with. -/
def skipBlanks (cs : List Char) : List Char := cs.dropWhile Ascii.isBlank

/-! ### Quoted texts -/

/--
What is written up to the closing double quote, and the rest.  A character after a
backslash does not close it.
-/
def quotedBody : List Char → Read (List Char)
  | [] => none
  | '"' :: rest => some ([], rest)
  | '\\' :: c :: rest => consRead '\\' (consRead c (quotedBody rest))
  | c :: rest => consRead c (quotedBody rest)

/-- The text that is written with escapes. -/
def unescape? : List Char → Option (List Char)
  | [] => some []
  | '\\' :: 'u' :: a :: b :: c :: d :: rest =>
    (hexChar? [a, b, c, d]).bind fun x => (unescape? rest).map (x :: ·)
  | '\\' :: 'U' :: a :: b :: c :: d :: e :: f :: g :: h :: rest =>
    (hexChar? [a, b, c, d, e, f, g, h]).bind fun x => (unescape? rest).map (x :: ·)
  | '\\' :: c :: rest => (escape? c).bind fun x => (unescape? rest).map (x :: ·)
  | c :: rest => if isPlain c && c != '\\' then (unescape? rest).map (c :: ·) else none

/-- The characters that end within the first `n` bytes. -/
def withinBytes (n : Nat) : List Char → List Char
  | [] => []
  | c :: rest => if c.utf8Size ≤ n then c :: withinBytes (n - c.utf8Size) rest else []

/--
The text of what is written between quotes.  Without an escape it is the text itself.
Where there is one, what comes before the first is held to as many bytes as it has
characters, so nothing is lost of ASCII.
-/
def quotedText? (body : List Char) : Option (List Char) :=
  let (plain, escaped) := body.span (· != '\\')
  if !plain.all isPlain then none
  else if escaped.isEmpty then some plain
  else (unescape? escaped).map (withinBytes plain.length plain ++ ·)

/-- The rest of a text in double quotes. -/
def quotedRest (cs : List Char) : Read (List Char) :=
  (quotedBody cs).bind fun (body, rest) => (quotedText? body).map fun text => (text, rest)

/-! ### Words -/

/-- A character that ends a word. -/
def endsWord (c : Char) : Bool :=
  c == ',' || c == '\x7b' || c == '\x7d' || c == '[' || c == ']'

/-- The exponent that makes up all of the text, zero where the text is empty. -/
def exponent? : List Char → Option Int
  | [] => some 0
  | c :: rest =>
    if c = 'e' ∨ c = 'E' then
      let (negative, digits) := sign rest
      if digits.isEmpty || !digits.all Char.isDigit then none
      else
        let n : Int := numberOf 10 digits
        some (if negative then -n else n)
    else none

/-- A number in decimal that makes up all of the word; a point needs a digit on one side. -/
def float? (word : List Char) : Option Binary64 := do
  let (negative, cs) := sign word
  let (whole, cs) := cs.span Char.isDigit
  let (places, cs) :=
    match cs with
    | '.' :: rest => rest.span Char.isDigit
    | cs => ([], cs)
  if whole.isEmpty && places.isEmpty then none
  else
    let exponent ← exponent? cs
    some (Binary64.ofDecimal negative (numberOf 10 (whole ++ places)) (exponent - places.length))

/-- The number that decimal digits spell, if it is at most `limit`. -/
def natUpTo? (limit : Nat) (digits : List Char) : Option Nat :=
  if digits.isEmpty || !digits.all Char.isDigit then none
  else
    let n := numberOf 10 digits
    if n ≤ limit then some n else none

/-- The greatest whole number of 64 bits. -/
def maxUnsigned : Nat := 18446744073709551615

/-- The size of the least whole number of 64 bits with a sign. -/
def maxNegative : Nat := 9223372036854775808

/-- A whole number of 64 bits without a sign, or failing that one with a sign. -/
def integer? : List Char → Option Value
  | '+' :: digits => (natUpTo? maxUnsigned digits).map .unsigned
  | '-' :: digits => (natUpTo? maxNegative digits).map fun n => .signed (-n)
  | digits => (natUpTo? maxUnsigned digits).map .unsigned

/-- The value of a word: a double if it has a point, a whole number, or a text. -/
def ofWord (word : List Char) : Value :=
  let float := if word.contains '.' then (float? word).map Value.float else none
  (float.or (integer? word)).getD (.text (.ofList word))

/-! ### Values -/

/-- A character of a key that is not quoted. -/
def isKeyChar (c : Char) : Bool := c.isAlphanum || c == '_' || c == '-'

/-- A key of a table, with the blanks around it. -/
def key? (cs : List Char) : Option (String × List Char) :=
  match skipBlanks cs with
  | '"' :: rest => (quotedRest rest).map fun (key, rest) => (.ofList key, skipBlanks rest)
  | cs =>
    match cs.span isKeyChar with
    | ([], _) => none
    | (key, rest) => some (.ofList key, skipBlanks rest)

mutual

/-- A value at the front of the text, with the blanks around it. -/
def valueWithin : Nat → List Char → Option (Value × List Char)
  | 0, _ => none
  | fuel + 1, cs => do
    let (v, rest) ←
      match skipBlanks cs with
      | 't' :: 'r' :: 'u' :: 'e' :: rest => some (Value.bool true, rest)
      | 'f' :: 'a' :: 'l' :: 's' :: 'e' :: rest => some (Value.bool false, rest)
      | '\x7b' :: rest =>
        (entriesWithin fuel rest).map fun (entries, rest) => (Value.table entries, rest)
      | '[' :: rest => (itemsWithin fuel rest).map fun (items, rest) => (Value.list items, rest)
      | '"' :: rest => (quotedRest rest).map fun (s, rest) => (Value.text (.ofList s), rest)
      | '\'' :: c :: '\'' :: rest => some (Value.text (.ofList [c]), rest)
      | '\'' :: _ => none
      | cs =>
        let (word, rest) := cs.span fun c => !endsWord c
        some (ofWord (Text.trimChars word), rest)
    some (v, skipBlanks rest)

/-- The items of a list up to its closing bracket. -/
def itemsWithin : Nat → List Char → Option (List Value × List Char)
  | 0, _ => none
  | _ + 1, ']' :: rest => some ([], rest)
  | fuel + 1, cs => do
    let (item, rest) ← valueWithin fuel cs
    match rest with
    | ',' :: rest =>
      let (items, rest) ← itemsWithin fuel rest
      some (item :: items, rest)
    | ']' :: rest => some ([item], rest)
    | _ => none

/-- The entries of a table up to its closing brace; of two under one key the later counts. -/
def entriesWithin : Nat → List Char → Option (Table × List Char)
  | 0, _ => none
  | _ + 1, '\x7d' :: rest => some ([], rest)
  | fuel + 1, cs => do
    let (key, rest) ← key? cs
    match rest with
    | '=' :: rest =>
      let (v, rest) ← valueWithin fuel rest
      match rest with
      | ',' :: rest =>
        let (entries, rest) ← entriesWithin fuel rest
        some ((if (entries.get? key).isSome then entries else (key, v) :: entries), rest)
      | '\x7d' :: rest => some ([(key, v)], rest)
      | _ => none
    | _ => none

end

/-- The value of a text. -/
def read (text : String) : Value :=
  match valueWithin (2 * text.length + 2) text.toList with
  | some (v, []) => v
  | _ => .text text

end PgTriage.Config.EnvValue
