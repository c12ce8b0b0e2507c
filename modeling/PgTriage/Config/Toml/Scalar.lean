/-
The scalars of TOML: keys, strings, numbers and truth values.

Each reader takes what it can from the front of the text and gives back the rest, or
nothing where the text does not begin as it should.
-/
import PgTriage.Config.Value

namespace PgTriage.Config.Toml

/-- What a reader took from the front of a text, and the rest. -/
abbrev Read (α : Type) := Option (α × List Char)

/-- A space or a tab. -/
def isSpace (c : Char) : Bool := c == ' ' || c == '\t'

/-- The text after the spaces and tabs it begins with. -/
def skipSpaces (cs : List Char) : List Char := cs.dropWhile isSpace

/-- The text after the line break it begins with. -/
def lineBreak? : List Char → Option (List Char)
  | '\n' :: rest => some rest
  | '\r' :: '\n' :: rest => some rest
  | _ => none

/-- A character that may stand in a text or a comment: no control but the tab. -/
def isPlain (c : Char) : Bool := c == '\t' || (0x20 ≤ c.toNat && c.toNat != 0x7F)

/-! ### Strings -/

/-- The value of a hexadecimal digit. -/
def hexDigit? (c : Char) : Option Nat :=
  if '0' ≤ c ∧ c ≤ '9' then some (c.toNat - 48)
  else if 'a' ≤ c ∧ c ≤ 'f' then some (c.toNat - 87)
  else if 'A' ≤ c ∧ c ≤ 'F' then some (c.toNat - 55)
  else none

/-- The character whose code point the hexadecimal digits spell. -/
def hexChar? (digits : List Char) : Option Char := do
  let n ← digits.foldlM (fun n c => (hexDigit? c).map fun d => 16 * n + d) 0
  if h : n.isValidChar then some (Char.ofNatAux n h) else none

/-- The character a one-letter escape stands for. -/
def escape? : Char → Option Char
  | 'b' => some '\x08'
  | 't' => some '\t'
  | 'n' => some '\n'
  | 'f' => some '\x0c'
  | 'r' => some '\r'
  | '"' => some '"'
  | '\\' => some '\\'
  | _ => none

/-- Puts a character in front of what was taken. -/
def consRead (c : Char) : Read (List Char) → Read (List Char)
  | some (cs, rest) => some (c :: cs, rest)
  | none => none

/-- The rest of a string in double quotes. -/
def basicRest : List Char → Read (List Char)
  | [] => none
  | '"' :: rest => some ([], rest)
  | '\\' :: 'u' :: a :: b :: c :: d :: rest =>
    (hexChar? [a, b, c, d]).bind fun x => consRead x (basicRest rest)
  | '\\' :: 'U' :: a :: b :: c :: d :: e :: f :: g :: h :: rest =>
    (hexChar? [a, b, c, d, e, f, g, h]).bind fun x => consRead x (basicRest rest)
  | '\\' :: c :: rest => (escape? c).bind fun x => consRead x (basicRest rest)
  | c :: rest => if isPlain c && c != '\\' then consRead c (basicRest rest) else none

/-- The rest of a string in single quotes. -/
def literalRest : List Char → Read (List Char)
  | [] => none
  | '\'' :: rest => some ([], rest)
  | c :: rest => if isPlain c then consRead c (literalRest rest) else none

/--
The rest of a string in three double quotes.  Up to two quotes may stand before the
closing three.  After a backslash at the end of a line, which `folding` remembers, line
breaks and spaces are skipped.
-/
def multiBasicRest (folding : Bool) : List Char → Read (List Char)
  | [] => none
  | '\n' :: rest =>
    if folding then multiBasicRest true rest else consRead '\n' (multiBasicRest false rest)
  | '\r' :: '\n' :: rest =>
    if folding then multiBasicRest true rest else consRead '\n' (multiBasicRest false rest)
  | '"' :: '"' :: '"' :: '"' :: '"' :: rest => some (['"', '"'], rest)
  | '"' :: '"' :: '"' :: '"' :: rest => some (['"'], rest)
  | '"' :: '"' :: '"' :: rest => some ([], rest)
  | '\\' :: 'u' :: a :: b :: c :: d :: rest =>
    (hexChar? [a, b, c, d]).bind fun x => consRead x (multiBasicRest false rest)
  | '\\' :: 'U' :: a :: b :: c :: d :: e :: f :: g :: h :: rest =>
    (hexChar? [a, b, c, d, e, f, g, h]).bind fun x => consRead x (multiBasicRest false rest)
  | '\\' :: c :: rest =>
    match escape? c with
    | some x => consRead x (multiBasicRest false rest)
    | none =>
      if (lineBreak? (skipSpaces (c :: rest))).isSome then
        -- `c` is a space or begins the line break, whose rest is skipped in its turn
        multiBasicRest true rest
      else none
  | c :: rest =>
    if folding && isSpace c then multiBasicRest true rest
    else if isPlain c && c != '\\' then consRead c (multiBasicRest false rest)
    else none

/-- The rest of a string in three single quotes, which may have two before the closing three. -/
def multiLiteralRest : List Char → Read (List Char)
  | [] => none
  | '\'' :: '\'' :: '\'' :: '\'' :: '\'' :: rest => some (['\'', '\''], rest)
  | '\'' :: '\'' :: '\'' :: '\'' :: rest => some (['\''], rest)
  | '\'' :: '\'' :: '\'' :: rest => some ([], rest)
  | '\n' :: rest => consRead '\n' (multiLiteralRest rest)
  | '\r' :: '\n' :: rest => consRead '\n' (multiLiteralRest rest)
  | c :: rest => if isPlain c then consRead c (multiLiteralRest rest) else none

/-- The text after the line break it may begin with. -/
def dropLineBreak (cs : List Char) : List Char := (lineBreak? cs).getD cs

/-- A string on one line. -/
def shortString? : List Char → Read String
  | '"' :: rest => (basicRest rest).map fun (cs, rest) => (.ofList cs, rest)
  | '\'' :: rest => (literalRest rest).map fun (cs, rest) => (.ofList cs, rest)
  | _ => none

/-- A string of any form. -/
def string? : List Char → Read String
  | '"' :: '"' :: '"' :: rest =>
    (multiBasicRest false (dropLineBreak rest)).map fun (cs, rest) => (.ofList cs, rest)
  | '\'' :: '\'' :: '\'' :: rest =>
    (multiLiteralRest (dropLineBreak rest)).map fun (cs, rest) => (.ofList cs, rest)
  | cs => shortString? cs

/-! ### Keys -/

/-- A character of a key that is not quoted. -/
def isKeyChar (c : Char) : Bool := c.isAlphanum || c == '_' || c == '-'

/-- A key without dots. -/
def simpleKey? (cs : List Char) : Read String :=
  match cs.span isKeyChar with
  | ([], _) => shortString? cs
  | (key, rest) => some (.ofList key, rest)

/-- A dotted key, of which at most `fuel` parts are read. -/
def keyWithin : Nat → List Char → Option (List String × List Char)
  | 0, _ => none
  | fuel + 1, cs => do
    let (first, rest) ← simpleKey? (skipSpaces cs)
    match skipSpaces rest with
    | '.' :: rest =>
      let (others, rest) ← keyWithin fuel rest
      some (first :: others, rest)
    | rest => some ([first], rest)

/-- How many parts a key may have, and how deep lists and tables may lie within each other. -/
def nestingLimit : Nat := 79

/-- A dotted key, with the spaces around it. -/
def key? (cs : List Char) : Read (List String) :=
  (keyWithin (cs.length + 1) cs).filter fun r => r.1.length ≤ nestingLimit

/-! ### Numbers -/

/-- Digits, between which single underscores may stand. -/
def digitsRest (isDigit : Char → Bool) : List Char → List Char × List Char
  | '_' :: c :: rest =>
    if isDigit c then
      let (digits, rest) := digitsRest isDigit rest
      (c :: digits, rest)
    else ([], '_' :: c :: rest)
  | c :: rest =>
    if isDigit c then
      let (digits, rest) := digitsRest isDigit rest
      (c :: digits, rest)
    else ([], c :: rest)
  | [] => ([], [])

/-- One digit or more. -/
def digits? (isDigit : Char → Bool) : List Char → Read (List Char)
  | c :: rest =>
    if isDigit c then
      let (digits, rest) := digitsRest isDigit rest
      some (c :: digits, rest)
    else none
  | [] => none

/-- The number the digits spell. -/
def numberOf (base : Nat) (digits : List Char) : Nat :=
  digits.foldl (fun n c => base * n + (hexDigit? c).getD 0) 0

/-- A sign, of which a plus means nothing. -/
def sign : List Char → Bool × List Char
  | '-' :: rest => (true, rest)
  | '+' :: rest => (false, rest)
  | cs => (false, cs)

/-- The digits of a whole number in decimal: a zero stands alone. -/
def decimalDigits? : List Char → Read (List Char)
  | '0' :: rest => some (['0'], rest)
  | cs => digits? Char.isDigit cs

/-- The exponent of a number, zero where there is none. -/
def exponent? : List Char → Read (Option Int)
  | c :: rest =>
    if c = 'e' ∨ c = 'E' then
      let (negative, rest) := sign rest
      (digits? Char.isDigit rest).map fun (digits, rest) =>
        let n : Int := numberOf 10 digits
        (some (if negative then -n else n), rest)
    else some (none, c :: rest)
  | [] => some (none, [])

/-- A whole number of 64 bits with a sign, which is what a document may hold. -/
def inRange (n : Int) : Bool := -9223372036854775808 ≤ n && n ≤ 9223372036854775807

/-- A whole number in the base its mark tells. -/
def basedInteger? (mark : Char) (cs : List Char) : Option (Value × List Char) := do
  let (base, isDigit) : Nat × (Char → Bool) ←
    match mark with
    | 'x' => some (16, fun c => (hexDigit? c).isSome)
    | 'o' => some (8, fun c => '0' ≤ c && c ≤ '7')
    | 'b' => some (2, fun c => c == '0' || c == '1')
    | _ => none
  let (digits, rest) ← digits? isDigit cs
  let n : Int := numberOf base digits
  if inRange n then some (.signed n, rest) else none

/-- A number in decimal: a double if it has a fraction or an exponent. -/
def decimal? (cs : List Char) : Option (Value × List Char) := do
  let (negative, cs) := sign cs
  let (whole, cs) ← decimalDigits? cs
  let (fraction, cs) ←
    match cs with
    | '.' :: rest => (digits? Char.isDigit rest).map fun (digits, rest) => (some digits, rest)
    | cs => some (none, cs)
  let (exponent, cs) ← exponent? cs
  if fraction.isNone && exponent.isNone then
    let n : Int := numberOf 10 whole
    let n := if negative then -n else n
    if inRange n then some (.signed n, cs) else none
  else
    let places := fraction.getD []
    let x := Binary64.ofDecimal negative (numberOf 10 (whole ++ places))
      (exponent.getD 0 - places.length)
    if x = .infinite false then none else some (.float x, cs)

/-- A number. -/
def number? (cs : List Char) : Read Value :=
  match sign cs with
  | (negative, 'i' :: 'n' :: 'f' :: rest) => some (.float (.infinite negative), rest)
  | (_, 'n' :: 'a' :: 'n' :: rest) => some (.float .nan, rest)
  | _ =>
    match cs with
    | '0' :: mark :: rest =>
      if mark = 'x' ∨ mark = 'o' ∨ mark = 'b' then basedInteger? mark rest else decimal? cs
    | _ => decimal? cs

/-- A text, a number or a truth value. -/
def scalar? : List Char → Read Value
  | 't' :: 'r' :: 'u' :: 'e' :: rest => some (.bool true, rest)
  | 'f' :: 'a' :: 'l' :: 's' :: 'e' :: rest => some (.bool false, rest)
  | '"' :: rest => (string? ('"' :: rest)).map fun (s, rest) => (.text s, rest)
  | '\'' :: rest => (string? ('\'' :: rest)).map fun (s, rest) => (.text s, rest)
  | cs => number? cs

end PgTriage.Config.Toml
