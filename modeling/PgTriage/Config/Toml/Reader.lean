/-
Reading TOML.

A document is read line by line, and a value from its first character on.  Values may
hold values: lists run over lines and may have comments between their items, tables in
braces stay on one line.  Lists and tables may lie within each other up to a limit; a
document that goes deeper is not well formed.  Each step of a value takes at least one
character of the text, so the length of the text bounds the number of steps.

When the whole document is read, tables that stand for a value give way to it.
-/
import PgTriage.Config.StandIn
import PgTriage.Config.Toml.DateTime
import PgTriage.Config.Toml.Document

namespace PgTriage.Config.Toml

/-! ### Space between the parts -/

/-- The text after the comment it may begin with, if the comment is well formed. -/
def skipComment? : List Char → Option (List Char)
  | '#' :: rest =>
    let after := rest.dropWhile isPlain
    if after.isEmpty || (lineBreak? after).isSome then some after else none
  | cs => some cs

/-- The text after the rest of a line that says no more. -/
def endLine? (cs : List Char) : Option (List Char) :=
  (skipComment? (skipSpaces cs)).bind fun rest =>
    if rest.isEmpty then some [] else lineBreak? rest

/-- The text after spaces, comments and line breaks, of which at most `fuel` are skipped. -/
def skipLinesWithin : Nat → List Char → Option (List Char)
  | 0, _ => none
  | fuel + 1, cs =>
    (skipComment? (skipSpaces cs)).bind fun rest =>
      match lineBreak? rest with
      | some rest => skipLinesWithin fuel rest
      | none => some rest

/-- The text after spaces, comments and line breaks. -/
def skipLines? (cs : List Char) : Option (List Char) := skipLinesWithin (cs.length + 1) cs

/-! ### Values -/

mutual

/-- A value at the front of the text, in which lists and tables lie at most `depth` deep. -/
def valueWithin : Nat → Nat → List Char → Option (Value × List Char)
  | 0, _, _ => none
  | fuel + 1, depth, cs =>
    match depth, cs with
    | depth + 1, '[' :: rest => do
      let (items, rest) ← itemsWithin fuel depth rest
      some (.list items, rest)
    | depth + 1, '\x7b' :: rest => do
      let (entries, rest) ←
        match skipSpaces rest with
        | '\x7d' :: rest => some ([], rest)
        | rest => entriesWithin fuel depth rest
      let table ← tableOfEntries entries
      some (.table table, rest)
    | _, cs => (dateTime? cs).or (scalar? cs)

/-- The items of a list up to its closing bracket. -/
def itemsWithin : Nat → Nat → List Char → Option (List Value × List Char)
  | 0, _, _ => none
  | fuel + 1, depth, cs => do
    match ← skipLines? cs with
    | ']' :: rest => some ([], rest)
    | rest =>
      let (item, rest) ← valueWithin fuel depth rest
      match ← skipLines? rest with
      | ',' :: rest =>
        let (items, rest) ← itemsWithin fuel depth rest
        some (item :: items, rest)
      | ']' :: rest => some ([item], rest)
      | _ => none

/-- The entries between braces up to the closing one. -/
def entriesWithin : Nat → Nat → List Char → Option (List (List String × Value) × List Char)
  | 0, _, _ => none
  | fuel + 1, depth, cs => do
    let (key, rest) ← key? cs
    match rest with
    | '=' :: rest =>
      let (v, rest) ← valueWithin fuel depth (skipSpaces rest)
      match skipSpaces rest with
      | ',' :: rest =>
        let (entries, rest) ← entriesWithin fuel depth rest
        some ((key, v) :: entries, rest)
      | '\x7d' :: rest => some ([(key, v)], rest)
      | _ => none
    | _ => none

end

/-- A value at the front of the text. -/
def value? (cs : List Char) : Option (Value × List Char) :=
  valueWithin (2 * cs.length + 2) nestingLimit cs

/-! ### Lines -/

/-- A line that says something, without its end. -/
def line? : List Char → Option (Line × List Char)
  | '[' :: '[' :: rest => do
    let (path, rest) ← key? rest
    match rest with
    | ']' :: ']' :: rest => some (.element path, rest)
    | _ => none
  | '[' :: rest => do
    let (path, rest) ← key? rest
    match rest with
    | ']' :: rest => some (.table path, rest)
    | _ => none
  | cs => do
    let (key, rest) ← key? cs
    match rest with
    | '=' :: rest =>
      let (v, rest) ← value? (skipSpaces rest)
      some (.entry key v, rest)
    | _ => none

/-- The lines of a text, of which at most `fuel` are read. -/
def linesWithin : Nat → List Char → Option (List Line)
  | 0, _ => none
  | fuel + 1, cs => do
    match ← skipLines? cs with
    | [] => some []
    | rest =>
      let (line, rest) ← line? rest
      let rest ← endLine? rest
      let lines ← linesWithin fuel rest
      some (line :: lines)

/-- The lines of a text, which may begin with a byte order mark. -/
def lines? : List Char → Option (List Line)
  | '\ufeff' :: rest => linesWithin (rest.length + 1) rest
  | cs => linesWithin (cs.length + 1) cs

/-- The table that a document writes down, if it is well formed. -/
def written? (text : String) : Option Table := (lines? text.toList).bind tableOfLines

/-- The table that a document describes: what it writes down, its values resolved. -/
def read? (text : String) : Option Table := (written? text).bind Table.resolve?

end PgTriage.Config.Toml
