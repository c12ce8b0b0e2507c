/-
Dates and times in TOML.

A date is written `1979-05-27` and a time `07:32:00`, with a fraction of the second if
need be.  A time may follow a date after a `T` or a space, and then the offset of its
clock.  A day that its month does not have is no date.

No setting is a date, so one is kept as it is written, in a table of its own.
-/
import PgTriage.Config.Toml.Scalar

namespace PgTriage.Config.Toml

/-- A number of exactly `count` digits, not less than `least` and not more than `greatest`. -/
def fixedDigits? (count least greatest : Nat) (cs : List Char) : Read Nat :=
  let digits := cs.take count
  let n := numberOf 10 digits
  if digits.length = count ∧ digits.all Char.isDigit ∧ least ≤ n ∧ n ≤ greatest then
    some (n, cs.drop count)
  else none

/-- The text after the mark it begins with. -/
def skipMark? (mark : Char) : List Char → Option (List Char)
  | [] => none
  | c :: rest => if c = mark then some rest else none

/-- A year with a day more in February. -/
def isLeapYear (year : Nat) : Bool := year % 4 == 0 && (year % 100 != 0 || year % 400 == 0)

/-- The number of days of a month. -/
def daysOf (year month : Nat) : Nat :=
  if month = 2 then (if isLeapYear year then 29 else 28)
  else if month ∈ [4, 6, 9, 11] then 30
  else 31

/-- The text after the date it begins with. -/
def skipDate? (cs : List Char) : Option (List Char) := do
  let (year, cs) ← fixedDigits? 4 0 9999 cs
  let (month, cs) ← fixedDigits? 2 1 12 (← skipMark? '-' cs)
  let (_, cs) ← fixedDigits? 2 1 (daysOf year month) (← skipMark? '-' cs)
  some cs

/-- The text after the fraction of a second it may begin with. -/
def skipFraction : List Char → List Char
  | '.' :: c :: rest => if c.isDigit then rest.dropWhile Char.isDigit else '.' :: c :: rest
  | cs => cs

/-- The text after the hour and minute it begins with. -/
def skipClock? (cs : List Char) : Option (List Char) := do
  let (_, cs) ← fixedDigits? 2 0 23 cs
  let (_, cs) ← fixedDigits? 2 0 59 (← skipMark? ':' cs)
  some cs

/-- The text after the time it begins with; a minute may have a leap second. -/
def skipTime? (cs : List Char) : Option (List Char) := do
  let (_, cs) ← fixedDigits? 2 0 60 (← skipMark? ':' (← skipClock? cs))
  some (skipFraction cs)

/-- The text after the offset it may begin with. -/
def skipOffset : List Char → List Char
  | [] => []
  | c :: rest =>
    if c = 'Z' ∨ c = 'z' then rest
    else if c = '+' ∨ c = '-' then (skipClock? rest).getD (c :: rest)
    else c :: rest

/-- The text after the time and the offset that may follow a date. -/
def skipTimeOfDay : List Char → List Char
  | [] => []
  | c :: rest =>
    if c = 'T' ∨ c = 't' ∨ c = ' ' then ((skipTime? rest).map skipOffset).getD (c :: rest)
    else c :: rest

/-- A date, a time, or both. -/
def dateTime? (cs : List Char) : Read Value :=
  (((skipDate? cs).map skipTimeOfDay).or (skipTime? cs)).map fun rest =>
    (.table [("datetime", .text (.ofList (cs.take (cs.length - rest.length))))], rest)

end PgTriage.Config.Toml
