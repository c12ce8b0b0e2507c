/-
Counters in the text format that monitoring reads.

Each counter that has been bumped is told by a line of help, a line that gives its type,
and a line for every set of labels with the value.  Label values stand between quotes,
with quotes, backslashes and line breaks escaped; a text that is escaped already is left
as it is.
-/
import PgTriage.Telemetry.Counters

namespace PgTriage.Exposition

/-- What the counters of a name count. -/
def help : Tally → String
  | .classified .. => "Database errors translated into classified exceptions"
  | .refused _ => "Errors a translator declined because they belong to another dialect"

/--
The escaped form of a label's value; `pending` says whether a backslash came just before
and is still to be written.
-/
def escape (pending : Bool) : List Char → List Char
  | [] => if pending then ['\\', '\\'] else []
  | '\\' :: rest => if pending then '\\' :: '\\' :: escape false rest else escape true rest
  | '"' :: rest => '\\' :: '"' :: escape false rest
  | '\n' :: rest => '\\' :: 'n' :: escape pending rest
  | c :: rest => if pending then '\\' :: '\\' :: c :: escape false rest else c :: escape false rest

/-- A label with its value. -/
def labelText (label : String × String) : String :=
  label.1 ++ "=\"" ++ .ofList (escape false label.2.toList) ++ "\""

/-- The line for one set of labels. -/
def valueLine (t : Tally) (value : Nat) : String :=
  t.name ++ "\x7b" ++ ",".intercalate (t.labels.map labelText) ++ "\x7d " ++ toString value

/-- The lines that come before those of the counter's labels. -/
def headLines (t : Tally) : List String :=
  ["# HELP " ++ t.name ++ " " ++ help t, "# TYPE " ++ t.name ++ " counter"]

/-- The lines of the counters, the counters with one name together. -/
def lines (counters : Counters) : List String :=
  (counters.entries.foldl
    (fun (told, ls) (t, value) =>
      (some t.name, ls ++ (if told = some t.name then [] else headLines t) ++ [valueLine t value]))
    ((none : Option String), [])).2

/-- The lines in the order of their characters. -/
def sortedLines (counters : Counters) : List String :=
  (lines counters).mergeSort fun a b => !decide (b < a)

end PgTriage.Exposition
