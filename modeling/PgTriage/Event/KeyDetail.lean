/-
Key details.

The detail of a violated key reads `Key (a, b)=(1, 2) already exists.`.  The column
group runs to the first `)=(` of the line that leaves it at least one character.  The
value group runs to the last closing parenthesis of the line that a blank follows, and
where none does, to the last of the line; so values may hold parentheses themselves.
Both groups are split at commas, and a detail whose groups have different numbers of
entries tells nothing.
-/
import PgTriage.Diagnosis.InvalidValues
import PgTriage.Text.Blank
import PgTriage.Text.Search

namespace PgTriage.KeyDetail

/-- The two groups of a detail. -/
structure Groups where
  columns : List Char
  values : List Char
deriving DecidableEq, Repr

/-- Whether a blank character comes next. -/
def startsBlank : List Char → Bool
  | [] => false
  | c :: _ => Text.isBlank c

/-- The value group, from where it begins. -/
def valueGroup? (cs : List Char) : Option (List Char) :=
  (Text.beforeLast ')' startsBlank cs).or (Text.beforeLast ')' (fun _ => true) cs)

/-- The groups, from where the column group begins. -/
def groupsFrom? : List Char → Option Groups
  | [] => none
  | c :: rest =>
    if c = '\n' then none
    else
      (Text.cutAt [')', '=', '('] rest).bind fun (columns, after) =>
        (valueGroup? after).map fun values => ⟨c :: columns, values⟩

/-- The groups of a detail. -/
def groups? (detail : String) : Option Groups :=
  ("Key (".toList.isPrefixOf? (detail.toList.dropWhile Text.isBlank)).bind groupsFrom?

/-- The entries of a group, trimmed. -/
def entries (group : List Char) : List String :=
  (Text.splitAt ',' group).map fun piece => .ofList (Text.trimChars piece)

/-- The columns of a detail with their values, if it tells any. -/
def parse (detail : Option String) : InvalidValues :=
  match detail.bind groups? with
  | none => .empty
  | some groups =>
    let columns := entries groups.columns
    let values := entries groups.values
    if columns.length = values.length then .ofList (columns.zip values) else .empty

/-- The columns of a detail, in order. -/
def columns (detail : Option String) : List String := (parse detail).columns

end PgTriage.KeyDetail
