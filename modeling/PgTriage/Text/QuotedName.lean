/-
Names quoted in server texts.

The server quotes the names it tells of and says before each what it is, as in
`relation "orders"`.  A name is found at the leftmost place where a keyword begins a
word, a space and a double quote follow, and a run of characters other than double
quotes is closed by another.  A keyword whose quotes are empty or not closed is passed
over.
-/
import PgTriage.Text.Word

namespace PgTriage.Text

/-- The name that begins after its opening quote, if it is closed and not empty. -/
def closedName? (cs : List Char) : Option (List Char) :=
  match cs.span (· != '"') with
  | ([], _) => none
  | (_ :: _, []) => none
  | (name, _ :: _) => some name

/-- The name quoted after one of the keywords, if the text begins so. -/
def nameAfter? (keywords : List String) (cs : List Char) : Option (List Char) :=
  keywords.findSome? fun keyword =>
    ((keyword.toList ++ [' ', '"']).isPrefixOf? cs).bind closedName?

/-- The first name in the text, where `inWord` says whether a word character comes before. -/
def findNameFrom (keywords : List String) (inWord : Bool) : List Char → Option (List Char)
  | [] => none
  | c :: rest =>
    match if inWord then none else nameAfter? keywords (c :: rest) with
    | some name => some name
    | none => findNameFrom keywords (isWord c) rest

/-- The first name quoted after one of the keywords. -/
def findName? (keywords : List String) (s : String) : Option String :=
  (findNameFrom keywords false s.toList).map String.ofList

end PgTriage.Text
