/-
The environment as a source of configuration.

A variable whose name begins with `DBFAULT_`, in any case, sets a value.  The rest of
its name, trimmed and in lower case, is the key, and two underscores in it separate a
section from what is inside.  A name that leaves a part of the key empty sets nothing.
-/
import PgTriage.Config.EnvValue
import PgTriage.Text.Search

namespace PgTriage.Config

/-- The variables of an environment, in the order it lists them. -/
abbrev Environment := List (String × String)

namespace Environment

/-- The value of a variable. -/
def get? (env : Environment) (name : String) : Option String :=
  (env.find? fun e => e.1 = name).map (·.2)

/-- What the names of configuration variables begin with, in upper case. -/
def marker : List Char := "DBFAULT_".toList

/-- Points for pairs of underscores, from the left. -/
def pointed : List Char → List Char
  | '_' :: '_' :: rest => '.' :: pointed rest
  | c :: rest => c :: pointed rest
  | [] => []

/-- The key that a variable of this name sets. -/
def keyOf? (name : String) : Option (List String) :=
  let cs := (Text.trim name).toList
  if marker.isPrefixOf (cs.map Char.toUpper) then
    let key := Text.trimChars (cs.drop marker.length)
    let parts := Text.splitAt '.' ((pointed key).map Char.toLower)
    if parts.any (·.isEmpty) then none else some (parts.map String.ofList)
  else none

/-- A table with one value, inside the sections that lead to it. -/
def nest (v : Value) : List String → Value
  | [] => v
  | key :: keys => .table [(key, nest v keys)]

/-- The table with what one variable sets. -/
def add (t : Table) (setting : String × String) : Table :=
  match keyOf? setting.1 with
  | some (key :: keys) => t.over [(key, nest (EnvValue.read setting.2) keys)]
  | _ => t

/-- The table that the variables set, one after another. -/
def toTable (env : Environment) : Table := env.foldl add []

end Environment

end PgTriage.Config
