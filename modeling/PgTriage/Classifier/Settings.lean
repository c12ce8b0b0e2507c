/-
How a classifier is set up.

The server does not tell primary keys from other unique constraints.  A constraint is
taken for a primary key when its name begins with a certain text, whatever the case of
its letters; an empty text turns that off.
-/
import PgTriage.Text.Lowercase

namespace PgTriage

/-- The settings of a classifier. -/
structure Settings where
  /-- The name logs and metrics know the classifier by. -/
  dialect : String
  /-- What the names of primary keys begin with. -/
  primaryKeyPrefix : String
  /-- Whether each event is logged before the rules see it. -/
  logRuleInputs : Bool
deriving DecidableEq, Repr

namespace Settings

/-- The dialect of the server. -/
def postgresDialect : String := "postgresql"

/-- The names the classifier for the server is registered under. -/
def postgresAliases : List String := ["postgresql", "postgres", "pg"]

/-- The settings where nothing is configured. -/
def standard : Settings := ⟨postgresDialect, "pk_", false⟩

/-- Whether a constraint's name marks a primary key. -/
def isPrimaryKeyName (settings : Settings) (name : String) : Bool :=
  let start := Text.lower settings.primaryKeyPrefix
  !start.isEmpty && start.toList.isPrefixOf (Text.lower name).toList

end Settings

end PgTriage
