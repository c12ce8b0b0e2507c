/-
The registry of translators.

A translator is found by the name of a dialect, trimmed and without regard to case.
Registering under a name that is taken replaces the translator, and blank names are
passed over.  Looking up a blank name is another error than looking up one that nothing
is registered under.

What a translator does is no concern of the registry.  It only tells the log which dialect
a translator says it is for, so anything that says that much can be registered, and where
nothing else is said it is classifiers.
-/
import PgTriage.Classifier.Basic
import PgTriage.Text.Blank

namespace PgTriage

/-- What looking up a dialect fails with. -/
inductive RegistryError where
  | missingDialect
  | unknownDialect (name : String)
deriving DecidableEq, Repr

/-- The error's text. -/
def RegistryError.message : RegistryError → String
  | .missingDialect => "dialect name must not be blank"
  | .unknownDialect name => "no error translator registered for dialect: " ++ name

/-- The form in which names are compared. -/
def normalName (name : String) : String := Text.lower (Text.trim name)

/-- What can be registered: it says which dialect it is for. -/
class HasDialect (τ : Type) where
  /-- The name logs know it by. -/
  dialect : τ → String

instance : HasDialect Classifier := ⟨Classifier.dialect⟩

/-- Translators by the normal form of a dialect's name. -/
structure Registry (τ : Type := Classifier) where
  translators : OrderedMap String τ
deriving DecidableEq

namespace Registry

variable {τ : Type}

/-- The registry without translators. -/
def empty : Registry τ := ⟨.empty⟩

/-- The registry with a translator under one more name. -/
def registerName [HasDialect τ] (r : Registry τ) (name : String) (t : τ) :
    Traced LogEvent (Registry τ) :=
  let key := normalName name
  if key.isEmpty then pure r
  else do
    Traced.tell (.registered key (HasDialect.dialect t))
    pure ⟨r.translators.insert key t⟩

/-- The registry with a translator under each of the names, one after another. -/
def register [HasDialect τ] (r : Registry τ) (names : List String) (t : τ) :
    Traced LogEvent (Registry τ) :=
  names.foldlM (fun r name => r.registerName name t) r

/-- The translator of a dialect; no name counts as a blank one. -/
def get (r : Registry τ) (name : Option String) : Except RegistryError τ :=
  let given := name.getD ""
  if (normalName given).isEmpty then .error .missingDialect
  else
    match r.translators.get? (normalName given) with
    | some t => .ok t
    | none => .error (.unknownDialect (Text.trim given))

/-- Whether a translator is registered under the name. -/
def contains (r : Registry τ) (name : String) : Bool := r.translators.contains (normalName name)

/-- The names that translators are registered under, in order. -/
def dialects (r : Registry τ) : List String := r.translators.keys

/-- The number of names. -/
def size (r : Registry τ) : Nat := r.translators.size

/-- Whether no name is registered. -/
def isEmpty (r : Registry τ) : Bool := r.translators.isEmpty

/-- One line that shows the names. -/
def describe (r : Registry τ) : String :=
  "TranslatorRegistry \x7b dialects: " ++ Text.quoteList r.dialects ++ " \x7d"

end Registry

end PgTriage
