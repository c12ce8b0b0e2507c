/-
Looking up SQLSTATE codes and classes.

Codes and names are compared without regard to the case of ASCII letters.  A candidate
belongs to a class when its first two bytes are the class's two characters; the bytes
are those of its UTF-8 form, so a candidate whose second byte lies inside a character
belongs to no class.
-/
import PgTriage.SqlState.Catalog
import PgTriage.Text.Ascii

namespace PgTriage

/-- What a look-up in the catalog fails with. -/
inductive CatalogError where
  | unknownSqlState (code : String)
deriving DecidableEq, Repr

/-- The error's text. -/
def CatalogError.message : CatalogError → String
  | .unknownSqlState code => "unknown SQLSTATE code: " ++ code

/-- The characters that the first two bytes of a text make up, if they make up any. -/
def firstTwoBytes? : List Char → Option (List Char)
  | [] => none
  | [c] => if c.utf8Size = 2 then some [c] else none
  | c :: d :: _ =>
    if c.utf8Size = 2 then some [c]
    else if c.utf8Size = 1 ∧ d.utf8Size = 1 then some [c, d]
    else none

/-- Whether two codes begin with the same two bytes, but for the case of ASCII letters. -/
def belongsToClass (candidate classCode : String) : Bool :=
  match firstTwoBytes? candidate.toList, firstTwoBytes? classCode.toList with
  | some a, some b => a.map Char.toLower == b.map Char.toLower
  | _, _ => false

namespace SqlClass

/-- The class of a two-character code. -/
def lookup? (code : String) : Option SqlClass :=
  catalog.find? (·.code == Ascii.upper code)

/-- Whether the candidate belongs to the class. -/
def contains (k : SqlClass) (candidate : String) : Bool :=
  belongsToClass candidate k.code

def dataException : SqlClass := ⟨"22", "data_exception"⟩

def integrityConstraintViolation : SqlClass := ⟨"23", "integrity_constraint_violation"⟩

def invalidAuthorizationSpecification : SqlClass := ⟨"28", "invalid_authorization_specification"⟩

end SqlClass

namespace SqlState

/-- The state of a code, or the error that the catalog does not list it. -/
def lookup (code : String) : Except CatalogError SqlState :=
  match catalog.find? (·.code == Ascii.upper code) with
  | some state => .ok state
  | none => .error (.unknownSqlState code)

/-- Whether the catalog lists the code; an absent code is not listed. -/
def contains : Option String → Bool
  | some code => (lookup code).isOk
  | none => false

/-- The first state whose condition bears the name. -/
def byConditionName? (name : String) : Option SqlState :=
  catalog.find? (Ascii.same ·.conditionName name)

/-- The two characters that name the class. -/
def classCode (s : SqlState) : String :=
  .ofList (s.code.toList.take 2)

/-- The class the state belongs to. -/
def sqlClass? (s : SqlState) : Option SqlClass :=
  SqlClass.lookup? s.classCode

/-- Whether the candidate is the state's code. -/
def isMatch (s : SqlState) (candidate : String) : Bool :=
  Ascii.same s.code candidate

def notNullViolation : SqlState := ⟨"23502", "not_null_violation"⟩

def foreignKeyViolation : SqlState := ⟨"23503", "foreign_key_violation"⟩

def uniqueViolation : SqlState := ⟨"23505", "unique_violation"⟩

def checkViolation : SqlState := ⟨"23514", "check_violation"⟩

def invalidTextRepresentation : SqlState := ⟨"22P02", "invalid_text_representation"⟩

end SqlState

end PgTriage
