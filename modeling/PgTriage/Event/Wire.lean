/-
The body of an error response.

A body is a run of fields and a zero byte that ends it.  A field is a tag byte other
than zero, its text in UTF-8, and a zero byte.  Reading stops at the first thing that is
not so and says what it was: the body ends where a tag should stand, a text is not
ended, a text is not UTF-8, or bytes follow the end.

Writing an event lists its fields in the order of their codes.
-/
import PgTriage.Event.Basic
import PgTriage.Text.Search
import PgTriage.Text.Utf8

namespace PgTriage

/-- What reading a body fails with; a field is told by its tag. -/
inductive DecodeError where
  | missingTerminator
  | unterminatedField (tag : UInt8)
  | invalidUtf8 (tag : UInt8)
  | trailingBytes (count : Nat)
deriving DecidableEq, Repr

/-- A tag byte as a character. -/
def tagText (tag : UInt8) : String := .ofList [Char.ofNat tag.toNat]

/-- The error's text. -/
def DecodeError.message : DecodeError → String
  | .missingTerminator => "error response is missing its terminating NUL byte"
  | .unterminatedField tag => "field '" ++ tagText tag ++ "' is not NUL-terminated"
  | .invalidUtf8 tag => "field '" ++ tagText tag ++ "' is not valid UTF-8"
  | .trailingBytes count => toString count ++ " unexpected bytes after error response terminator"

namespace Wire

/-- A field as it stands in a body. -/
structure Field where
  tag : UInt8
  text : String
deriving DecidableEq, Repr

/-- The bytes of a field. -/
def Field.encode (f : Field) : List UInt8 := f.tag :: Utf8.encode f.text ++ [0]

/-- The body that holds the fields. -/
def encode (fields : List Field) : List UInt8 := fields.flatMap Field.encode ++ [0]

/-- The fields of a body. -/
def decode : List UInt8 → Except DecodeError (List Field)
  | [] => .error .missingTerminator
  | tag :: rest =>
    if tag = 0 then
      if rest.isEmpty then .ok [] else .error (.trailingBytes rest.length)
    else
      match _h : Text.splitFirst? 0 rest with
      | none => .error (.unterminatedField tag)
      | some (bytes, after) =>
        match Utf8.decode? bytes with
        | none => .error (.invalidUtf8 tag)
        | some text => (decode after).map (⟨tag, text⟩ :: ·)
termination_by body => body.length
decreasing_by
  obtain ⟨rfl, _⟩ := Text.splitFirst?_eq_some_iff.1 _h
  simp only [List.length_cons, List.length_append]
  omega

end Wire

namespace Event

/-- The event of a body; of two fields with one code the later counts. -/
def decode (body : List UInt8) : Except DecodeError Event :=
  (Wire.decode body).map fun fields =>
    ofFields (fields.map fun f => (FieldCode.ofByte f.tag, f.text))

/-- The body of an event. -/
def encode (e : Event) : List UInt8 :=
  Wire.encode (e.toList.map fun f => ⟨f.1.byte, f.2⟩)

end Event

end PgTriage
