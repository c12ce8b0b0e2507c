/-
UTF-8 text as a list of bytes.

The body of an error response is a run of bytes in which texts are written in UTF-8.
Reading accepts exactly what writing produces, so a text and its bytes determine each
other.
-/
namespace PgTriage.Utf8

/-- The bytes of a text. -/
def encode (s : String) : List UInt8 :=
  s.toUTF8.data.toList

/-- The text whose bytes these are, if they are the bytes of a text. -/
def decode? (bytes : List UInt8) : Option String :=
  String.fromUTF8? ⟨bytes.toArray⟩

theorem decode?_encode (s : String) : decode? (encode s) = some s := by
  have h : (⟨(encode s).toArray⟩ : ByteArray) = s.toUTF8 := rfl
  simp only [decode?, h, String.fromUTF8?, String.toUTF8_eq_toByteArray, dif_pos s.isValidUTF8]
  rfl

theorem decode?_eq_some_iff {bytes : List UInt8} {s : String} :
    decode? bytes = some s ↔ bytes = encode s := by
  constructor
  · intro h
    simp only [decode?, String.fromUTF8?] at h
    split at h
    · simp only [Option.some.injEq] at h
      subst h
      simp [encode, String.fromUTF8]
    · simp at h
  · rintro rfl
    exact decode?_encode s

end PgTriage.Utf8
