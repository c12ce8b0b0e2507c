/-
The fields of a server error.

An error response carries texts, each tagged with one byte.  Eighteen tags have a
meaning; a byte without one is kept as it came.  Fields are listed in the order below,
those with a meaning first, the rest by their bytes.

A code made from a byte is never an unknown code for a byte that has a meaning.  Such a
code can be written down all the same: it is another field, which the wire cannot tell
from the one with the meaning.
-/
namespace PgTriage

/-- What a field of a server error holds. -/
inductive FieldCode where
  | severity
  | severityNonLocalized
  | code
  | message
  | detail
  | hint
  | position
  | internalPosition
  | internalQuery
  /-- The call stack in which the error arose. -/
  | context
  | schema
  | table
  | column
  | dataType
  | constraint
  | file
  | line
  | routine
  | unknown (byte : UInt8)
deriving DecidableEq, Repr

namespace FieldCode

/-- The code of a tag byte. -/
def ofByte (byte : UInt8) : FieldCode :=
  match byte with
  | 83 => severity
  | 86 => severityNonLocalized
  | 67 => code
  | 77 => message
  | 68 => detail
  | 72 => hint
  | 80 => position
  | 112 => internalPosition
  | 113 => internalQuery
  | 87 => context
  | 115 => schema
  | 116 => table
  | 99 => column
  | 100 => dataType
  | 110 => constraint
  | 70 => file
  | 76 => line
  | 82 => routine
  | other => unknown other

/-- The tag byte of a code. -/
def byte : FieldCode → UInt8
  | severity => 83
  | severityNonLocalized => 86
  | code => 67
  | message => 77
  | detail => 68
  | hint => 72
  | position => 80
  | internalPosition => 112
  | internalQuery => 113
  | context => 87
  | schema => 115
  | table => 116
  | column => 99
  | dataType => 100
  | constraint => 110
  | file => 70
  | line => 76
  | routine => 82
  | unknown byte => byte

/-- The place of a code in the order of fields. -/
def rank : FieldCode → Nat
  | severity => 0
  | severityNonLocalized => 1
  | code => 2
  | message => 3
  | detail => 4
  | hint => 5
  | position => 6
  | internalPosition => 7
  | internalQuery => 8
  | context => 9
  | schema => 10
  | table => 11
  | column => 12
  | dataType => 13
  | constraint => 14
  | file => 15
  | line => 16
  | routine => 17
  | unknown byte => 18 + byte.toNat

/-- The name a code is reported by. -/
def name : FieldCode → String
  | severity => "Severity"
  | severityNonLocalized => "SeverityNonLocalized"
  | code => "Code"
  | message => "Message"
  | detail => "Detail"
  | hint => "Hint"
  | position => "Position"
  | internalPosition => "InternalPosition"
  | internalQuery => "InternalQuery"
  | context => "Where"
  | schema => "Schema"
  | table => "Table"
  | column => "Column"
  | dataType => "DataType"
  | constraint => "Constraint"
  | file => "File"
  | line => "Line"
  | routine => "Routine"
  | unknown byte => "Unknown(" ++ toString byte.toNat ++ ")"

theorem byte_ofByte (b : UInt8) : (ofByte b).byte = b := by
  unfold ofByte
  split <;> rfl

theorem rank_injective {c d : FieldCode} (h : c.rank = d.rank) : c = d := by
  cases c <;> cases d <;> simp_all [rank, ← UInt8.toNat_inj] <;> omega

/-! ### The order of fields -/

instance : Ord FieldCode := ⟨fun c d => compare c.rank d.rank⟩

theorem compare_eq (c d : FieldCode) : compare c d = compare c.rank d.rank := rfl

instance : Std.TransOrd FieldCode where
  eq_swap := by intro c d; rw [compare_eq, compare_eq]; exact Std.OrientedCmp.eq_swap
  isLE_trans := by
    intro c d e hcd hde
    rw [compare_eq] at *
    exact Std.TransCmp.isLE_trans hcd hde

instance : Std.LawfulEqOrd FieldCode where
  compare_self := by intro c; rw [compare_eq]; exact Std.ReflCmp.compare_self
  eq_of_compare := by
    intro c d h
    rw [compare_eq] at h
    exact rank_injective (Std.LawfulEqCmp.compare_eq_iff_eq.1 h)

end FieldCode

end PgTriage
