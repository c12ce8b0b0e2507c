/-
Doubles, read from decimals and written in the fewest digits.

A finite double is a whole number of at most 53 bits times a power of two.  A decimal is
read as the nearest double, a tie going to the even one.  A double is written as the
decimal with the fewest digits that reads back as the same double, and as the nearest of
those, the greater of two equally near; it is written positionally, however long that
gets.

Everything is done on whole numbers: a comparison of two fractions is a comparison of
cross products.
-/
namespace PgTriage

/-- A double. -/
inductive Binary64 where
  /-- The mantissa times two to the exponent, with a sign. -/
  | finite (negative : Bool) (mantissa : Nat) (exponent : Int)
  | infinite (negative : Bool)
  | nan
deriving DecidableEq, Repr

namespace Binary64

/-- A power of two. -/
def pow2 (k : Nat) : Nat := Nat.pow 2 k

/-- A power of ten. -/
def pow10 (k : Nat) : Nat := Nat.pow 10 k

/-- The quotient rounded to the nearest whole number, a tie going to the even one. -/
def roundDiv (num den : Nat) : Nat :=
  let q := num / den
  let r := num % den
  if 2 * r < den then q
  else if 2 * r > den then q + 1
  else if q % 2 = 0 then q
  else q + 1

/-- The number of decimal digits. -/
def digitCount (n : Nat) : Nat := (Nat.toDigits 10 n).length

/-- The double nearest to a positive fraction. -/
def ofFraction (negative : Bool) (num den : Nat) : Binary64 :=
  let guess : Int := (num.log2 : Int) - den.log2 - 52
  let small := num * pow2 (-guess).toNat < den * pow2 guess.toNat * pow2 52
  let exponent := max (-1074) (if small then guess - 1 else guess)
  let mantissa := roundDiv (num * pow2 (-exponent).toNat) (den * pow2 exponent.toNat)
  let (mantissa, exponent) :=
    if mantissa = pow2 53 then (pow2 52, exponent + 1) else (mantissa, exponent)
  if exponent > 971 then .infinite negative else .finite negative mantissa exponent

/--
The double nearest to a whole number times a power of ten.  The power is looked at
first, so that one far out of range costs nothing.
-/
def ofDecimal (negative : Bool) (digits : Nat) (exponent : Int) : Binary64 :=
  let size := (digitCount digits : Int) + exponent
  if digits = 0 ∨ size < -330 then .finite negative 0 0
  else if size > 310 then .infinite negative
  else ofFraction negative (digits * pow10 exponent.toNat) (pow10 (-exponent).toNat)

/-! ### Writing -/

/-- A whole number times a power of ten. -/
structure Decimal where
  digits : Nat
  exponent : Int
deriving DecidableEq, Repr

/--
The decimal on the grid of step `10 ^ k` that reads back as the double, if there is one:
of the two neighbours of the double on the grid, the nearer of those that lie between the
midpoints to the next doubles, and the greater where both are equally near.  Fractions
are in quarters of the mantissa's unit.
-/
def onGrid? (mantissa : Nat) (exponent : Int) (k : Int) : Option Decimal :=
  let gap := if mantissa = pow2 52 ∧ exponent > -1074 then 1 else 2
  let unit := exponent - 2
  let step := pow10 k.toNat * pow2 (-unit).toNat
  let scale := pow2 unit.toNat * pow10 (-k).toNat
  let low := (4 * mantissa - gap) * scale
  let high := (4 * mantissa + 2) * scale
  let value := 4 * mantissa * scale
  let inside (c : Nat) : Bool :=
    if mantissa % 2 = 0 then low ≤ c * step && c * step ≤ high
    else low < c * step && c * step < high
  let below := value / step
  let above := below + 1
  match inside below, inside above with
  | true, true =>
    if 2 * value ≥ (below + above) * step then some ⟨above, k⟩ else some ⟨below, k⟩
  | true, false => some ⟨below, k⟩
  | false, true => some ⟨above, k⟩
  | false, false => none

/-- The first hit on ever finer grids, of which a double needs no more than `fuel`. -/
def onGrids (mantissa : Nat) (exponent : Int) (k : Int) : Nat → Decimal
  | 0 => ⟨mantissa, 0⟩
  | fuel + 1 =>
    match onGrid? mantissa exponent k with
    | some d => d
    | none => onGrids mantissa exponent (k - 1) fuel

/-- A power of ten above the double, and not far above. -/
def magnitude (mantissa : Nat) (exponent : Int) : Int :=
  let num := mantissa * pow2 exponent.toNat
  let den := pow2 (-exponent).toNat
  if num ≥ den then digitCount (num / den) else 2 - (digitCount (den / num) : Int)

/-- The shortest decimal that reads back as a positive double. -/
def shortest (mantissa : Nat) (exponent : Int) : Decimal :=
  onGrids mantissa exponent (magnitude mantissa exponent) 24

/-- A decimal without an exponent. -/
def Decimal.positional (d : Decimal) : List Char :=
  let digits := Nat.toDigits 10 d.digits
  let whole := (digits.length : Int) + d.exponent
  if d.exponent ≥ 0 then digits ++ List.replicate d.exponent.toNat '0'
  else if whole > 0 then digits.take whole.toNat ++ '.' :: digits.drop whole.toNat
  else '0' :: '.' :: List.replicate (-whole).toNat '0' ++ digits

/-- The double as text. -/
def toText : Binary64 → String
  | .finite negative mantissa exponent =>
    let digits := if mantissa = 0 then ['0'] else (shortest mantissa exponent).positional
    .ofList (if negative then '-' :: digits else digits)
  | .infinite negative => if negative then "-inf" else "inf"
  | .nan => "NaN"

end Binary64

end PgTriage
