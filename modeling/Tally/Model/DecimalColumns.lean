import Tally.Model.Receipt

/-!
# Decimals in the database

The text of a decimal number, and what a column of type `DECIMAL(12,2)` keeps of one: a number is
rounded to cents, half away from zero, and refused if it is too large; an infinity and a NaN are
kept as they are.
-/

set_option autoImplicit false

namespace Tally.Model.DecimalColumns
open Tally.Model Tally.Model.Receipt
open Tally.Model.Applicability (Decimal)

/-! ## Texts -/

/-- The digits with a point behind so many of them, with zeros where there are none. -/
def positional (digits : List Char) (dotplace : Int) : List Char :=
  if dotplace ≤ 0 then
    '0' :: '.' :: (List.replicate (-dotplace).toNat '0' ++ digits)
  else if digits.length ≤ dotplace.toNat then
    digits ++ List.replicate (dotplace.toNat - digits.length) '0'
  else digits.take dotplace.toNat ++ '.' :: digits.drop dotplace.toNat

/-- The digits in the notation with an exponent. -/
def scientific (digits : List Char) (exponent : Int) : List Char :=
  positional digits 1 ++ 'E' :: (if exponent < 0 then '-' else '+') ::
    Nat.toDigits 10 exponent.natAbs

/-- `str(value)` of a decimal number. -/
def decimalText : Decimal → List Char
  | .nan => "NaN".toList
  | .infinity negative => (if negative then ['-'] else []) ++ "Infinity".toList
  | .finite negative coefficient exponent =>
    let digits := Nat.toDigits 10 coefficient
    let leftDigits : Int := exponent + digits.length
    (if negative then ['-'] else []) ++
      if exponent ≤ 0 ∧ -6 < leftDigits then positional digits leftDigits
      else scientific digits (leftDigits - 1)

/-! ## Columns -/

/-- The integer nearest to a quotient, the larger one of two. -/
def roundHalfUp (n d : Nat) : Nat := (2 * n + d) / (2 * d)

/-- A number in units of its last place, rounded. -/
def unitsOf (scale : Nat) (coefficient : Nat) (exponent : Int) : Nat :=
  if -(scale : Int) ≤ exponent then coefficient * 10 ^ (exponent + scale).toNat
  else roundHalfUp coefficient (10 ^ (-(scale : Int) - exponent).toNat)

/-- What a column `DECIMAL(digits, scale)` keeps of a number; the zero it keeps has no sign. -/
def storeDecimal (digits scale : Nat) : Decimal → Option Decimal
  | .nan => some .nan
  | .infinity negative => some (.infinity negative)
  | .finite negative coefficient exponent =>
    let units := unitsOf scale coefficient exponent
    if units < 10 ^ digits then some (.finite (negative && units ≠ 0) units (-scale)) else none

/-- What a money column keeps. -/
def storeMoney : Decimal → Option Decimal := storeDecimal 12 2

end Tally.Model.DecimalColumns
