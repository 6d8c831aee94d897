/-
The text of a decimal number. The positional layout writes all zeros out; the compact one turns to
an exponent for numbers with more than sixteen digits before the point or with more than four zeros
directly behind it. Both keep a point, so that the text is never taken for a whole number.
-/
import Hydration.Decimal.Shortest

namespace Hydration.Decimal

def zeros (count : Nat) : String := String.ofList (List.replicate count '0')

/-- The digits with a point behind the first `whole` of them, which may lie outside of the digits. -/
def placePoint (digits : String) (whole : Int) : String :=
  let count := digits.length
  if whole ≤ 0 then "0." ++ zeros (-whole).toNat ++ digits
  else if (count : Int) ≤ whole then digits ++ zeros (whole.toNat - count) ++ ".0"
  else
    String.ofList (digits.toList.take whole.toNat) ++ "." ++
      String.ofList (digits.toList.drop whole.toNat)

/-- How many digits stand before the point. -/
def whole (d : Decimal) : Int := (Text.decimal d.digits).length + d.exponent

/-- The number without an exponent. -/
def positional (d : Decimal) : String :=
  if d.digits = 0 then "0.0" else placePoint (Text.decimal d.digits) d.whole

/-- The number with an exponent and its sign: one digit before the point, and no point behind a lone
digit. -/
def scientific (d : Decimal) : String :=
  let exponent := d.whole - 1
  let mantissa :=
    match (Text.decimal d.digits).toList with
    | [digit] => String.ofList [digit]
    | digits => placePoint (String.ofList digits) 1
  let sign := if exponent < 0 then "-" else "+"
  mantissa ++ "e" ++ sign ++ Text.decimal exponent.natAbs

/-- The number in the shorter of the two forms. -/
def compact (d : Decimal) : String :=
  if d.digits = 0 then "0.0"
  else if -5 < d.whole ∧ d.whole ≤ 16 then placePoint (Text.decimal d.digits) d.whole
  else d.scientific

end Hydration.Decimal
