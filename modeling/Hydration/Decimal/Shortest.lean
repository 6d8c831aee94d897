/-
The shortest decimal number that reads back as a given binary magnitude. The numbers that round to a
magnitude form an interval, reaching half way to its neighbours; the ends belong to it when the
mantissa is even. Of all powers of ten of which the interval holds a multiple the largest is taken,
and there the multiple nearest to the magnitude.
-/
import Hydration.Decimal.Binary
import Hydration.Text.Numeral

namespace Hydration

-- ============================================================ decimals

/-- The number `digits · 10 ^ exponent`. -/
structure Decimal where
  digits : Nat
  exponent : Int
deriving DecidableEq, Repr

namespace Decimal

/-- Which of two equally near decimals is taken. -/
inductive Tie where
  | even
  | up
deriving DecidableEq, Repr

-- ============================================================ the search

/-- The interval of a magnitude and the magnitude itself, as multiples of a quarter of its last bit. -/
structure Interval where
  low : Nat
  middle : Nat
  high : Nat
  /-- The ends belong to the interval. -/
  closed : Bool

/-- The lower neighbour of a power of two is only half as far away. -/
def Interval.around (b : Binary) : Interval where
  low :=
    if b.mantissa = 1 <<< 52 ∧ Binary.leastExponent < b.exponent then 4 * b.mantissa - 1
    else 4 * b.mantissa - 2
  middle := 4 * b.mantissa
  high := 4 * b.mantissa + 2
  closed := b.mantissa % 2 = 0

/-- Whether a number lies in the interval when the interval is measured in the same unit. -/
def Interval.holds (interval : Interval) (n unit : Nat) : Bool :=
  if interval.closed then interval.low * unit ≤ n && n ≤ interval.high * unit
  else interval.low * unit < n && n < interval.high * unit

/-- The multiple of `10 ^ exponent` in the interval that is nearest to its middle. -/
def multiple? (tie : Tie) (b : Binary) (exponent : Int) : Option Nat :=
  let interval := Interval.around b
  let quarter := b.exponent - 2
  let unit := Nat.pow 10 (-exponent).toNat <<< quarter.toNat
  let step := Nat.pow 10 exponent.toNat <<< (-quarter).toNat
  let middle := interval.middle * unit
  let below := middle / step
  let above := below + 1
  let inside (n : Nat) : Bool := 0 < n && interval.holds (n * step) unit
  match inside below, inside above with
  | false, false => none
  | true, false => some below
  | false, true => some above
  | true, true =>
    let down := middle - below * step
    let up := above * step - middle
    if down < up then some below
    else if up < down then some above
    else if tie = .even ∧ below % 2 = 0 then some below
    else some above

/-- Tries the powers of ten downwards. -/
def search (tie : Tie) (b : Binary) : Nat → Int → Decimal
  | 0, _ => ⟨b.mantissa, 0⟩
  | fuel + 1, exponent =>
    match multiple? tie b exponent with
    | some digits => ⟨digits, exponent⟩
    | none => search tie b fuel (exponent - 1)

/-- The shortest decimal of a magnitude. Three decimal digits stand for at most ten bits, so the
search begins above the magnitude, and seventeen digits always suffice. -/
def shortest (tie : Tie) (b : Binary) : Decimal :=
  if b.mantissa = 0 then ⟨0, 0⟩
  else search tie b 40 (((b.mantissa.log2 : Int) + b.exponent) * 30103 / 100000 + 2)

end Decimal

end Hydration
