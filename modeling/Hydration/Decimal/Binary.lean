/-
Binary floating-point magnitudes of 64-bit numbers, as a whole number times a power of two. The
nearest one to a fraction is found in exact arithmetic; of two that are equally near the even one is
taken.
-/

namespace Hydration.Decimal

/-- A magnitude `mantissa · 2 ^ exponent`. -/
structure Binary where
  mantissa : Nat
  exponent : Int
deriving DecidableEq, Repr

namespace Binary

/-- Bits of a mantissa. -/
def precision : Nat := 53

/-- The exponent below which no magnitude reaches. -/
def leastExponent : Int := -1074

/-- The exponent of the largest magnitudes. -/
def greatestExponent : Int := 971

/-- The magnitude of a finite number, from its bits. -/
def ofBits (bits : UInt64) : Binary :=
  let fraction : Nat := bits.toNat % (1 <<< 52)
  let exponent : Nat := bits.toNat >>> 52 % (1 <<< 11)
  if exponent = 0 then ⟨fraction, leastExponent⟩
  else ⟨(1 <<< 52) + fraction, (exponent : Int) - 1075⟩

/-- `n / d` as a fraction of `2 ^ exponent`. -/
def scale (n d : Nat) (exponent : Int) : Nat × Nat :=
  (n <<< (-exponent).toNat, d <<< exponent.toNat)

/-- The whole number nearest to a fraction, the even one of two. -/
def roundEven (n d : Nat) : Nat :=
  let quotient := n / d
  let twice := 2 * (n % d)
  if twice < d then quotient
  else if d < twice then quotient + 1
  else quotient + quotient % 2

/-- The magnitude nearest to `n / d`, if there is one so large. -/
def nearest? (n d : Nat) : Option Binary :=
  if n = 0 then some ⟨0, leastExponent⟩
  else
    let guess : Int := (n.log2 : Int) - d.log2 - 52
    let (n', d') := scale n d guess
    let exact := if n' < d' <<< (precision - 1) then guess - 1 else guess
    let exponent := max exact leastExponent
    let (n', d') := scale n d exponent
    let mantissa := roundEven n' d'
    let rounded : Binary :=
      if mantissa = 1 <<< precision then ⟨1 <<< (precision - 1), exponent + 1⟩ else ⟨mantissa, exponent⟩
    if rounded.exponent ≤ greatestExponent then some rounded else none

end Binary

end Hydration.Decimal
