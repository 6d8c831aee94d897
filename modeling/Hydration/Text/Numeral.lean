/-
Whole numbers in text: their decimal digits read and written, and the readers for a machine word,
which refuse a number that does not fit rather than wrap it.
-/

namespace Hydration.Text

/-- Whether `c` is one of the ten ASCII digits. -/
def isDigit (c : Char) : Bool := '0' ≤ c && c ≤ '9'

/-- The value of a digit in any base up to 36; letters of either size follow the ten digits. -/
def digitValue? (base : Nat) (c : Char) : Option Nat :=
  let n :=
    if '0' ≤ c ∧ c ≤ '9' then c.toNat - '0'.toNat
    else if 'a' ≤ c ∧ c ≤ 'z' then c.toNat - 'a'.toNat + 10
    else if 'A' ≤ c ∧ c ≤ 'Z' then c.toNat - 'A'.toNat + 10
    else base
  if n < base then some n else none

/-- The number that digits denote when `value` stands before them; a character that is no digit of
the base spoils it. -/
def digitsValue? (base : Nat) (value : Nat) : List Char → Option Nat
  | [] => some value
  | c :: cs =>
    match digitValue? base c with
    | some digit => digitsValue? base (value * base + digit) cs
    | none => none

/-- A number with at least one digit and nothing else. -/
def natOfDigits? (base : Nat) (cs : List Char) : Option Nat :=
  if cs.isEmpty then none else digitsValue? base 0 cs

/-- The decimal digits of a number, without leading zeros. -/
def decimal (n : Nat) : String := String.ofList (Nat.toDigits 10 n)

/-- A number below `limit`, written with an optional plus sign. -/
def natBelow? (limit : Nat) (cs : List Char) : Option Nat :=
  let digits := match cs with
    | '+' :: rest => rest
    | _ => cs
  match natOfDigits? 10 digits with
  | some n => if n < limit then some n else none
  | none => none

/-- One more than the largest 64-bit word. -/
def wordLimit : Nat := 18_446_744_073_709_551_616

end Hydration.Text
