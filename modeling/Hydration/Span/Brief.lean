/-
Spans as a trace shows them: one number in the largest unit that fits at least once, with as many
decimal places as the span needs.
-/
import Hydration.Span.Basic

namespace Hydration

/-- A unit by its symbol and by the number of decimal places that a nanosecond has in it. -/
structure BriefUnit where
  symbol : String
  places : Nat

namespace BriefUnit

/-- All units, the largest first. -/
def all : List BriefUnit := [⟨"s", 9⟩, ⟨"ms", 6⟩, ⟨"µs", 3⟩]

def nanosecond : BriefUnit := ⟨"ns", 0⟩

/-- The largest unit that fits at least once. -/
def fitting (nanos : Nat) : BriefUnit :=
  (all.find? fun unit => Nat.pow 10 unit.places ≤ nanos).getD nanosecond

end BriefUnit

namespace Span

/-- The lowest digits of a number, with zeros in front where there are too few. -/
def lowDigits : Nat → Nat → List Char
  | 0, _ => []
  | places + 1, n => lowDigits places (n / 10) ++ [Nat.digitChar (n % 10)]

/-- The decimal places of a number that counts units with so many places, up to the last that is not
zero. -/
def decimalPlaces (places n : Nat) : List Char :=
  ((lowDigits places n).reverse.dropWhile (· = '0')).reverse

/-- The span as a trace shows it. -/
def brief (span : Span) : String :=
  let unit := BriefUnit.fitting span.nanos
  let places := decimalPlaces unit.places span.nanos
  let fraction := if places.isEmpty then "" else "." ++ String.ofList places
  Text.decimal (span.nanos / Nat.pow 10 unit.places) ++ fraction ++ unit.symbol

end Span

end Hydration
