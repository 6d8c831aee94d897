/-
Spans of time. A span is a whole number of nanoseconds, and its seconds fit one machine word; every
operation that could leave this range says so instead of wrapping.
-/
import Hydration.Text.Numeral

namespace Hydration

-- ============================================================ the type

/-- How many nanoseconds one second has. -/
def nanosPerSecond : Nat := 1_000_000_000

/-- How many nanoseconds one millisecond has. -/
def nanosPerMilli : Nat := 1_000_000

/-- A length of time. -/
structure Span where
  nanos : Nat
  /-- The seconds fit a word. -/
  nanos_lt : nanos < Text.wordLimit * nanosPerSecond
deriving DecidableEq

namespace Span

/-- The span of that many nanoseconds, if it is one. -/
def ofNanos? (nanos : Nat) : Option Span :=
  if h : nanos < Text.wordLimit * nanosPerSecond then some ⟨nanos, h⟩ else none

/-- No time at all. -/
def zero : Span := ⟨0, by decide⟩

/-- So many milliseconds, counted in one word. -/
def ofMillis (millis : UInt64) : Span :=
  ⟨millis.toNat * nanosPerMilli, by
    have := millis.toNat_lt
    simp only [Text.wordLimit, nanosPerSecond, nanosPerMilli]
    omega⟩

-- ============================================================ parts

/-- The whole seconds. -/
def seconds (span : Span) : Nat := span.nanos / nanosPerSecond

/-- The nanoseconds beyond the whole seconds. -/
def subsecond (span : Span) : Nat := span.nanos % nanosPerSecond

/-- The whole milliseconds. -/
def millis (span : Span) : Nat := span.nanos / nanosPerMilli

/-- The span is empty to the nanosecond; one that merely shows as `0ms` is not. -/
def isZero (span : Span) : Bool := span.nanos = 0

-- ============================================================ sums

/-- The sum of some spans, if it is one. As spans only add up, it is enough to look at the end. -/
def sum? (spans : List Span) : Option Span :=
  ofNanos? (spans.foldl (fun total span => total + span.nanos) 0)

end Span

end Hydration
