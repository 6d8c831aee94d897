/-
The latest latencies. A window holds a fixed number of them, in the order in which they came, and
gives up the oldest for a new one. A window that holds none has nothing to give up, so nothing can be
recorded in it.
-/
import Hydration.Span.Basic

namespace Hydration

/-- What keeps a latency from being recorded, or the average from being told. -/
inductive WindowFault where
  /-- The window holds no latencies at all. -/
  | noRoom
  /-- All latencies together are no span. -/
  | overflow
deriving DecidableEq, Repr

structure Window where
  capacity : Nat
  /-- The latencies, the oldest first. -/
  samples : List Span
deriving DecidableEq

namespace Window

def empty (capacity : Nat) : Window := ⟨capacity, []⟩

-- ============================================================ recording

/-- Adds a latency at the end. -/
def record (window : Window) (latency : Span) : Except WindowFault Window :=
  if window.samples.length < window.capacity then
    .ok { window with samples := window.samples ++ [latency] }
  else
    match window.samples with
    | [] => .error .noRoom
    | _ :: later => .ok { window with samples := later ++ [latency] }

-- ============================================================ statistics

theorem div_lt_of_span (span : Span) (count : Nat) :
    span.nanos / count < Text.wordLimit * nanosPerSecond :=
  Nat.lt_of_le_of_lt (Nat.div_le_self _ _) span.nanos_lt

/-- The average, rounded down to a nanosecond. -/
def average (window : Window) : Except WindowFault (Option Span) :=
  if window.samples.isEmpty then .ok none
  else
    match Span.sum? window.samples with
    | none => .error .overflow
    | some total =>
      .ok (some ⟨total.nanos / window.samples.length, div_lt_of_span total window.samples.length⟩)

/-- The latencies from the shortest to the longest. -/
def sorted (window : Window) : List Span :=
  window.samples.mergeSort fun a b => a.nanos ≤ b.nanos

/-- The place of the 99th percentile among so many sorted latencies. -/
def percentileIndex (count : Nat) : Nat := min (count * 99 / 100) (count - 1)

/-- The 99th percentile. -/
def percentile (window : Window) : Option Span :=
  window.sorted[percentileIndex window.samples.length]?

end Window

end Hydration
