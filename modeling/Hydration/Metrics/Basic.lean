/-
The metrics of an arbiter, and a look at them: the counters, and the average and the 99th percentile
of the latencies once there are any.
-/
import Hydration.Metrics.Counters
import Hydration.Metrics.Window
import Hydration.Decimal.Layout
import Hydration.Json.Text

namespace Hydration

-- ============================================================ the metrics

structure Metrics where
  counters : Counters
  latencies : Window
deriving DecidableEq

namespace Metrics

/-- How many latencies the metrics of an arbiter look back on. -/
def windowSize : Nat := 1000

/-- The metrics of a new arbiter. -/
def start : Metrics := ⟨.zero, .empty windowSize⟩

/-- Metrics that have no place for latencies. -/
def bare : Metrics := ⟨.zero, .empty 0⟩

def count (metrics : Metrics) (f : Counters → Counters) : Metrics :=
  { metrics with counters := f metrics.counters }

def countVerdict (metrics : Metrics) (v : Verdict) : Metrics :=
  metrics.count (·.countVerdict v)

def recordLatency (metrics : Metrics) (latency : Span) : Except WindowFault Metrics :=
  match metrics.latencies.record latency with
  | .ok latencies => .ok { metrics with latencies }
  | .error fault => .error fault

end Metrics

-- ============================================================ a look at them

/-- The metrics at one moment. -/
structure Snapshot where
  counters : Counters
  average : Option Span
  percentile : Option Span
deriving DecidableEq

def Metrics.snapshot (metrics : Metrics) : Except WindowFault Snapshot :=
  match metrics.latencies.average with
  | .ok average => .ok ⟨metrics.counters, average, metrics.latencies.percentile⟩
  | .error fault => .error fault

/-- The span in milliseconds, as the nearest floating-point numbers give it: the seconds and the rest
are brought together before the unit is changed. -/
def Span.floatMillis (span : Span) : Float :=
  (span.seconds.toUInt64.toFloat + span.subsecond.toUInt64.toFloat / 1000000000.0) * 1000.0

namespace Snapshot

/-- The snapshot as a JSON object with a line for each member; latencies are left out while there are
none. -/
def toJson (snapshot : Snapshot) : String :=
  let millis (span : Span) : String :=
    (Decimal.shortest .even (.ofBits span.floatMillis.toBits)).compact
  let latency (name : String) (span : Option Span) : List (String × String) :=
    match span with
    | some span => [(name, millis span)]
    | none => []
  Json.tallObject
    (snapshot.counters.named.map (fun counter => (counter.1, Text.decimal counter.2.toNat)) ++
      latency "hydration_avg_ms" snapshot.average ++
      latency "hydration_p99_ms" snapshot.percentile)

end Snapshot

end Hydration
