/-
The arbiter: what it shares among all calls that run through it at the same time.
-/
import Hydration.Action
import Hydration.Crawlers
import Hydration.Metrics.Basic
import Hydration.Node
import Hydration.Pending.Table
import Hydration.Root

namespace Hydration

/-- One access as the host reports it. -/
structure Access where
  pid : Int
  /-- The name of the process, as far as the host keeps it. -/
  process : String
  node : Node
  action : Action

structure Arbiter where
  crawlers : Crawlers
  onUnreachable : UnreachablePolicy
  pending : Pending
  /-- Calls between their entry and their return. -/
  active : Nat
  metrics : Metrics

namespace Arbiter

/-- An arbiter through which no call has come yet. The configuration is taken as it is. -/
def ofConfig (config : Config) : Arbiter where
  crawlers := .ofConfig config
  onUnreachable := config.onUnreachable
  pending := .start
  active := 0
  metrics := .start

def count (arbiter : Arbiter) (f : Counters → Counters) : Arbiter :=
  { arbiter with metrics := arbiter.metrics.count f }

/-- Records how long a request took. The window of an arbiter has room for latencies, so this never
fails; if it had none, the latency would be lost. -/
def recordLatency (arbiter : Arbiter) (latency : Span) : Arbiter :=
  match arbiter.metrics.recordLatency latency with
  | .ok metrics => { arbiter with metrics }
  | .error _ => arbiter

/-- Takes a provider's answer to a request. -/
def deliver (arbiter : Arbiter) (id : UInt64) (kind : MessageKind) : Bool × Arbiter :=
  let (counted, pending) := arbiter.pending.deliver id kind
  (counted, { arbiter with pending })

/-- Begins the shutdown. -/
def beginShutdown (arbiter : Arbiter) : Nat × Arbiter :=
  let (woken, pending) := arbiter.pending.abort
  (woken, { arbiter with pending })

def takeId (arbiter : Arbiter) : UInt64 × Arbiter :=
  let (id, pending) := arbiter.pending.takeId
  (id, { arbiter with pending })

end Arbiter

end Hydration
