/-
How often what happened. Each counter is one word.
-/
import Hydration.Verdict
import Hydration.Text.Numeral

namespace Hydration

structure Counters where
  decisions : UInt64
  allowed : UInt64
  denied : UInt64
  /-- Accesses let through because the object lies outside of every root. -/
  fastPath : UInt64
  crawlerDenials : UInt64
  offlineDenials : UInt64
  hydrationRequests : UInt64
  hydrationFailures : UInt64
  shutdownDenials : UInt64
  transportFailures : UInt64
  integrityViolations : UInt64
deriving DecidableEq, Repr

namespace Counters

def zero : Counters := ⟨0, 0, 0, 0, 0, 0, 0, 0, 0, 0, 0⟩

-- ============================================================ what is counted

def countFastPath (c : Counters) : Counters := { c with fastPath := c.fastPath + 1 }

def countRequest (c : Counters) : Counters :=
  { c with hydrationRequests := c.hydrationRequests + 1 }

def countTransportFailure (c : Counters) : Counters :=
  { c with transportFailures := c.transportFailures + 1 }

/-- A call that ended without a verdict is a decision all the same. -/
def countIntegrityViolation (c : Counters) : Counters :=
  { c with decisions := c.decisions + 1, integrityViolations := c.integrityViolations + 1 }

/-- Two reasons have no counter of their own. -/
def countReason (c : Counters) : Reason → Counters
  | .crawler => { c with crawlerDenials := c.crawlerDenials + 1 }
  | .offlineWrite | .offlinePlaceholder => { c with offlineDenials := c.offlineDenials + 1 }
  | .hydrationFailed => { c with hydrationFailures := c.hydrationFailures + 1 }
  | .shuttingDown => { c with shutdownDenials := c.shutdownDenials + 1 }
  | .pathUnresolved | .providerUnreachable => c

def countVerdict (c : Counters) (v : Verdict) : Counters :=
  let c := { c with decisions := c.decisions + 1 }
  match v with
  | .allow => { c with allowed := c.allowed + 1 }
  | .deny reason => countReason { c with denied := c.denied + 1 } reason

-- ============================================================ what is shown

/-- All counters under the names by which they are shown, in their order. -/
def named (c : Counters) : List (String × UInt64) := [
  ("decisions", c.decisions), ("allowed", c.allowed), ("denied", c.denied),
  ("fast_path", c.fastPath), ("crawler_denials", c.crawlerDenials),
  ("offline_denials", c.offlineDenials), ("hydration_requests", c.hydrationRequests),
  ("hydration_failures", c.hydrationFailures), ("shutdown_denials", c.shutdownDenials),
  ("transport_failures", c.transportFailures),
  ("integrity_violations", c.integrityViolations)]

end Counters

end Hydration
