/-
What a rehearsal writes down: every operation it carried out, and everything that went otherwise than
expected.
-/
import Hydration.Simulation.Operation

namespace Hydration

-- ============================================================ how ends are shown

/-- The fault as a record of its parts. -/
def FlagsFault.describe : FlagsFault → String
  | unsupported => "Unsupported"
  | io text => "Io(Custom \x7b kind: Other, error: " ++ Text.quote text ++ " \x7d)"

/-- The violation as a record of its parts. -/
def IntegrityViolation.describe (violation : IntegrityViolation) : String :=
  "IntegrityViolation \x7b path: " ++ Text.quote violation.path ++
    ", source: " ++ violation.source.describe ++ " \x7d"

/-- An end that is a verdict, or else a text for what it is instead. -/
def describeEnd (violation : IntegrityViolation → String) : Decision → String
  | .ok v => "Ok(" ++ v.describe ++ ")"
  | .error found => "Err(" ++ violation found ++ ")"

def Expected.describe : Expected → String
  | verdict v => "Verdict(" ++ v.describe ++ ")"
  | violation => "IntegrityViolation"

def describeBool (b : Bool) : String := if b then "true" else "false"

-- ============================================================ the trace

/-- One operation that was carried out, and an access with its end. -/
inductive TraceEntry where
  | access (path : String) (caller : Caller) (action : Action) (decision : Decision)
  | online (online : Bool)
  | behaviour (behaviour : Behaviour)
  | prefetch (path : String)

def TraceEntry.line : TraceEntry → String
  | access path caller action decision =>
    caller.name ++ " " ++ path ++ " " ++ Bits.hex action.bits.toNat ++ " -> " ++
      describeEnd (fun violation => Text.quote violation.message) decision
  | online isOnline => "online=" ++ describeBool isOnline
  | behaviour b => "behaviour=" ++ b.describe
  | prefetch path => "prefetch " ++ path

-- ============================================================ findings

/-- Something that is not as it should be. -/
inductive Finding where
  /-- An access ended otherwise than predicted. -/
  | decision (path : String) (caller : Caller) (action : Action) (expected : Expected)
      (actual : Decision)
  /-- An object should be empty and is not, or the other way round. -/
  | content (path : String) (expected actual : Bool)
  /-- Requests are in flight between two operations. -/
  | requests (count : Nat)
  /-- Calls are under way between two operations. -/
  | calls (count : Nat)
  /-- Requests or calls are left after the end. -/
  | unfinished

def Finding.text : Finding → String
  | decision path caller action expected actual =>
    caller.name ++ " (pid " ++ toString caller.pid ++ ") " ++ action.describe ++ " on " ++ path ++
      ": expected " ++ expected.describe ++ ", got " ++
      describeEnd IntegrityViolation.describe actual
  | content path expected actual =>
    path ++ ": model empty=" ++ describeBool expected ++ " but filesystem empty=" ++
      describeBool actual
  | requests count => Text.decimal count ++ " requests left pending"
  | calls count => Text.decimal count ++ " callbacks still active"
  | unfinished => "service stopped with work in flight"

/-- A finding, and the number of the step in which it was made. -/
structure Violation where
  step : Nat
  finding : Finding

def Violation.line (violation : Violation) : String :=
  "step " ++ Text.decimal violation.step ++ ": " ++ violation.finding.text

end Hydration
