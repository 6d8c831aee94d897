/-
The answer to an access: let it through, or refuse it for one of seven reasons. Three reasons carry
a code that the host can hand to the process, the others leave the choice to the host.
-/

namespace Hydration

/-- Why an access was refused. -/
inductive Reason where
  /-- A crawler touched a placeholder. -/
  | crawler
  /-- The access writes, and the root has no provider. -/
  | offlineWrite
  /-- The access needs content, and the root has no provider. -/
  | offlinePlaceholder
  /-- The provider could not deliver the content. -/
  | hydrationFailed
  /-- The service is going down. -/
  | shuttingDown
  /-- The object has no path inside its root. -/
  | pathUnresolved
  /-- The request could not be handed to the provider. -/
  | providerUnreachable
deriving DecidableEq, Repr

/-- What a refused process is told. -/
inductive ErrorCode where
  | tryAgain
  | unavailable
  | providerUnreachable
deriving DecidableEq, Repr

/-- The number of the code among the host's error numbers. -/
def ErrorCode.number : ErrorCode → Nat
  | tryAgain => 11
  | unavailable => 108
  | providerUnreachable => 107

def ErrorCode.name : ErrorCode → String
  | tryAgain => "TryAgain"
  | unavailable => "Unavailable"
  | providerUnreachable => "ProviderUnreachable"

namespace Reason

def all : List Reason := [
  crawler, offlineWrite, offlinePlaceholder, hydrationFailed, shuttingDown, pathUnresolved,
  providerUnreachable]

/-- The reason in words. -/
def text : Reason → String
  | crawler => "crawler access to placeholder"
  | offlineWrite => "write on offline root"
  | offlinePlaceholder => "placeholder access on offline root"
  | hydrationFailed => "hydration failed"
  | shuttingDown => "service shutting down"
  | pathUnresolved => "path unresolved"
  | providerUnreachable => "provider unreachable"

def name : Reason → String
  | crawler => "Crawler"
  | offlineWrite => "OfflineWrite"
  | offlinePlaceholder => "OfflinePlaceholder"
  | hydrationFailed => "HydrationFailed"
  | shuttingDown => "ShuttingDown"
  | pathUnresolved => "PathUnresolved"
  | providerUnreachable => "ProviderUnreachable"

/-- The code that goes with the reason, if one does. -/
def code? : Reason → Option ErrorCode
  | hydrationFailed => some .tryAgain
  | shuttingDown => some .unavailable
  | providerUnreachable => some .providerUnreachable
  | crawler | offlineWrite | offlinePlaceholder | pathUnresolved => none

end Reason

/-- The decision about one access. -/
inductive Verdict where
  | allow
  | deny (reason : Reason)
deriving DecidableEq, Repr

namespace Verdict

def isAllow (v : Verdict) : Bool := v = allow

def reason? : Verdict → Option Reason
  | allow => none
  | deny reason => some reason

/-- The code a process is told, where there is one. -/
def code? (v : Verdict) : Option ErrorCode := v.reason?.bind Reason.code?

/-- The verdict as shown in a trace. -/
def describe : Verdict → String
  | allow => "Allow"
  | deny reason => "Deny(" ++ reason.name ++ ")"

end Verdict

end Hydration
