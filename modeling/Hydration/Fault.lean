/-
What can go wrong between the arbiter and those it works with.
-/
import Hydration.Config.Check
import Hydration.Root

namespace Hydration

-- ============================================================ collaborators

/-- Why the flag word of an object could not be read. -/
inductive FlagsFault where
  | unsupported
  | io (text : String)
deriving DecidableEq, Repr

def FlagsFault.message : FlagsFault → String
  | unsupported => "Filesystem does not support node flags"
  | io text => "IO error: " ++ text

/-- Why a message could not be handed to the provider of a root. -/
inductive SendFault where
  | notConnected (root : Int)
  | rejected (root : Int) (reason : String)
  | io (text : String)
deriving DecidableEq, Repr

def SendFault.message : SendFault → String
  | notConnected root => "No provider connected for root " ++ toString root
  | rejected root reason =>
    "Provider for root " ++ toString root ++ " rejected message: " ++ reason
  | io text => "IO error: " ++ text

/-- Why the registry of roots could not be set up or given back. -/
structure RegistryFault where
  text : String
deriving DecidableEq, Repr

def RegistryFault.message (fault : RegistryFault) : String :=
  "Root registry error: " ++ fault.text

-- ============================================================ decisions and requests

/-- The flags of an object could not be read. This is no verdict: without the flags nothing is known
about the object, and the host has to give up the access. -/
structure IntegrityViolation where
  path : String
  source : FlagsFault
deriving DecidableEq, Repr

def IntegrityViolation.message (violation : IntegrityViolation) : String :=
  "Cannot read access flags for '" ++ violation.path ++ "'"

/-- Why a request could not be registered. -/
inductive RegisterFault where
  | shuttingDown (id : UInt64)
  | duplicate (id : UInt64)
deriving DecidableEq, Repr

def RegisterFault.message : RegisterFault → String
  | shuttingDown id => "Shutdown in progress, request " ++ toString id ++ " not registered"
  | duplicate id => "Request id " ++ toString id ++ " is already pending"

-- ============================================================ the service

/-- Why a service could not be started, stopped or published. -/
inductive ServiceFault where
  | alreadyRunning
  | notRunning
  | listen (text : String)
  | registry (fault : RegistryFault)
  | config (fault : ConfigFault)
deriving DecidableEq

def ServiceFault.message : ServiceFault → String
  | alreadyRunning => "Service is already running"
  | notRunning => "Service is not running"
  | listen text => "Failed to register interception listener: " ++ text
  | registry fault => fault.message
  | config fault => "Config error: " ++ fault.message

end Hydration
