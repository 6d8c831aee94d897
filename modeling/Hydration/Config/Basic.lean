/-
The configuration of the arbiter: which processes count as crawlers, how long a blocked request
sleeps, how the service waits for its last calls, and what happens when the provider cannot be
reached.
-/
import Hydration.Span.Text

namespace Hydration

/-- The answer to an access whose request could not be handed to the provider. -/
inductive UnreachablePolicy where
  /-- Let the access through as it is. -/
  | allow
  /-- Refuse it and tell the process why. -/
  | deny
deriving DecidableEq, Repr

namespace UnreachablePolicy

def name : UnreachablePolicy → String
  | allow => "allow"
  | deny => "deny"

def ofName? (s : String) : Option UnreachablePolicy := [allow, deny].find? (·.name = s)

end UnreachablePolicy

/-- The settings as they are in force, or about to be. -/
structure Config where
  /-- Names of processes that may not hydrate what they touch. -/
  crawlers : List String
  /-- How long a blocked request sleeps before it looks for a shutdown again. -/
  requestPoll : Span
  /-- The wait before the first look at the running calls during a shutdown. -/
  drainInitial : Span
  /-- The wait between two such looks. -/
  drainPoll : Span
  onUnreachable : UnreachablePolicy
deriving DecidableEq

namespace Config

/-- Hosts report at most this many bytes of the name of a process. -/
def maxNameBytes : Nat := 16

/-- Indexers and listeners that would otherwise hydrate everything. -/
def defaultCrawlers : List String := ["mds", "mdworker", "mds_stores", "fseventsd", "Spotlight"]

/-- The configuration of a service about which nothing was said. -/
def standard : Config where
  crawlers := defaultCrawlers
  requestPoll := .ofMillis 5000
  drainInitial := .ofMillis 1000
  drainPoll := .ofMillis 1000
  onUnreachable := .allow

/-- The configuration with the names trimmed and the blank ones dropped. -/
def effective (config : Config) : Config :=
  { config with crawlers := (config.crawlers.map Text.trim).filter fun name => !name.isEmpty }

end Config

end Hydration
