/-
Services held under names, and the one place where a service can be published for those who have no
name for it. A service belongs to all who hold it; when the last of them lets go of it and it still
runs, it is stopped.

Each attempt to start a service has a number and a log of its own. A name shows the log of its latest
attempt, also after it has let go of the service.
-/
import Hydration.Service.Script

namespace Hydration

/-- One attempt to start a service: the service, if there is one and somebody holds it, and the log of
its surroundings. -/
structure Attempt where
  service : Option Service
  world : PreparedPremises

structure Shelf where
  /-- All attempts; the number of one is its position. -/
  attempts : List Attempt
  /-- The service that a name holds. -/
  holders : List (String × Nat)
  /-- The latest attempt under a name. -/
  latest : List (String × Nat)
  published : Option Nat

namespace Shelf

def empty : Shelf := ⟨[], [], [], none⟩

-- ============================================================ looking

def holder? (shelf : Shelf) (name : String) : Option Nat := shelf.holders.lookup name

/-- A service under way, with its surroundings. -/
def service? (shelf : Shelf) (number : Nat) : Option (Service × PreparedPremises) :=
  match shelf.attempts[number]? with
  | some ⟨some service, world⟩ => some (service, world)
  | _ => none

/-- The service that a name holds, and its number. -/
def held? (shelf : Shelf) (name : String) : Option (Nat × Service × PreparedPremises) :=
  match shelf.holder? name with
  | some number => (shelf.service? number).map fun found => (number, found)
  | none => none

/-- The name that holds a service. -/
def nameOf? (shelf : Shelf) (number : Nat) : Option String :=
  (shelf.holders.find? (·.2 = number)).map (·.1)

def isHeld (shelf : Shelf) (number : Nat) : Bool :=
  (shelf.nameOf? number).isSome || shelf.published = some number

/-- The log that a name shows. -/
def log (shelf : Shelf) (name : String) : List ServiceCall :=
  match (shelf.latest.lookup name).bind (shelf.attempts[·]?) with
  | some attempt => attempt.world.log
  | none => []

-- ============================================================ changes

def setAttempt (shelf : Shelf) (number : Nat) (attempt : Attempt) : Shelf :=
  { shelf with attempts := shelf.attempts.set number attempt }

/-- Lets a service go that nobody holds any more. -/
def collect (shelf : Shelf) (number : Nat) : Shelf :=
  if shelf.isHeld number then shelf
  else
    match shelf.service? number with
    | some (service, world) =>
      shelf.setAttempt number ⟨none, service.abandon PreparedPremises.premises world⟩
    | none => shelf

/-- Puts a value under a name in the place of another one. -/
def assign (name : String) (number : Nat) (entries : List (String × Nat)) : List (String × Nat) :=
  (name, number) :: entries.filter (·.1 != name)

/-- Starts a service under a name. An earlier one is let go only when the new one runs. -/
def start (shelf : Shelf) (name : String) (config : Config) (script : ServiceScript) :
    Except ServiceFault Unit × Shelf :=
  let number := shelf.attempts.length
  let (result, world) := Service.start PreparedPremises.premises config ⟨script, []⟩
  let latest := assign name number shelf.latest
  match result with
  | .error fault =>
    (.error fault, { shelf with attempts := shelf.attempts ++ [⟨none, world⟩], latest })
  | .ok service =>
    let earlier := shelf.holder? name
    let shelf := { shelf with
      attempts := shelf.attempts ++ [⟨some service, world⟩]
      holders := assign name number shelf.holders
      latest }
    match earlier with
    | some earlier => (.ok (), shelf.collect earlier)
    | none => (.ok (), shelf)

/-- Stops the service with a number. -/
def stop (shelf : Shelf) (number : Nat) (service : Service) (world : PreparedPremises) :
    Except ServiceFault Nat × Shelf :=
  let (result, service, world) := service.stop PreparedPremises.premises world
  (result, shelf.setAttempt number ⟨some service, world⟩)

/-- A name lets go of its service. -/
def drop (shelf : Shelf) (name : String) (number : Nat) : Shelf :=
  { shelf with holders := shelf.holders.filter (·.1 != name) }.collect number

/-- Publishes a service, if none is published. -/
def publish (shelf : Shelf) (number : Nat) : Except ServiceFault Shelf :=
  if shelf.published.isSome then .error .alreadyRunning
  else .ok { shelf with published := some number }

/-- Withdraws the published service and lets it go. -/
def withdraw (shelf : Shelf) (number : Nat) : Shelf :=
  { shelf with published := none }.collect number

end Shelf

end Hydration
