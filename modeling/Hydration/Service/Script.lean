/-
A registry and a host with prepared answers, and a log of what was asked of them.
-/
import Hydration.Service.Basic

namespace Hydration

/-- What a service asks of its surroundings. -/
inductive ServiceCall where
  | init
  | listen
  | unlisten
  | release
deriving DecidableEq, Repr

def ServiceCall.name : ServiceCall → String
  | init => "init"
  | listen => "listen"
  | unlisten => "unlisten"
  | release => "release"

/-- The prepared answers; what is not prepared succeeds. -/
structure ServiceScript where
  initFails : Option String
  listenFails : Option String
  releaseFails : Option String
  /-- The registry has nothing to set up or to give back, and is not asked. -/
  silentRegistry : Bool

structure PreparedPremises where
  script : ServiceScript
  log : List ServiceCall

namespace PreparedPremises

def note (world : PreparedPremises) (call : ServiceCall) : PreparedPremises :=
  { world with log := world.log ++ [call] }

/-- Asks the registry for something. -/
def askRegistry (call : ServiceCall) (failure : Option String) (world : PreparedPremises) :
    Except RegistryFault Unit × PreparedPremises :=
  if world.script.silentRegistry then (.ok (), world)
  else
    match failure with
    | some text => (.error ⟨text⟩, world.note call)
    | none => (.ok (), world.note call)

/-- The surroundings of a script. No calls are under way in them. -/
def premises : Premises PreparedPremises where
  init world := askRegistry .init world.script.initFails world
  listen world :=
    match world.script.listenFails with
    | some text => (.error (.listen text), world.note .listen)
    | none => (.ok (), world.note .listen)
  unlisten world := world.note .unlisten
  drain arbiter world := (arbiter, world)
  release world := askRegistry .release world.script.releaseFails world

end PreparedPremises

end Hydration
