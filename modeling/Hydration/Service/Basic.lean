/-
The life of a service. It starts by setting up the registry of roots and then lets the host send
calls; it stops in the opposite order, and between the two it wakes all who wait for a provider and
lets the calls under way return. What has been set up is given back exactly once: by the start that
fails half way, or by the one stop that finds the service running.
-/
import Hydration.Arbiter.Basic

namespace Hydration

-- ============================================================ the surroundings

/-- The registry of roots and the host, as a service sees them, with a state of their own. -/
structure Premises (σ : Type) where
  init : σ → Except RegistryFault Unit × σ
  /-- Let calls come in. -/
  listen : σ → Except ServiceFault Unit × σ
  /-- Let no further calls come in. -/
  unlisten : σ → σ
  /-- Let the calls under way return. -/
  drain : Arbiter → σ → Arbiter × σ
  release : σ → Except RegistryFault Unit × σ

structure Service where
  arbiter : Arbiter
  running : Bool

variable {σ : Type}

namespace Service

-- ============================================================ start

/-- Starts a service. A configuration is brought into its effective form first, and nothing is touched
if it is refused. A host that refuses the service is told apart from a registry that then cannot be
given back: the first fault counts. -/
def start (premises : Premises σ) (config : Config) (world : σ) : Except ServiceFault Service × σ :=
  match config.effective.check with
  | .error fault => (.error (.config fault), world)
  | .ok config =>
    match premises.init world with
    | (.error fault, world) => (.error (.registry fault), world)
    | (.ok _, world) =>
      match premises.listen world with
      | (.error fault, world) => (.error fault, (premises.release world).2)
      | (.ok _, world) => (.ok ⟨.ofConfig config, true⟩, world)

-- ============================================================ stop

/-- Stops a service, and gives the number of requests that were woken. It is stopped even if the
registry cannot be given back. -/
def stop (premises : Premises σ) (service : Service) (world : σ) :
    Except ServiceFault Nat × Service × σ :=
  if !service.running then (.error .notRunning, service, world)
  else
    let world := premises.unlisten world
    let (woken, arbiter) := service.arbiter.beginShutdown
    let (arbiter, world) := premises.drain arbiter world
    let stopped : Service := ⟨arbiter, false⟩
    match premises.release world with
    | (.ok _, world) => (.ok woken, stopped, world)
    | (.error fault, world) => (.error (.registry fault), stopped, world)

/-- What becomes of a service nobody holds any more. -/
def abandon (premises : Premises σ) (service : Service) (world : σ) : σ :=
  if service.running then (service.stop premises world).2.2 else world

end Service

end Hydration
