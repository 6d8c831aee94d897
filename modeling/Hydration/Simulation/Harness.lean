/-
A running service with a tree, a provider and a host around it.
-/
import Hydration.Simulation.Host

namespace Hydration

structure Harness where
  service : Service
  stage : Stage

/-- How an access ends for the one who made it. -/
inductive AccessResult where
  | decided (decision : Decision)
  /-- It waits for the provider. -/
  | blocked (access : Access) (call : Call)

namespace Harness

/-- A configuration for rehearsals: short intervals, and no wait before a shutdown. -/
def fastConfig : Config :=
  { Config.standard with
    requestPoll := .ofMillis 20, drainInitial := .zero, drainPoll := .ofMillis 1 }

/-- Starts a service over a tree. -/
def start (config : Config) (stage : Stage) : Except ServiceFault Harness :=
  match Service.start Stage.premises config stage with
  | (.ok service, stage) => .ok ⟨service, stage⟩
  | (.error fault, _) => .error fault

def arbiter (harness : Harness) : Arbiter := harness.service.arbiter

/-- The harness with another state of its arbiter and of what is around it. -/
def withState (harness : Harness) (arbiter : Arbiter) (stage : Stage) : Harness :=
  ⟨{ harness.service with arbiter }, stage⟩

-- ============================================================ accesses

/-- Runs an access through the arbiter. -/
def decide (harness : Harness) (access : Access) : AccessResult × Harness :=
  let (call, arbiter, stage) :=
    Call.enter.run Stage.collaborators access harness.arbiter harness.stage
  let harness := harness.withState arbiter stage
  match call.decision? with
  | some decision => (.decided decision, harness)
  | none => (.blocked access call, harness)

/-- Makes an access through the host. Nobody decides about it when nobody listens. -/
def access (harness : Harness) (access : Access) : AccessResult × Harness :=
  let stage := harness.stage
  if !stage.listening then
    (.decided (.ok .allow), ⟨harness.service, { stage with bypassed := stage.bypassed + 1 }⟩)
  else
    let counted := { stage with dispatched := stage.dispatched + 1 }
    match decide ⟨harness.service, counted⟩ access with
    | (.decided decision, harness) =>
      (.decided decision,
        ⟨harness.service, harness.stage.note (.callReturned access.pid)⟩)
    | blocked => blocked

/-- Lets an access run on its own, in place of an earlier one under the same key. Gives whether it has
ended already. -/
def spawn (harness : Harness) (key : String) (access : Access) : Bool × Harness :=
  match harness.access access with
  | (.decided decision, harness) =>
    let stage := harness.stage.forget key
    (true, ⟨harness.service, { stage with ended := stage.ended ++ [(key, decision)] }⟩)
  | (.blocked access call, harness) =>
    let stage := harness.stage.forget key
    let blocked := stage.blocked ++ [⟨some key, access, call⟩]
    (false, ⟨harness.service, { stage with blocked }⟩)

/-- Takes the decision of an access that was let run on its own. -/
def join (harness : Harness) (key : String) : Option (Decision × Harness) :=
  (harness.stage.ended.lookup key).map fun decision =>
    (decision, ⟨harness.service, harness.stage.forget key⟩)

-- ============================================================ answers and the end

/-- The harness after blocked accesses were taken up. -/
def settled (harness : Harness) : Harness :=
  let (arbiter, stage) := Stage.settle harness.arbiter harness.stage
  harness.withState arbiter stage

/-- Hands a message to the provider directly. -/
def send (harness : Harness) (root : Int) (message : Message) :
    Except SendFault Unit × Harness :=
  let (result, provider) := harness.stage.provider.send root message
  let (arbiter, stage) := Stage.work harness.arbiter { harness.stage with provider }
  (result, (harness.withState arbiter stage).settled)

def deliver (harness : Harness) (id : UInt64) (kind : MessageKind) : Bool × Harness :=
  let (counted, arbiter) := harness.arbiter.deliver id kind
  (counted, (harness.withState arbiter harness.stage).settled)

def beginShutdown (harness : Harness) : Nat × Harness :=
  let (woken, arbiter) := harness.arbiter.beginShutdown
  (woken, (harness.withState arbiter harness.stage).settled)

/-- Another listener tries to register. -/
def listen (harness : Harness) : Except ServiceFault Unit × Harness :=
  let (result, stage) := harness.stage.listen
  (result, ⟨harness.service, stage⟩)

def stop (harness : Harness) : Except ServiceFault Nat × Harness :=
  let (result, service, stage) := harness.service.stop Stage.premises harness.stage
  (result, ⟨service, stage⟩)

/-- Changes what is around the arbiter. -/
def mapStage (harness : Harness) (f : Stage → Stage) : Harness :=
  ⟨harness.service, f harness.stage⟩

def mapTree (harness : Harness) (f : Tree → Tree) : Harness :=
  harness.mapStage fun stage => { stage with tree := f stage.tree }

def mapProvider (harness : Harness) (f : Provider → Provider) : Harness :=
  harness.mapStage fun stage => { stage with provider := f stage.provider }

end Harness

end Hydration
