/-
A host that reports accesses while somebody listens, and the record of what happened around it. It
keeps only the first bytes of the name of a process.
-/
import Hydration.Arbiter.Decide
import Hydration.Service.Basic
import Hydration.Simulation.Provider
import Hydration.Text.Cut

namespace Hydration

-- ============================================================ events

inductive HostEvent where
  | registryInit
  | registryRelease
  | listen
  | unlisten
  | callReturned (pid : Int)
deriving DecidableEq, Repr

namespace HostEvent

/-- What happens to the service as a whole. -/
def lifecycle : List HostEvent := [registryInit, registryRelease, listen, unlisten]

def name : HostEvent → String
  | registryInit => "RegistryInit"
  | registryRelease => "RegistryRelease"
  | listen => "Listen"
  | unlisten => "Unlisten"
  | callReturned _ => "CallReturned"

end HostEvent

-- ============================================================ callers

/-- A process, under its full name. -/
structure Caller where
  pid : Int
  name : String
deriving DecidableEq, Repr

/-- The name as far as the host keeps it. -/
def Caller.process (caller : Caller) : String := Text.truncate Config.maxNameBytes caller.name

def Caller.access (caller : Caller) (node : Node) (action : Action) : Access :=
  ⟨caller.pid, caller.process, node, action⟩

-- ============================================================ the stage

/-- An access under way that waits for the provider. Without a key nobody asks for its decision. -/
structure Blocked where
  key : Option String
  access : Access
  call : Call

/-- Everything around an arbiter. -/
structure Stage where
  tree : Tree
  provider : Provider
  listening : Bool
  /-- Accesses reported to the arbiter. -/
  dispatched : Nat
  /-- Accesses that nobody listened to. -/
  bypassed : Nat
  events : List HostEvent
  blocked : List Blocked
  /-- Accesses that were let run on their own and have ended. -/
  ended : List (String × Decision)

namespace Stage

def ofTree (tree : Tree) (events : List HostEvent) : Stage :=
  ⟨tree, .start, false, 0, 0, events, [], []⟩

def note (stage : Stage) (event : HostEvent) : Stage :=
  { stage with events := stage.events ++ [event] }

/-- The provider's worker goes through its queue. -/
def work (arbiter : Arbiter) (stage : Stage) : Arbiter × Stage :=
  let (provider, tree, arbiter) := stage.provider.workAll stage.tree arbiter
  (arbiter, { stage with provider, tree })

def send (root : Int) (message : Message) (arbiter : Arbiter) (stage : Stage) :
    Except SendFault Unit × Arbiter × Stage :=
  let (result, provider) := stage.provider.send root message
  (result, arbiter, { stage with provider })

/-- The tree and the provider as an arbiter sees them. -/
def collaborators : Collaborators Stage where
  managed node stage := (stage.tree.isManaged node, stage)
  flags node stage :=
    let (flags, tree) := stage.tree.readFlags node
    (flags, { stage with tree })
  root node stage :=
    let (root, tree) := stage.tree.findRoot node
    (root, { stage with tree })
  send := send
  meanwhile := work

-- ============================================================ blocked accesses

/-- Lets go of what runs or has ended under a key. It goes on, but nobody asks for its decision. -/
def forget (stage : Stage) (key : String) : Stage :=
  { stage with
    blocked := stage.blocked.map fun b => if b.key = some key then { b with key := none } else b
    ended := stage.ended.filter (·.1 != key) }

/-- Takes up one blocked access. -/
def resume (arbiter : Arbiter) (stage : Stage) (b : Blocked) : Arbiter × Stage :=
  let (call, arbiter, stage) := b.call.run collaborators b.access arbiter stage
  match call.decision? with
  | some decision =>
    let stage := stage.note (.callReturned b.access.pid)
    (arbiter, { stage with ended := stage.ended ++ b.key.toList.map fun key => (key, decision) })
  | none => (arbiter, { stage with blocked := stage.blocked ++ [{ b with call }] })

def resumeAll (arbiter : Arbiter) (stage : Stage) : List Blocked → Arbiter × Stage
  | [] => (arbiter, stage)
  | b :: rest =>
    let (arbiter, stage) := resume arbiter stage b
    resumeAll arbiter stage rest

/-- Takes up all blocked accesses; those that still find no answer stay blocked. -/
def settle (arbiter : Arbiter) (stage : Stage) : Arbiter × Stage :=
  resumeAll arbiter { stage with blocked := [] } stage.blocked

-- ============================================================ the premises of a service

/-- Registers a listener, unless there is one. -/
def listen (stage : Stage) : Except ServiceFault Unit × Stage :=
  if stage.listening then (.error (.listen "listener already registered"), stage)
  else (.ok (), { stage with listening := true }.note .listen)

def unlisten (stage : Stage) : Stage :=
  if stage.listening then { stage with listening := false }.note .unlisten else stage

/-- The registry and the host as a service sees them. -/
def premises : Premises Stage where
  init stage := (.ok (), stage.note .registryInit)
  listen := listen
  unlisten := unlisten
  drain := settle
  release stage := (.ok (), stage.note .registryRelease)

end Stage

end Hydration
