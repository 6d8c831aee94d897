/-
Asking a provider for content. An errand takes an id, registers its request, hands the message to the
channel, waits, and lets the request go. Other calls, answers and the shutdown may come between any
two of these steps, so each of them is a step of its own on what the arbiter shares.

The request is registered before it is sent, so that no answer can be too early, and it is let go
whatever happens.
-/
import Hydration.Arbiter.Basic

namespace Hydration

/-- What an errand has to do next. -/
inductive Errand where
  /-- Take an id for a message to a root; the id in the message does not count yet. -/
  | number (root : Int) (message : Message)
  | register (root : Int) (message : Message)
  /-- Hand the message to the channel, and see how that ends. -/
  | send (root : Int) (message : Message)
  /-- Look for an answer. -/
  | await (id : UInt64)
  /-- Let the request go. -/
  | release (id : UInt64) (v : Verdict)
  | done (v : Verdict)
deriving DecidableEq

namespace Errand

/-- The target of a message, as a path relative to the root. -/
def target (root : Root) (node : Node) : Except PathFault String :=
  match node.path with
  | .error fault => .error fault
  | .ok path => Path.relative path root.path

/-- An errand to the provider of a root. Without a path for the object there is nothing to ask for. -/
def start (root : Root) (kind : MessageKind) (node : Node) (pid : Int) (process : String) : Errand :=
  match target root node with
  | .error _ => .done (.deny .pathUnresolved)
  | .ok path => .number root.index ⟨0, kind, pid, process, path⟩

/-- The verdict that a wait comes back with. -/
def verdictOf : WaitOutcome → Verdict
  | .answered .success => .allow
  | .answered .failure => .deny .hydrationFailed
  | .shutDown => .deny .shuttingDown

/-- The verdict when a request could not be registered. -/
def refusalOf : RegisterFault → Verdict
  | .shuttingDown _ => .deny .shuttingDown
  | .duplicate _ => .deny .hydrationFailed

/-- The verdict when a request could not be sent. -/
def unreachable : UnreachablePolicy → Verdict
  | .allow => .allow
  | .deny => .deny .providerUnreachable

-- ============================================================ steps

/-- The errand's own next step. An errand that looks for an answer in vain stays where it is, and so
does one whose message is with the channel. `latency` is the time since the message was sent. -/
def step (latency : Span) (arbiter : Arbiter) : Errand → Arbiter × Errand
  | number root message =>
    let (id, arbiter) := arbiter.takeId
    (arbiter, register root { message with id })
  | register root message =>
    match arbiter.pending.register message with
    | .ok pending => ({ arbiter with pending }.count (·.countRequest), send root message)
    | .error fault => (arbiter, done (refusalOf fault))
  | await id =>
    match arbiter.pending.outcome? id with
    | some outcome => (arbiter.recordLatency latency, release id (verdictOf outcome))
    | none => (arbiter, await id)
  | release id v => ({ arbiter with pending := arbiter.pending.drop id }, done v)
  | other => (arbiter, other)

/-- The channel comes back. -/
def returned (arbiter : Arbiter) (result : Except SendFault Unit) : Errand → Arbiter × Errand
  | send _ message =>
    match result with
    | .ok _ => (arbiter, await message.id)
    | .error _ =>
      (arbiter.count (·.countTransportFailure),
        release message.id (unreachable arbiter.onUnreachable))
  | other => (arbiter, other)

end Errand

end Hydration
