/-
A provider with a queue and one worker. How it reacts to a message is settled when the message is
sent, by the path or else in general; the worker takes the messages in that order and answers them.
Once the provider has stopped the worker takes no further ones.

A message that was accepted is at any time in one of three places: in the queue, in the worker's hand,
or done with.
-/
import Hydration.Arbiter.Basic
import Hydration.Simulation.Tree

namespace Hydration

-- ============================================================ behaviour

/-- How a provider reacts to a message. -/
inductive Behaviour where
  /-- Hydrate the object, then answer that it is there. -/
  | succeed
  /-- Answer that it failed, and leave the object alone. -/
  | fail
  /-- Accept the message and never answer. -/
  | ignore
  /-- Refuse the message. -/
  | reject
  /-- Take some time, then succeed. -/
  | succeedAfter (delay : Span)
deriving DecidableEq

namespace Behaviour

/-- The behaviours that are named alone. -/
def plain : List Behaviour := [succeed, fail, ignore, reject]

def succeeds : Behaviour → Bool
  | succeed | succeedAfter _ => true
  | fail | ignore | reject => false

/-- The answer that a message gets, if it gets one. -/
def answer? : Behaviour → Option MessageKind
  | succeed | succeedAfter _ => some .success
  | fail => some .failure
  | ignore | reject => none

end Behaviour

-- ============================================================ the provider

/-- A message that was accepted, and what is going to happen to it. -/
structure Job where
  root : Int
  message : Message
  behaviour : Behaviour
deriving DecidableEq

structure Provider where
  /-- The behaviour for paths without one of their own. -/
  general : Behaviour
  byPath : List (String × Behaviour)
  stopped : Bool
  /-- The messages that were accepted, in order. -/
  sent : List Message
  queue : List Job
  /-- What the worker has taken. -/
  hand : Option Job
  /-- What the worker is done with, in order. -/
  finished : List Job

namespace Provider

def start : Provider := ⟨.succeed, [], false, [], [], none, []⟩

def behaviourFor (provider : Provider) (path : String) : Behaviour :=
  (provider.byPath.lookup path).getD provider.general

def setBehaviour (provider : Provider) (behaviour : Behaviour) : Provider :=
  { provider with general := behaviour }

def setBehaviourFor (provider : Provider) (path : String) (behaviour : Behaviour) : Provider :=
  { provider with byPath := (path, behaviour) :: provider.byPath }

/-- Accepts a message, or refuses it. A path whose messages are refused shows this also when the
provider has stopped. -/
def send (provider : Provider) (root : Int) (message : Message) :
    Except SendFault Unit × Provider :=
  let behaviour := provider.behaviourFor message.path
  if behaviour = .reject then (.error (.rejected root "provider queue closed"), provider)
  else if provider.stopped then (.error (.notConnected root), provider)
  else
    (.ok (), { provider with
      sent := provider.sent ++ [message]
      queue := provider.queue ++ [⟨root, message, behaviour⟩] })

def stop (provider : Provider) : Provider := { provider with stopped := true }

-- ============================================================ the worker

/-- The worker takes the next message, unless the provider has stopped. -/
def take (provider : Provider) : Provider :=
  match provider.stopped, provider.hand, provider.queue with
  | false, none, job :: queue => { provider with hand := some job, queue }
  | _, _, _ => provider

/-- Writes the content of a message's target. -/
def hydrateTarget (tree : Tree) (job : Job) : Tree :=
  match tree.root? job.root with
  | some root => tree.hydrate (Path.absolute root.path job.message.path)
  | none => tree

/-- The worker answers the message in its hand. -/
def answer (provider : Provider) (tree : Tree) (arbiter : Arbiter) : Provider × Tree × Arbiter :=
  match provider.hand with
  | none => (provider, tree, arbiter)
  | some job =>
    let provider := { provider with hand := none, finished := provider.finished ++ [job] }
    let tree := if job.behaviour.succeeds then hydrateTarget tree job else tree
    match job.behaviour.answer? with
    | some kind => (provider, tree, (arbiter.deliver job.message.id kind).2)
    | none => (provider, tree, arbiter)

/-- The worker takes and answers so many messages. -/
def work : Nat → Provider → Tree → Arbiter → Provider × Tree × Arbiter
  | 0, provider, tree, arbiter => (provider, tree, arbiter)
  | count + 1, provider, tree, arbiter =>
    let (provider, tree, arbiter) := provider.take.answer tree arbiter
    work count provider tree arbiter

/-- The worker goes through the whole queue. -/
def workAll (provider : Provider) (tree : Tree) (arbiter : Arbiter) : Provider × Tree × Arbiter :=
  provider.work provider.queue.length tree arbiter

end Provider

end Hydration
