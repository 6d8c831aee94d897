/-
Collaborators with prepared answers, and a record of what they were asked. The channel plays its
replies in order while a message is being sent. So that no call is left waiting, it begins a shutdown
itself when neither an answer nor a shutdown has come of that.
-/
import Hydration.Arbiter.Decide

namespace Hydration

-- ============================================================ the script

/-- What the channel does while a message is being sent. -/
inductive Reply where
  /-- Answer the message, or the one with the given id. -/
  | respond (id : Option UInt64) (kind : MessageKind)
  | shutDown
deriving DecidableEq, Repr

/-- What came of a reply. -/
inductive ReplyResult where
  /-- Whether the answer counted. -/
  | counted (accepted : Bool)
  /-- How many requests were woken. -/
  | woke (count : Nat)
deriving DecidableEq, Repr

/-- The prepared answers. -/
structure Script where
  managed : Bool
  flags : Except FlagsFault Flags
  root : Option Root
  replies : List Reply
  /-- How sending fails after all, if it does; the root is the one that is addressed. -/
  failure : Option (Int → SendFault)

/-- A message that was sent: what was pending then, and what came of the replies. -/
structure Sent where
  root : Int
  message : Message
  pendingThen : Nat
  activeThen : Nat
  results : List ReplyResult

/-- What the collaborators were asked, in order. -/
inductive Asked where
  | question (q : Question)
  | send
deriving DecidableEq, Repr

structure Scripted where
  script : Script
  asked : List Asked
  sent : List Sent

namespace Scripted

def note (world : Scripted) (asked : Asked) : Scripted :=
  { world with asked := world.asked ++ [asked] }

def noteSent (world : Scripted) (sent : Sent) : Scripted :=
  { world with sent := world.sent ++ [sent] }

-- ============================================================ the channel

/-- Plays one reply to a message. -/
def reply (id : UInt64) (arbiter : Arbiter) : Reply → ReplyResult × Arbiter
  | .respond other kind =>
    let (accepted, arbiter) := arbiter.deliver (other.getD id) kind
    (.counted accepted, arbiter)
  | .shutDown =>
    let (woken, arbiter) := arbiter.beginShutdown
    (.woke woken, arbiter)

/-- Plays all replies. -/
def playAll (id : UInt64) (arbiter : Arbiter) : List Reply → List ReplyResult × Arbiter
  | [] => ([], arbiter)
  | r :: rest =>
    let (first, arbiter) := reply id arbiter r
    let (others, arbiter) := playAll id arbiter rest
    (first :: others, arbiter)

/-- Nobody would ever wake the sender. -/
def isStuck (arbiter : Arbiter) (id : UInt64) : Bool := (arbiter.pending.outcome? id).isNone

def send (root : Int) (message : Message) (arbiter : Arbiter) (world : Scripted) :
    Except SendFault Unit × Arbiter × Scripted :=
  let pendingThen := arbiter.pending.size
  let activeThen := arbiter.active
  let (results, arbiter) := playAll message.id arbiter world.script.replies
  let world := (world.note .send).noteSent ⟨root, message, pendingThen, activeThen, results⟩
  match world.script.failure with
  | some failure => (.error (failure root), arbiter, world)
  | none =>
    let arbiter := if isStuck arbiter message.id then arbiter.beginShutdown.2 else arbiter
    (.ok (), arbiter, world)

/-- The collaborators of a script. -/
def collaborators : Collaborators Scripted where
  managed _ world := (world.script.managed, world.note (.question .managed))
  flags _ world := (world.script.flags, world.note (.question .flags))
  root _ world := (world.script.root, world.note (.question .root))
  send := send
  meanwhile arbiter world := (arbiter, world)

end Scripted

end Hydration
