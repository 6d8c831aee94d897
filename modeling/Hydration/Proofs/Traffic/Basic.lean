/-
Many who run through one arbiter at the same time: calls on their way from their entry to their
return, and requests for content that somebody makes outside of any call. Whoever is to move next
moves; nobody else has a say in it.

# Strands

A strand is one of those who run, with what it has to do next. Its own steps are those of `Call.step`
and `Errand.step`, each one critical section on what the arbiter shares. A collaborator is called in
one step and comes back in another, so that everything else can happen while it is at work: answers,
other strands, the shutdown.

# The log

The log tells what happened, in order, and nothing reads it. An incident of a strand bears the number
of the strand, which is its place in the list.

# Closing down

Beside the strands runs whoever stops the service: no further calls are let in, the shutdown begins,
the counter of calls is looked at until it shows none, and then the registry is given back.
-/
import Hydration.Arbiter.Call
import Hydration.Service.Basic

namespace Hydration

-- ============================================================ collaborators

/-- A collaborator that is called, and what for. -/
inductive Contact where
  | question (q : Question)
  | send (root : Int) (message : Message)
deriving DecidableEq

/-- What a collaborator comes back with. -/
inductive Feedback where
  | managed (isManaged : Bool)
  | flags (result : Except FlagsFault Flags)
  | root (found : Option Root)
  | sent (result : Except SendFault Unit)

/-- The feedback is one to the contact. -/
def Feedback.answers : Feedback → Contact → Bool
  | managed _, .question .managed => true
  | flags _, .question .flags => true
  | root _, .question .root => true
  | sent _, .send _ _ => true
  | _, _ => false

-- ============================================================ tasks

/-- A request for content, as it is made. -/
structure Commission where
  root : Root
  kind : MessageKind
  node : Node
  pid : Int
  process : String

namespace Commission

def errand (c : Commission) : Errand := .start c.root c.kind c.node c.pid c.process

/-- The message that asks for a target, once it has an id. -/
def message (c : Commission) (path : String) (id : UInt64) : Message :=
  ⟨id, c.kind, c.pid, c.process, path⟩

end Commission

/-- What a strand is about: an access on its way, or a request outside of any access. -/
inductive Task where
  | call (access : Access) (call : Call)
  | errand (errand : Errand)

namespace Task

/-- The errand that is under way, if the strand has come to one. -/
def errand? : Task → Option Errand
  | call _ (.errand e) => some e
  | errand e => some e
  | call _ _ => none

def withErrand (e : Errand) : Task → Task
  | call access _ => call access (.errand e)
  | errand _ => errand e

/-- A call between its entry and its return. -/
def isUnderWay : Task → Bool
  | call _ .enter | call _ (.done _) | errand _ => false
  | call _ _ => true

/-- The collaborator that has to be called next. -/
def contact? : Task → Option Contact
  | call _ (.ask (.askManaged _)) => some (.question .managed)
  | call _ (.ask (.askFlags _)) => some (.question .flags)
  | call _ (.ask (.askRoot _)) => some (.question .root)
  | call _ (.errand (.send root message)) | errand (.send root message) =>
    some (.send root message)
  | _ => none

/-- The task's own next step. -/
def step (latency : Span) (arbiter : Arbiter) : Task → Arbiter × Task
  | call access c =>
    let (arbiter, c) := c.step access latency arbiter
    (arbiter, call access c)
  | errand e =>
    let (arbiter, e) := e.step latency arbiter
    (arbiter, errand e)

/-- The collaborator comes back. -/
def hear (arbiter : Arbiter) : Feedback → Task → Arbiter × Task
  | .managed isManaged, call access (.ask (.askManaged next)) =>
    (arbiter, call access (.ask (next isManaged)))
  | .flags result, call access (.ask (.askFlags next)) =>
    (arbiter, call access (.ask (next result)))
  | .root found, call access (.ask (.askRoot next)) => (arbiter, call access (.ask (next found)))
  | .sent result, call access c =>
    let (arbiter, c) := c.returned arbiter result
    (arbiter, call access c)
  | .sent result, errand e =>
    let (arbiter, e) := e.returned arbiter result
    (arbiter, errand e)
  | _, task => (arbiter, task)

end Task

-- ============================================================ the log

/-- What the log tells. The number is that of the strand. -/
inductive Incident where
  /-- A call has entered. -/
  | entered (n : Nat) (access : Access)
  /-- A request for content begins. -/
  | requested (n : Nat) (commission : Commission)
  | issued (id : UInt64)
  | registered (n : Nat) (message : Message)
  | refused (n : Nat) (message : Message) (fault : RegisterFault)
  | called (n : Nat) (contact : Contact)
  | returned (n : Nat) (feedback : Feedback)
  /-- A look for an answer, and what it showed. -/
  | looked (n : Nat) (outcome : Option WaitOutcome)
  /-- A request for content has come to its verdict. -/
  | resolved (n : Nat) (v : Verdict)
  /-- A call has returned. -/
  | left (n : Nat) (decision : Decision)
  | delivered (id : UInt64) (kind : MessageKind)
  | shutDown
  /-- A look at the counter of calls, and what it showed. -/
  | checked (active : Nat)
  /-- No further calls are let in. -/
  | unlistened
  /-- The registry is given back. -/
  | released

/-- What the log tells of the beginning of a request. Without a path it ends at once. -/
def Commission.incidents (n : Nat) (c : Commission) : List Incident :=
  match c.errand with
  | .done v => [.requested n c, .resolved n v]
  | _ => [.requested n c]

/-- What the log tells of an errand's own next step. -/
def Errand.incidents (n : Nat) (arbiter : Arbiter) : Errand → List Incident
  | number _ _ => [.issued arbiter.pending.nextId]
  | register _ message =>
    match arbiter.pending.register message with
    | .ok _ => [.registered n message]
    | .error fault => [.refused n message fault, .resolved n (refusalOf fault)]
  | await id => [.looked n (arbiter.pending.outcome? id)]
  | release _ v => [.resolved n v]
  | _ => []

/-- What the log tells of a task's own next step. -/
def Task.incidents (n : Nat) (arbiter : Arbiter) : Task → List Incident
  | call access .enter => [.entered n access]
  | call access (.ask (.rule (.hydrate root kind))) =>
    Commission.incidents n ⟨root, kind, access.node, access.pid, access.process⟩
  | call _ (.leave decision) => [.left n decision]
  | call _ (.errand e) | errand e => e.incidents n arbiter
  | _ => []

-- ============================================================ traffic

structure Strand where
  task : Task
  /-- A collaborator has been called and has not come back. -/
  out : Bool

/-- How far whoever stops the service has come. -/
inductive Closing where
  | running
  | unlistened
  /-- The shutdown has begun; the counter of calls is looked at again and again. -/
  | draining
  | drained
  | released
deriving DecidableEq

structure Traffic where
  arbiter : Arbiter
  strands : List Strand
  closing : Closing
  log : List Incident

/-- Who moves next, and how. -/
inductive Move where
  /-- The host starts a call. It has not entered yet. -/
  | arrive (access : Access)
  /-- Somebody asks for content outside of any call. -/
  | request (commission : Commission)
  /-- A strand takes its own next step; the latency is the time since its message was sent. -/
  | step (n : Nat) (latency : Span)
  /-- A strand calls its next collaborator. -/
  | turn (n : Nat)
  /-- The collaborator of a strand comes back. -/
  | back (n : Nat) (feedback : Feedback)
  /-- Somebody takes an id. -/
  | takeId
  | deliver (id : UInt64) (kind : MessageKind)
  | shutDown
  /-- Somebody who waits for the calls to return looks at the counter. -/
  | check
  /-- Whoever stops the service takes the next step. -/
  | close

namespace Traffic

/-- An arbiter that nobody has come to yet. -/
def start (config : Config) : Traffic := ⟨.ofConfig config, [], .running, []⟩

def pending (t : Traffic) : Pending := t.arbiter.pending

def note (t : Traffic) (incidents : List Incident) : Traffic :=
  { t with log := t.log ++ incidents }

/-- The next step of a stop. Looking at the counter is repeated until it shows no call. -/
def close (t : Traffic) : Traffic :=
  match t.closing with
  | .running => { t with closing := .unlistened }.note [.unlistened]
  | .unlistened =>
    { t with arbiter := t.arbiter.beginShutdown.2, closing := .draining }.note [.shutDown]
  | .draining =>
    { t with closing := if t.arbiter.active = 0 then .drained else .draining }.note
      [.checked t.arbiter.active]
  | .drained => { t with closing := .released }.note [.released]
  | .released => t

/-- One move. A strand that does not exist, or that cannot make the move, leaves all as it is. -/
def step (t : Traffic) : Move → Traffic
  | .arrive access => { t with strands := t.strands ++ [⟨.call access .enter, false⟩] }
  | .request c =>
    let strands := t.strands ++ [⟨.errand c.errand, false⟩]
    { t with strands }.note (c.incidents t.strands.length)
  | .step n latency =>
    match t.strands[n]? with
    | some strand =>
      let (arbiter, task) := strand.task.step latency t.arbiter
      { t with arbiter, strands := t.strands.set n { strand with task } }.note
        (strand.task.incidents n t.arbiter)
    | none => t
  | .turn n =>
    match t.strands[n]? with
    | some ⟨task, false⟩ =>
      match task.contact? with
      | some contact =>
        { t with strands := t.strands.set n ⟨task, true⟩ }.note [.called n contact]
      | none => t
    | _ => t
  | .back n feedback =>
    match t.strands[n]? with
    | some ⟨task, true⟩ =>
      if task.contact?.any feedback.answers then
        let (arbiter, task) := task.hear t.arbiter feedback
        { t with arbiter, strands := t.strands.set n ⟨task, false⟩ }.note [.returned n feedback]
      else t
    | _ => t
  | .takeId => { t with arbiter := t.arbiter.takeId.2 }.note [.issued t.pending.nextId]
  | .deliver id kind => { t with arbiter := (t.arbiter.deliver id kind).2 }.note [.delivered id kind]
  | .shutDown => { t with arbiter := t.arbiter.beginShutdown.2 }.note [.shutDown]
  | .check => t.note [.checked t.arbiter.active]
  | .close => t.close

/-- The traffic after a run of moves. -/
def run (t : Traffic) (moves : List Move) : Traffic := moves.foldl step t

theorem run_append (t : Traffic) (before after : List Move) :
    t.run (before ++ after) = (t.run before).run after :=
  List.foldl_append

theorem run_concat (t : Traffic) (moves : List Move) (move : Move) :
    t.run (moves ++ [move]) = (t.run moves).step move := by
  rw [run_append]
  rfl

end Traffic

end Hydration
