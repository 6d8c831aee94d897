/-
The requests in flight. Each has an entry under its own id, from the moment it is registered until its
handle is let go; the entry keeps the message as it was sent and the first terminal answer. Once a
shutdown has begun nothing is registered any more, and every wait ends with it, answered or not.

The entries stand in the order of their ids.
-/
import Hydration.Message
import Hydration.Fault

namespace Hydration

-- ============================================================ the table

structure Entry where
  message : Message
  /-- Written once. -/
  answer : Option Outcome
deriving DecidableEq, Repr

def Entry.id (entry : Entry) : UInt64 := entry.message.id

structure Pending where
  entries : List Entry
  shuttingDown : Bool
  /-- The id that is given out next. -/
  nextId : UInt64
deriving DecidableEq, Repr

/-- How a wait ends. -/
inductive WaitOutcome where
  | answered (outcome : Outcome)
  | shutDown
deriving DecidableEq, Repr

namespace Pending

/-- The table of a new arbiter. -/
def start : Pending := ⟨[], false, 1⟩

-- ============================================================ looking

def find? (pending : Pending) (id : UInt64) : Option Entry :=
  pending.entries.find? (·.id = id)

def contains (pending : Pending) (id : UInt64) : Bool := (pending.find? id).isSome

def size (pending : Pending) : Nat := pending.entries.length

def isEmpty (pending : Pending) : Bool := pending.entries.isEmpty

/-- The messages of all requests in flight, ordered by id. -/
def outstanding (pending : Pending) : List Message := pending.entries.map Entry.message

/-- What a wait on a request comes back with at this moment, or nothing when it has to sleep. A
shutdown goes before an answer. -/
def outcome? (pending : Pending) (id : UInt64) : Option WaitOutcome :=
  if pending.shuttingDown then some .shutDown
  else ((pending.find? id).bind Entry.answer).map .answered

-- ============================================================ changes

/-- Gives out an id. -/
def takeId (pending : Pending) : UInt64 × Pending :=
  (pending.nextId, { pending with nextId := pending.nextId + 1 })

/-- Puts an entry at its place. -/
def insertEntry (entry : Entry) : List Entry → List Entry
  | [] => [entry]
  | first :: rest =>
    if entry.id < first.id then entry :: first :: rest else first :: insertEntry entry rest

/-- Registers a request, unless a shutdown has begun or its id is taken. -/
def register (pending : Pending) (message : Message) : Except RegisterFault Pending :=
  if pending.shuttingDown then .error (.shuttingDown message.id)
  else if pending.contains message.id then .error (.duplicate message.id)
  else .ok { pending with entries := insertEntry ⟨message, none⟩ pending.entries }

/-- Writes an answer into the entry with an id. -/
def writeAnswer (id : UInt64) (outcome : Outcome) (entry : Entry) : Entry :=
  if entry.id = id then { entry with answer := some outcome } else entry

/-- Takes the answer to a request. It counts if it is a terminal one, and the first for a request that
is in flight. -/
def deliver (pending : Pending) (id : UInt64) (kind : MessageKind) : Bool × Pending :=
  match kind.outcome?, pending.find? id with
  | some outcome, some ⟨_, none⟩ =>
    (true, { pending with entries := pending.entries.map (writeAnswer id outcome) })
  | _, _ => (false, pending)

/-- Begins the shutdown, or begins it again. Gives the number of requests in flight, which are all
woken. -/
def abort (pending : Pending) : Nat × Pending :=
  (pending.size, { pending with shuttingDown := true })

/-- Lets a request go. -/
def drop (pending : Pending) (id : UInt64) : Pending :=
  { pending with entries := pending.entries.filter (·.id != id) }

end Pending

end Hydration
