/-
The table together with those who wait. Every registered request has one handle, and its holder is
either at work, asleep until somebody wakes it, or woken and about to look again. Each operation here
is one critical section: a holder looks at the table and falls asleep in one step, so that no answer
can come between the two.
-/
import Hydration.Pending.Table

namespace Hydration

/-- What the holder of a request does. -/
inductive Waiter where
  | running
  | asleep
  /-- Woken, but not yet back at the table. -/
  | notified
deriving DecidableEq, Repr

structure Handle where
  id : UInt64
  waiter : Waiter
deriving DecidableEq, Repr

structure Waiters where
  pending : Pending
  /-- The requests that are held, in the order in which they were registered. -/
  handles : List Handle
deriving DecidableEq, Repr

namespace Waiters

def start : Waiters := ⟨.start, []⟩

/-- Changes what the holder of a request does. -/
def setWaiter (w : Waiters) (id : UInt64) (f : Waiter → Waiter) : Waiters :=
  { w with handles := w.handles.map fun handle =>
      if handle.id = id then { handle with waiter := f handle.waiter } else handle }

/-- Wakes one that sleeps. -/
def wake : Waiter → Waiter
  | .asleep => .notified
  | other => other

-- ============================================================ critical sections

def takeId (w : Waiters) : UInt64 × Waiters :=
  let (id, pending) := w.pending.takeId
  (id, { w with pending })

/-- Registers a request and hands it out. -/
def register (w : Waiters) (message : Message) : Except RegisterFault Waiters :=
  match w.pending.register message with
  | .ok pending => .ok ⟨pending, w.handles ++ [⟨message.id, .running⟩]⟩
  | .error fault => .error fault

/-- An answer that counts wakes the one who waits for it. -/
def deliver (w : Waiters) (id : UInt64) (kind : MessageKind) : Bool × Waiters :=
  match w.pending.deliver id kind with
  | (true, pending) => (true, setWaiter { w with pending } id wake)
  | (false, pending) => (false, { w with pending })

/-- A shutdown wakes all. -/
def abort (w : Waiters) : Nat × Waiters :=
  let (woken, pending) := w.pending.abort
  (woken, ⟨pending, w.handles.map fun handle => { handle with waiter := wake handle.waiter }⟩)

/-- The holder looks at the table: the wait is over, or it falls asleep. -/
def look (w : Waiters) (id : UInt64) : Option WaitOutcome × Waiters :=
  match w.pending.outcome? id with
  | some outcome => (some outcome, w.setWaiter id fun _ => .running)
  | none => (none, w.setWaiter id fun _ => .asleep)

/-- A sleeper wakes by itself, because its time is up or for no reason. -/
def stir (w : Waiters) (id : UInt64) : Waiters := w.setWaiter id wake

/-- The holder lets the request go. -/
def drop (w : Waiters) (id : UInt64) : Waiters :=
  ⟨w.pending.drop id, w.handles.filter (·.id != id)⟩

end Waiters

end Hydration
