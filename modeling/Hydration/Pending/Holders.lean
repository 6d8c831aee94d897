/-
Requests held under names, by somebody who takes them out one after another. A holder may go to sleep
on its request; until it is woken nobody else gets at the request, and its name can be neither used
again nor let go. What would put the asker itself to sleep is refused.

Beside the requests the calls under way are counted, so that a shutdown can wait for them.
-/
import Hydration.Pending.Waiters

namespace Hydration

/-- A request under its name. -/
structure Holder where
  name : String
  id : UInt64
  /-- Its holder waits for the answer on its own. -/
  waiting : Bool
deriving DecidableEq, Repr

structure Holders where
  waiters : Waiters
  holders : List Holder
  /-- Calls under way. -/
  active : Nat
deriving DecidableEq, Repr

/-- Why a step is not taken. -/
inductive HolderFault where
  | register (fault : RegisterFault)
  /-- The name is in use by somebody who waits. -/
  | busy
  /-- Nothing is held under the name. -/
  | missing
  /-- The asker would have to wait itself. -/
  | wouldBlock
deriving DecidableEq, Repr

namespace Holders

def start : Holders := ⟨.start, [], 0⟩

def pending (h : Holders) : Pending := h.waiters.pending

def find? (h : Holders) (name : String) : Option Holder := h.holders.find? (·.name = name)

def withoutName (h : Holders) (name : String) : Holders :=
  { h with holders := h.holders.filter (·.name != name) }

def withHolder (h : Holders) (holder : Holder) : Holders :=
  let others := h.withoutName holder.name
  { others with holders := holder :: others.holders }

-- ============================================================ requests

def takeId (h : Holders) : UInt64 × Holders :=
  let (id, waiters) := h.waiters.takeId
  (id, { h with waiters })

/-- Registers a request under a name. Another one under the same name is let go, but only when the
new one is in. -/
def register (h : Holders) (name : String) (message : Message) : Except HolderFault Holders :=
  match h.find? name with
  | some ⟨_, _, true⟩ => .error .busy
  | held =>
    match h.waiters.register message with
    | .error fault => .error (.register fault)
    | .ok waiters =>
      let waiters := match held with
        | some holder => waiters.drop holder.id
        | none => waiters
      .ok ({ h with waiters }.withHolder ⟨name, message.id, false⟩)

def deliver (h : Holders) (id : UInt64) (kind : MessageKind) : Bool × Holders :=
  let (counted, waiters) := h.waiters.deliver id kind
  (counted, { h with waiters })

def abort (h : Holders) : Nat × Holders :=
  let (woken, waiters) := h.waiters.abort
  (woken, { h with waiters })

/-- Waits for the request under a name, if that takes no time. -/
def wait (h : Holders) (name : String) : Except HolderFault (WaitOutcome × Holders) :=
  match h.find? name with
  | none => .error .missing
  | some ⟨_, _, true⟩ => .error .wouldBlock
  | some holder =>
    match h.pending.outcome? holder.id with
    | none => .error .wouldBlock
    | some outcome => .ok (outcome, { h with waiters := (h.waiters.look holder.id).2 })

/-- Lets the holder of a request wait on its own. One that waits already is lost sight of. -/
def startWait (h : Holders) (name : String) : Except HolderFault Unit × Holders :=
  match h.find? name with
  | none => (.error .missing, h)
  | some ⟨_, _, true⟩ => (.error .missing, h.withoutName name)
  | some holder =>
    let waiters := (h.waiters.look holder.id).2
    (.ok (), { h with waiters }.withHolder { holder with waiting := true })

/-- Ends a wait, if it is over; the request is then held as before. -/
def finishWait (h : Holders) (name : String) : Except HolderFault (WaitOutcome × Holders) :=
  match h.find? name with
  | none => .error .missing
  | some holder =>
    if !holder.waiting then .error .wouldBlock
    else
      match h.pending.outcome? holder.id with
      | none => .error .wouldBlock
      | some outcome =>
        let waiters := (h.waiters.look holder.id).2
        .ok (outcome, { h with waiters }.withHolder { holder with waiting := false })

/-- Lets the request under a name go. -/
def drop (h : Holders) (name : String) : Except HolderFault Holders :=
  match h.find? name with
  | none => .error .missing
  | some ⟨_, _, true⟩ => .error .wouldBlock
  | some holder => .ok ({ h with waiters := h.waiters.drop holder.id }.withoutName name)

-- ============================================================ calls

def enter (h : Holders) : Holders := { h with active := h.active + 1 }

def leave (h : Holders) : Holders := { h with active := h.active - 1 }

/-- Begins the shutdown and waits until all calls have left. -/
def shutDown (h : Holders) : Nat × Holders :=
  let (woken, h) := h.abort
  (woken, { h with active := 0 })

end Holders

end Hydration
