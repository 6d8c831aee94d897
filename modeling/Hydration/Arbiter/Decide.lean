/-
Calls run through from their beginning, with the others there to answer. A call moves on until it is
done, or until it waits for an answer that nobody has given yet; then it stays as it is and can be
taken up again later.
-/
import Hydration.Arbiter.Call

namespace Hydration

/-- Those whom the arbiter turns to, with a state of their own. Answers may come back to the arbiter
while a message is being sent and while a call waits. -/
structure Collaborators (σ : Type) where
  managed : Node → σ → Bool × σ
  flags : Node → σ → Except FlagsFault Flags × σ
  root : Node → σ → Option Root × σ
  send : Int → Message → Arbiter → σ → Except SendFault Unit × Arbiter × σ
  /-- What happens while a call waits. -/
  meanwhile : Arbiter → σ → Arbiter × σ

variable {σ : Type}

-- ============================================================ errands

namespace Errand

/-- The next step of an errand. No clock runs here, so every request takes no time at all. -/
def move (others : Collaborators σ) (arbiter : Arbiter) (world : σ) :
    Errand → Errand × Arbiter × σ
  | send root message =>
    let (result, arbiter, world) := others.send root message arbiter world
    let (arbiter, errand) := (send root message).returned arbiter result
    (errand, arbiter, world)
  | await id =>
    let (arbiter, world) :=
      if (arbiter.pending.outcome? id).isSome then (arbiter, world)
      else others.meanwhile arbiter world
    let (arbiter, errand) := (await id).step .zero arbiter
    (errand, arbiter, world)
  | errand =>
    let (arbiter, errand) := errand.step .zero arbiter
    (errand, arbiter, world)

/-- So many steps of an errand. -/
def moves (others : Collaborators σ) : Nat → Arbiter → σ → Errand → Errand × Arbiter × σ
  | 0, arbiter, world, errand => (errand, arbiter, world)
  | count + 1, arbiter, world, errand =>
    let (errand, arbiter, world) := errand.move others arbiter world
    moves others count arbiter world errand

/-- Runs an errand: an id, the registration, the message, the answer, the release. -/
def run (others : Collaborators σ) (arbiter : Arbiter) (world : σ) (errand : Errand) :
    Errand × Arbiter × σ :=
  errand.moves others 5 arbiter world

end Errand

-- ============================================================ calls

namespace Call

/-- The next step of a call. -/
def move (others : Collaborators σ) (access : Access) (arbiter : Arbiter) (world : σ) :
    Call → Call × Arbiter × σ
  | ask (.askManaged next) =>
    let (isManaged, world) := others.managed access.node world
    (ask (next isManaged), arbiter, world)
  | ask (.askFlags next) =>
    let (flags, world) := others.flags access.node world
    (ask (next flags), arbiter, world)
  | ask (.askRoot next) =>
    let (root, world) := others.root access.node world
    (ask (next root), arbiter, world)
  | errand (.done v) => (leave (.ok v), arbiter, world)
  | errand e =>
    let (e, arbiter, world) := e.move others arbiter world
    (errand e, arbiter, world)
  | call =>
    let (arbiter, call) := call.step access .zero arbiter
    (call, arbiter, world)

/-- So many steps of a call. -/
def moves (others : Collaborators σ) (access : Access) :
    Nat → Arbiter → σ → Call → Call × Arbiter × σ
  | 0, arbiter, world, call => (call, arbiter, world)
  | count + 1, arbiter, world, call =>
    let (call, arbiter, world) := call.move others access arbiter world
    moves others access count arbiter world call

/-- Runs a call: its entry, three questions, the ruling, an errand, and the way out. -/
def run (others : Collaborators σ) (access : Access) (arbiter : Arbiter) (world : σ) (call : Call) :
    Call × Arbiter × σ :=
  call.moves others access 12 arbiter world

/-- The decision of a call that is done. -/
def decision? : Call → Option Decision
  | done decision => some decision
  | _ => none

end Call

end Hydration
