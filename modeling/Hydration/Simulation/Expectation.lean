/-
What an access should end in, from a description of the objects alone. The rules are written down a
second time here, as sets of bits and conditions, and share nothing with those of the arbiter; so a
mistake in one of them shows as a difference.
-/
import Hydration.Simulation.Provider
import Hydration.Verdict

namespace Hydration

-- ============================================================ what is known

/-- How an object is made up. -/
structure Blueprint where
  kind : NodeKind
  /-- It lies below a mount that is not managed. -/
  unmanaged : Bool
  /-- Its flags say that it lies in a root. -/
  inRoot : Bool
  /-- Its flags say so, but no root is found for it. -/
  orphaned : Bool
  /-- Its flags cannot be read. -/
  unreadable : Bool
  /-- The host can name its path. -/
  resolvable : Bool
deriving DecidableEq, Repr

/-- What an access should end in. -/
inductive Expected where
  | verdict (v : Verdict)
  | violation
deriving DecidableEq, Repr

structure Expectation where
  nodes : List (String × Blueprint)
  /-- The paths that should still be without content. -/
  empty : List String
  crawlers : List String
  provider : Int
  online : Bool
  behaviour : Behaviour
  policy : UnreachablePolicy

namespace Expectation

def start (crawlers : List String) (provider : Int) (policy : UnreachablePolicy) : Expectation :=
  ⟨[], [], crawlers, provider, true, .succeed, policy⟩

def node? (e : Expectation) (path : String) : Option Blueprint := e.nodes.lookup path

def isEmpty (e : Expectation) (path : String) : Bool := e.empty.contains path

/-- Describes an object, again or for the first time. An object once said to be empty stays so. -/
def addNode (e : Expectation) (path : String) (node : Blueprint) (isEmpty : Bool) : Expectation :=
  { e with
    nodes := (path, node) :: e.nodes
    empty := if isEmpty then path :: e.empty else e.empty }

def setOnline (e : Expectation) (online : Bool) : Expectation := { e with online }

def setBehaviour (e : Expectation) (behaviour : Behaviour) : Expectation := { e with behaviour }

def hydrate (e : Expectation) (path : String) : Expectation :=
  { e with empty := e.empty.filter (· != path) }

-- ============================================================ the rules

/-- Kinds that nobody decides about. -/
def isPassed : NodeKind → Bool
  | .none | .block | .character | .socket | .fifo | .bad => true
  | _ => false

/-- Bits of an access that need a listing: list, search, and reading of security, attributes and
extended attributes. -/
def listingBits : UInt32 := 0x2 ||| 0x8 ||| 0x800 ||| 0x80 ||| 0x200

/-- Bits of an access that need content: reading and writing of attributes, extended attributes and
data, and execution. -/
def contentBits : UInt32 := 0x80 ||| 0x100 ||| 0x200 ||| 0x400 ||| 0x2 ||| 0x4 ||| 0x8

/-- Bits of an access that writes. -/
def writeBits : UInt32 := 0x100 ||| 0x400 ||| 0x4 ||| 0x20 ||| 0x1000 ||| 0x2000000

/-- Bits that an offline placeholder permits: the question, and the removal of an entry or of the
object, and reading of extended attributes. -/
def permittedBits : UInt32 := 0x80000000 ||| 0x40 ||| 0x10 ||| 0x200

/-- Bits that an offline placeholder permits if it is a directory. -/
def walkingBits : UInt32 := 0x80 ||| 0x800 ||| 0x2 ||| 0x8

def needsContent (kind : NodeKind) (action : Action) : Bool :=
  action.meets ⟨if kind = .directory then listingBits else contentBits⟩

def offline (kind : NodeKind) (isEmpty : Bool) (action : Action) : Verdict :=
  let isQuestion := action.meets ⟨0x80000000⟩
  if !isQuestion && action.meets ⟨writeBits⟩ then .deny .offlineWrite
  else if !isEmpty then .allow
  else if action.meets ⟨permittedBits⟩ then .allow
  else if kind = .directory && action.meets ⟨walkingBits⟩ then .allow
  else .deny .offlinePlaceholder

/-- What a request to the provider ends in. One that is never answered ends with the service. -/
def answered (e : Expectation) : Verdict :=
  match e.behaviour with
  | .succeed | .succeedAfter _ => .allow
  | .fail => .deny .hydrationFailed
  | .reject =>
    match e.policy with
    | .allow => .allow
    | .deny => .deny .providerUnreachable
  | .ignore => .deny .shuttingDown

/-- What an access should end in. -/
def predict (e : Expectation) (path : String) (pid : Int) (process : String) (action : Action) :
    Expected :=
  match e.node? path with
  | none => .verdict .allow
  | some node =>
    let isEmpty := e.isEmpty path
    if node.unmanaged || isPassed node.kind then .verdict .allow
    else if node.unreadable then .violation
    else if !node.inRoot then .verdict .allow
    else if isEmpty && e.crawlers.contains process then .verdict (.deny .crawler)
    else if node.orphaned then .verdict .allow
    else if !e.online then .verdict (offline node.kind isEmpty action)
    else if pid = e.provider || !isEmpty || !needsContent node.kind action then .verdict .allow
    else if !node.resolvable then .verdict (.deny .pathUnresolved)
    else .verdict e.answered

/-- Whether an access to an object reaches the provider. -/
def asksProvider (node : Blueprint) (action : Action) : Bool :=
  node.inRoot && !node.orphaned && !node.unmanaged && node.resolvable &&
    needsContent node.kind action && !isPassed node.kind

/-- Takes note of an access that ended as expected: it may have hydrated the object. -/
def commit (e : Expectation) (path : String) (pid : Int) (process : String) (action : Action)
    (expected : Expected) : Expectation :=
  let hydrated :=
    expected = .verdict .allow && e.online && pid != e.provider && e.isEmpty path &&
      !e.crawlers.contains process && e.behaviour.succeeds &&
      (e.node? path).any fun node => asksProvider node action
  if hydrated then e.hydrate path else e

end Expectation

end Hydration
