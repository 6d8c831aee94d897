/-
What happens in a rehearsal, one thing at a time, and how it is drawn at random.
-/
import Hydration.Simulation.Scene
import Hydration.Span.Brief

namespace Hydration

-- ============================================================ operations

inductive Operation where
  | access (path : String) (caller : Caller) (action : Action)
  /-- The provider of the root connects or leaves. -/
  | setOnline (online : Bool)
  | setBehaviour (behaviour : Behaviour)
  /-- The provider hydrates an object of its own accord. -/
  | prefetch (path : String)
deriving DecidableEq

/-- The behaviour as a trace shows it. -/
def Behaviour.describe : Behaviour → String
  | succeed => "Succeed"
  | fail => "Fail"
  | ignore => "Ignore"
  | reject => "RejectSend"
  | succeedAfter delay => "SucceedAfter(" ++ delay.brief ++ ")"

-- ============================================================ random ones

namespace Operation

/-- A path of the repository. -/
def drawPath (stream : RandomStream) : String × RandomStream :=
  let (index, stream) := stream.indexBelow Repository.placements.length
  ((Repository.placements[index]?.map Placement.path).getD Repository.root.path, stream)

def drawCaller (stream : RandomStream) : Caller × RandomStream :=
  let (index, stream) := stream.indexBelow Repository.callers.length
  ((Repository.callers[index]?).getD ⟨Repository.providerPid, ""⟩, stream)

def drawAction (stream : RandomStream) : Action × RandomStream :=
  let (index, stream) := stream.indexBelow Repository.actions.length
  ((Repository.actions[index]?).getD (.ofRights []), stream)

/-- The behaviours to choose from. With the others a run might never end. -/
def behaviours : List Behaviour := [.succeed, .fail, .reject]

def drawBehaviour (stream : RandomStream) : Behaviour × RandomStream :=
  let (index, stream) := stream.below behaviours.length
  ((behaviours[index]?).getD .succeed, stream)

/-- The next operation: of a hundred, five switch the provider, five change its behaviour, three
prefetch, and all others are accesses. -/
def draw (stream : RandomStream) : Operation × RandomStream :=
  let (roll, stream) := stream.below 100
  if roll < 5 then
    let (online, stream) := stream.chance 1 2
    (setOnline online, stream)
  else if roll < 10 then
    let (behaviour, stream) := drawBehaviour stream
    (setBehaviour behaviour, stream)
  else if roll < 13 then
    let (path, stream) := drawPath stream
    (prefetch path, stream)
  else
    let (path, stream) := drawPath stream
    let (caller, stream) := drawCaller stream
    let (action, stream) := drawAction stream
    (access path caller action, stream)

end Operation

end Hydration
