/-
A rehearsal: operations are carried out one after another, and every access is compared with what was
expected of it. Nothing should ever be found.
-/
import Hydration.Simulation.Finding
import Hydration.Simulation.Harness

namespace Hydration

structure Rehearsal where
  scene : Scene
  harness : Harness
  expectation : Expectation
  /-- Where further operations are drawn from. -/
  stream : RandomStream
  /-- The number of the next step. -/
  step : Nat
  violations : List Violation
  trace : List TraceEntry

namespace Rehearsal

-- ============================================================ the beginning

/-- A rehearsal of a scene in which some objects are without content. -/
def ofScene (scene : Scene) (isEmpty : String → Bool) (config : Config) (provider : Int)
    (stream : RandomStream) : Except ServiceFault Rehearsal :=
  match Harness.start config (.ofTree (scene.tree isEmpty) []) with
  | .error fault => .error fault
  | .ok harness =>
    .ok ⟨scene, harness, scene.expectation isEmpty config provider, stream, 0, [], []⟩

/-- A rehearsal in the repository, with everything drawn from a seed. -/
def ofSeed (seed : UInt64) (onUnreachable : UnreachablePolicy) : Except ServiceFault Rehearsal :=
  let scene := Repository.scene
  let (empty, stream) := Scene.drawEmpty scene.root scene.placements (.ofSeed seed)
  ofScene scene empty.contains { Harness.fastConfig with onUnreachable } Repository.providerPid
    stream

-- ============================================================ notes

def note (r : Rehearsal) (entry : TraceEntry) : Rehearsal := { r with trace := r.trace ++ [entry] }

def find (r : Rehearsal) (finding : Finding) : Rehearsal :=
  { r with violations := r.violations ++ [⟨r.step, finding⟩] }

/-- Writes a finding down if there is one. -/
def findIf (r : Rehearsal) (condition : Bool) (finding : Finding) : Rehearsal :=
  if condition then r.find finding else r

def tree (r : Rehearsal) : Tree := r.harness.stage.tree

def mapTree (r : Rehearsal) (f : Tree → Tree) : Rehearsal :=
  { r with harness := r.harness.mapTree f }

def mapExpectation (r : Rehearsal) (f : Expectation → Expectation) : Rehearsal :=
  { r with expectation := f r.expectation }

-- ============================================================ accesses

/-- An access ended as it should have; of a violation it is enough that there is one. -/
def agrees : Expected → Decision → Bool
  | .verdict expected, .ok actual => expected = actual
  | .violation, .error _ => true
  | _, _ => false

/-- Compares what the tree and the expectation say about an object. -/
def compareContent (r : Rehearsal) (path : String) : Rehearsal :=
  let expected := r.expectation.isEmpty path
  let actual := (r.tree.flagsAt path).isEmpty
  r.findIf (expected != actual) (.content path expected actual)

/-- Takes note of an access that has ended. -/
def conclude (r : Rehearsal) (path : String) (caller : Caller) (action : Action)
    (decision : Decision) : Rehearsal :=
  let expected := r.expectation.predict path caller.pid caller.process action
  let r := r.note (.access path caller action decision)
  let r := r.findIf (!agrees expected decision) (.decision path caller action expected decision)
  let r := r.mapExpectation (·.commit path caller.pid caller.process action expected)
  r.compareContent path

/-- Makes an access to an object of the scene; others are left alone. An access that waits for the
provider is left waiting. -/
def access (r : Rehearsal) (path : String) (caller : Caller) (action : Action) : Rehearsal :=
  match r.scene.placement? path with
  | none => r
  | some placement =>
    match r.harness.access (caller.access placement.node action) with
    | (.decided decision, harness) => { r with harness }.conclude path caller action decision
    | (.blocked _ _, harness) => { r with harness }

-- ============================================================ steps

/-- Carries out an operation. -/
def carryOut (r : Rehearsal) : Operation → Rehearsal
  | .access path caller action => r.access path caller action
  | .setOnline online =>
    let provider := if online then some r.expectation.provider else none
    let r := r.mapTree (·.setProvider r.scene.root.index provider)
    (r.mapExpectation (·.setOnline online)).note (.online online)
  | .setBehaviour behaviour =>
    let r := { r with harness := r.harness.mapProvider (·.setBehaviour behaviour) }
    (r.mapExpectation (·.setBehaviour behaviour)).note (.behaviour behaviour)
  | .prefetch path =>
    ((r.mapTree (·.hydrate path)).mapExpectation (·.hydrate path)).note (.prefetch path)

/-- Between two operations nothing may be in flight. -/
def checkQuiet (r : Rehearsal) : Rehearsal :=
  let arbiter := r.harness.arbiter
  let r := r.findIf (!arbiter.pending.isEmpty) (.requests arbiter.pending.size)
  r.findIf (arbiter.active != 0) (.calls arbiter.active)

/-- One step. -/
def perform (r : Rehearsal) (operation : Operation) : Rehearsal :=
  let r := (r.carryOut operation).checkQuiet
  { r with step := r.step + 1 }

/-- Several steps. -/
def performAll (r : Rehearsal) (operations : List Operation) : Rehearsal :=
  operations.foldl perform r

/-- So many steps, drawn at random. -/
def run : Nat → Rehearsal → Rehearsal
  | 0, r => r
  | count + 1, r =>
    let (operation, stream) := Operation.draw r.stream
    run count ({ r with stream }.perform operation)

-- ============================================================ the end

/-- Stops the service. Gives the number of requests that were woken; nothing may be left after it. -/
def finish (r : Rehearsal) : Except ServiceFault Nat × Rehearsal :=
  match r.harness.stop with
  | (.error fault, harness) => (.error fault, { r with harness })
  | (.ok woken, harness) =>
    let r := { r with harness := harness.mapProvider Provider.stop }
    let arbiter := r.harness.arbiter
    (.ok woken, r.findIf (!arbiter.pending.isEmpty || arbiter.active != 0) .unfinished)

end Rehearsal

end Hydration
