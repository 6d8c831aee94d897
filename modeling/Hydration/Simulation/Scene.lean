/-
What a rehearsal takes place in: one root, mounts that are not managed, and objects. A scene is told
twice, to the tree, which then acts it out, and to the expectation, which only knows the description;
whatever the two disagree about later is a fault of the rules and not of the scene.
-/
import Hydration.Simulation.Expectation
import Hydration.Simulation.Host
import Hydration.Simulation.Random

namespace Hydration

-- ============================================================ objects

/-- An object at its place. -/
structure Placement where
  path : String
  blueprint : Blueprint
deriving DecidableEq, Repr

namespace Placement

/-- The object as the host reports it. -/
def node (placement : Placement) : Node :=
  .ofLocation placement.path placement.blueprint.kind placement.blueprint.resolvable

/-- Tells a tree about the object. That a mount is not managed is told for the mount, and not here. -/
def place (placement : Placement) (isEmpty : Bool) (tree : Tree) : Tree :=
  let blueprint := placement.blueprint
  let tree := if blueprint.inRoot then tree.addPlaceholder placement.path isEmpty else tree
  let tree := if blueprint.orphaned then tree.orphan placement.path else tree
  if blueprint.unreadable then tree.failAt placement.path else tree

/-- Tells an expectation about the object. -/
def announce (placement : Placement) (isEmpty : Bool) (e : Expectation) : Expectation :=
  e.addNode placement.path placement.blueprint isEmpty

end Placement

-- ============================================================ scenes

structure Scene where
  root : Root
  /-- Mounts that are not managed. -/
  unmanaged : List String
  placements : List Placement

namespace Scene

/-- The tree before any object is placed. -/
def ground (scene : Scene) : Tree :=
  scene.unmanaged.foldl Tree.addUnmanaged (Tree.empty.addRoot scene.root)

/-- The tree with all objects, each with or without its content. -/
def tree (scene : Scene) (isEmpty : String → Bool) : Tree :=
  scene.placements.foldl (fun tree p => p.place (isEmpty p.path) tree) scene.ground

/-- The expectation that knows all objects. The provider of the root is connected. -/
def expectation (scene : Scene) (isEmpty : String → Bool) (config : Config) (provider : Int) :
    Expectation :=
  scene.placements.foldl (fun e p => p.announce (isEmpty p.path) e)
    (.start config.crawlers provider config.onUnreachable)

def placement? (scene : Scene) (path : String) : Option Placement :=
  scene.placements.find? (·.path = path)

/-- Draws which objects are to be without content: the root itself never is, nor is what lies outside
of it. Gives their paths. -/
def drawEmpty (root : Root) : List Placement → RandomStream → List String × RandomStream
  | [], stream => ([], stream)
  | p :: rest, stream =>
    if p.blueprint.inRoot && p.path != root.path then
      let (isEmpty, stream) := stream.chance 7 10
      let (paths, stream) := drawEmpty root rest stream
      (if isEmpty then p.path :: paths else paths, stream)
    else drawEmpty root rest stream

end Scene

-- ============================================================ the repository

namespace Repository

/-- The process of the provider. -/
def providerPid : Int := 500

def root : Root := ⟨0, "/repo", some providerPid⟩

/-- An object that has nothing special about it. -/
def plain (kind : NodeKind) : Blueprint := ⟨kind, false, true, false, false, true⟩

/-- A checkout with an object of every sort that matters. -/
def placements : List Placement := [
  ⟨"/repo", plain .directory⟩,
  ⟨"/repo/src", plain .directory⟩,
  ⟨"/repo/src/main.rs", plain .regular⟩,
  ⟨"/repo/src/lib.rs", plain .regular⟩,
  ⟨"/repo/docs", plain .directory⟩,
  ⟨"/repo/docs/guide.md", plain .regular⟩,
  ⟨"/repo/README.md", plain .regular⟩,
  ⟨"/repo/current", plain .symlink⟩,
  ⟨"/repo/build.fifo", plain .fifo⟩,
  ⟨"/repo/resource.fork", plain .stream⟩,
  ⟨"/home/user/notes.txt", { plain .regular with inRoot := false }⟩,
  ⟨"/proc/1/status", { plain .regular with unmanaged := true }⟩,
  ⟨"/repo/orphan.txt", { plain .regular with orphaned := true }⟩,
  ⟨"/repo/broken.bin", { plain .regular with unreadable := true }⟩,
  ⟨"/repo/ghost.txt", { plain .regular with resolvable := false }⟩]

def scene : Scene := ⟨root, ["/proc"], placements⟩

/-- The processes around it: users, crawlers and the provider. -/
def callers : List Caller := [
  ⟨100, "cat"⟩, ⟨101, "vim"⟩, ⟨102, "mds"⟩, ⟨103, "mdworker"⟩, ⟨104, "Spotlight"⟩,
  ⟨providerPid, "vroot-provider"⟩]

/-- The accesses that are made: most rights alone, some together, and none. -/
def actions : List Action := [
  .ofRights [.readData], .ofRights [.writeData], .ofRights [.execute], .ofRights [.delete],
  .ofRights [.appendData], .ofRights [.deleteChild], .ofRights [.readAttributes],
  .ofRights [.writeAttributes], .ofRights [.readExtendedAttributes],
  .ofRights [.writeExtendedAttributes], .ofRights [.readSecurity], .ofRights [.writeSecurity],
  .ofRights [.takeOwnership], .ofRights [.synchronize], .ofRights [.linkTarget],
  .ofRights [.access], .ofRights [.access, .readData], .ofRights [.access, .writeData],
  .ofRights [.readData, .writeData], .ofRights [.readAttributes, .readSecurity], .ofRights []]

end Repository

end Hydration
