/-
A file system in memory. It knows the roots, the flag words of paths, and where it should misbehave:
mounts that are not managed, objects whose flags cannot be read, and objects that no root is found
for. A path about which nothing was recorded has no flags, so it lies outside of every root.
-/
import Hydration.Fault
import Hydration.Node
import Hydration.Root

namespace Hydration

structure Tree where
  /-- The roots in the order in which they were added. -/
  roots : List Root
  /-- The recorded flag words, each path once. -/
  flags : List (String × Flags)
  unmanaged : List String
  failing : List String
  orphaned : List String
  /-- How often a root was looked for, and flags were read. -/
  lookups : Nat
  reads : Nat

namespace Tree

def empty : Tree := ⟨[], [], [], [], [], 0, 0⟩

-- ============================================================ flag words

/-- The flag word of a path. -/
def flagsAt (tree : Tree) (path : String) : Flags := (tree.flags.lookup path).getD .clear

/-- Records a flag word in the place of an earlier one. -/
def setFlags (tree : Tree) (path : String) (flags : Flags) : Tree :=
  { tree with flags := (path, flags) :: tree.flags.filter (·.1 != path) }

/-- Records an object inside a root. -/
def addPlaceholder (tree : Tree) (path : String) (isEmpty : Bool) : Tree :=
  tree.setFlags path (.inside isEmpty)

/-- Takes the mark of a placeholder away from a recorded path. -/
def hydrate (tree : Tree) (path : String) : Tree :=
  { tree with flags := tree.flags.map fun entry =>
      if entry.1 = path then (path, entry.2.hydrated) else entry }

-- ============================================================ roots

/-- Adds a root. The directory itself lies inside it. -/
def addRoot (tree : Tree) (root : Root) : Tree :=
  let tree := tree.addPlaceholder root.path false
  { tree with roots := tree.roots ++ [root] }

/-- The first root with an index. -/
def root? (tree : Tree) (index : Int) : Option Root := tree.roots.find? (·.index = index)

/-- Changes the provider of the first root with an index. -/
def replaceProvider (index : Int) (provider : Option Int) : List Root → List Root
  | [] => []
  | root :: rest =>
    if root.index = index then { root with provider } :: rest
    else root :: replaceProvider index provider rest

def setProvider (tree : Tree) (index : Int) (provider : Option Int) : Tree :=
  { tree with roots := replaceProvider index provider tree.roots }

/-- Of two roots the one with the longer path, and the later one of equals. -/
def longer (best : Option Root) (root : Root) : Option Root :=
  match best with
  | none => some root
  | some other => if root.path.utf8ByteSize < other.path.utf8ByteSize then some other else some root

/-- The innermost root around a location. -/
def innermost (roots : List Root) (location : String) : Option Root :=
  (roots.filter fun root => Path.isWithin location root.path).foldl longer none

-- ============================================================ misbehaviour

def addUnmanaged (tree : Tree) (mount : String) : Tree :=
  { tree with unmanaged := tree.unmanaged ++ [mount] }

def failAt (tree : Tree) (path : String) : Tree := { tree with failing := path :: tree.failing }

/-- Hides a path from the look-up of roots, and leaves its flags alone. -/
def orphan (tree : Tree) (path : String) : Tree := { tree with orphaned := path :: tree.orphaned }

-- ============================================================ questions of an arbiter

def isManaged (tree : Tree) (node : Node) : Bool :=
  !tree.unmanaged.any fun mount => Path.isWithin node.location mount

/-- The root that governs an object. -/
def rootOf? (tree : Tree) (node : Node) : Option Root :=
  if tree.orphaned.contains node.location then none else innermost tree.roots node.location

def findRoot (tree : Tree) (node : Node) : Option Root × Tree :=
  (tree.rootOf? node, { tree with lookups := tree.lookups + 1 })

/-- The flag word of an object, unless it cannot be read. -/
def flagsOf (tree : Tree) (node : Node) : Except FlagsFault Flags :=
  if tree.failing.contains node.location then
    .error (.io ("flag word unreadable for " ++ node.location))
  else .ok (tree.flagsAt node.location)

def readFlags (tree : Tree) (node : Node) : Except FlagsFault Flags × Tree :=
  (tree.flagsOf node, { tree with reads := tree.reads + 1 })

end Tree

end Hydration
