/-
Objects of the file system as the arbiter sees them: their kind, the flag word stored with them,
and where they are. A host cannot always turn an object back into a path; such an object still has
a location, known to whoever made it, but asking for its path fails.
-/
import Hydration.Bits
import Hydration.Root

namespace Hydration

-- ============================================================ kinds

/-- What sort of object a node is. Hosts may report kinds nobody has named yet. -/
inductive NodeKind where
  | none
  | regular
  | directory
  | block
  | character
  | symlink
  | socket
  | fifo
  | bad
  | stream
  | complex
  | unknown (code : UInt32)
deriving DecidableEq, Repr

namespace NodeKind

/-- The kinds that have a name. -/
def named : List NodeKind :=
  [none, regular, directory, block, character, symlink, socket, fifo, bad, stream, complex]

/-- The word for the kind in messages to people. -/
def label : NodeKind → String
  | none => "none"
  | regular => "file"
  | directory => "directory"
  | block => "block device"
  | character => "character device"
  | symlink => "symlink"
  | socket => "socket"
  | fifo => "fifo"
  | bad => "bad"
  | stream => "stream"
  | complex => "complex"
  | unknown _ => "unknown"

/-- The name of the kind, with the code of a nameless one. -/
def describe : NodeKind → String
  | none => "None"
  | regular => "Regular"
  | directory => "Directory"
  | block => "Block"
  | character => "Character"
  | symlink => "Symlink"
  | socket => "Socket"
  | fifo => "Fifo"
  | bad => "Bad"
  | stream => "Stream"
  | complex => "Complex"
  | unknown code => "Unknown(" ++ toString code.toNat ++ ")"

def isDirectory (kind : NodeKind) : Bool := kind = directory

end NodeKind

-- ============================================================ flag words

/-- The flag word stored with an object. Two bits have a meaning here, the others are kept. -/
structure Flags where
  bits : UInt32
deriving DecidableEq, Repr

namespace Flags

/-- The position of the bit that marks a placeholder without content. -/
def emptyBit : Nat := 3

/-- The position of the bit that marks an object inside some root. -/
def inRootBit : Nat := 6

/-- No flag at all: the word of an object nobody has recorded. -/
def clear : Flags := ⟨0⟩

/-- The word of an object inside a root, hydrated or still empty. -/
def inside (empty : Bool) : Flags :=
  ⟨Bits.ofPositions (if empty then [emptyBit, inRootBit] else [inRootBit])⟩

/-- The object has no content yet. -/
def isEmpty (flags : Flags) : Bool := Bits.isSet flags.bits emptyBit

/-- The object lies inside some root. -/
def isInRoot (flags : Flags) : Bool := Bits.isSet flags.bits inRootBit

/-- The same word with the mark of a placeholder taken away. -/
def hydrated (flags : Flags) : Flags := ⟨flags.bits &&& ~~~(Bits.single emptyBit)⟩

/-- All flags that have a name. -/
def named : Flags := ⟨Bits.ofPositions [emptyBit, inRootBit]⟩

/-- The word as shown to people. -/
def describe (flags : Flags) : String :=
  Bits.describe "AccessFlags" [("EMPTY", emptyBit), ("IN_ROOT", inRootBit)] flags.bits

end Flags

-- ============================================================ nodes

/-- An object handed to the arbiter: its kind, and its path or the reason why it has none. -/
structure Node where
  kind : NodeKind
  path : Except PathFault String

namespace Node

/-- The path as shown to people; where there is none, the reason in angle brackets. -/
def displayPath (node : Node) : String :=
  match node.path with
  | .ok path => path
  | .error fault => "<" ++ fault.message ++ ">"

/-- Where the object lives, whether or not the host can report it. -/
def location (node : Node) : String :=
  match node.path with
  | .ok path => path
  | .error (.unresolvable location) => location
  | .error fault => fault.message

/-- An object at a known location, whose path the host may be unable to report. -/
def ofLocation (location : String) (kind : NodeKind) (resolvable : Bool) : Node where
  kind
  path := if resolvable then .ok location else .error (.unresolvable location)

end Node

end Hydration
