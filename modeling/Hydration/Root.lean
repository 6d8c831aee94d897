/-
Paths and roots, as plain texts. A path is relative to a root when the root's text stands in front
of it and a separator comes between them; nothing is normalised, so doubled and trailing separators
count as written.
-/
import Hydration.Text.Cut

namespace Hydration

-- ============================================================ faults

/-- Why a path could not be used. -/
inductive PathFault where
  /-- The host cannot name the object; the text says why, or where it is. -/
  | unresolvable (text : String)
  /-- The path does not lie inside the root. -/
  | outsideRoot (path root : String)
deriving DecidableEq, Repr

def PathFault.message : PathFault → String
  | unresolvable text => "Unable to resolve node to a path: " ++ text
  | outsideRoot path root => "Path '" ++ path ++ "' is not inside root '" ++ root ++ "'"

namespace Path

-- ============================================================ relative paths

/-- Whether the text ends in a separator. -/
def endsInSeparator (cs : List Char) : Bool := cs.getLast? = some '/'

/-- The part of a path behind its root, without the one separator between them. -/
def relativeChars? (path root : List Char) : Option (List Char) :=
  match Text.stripStart? root path with
  | none => none
  | some [] => some []
  | some ('/' :: rest) => some rest
  | some rest => if endsInSeparator root then some rest else none

/-- The path of an object relative to a root, empty for the root itself. -/
def relative (path root : String) : Except PathFault String :=
  match relativeChars? path.toList root.toList with
  | some rest => .ok (String.ofList rest)
  | none => .error (.outsideRoot path root)

/-- Whether a location lies within a root or mount: it is the same, a separator follows, or the
beginning already ends in one. -/
def isWithin (location start : String) : Bool :=
  match Text.stripStart? start.toList location.toList with
  | some [] => true
  | some (c :: _) => c = '/' || endsInSeparator start.toList
  | none => false

-- ============================================================ absolute paths

/-- Drops all separators at the end. -/
def dropTrailingSeparators (cs : List Char) : List Char :=
  (cs.reverse.dropWhile (· = '/')).reverse

/-- The path that a provider hydrates for a relative path under a root: the root itself for the empty
one, else the two joined by exactly one separator. -/
def absolute (root rel : String) : String :=
  if rel.isEmpty then root
  else String.ofList (dropTrailingSeparators root.toList ++ '/' :: rel.toList)

end Path

-- ============================================================ roots

/-- A root as one look at the registry shows it: the directory it governs, the slot through which its
provider is addressed, and the provider's process while one is connected. -/
structure Root where
  index : Int
  path : String
  provider : Option Int
deriving DecidableEq, Repr

namespace Root

def isOnline (root : Root) : Bool := root.provider.isSome

/-- The process is the provider of the root. -/
def isProvider (root : Root) (pid : Int) : Bool := root.provider = some pid

end Root

end Hydration
