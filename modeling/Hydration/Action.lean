/-
What a process wants to do to an object. The host reports an access as one 32-bit word with a bit
per right; some bits have no name here and are carried along untouched.

The host reuses a bit for the file and the directory flavour of an operation: reading a file's data
and listing a directory are the same bit, and so are executing and searching. A right is named once,
for the file.
-/
import Hydration.Bits

namespace Hydration

-- ============================================================ single rights

/-- One right a process can ask for. -/
inductive Right where
  /-- Read a file, or list a directory. -/
  | readData
  /-- Write a file, or add a file to a directory. -/
  | writeData
  /-- Execute a file, or search a directory. -/
  | execute
  | delete
  /-- Append to a file, or add a directory to a directory. -/
  | appendData
  | deleteChild
  | readAttributes
  | writeAttributes
  | readExtendedAttributes
  | writeExtendedAttributes
  | readSecurity
  | writeSecurity
  | takeOwnership
  | synchronize
  | linkTarget
  | checkImmutable
  | searchByAnyone
  | noImmutable
  /-- The pure question whether an access would be allowed. -/
  | access
deriving DecidableEq, Repr

namespace Right

/-- The position of the right in the word. -/
def bit : Right → Nat
  | readData => 1
  | writeData => 2
  | execute => 3
  | delete => 4
  | appendData => 5
  | deleteChild => 6
  | readAttributes => 7
  | writeAttributes => 8
  | readExtendedAttributes => 9
  | writeExtendedAttributes => 10
  | readSecurity => 11
  | writeSecurity => 12
  | takeOwnership => 13
  | synchronize => 20
  | linkTarget => 25
  | checkImmutable => 26
  | searchByAnyone => 29
  | noImmutable => 30
  | access => 31

/-- The name under which the right is shown. -/
def name : Right → String
  | readData => "READ_DATA"
  | writeData => "WRITE_DATA"
  | execute => "EXECUTE"
  | delete => "DELETE"
  | appendData => "APPEND_DATA"
  | deleteChild => "DELETE_CHILD"
  | readAttributes => "READ_ATTRIBUTES"
  | writeAttributes => "WRITE_ATTRIBUTES"
  | readExtendedAttributes => "READ_EXTATTRIBUTES"
  | writeExtendedAttributes => "WRITE_EXTATTRIBUTES"
  | readSecurity => "READ_SECURITY"
  | writeSecurity => "WRITE_SECURITY"
  | takeOwnership => "TAKE_OWNERSHIP"
  | synchronize => "SYNCHRONIZE"
  | linkTarget => "LINKTARGET"
  | checkImmutable => "CHECKIMMUTABLE"
  | searchByAnyone => "SEARCHBYANYONE"
  | noImmutable => "NOIMMUTABLE"
  | access => "ACCESS"

/-- All rights that have a name, lowest bit first. -/
def all : List Right :=
  [readData, writeData, execute, delete, appendData, deleteChild, readAttributes, writeAttributes,
    readExtendedAttributes, writeExtendedAttributes, readSecurity, writeSecurity, takeOwnership,
    synchronize, linkTarget, checkImmutable, searchByAnyone, noImmutable, access]

end Right

-- ============================================================ words of rights

/-- The rights of one access, as the word the host reports. -/
structure Action where
  bits : UInt32
deriving DecidableEq, Repr

namespace Action

/-- The word with the bits of the listed rights set and all others clear. -/
def ofRights (rights : List Right) : Action := ⟨Bits.ofPositions (rights.map Right.bit)⟩

/-- Whether the access asks for the right. -/
def asks (a : Action) (r : Right) : Bool := Bits.isSet a.bits r.bit

/-- Whether the access asks for at least one of the rights. -/
def asksAny (a : Action) (rights : List Right) : Bool := rights.any a.asks

/-- Whether the two words share a bit, named or not. -/
def meets (a b : Action) : Bool := a.bits &&& b.bits != 0

/-- Whether every bit of `b` is set in `a`. -/
def covers (a b : Action) : Bool := a.bits &&& b.bits == b.bits

/-- Every right that has a name. -/
def named : Action := ofRights Right.all

/-- The word without its nameless bits. -/
def known (a : Action) : Action := ⟨a.bits &&& named.bits⟩

/-- The word as shown to people: the names of its rights, then what has no name in hexadecimal. -/
def describe (a : Action) : String :=
  Bits.describe "ActionMask" (Right.all.map fun r => (r.name, r.bit)) a.bits

end Action

end Hydration
