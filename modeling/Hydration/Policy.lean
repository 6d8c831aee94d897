/-
The fixed tables of the decision: which kinds of objects are looked at, what may be done below a root
without a provider, and which accesses need content that a placeholder does not have.
-/
import Hydration.Action
import Hydration.Message
import Hydration.Node
import Hydration.Verdict

namespace Hydration

-- ============================================================ kinds

/-- How the arbiter treats a kind of object. -/
inductive Disposition where
  /-- Never looked at; every access is let through. -/
  | ignore
  | govern
  /-- Looked at, though objects of this kind are rare. -/
  | governUnusual
deriving DecidableEq, Repr

def Disposition.name : Disposition → String
  | ignore => "Ignore"
  | govern => "Govern"
  | governUnusual => "GovernUnusual"

def NodeKind.disposition : NodeKind → Disposition
  | none | block | character | socket | fifo | bad => .ignore
  | regular | directory | symlink => .govern
  | stream | complex | unknown _ => .governUnusual

namespace Policy

-- ============================================================ sets of rights

/-- Rights that change data, attributes or links. -/
def writeRights : List Right := [
  .writeAttributes, .writeExtendedAttributes, .writeData, .appendData, .writeSecurity, .linkTarget]

/-- What an offline placeholder of any kind still permits: questions and its removal. -/
def placeholderRights : List Right := [
  .access, .deleteChild, .delete, .readExtendedAttributes]

/-- What an offline placeholder permits besides if it is a directory, so that a removal can walk
through it. -/
def placeholderDirectoryRights : List Right := [
  .readAttributes, .readSecurity, .readData, .execute]

/-- Accesses to a directory that need its listing. -/
def listingRights : List Right := [
  .readData, .execute, .readSecurity, .readAttributes, .readExtendedAttributes]

/-- Accesses to anything else that need its content. -/
def contentRights : List Right := [
  .readAttributes, .writeAttributes, .readExtendedAttributes, .writeExtendedAttributes,
  .readData, .writeData, .execute]

-- ============================================================ decisions

/-- The verdict below a root without a provider. -/
def offline (flags : Flags) (kind : NodeKind) (action : Action) : Verdict :=
  if !action.asks .access && action.asksAny writeRights then .deny .offlineWrite
  else if !flags.isEmpty then .allow
  else if action.asksAny placeholderRights then .allow
  else if kind.isDirectory && action.asksAny placeholderDirectoryRights then .allow
  else .deny .offlinePlaceholder

/-- The request that an access to a placeholder calls for, if it needs content at all. -/
def hydration? (kind : NodeKind) (action : Action) : Option MessageKind :=
  if kind.isDirectory then
    if action.asksAny listingRights then some .enumerateDirectory else none
  else if action.asksAny contentRights then some .hydrateFile
  else none

end Policy

end Hydration
