/-
Messages between the arbiter and a provider. Requests for content block the process that caused
them until a terminal response to the same id arrives; notices do not, and are no answer either.
-/

namespace Hydration

/-- What a message is about. -/
inductive MessageKind where
  /-- Fill in the listing of a placeholder directory. -/
  | enumerateDirectory
  /-- Fetch the content of a placeholder file. -/
  | hydrateFile
  | fileModified
  | fileCreated
  | beforeDelete
  | fileRenamed
  | success
  | failure
deriving DecidableEq, Repr

/-- How a request for content ended. -/
inductive Outcome where
  | success
  | failure
deriving DecidableEq, Repr

namespace MessageKind

def all : List MessageKind := [
  enumerateDirectory, hydrateFile, fileModified, fileCreated, beforeDelete, fileRenamed, success,
  failure]

def name : MessageKind → String
  | enumerateDirectory => "EnumerateDirectory"
  | hydrateFile => "HydrateFile"
  | fileModified => "NotifyFileModified"
  | fileCreated => "NotifyFileCreated"
  | beforeDelete => "NotifyPreDelete"
  | fileRenamed => "NotifyFileRenamed"
  | success => "ResponseSuccess"
  | failure => "ResponseFail"

/-- Requests that block until the provider answers. -/
def isHydration : MessageKind → Bool
  | enumerateDirectory | hydrateFile => true
  | _ => false

/-- The outcome that a terminal response carries. -/
def outcome? : MessageKind → Option Outcome
  | success => some .success
  | failure => some .failure
  | _ => none

end MessageKind

/-- A request as the provider receives it. -/
structure Message where
  id : UInt64
  kind : MessageKind
  pid : Int
  /-- The process that waits for the answer. -/
  process : String
  /-- The target relative to its root, without a separator in front. -/
  path : String
deriving DecidableEq, Repr

end Hydration
