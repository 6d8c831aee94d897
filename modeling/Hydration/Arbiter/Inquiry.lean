/-
The rules of the decision. Which rule applies can depend on three questions: whether the object's file
system is managed at all, what its flags are, and which root it lies in. An inquiry asks them one
after another and stops as soon as the answers settle the matter, so that no question is asked in
vain.
-/
import Hydration.Arbiter.Basic
import Hydration.Policy

namespace Hydration

/-- What the rules say about an access. -/
inductive Ruling where
  | verdict (v : Verdict)
  /-- Let through without a look at any root. -/
  | outside
  /-- No verdict: the flags could not be read. -/
  | unreadable (source : FlagsFault)
  /-- The provider of the root has to be asked for content first. -/
  | hydrate (root : Root) (kind : MessageKind)
deriving DecidableEq

/-- A ruling, or a question whose answer leads on to one. -/
inductive Inquiry where
  | askManaged (next : Bool → Inquiry)
  | askFlags (next : Except FlagsFault Flags → Inquiry)
  | askRoot (next : Option Root → Inquiry)
  | rule (ruling : Ruling)

/-- The questions, as they show in a log. -/
inductive Question where
  | managed
  | flags
  | root
deriving DecidableEq, Repr

namespace Inquiry

/-- The rules below the root of an object. Its provider never waits for itself. -/
def ofRoot (access : Access) (flags : Flags) (root : Root) : Ruling :=
  if !root.isOnline then .verdict (Policy.offline flags access.node.kind access.action)
  else if root.isProvider access.pid then .verdict .allow
  else if !flags.isEmpty then .verdict .allow
  else
    match Policy.hydration? access.node.kind access.action with
    | some kind => .hydrate root kind
    | none => .verdict .allow

/-- The rules for an object whose flags are known. A crawler gets no placeholder, online or not. -/
def ofFlags (crawlers : Crawlers) (access : Access) (flags : Flags) : Inquiry :=
  if !flags.isInRoot then .rule .outside
  else if flags.isEmpty && crawlers.contains access.process then .rule (.verdict (.deny .crawler))
  else
    .askRoot fun
      | none => .rule (.verdict .allow)
      | some root => .rule (ofRoot access flags root)

/-- The rules for an object on a managed file system. -/
def ofKind (crawlers : Crawlers) (access : Access) : Inquiry :=
  if access.node.kind.disposition = .ignore then .rule (.verdict .allow)
  else
    .askFlags fun
      | .error source => .rule (.unreadable source)
      | .ok flags => ofFlags crawlers access flags

/-- The inquiry into an access. -/
def ofAccess (crawlers : Crawlers) (access : Access) : Inquiry :=
  .askManaged fun
    | false => .rule (.verdict .allow)
    | true => ofKind crawlers access

end Inquiry

end Hydration
