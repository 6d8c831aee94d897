/-
One access on its way through the arbiter: it enters, the rules are asked, if need be the provider is,
and it leaves with its decision, which is counted. As with errands, each step is one on what the
arbiter shares, and the answers of the others come from outside.
-/
import Hydration.Arbiter.Errand
import Hydration.Arbiter.Inquiry

namespace Hydration

/-- How an access ends: with a verdict, or with none. -/
abbrev Decision := Except IntegrityViolation Verdict

/-- What a call has to do next. -/
inductive Call where
  | enter
  | ask (inquiry : Inquiry)
  | errand (errand : Errand)
  /-- Count the decision and leave. -/
  | leave (decision : Decision)
  | done (decision : Decision)

namespace Call

/-- The violation of an access whose flags could not be read. -/
def violation (access : Access) (source : FlagsFault) : IntegrityViolation :=
  ⟨access.node.displayPath, source⟩

/-- What a ruling leads to. -/
def ofRuling (access : Access) : Ruling → Call
  | .verdict v => leave (.ok v)
  | .outside => leave (.ok .allow)
  | .unreadable source => leave (.error (violation access source))
  | .hydrate root kind => errand (Errand.start root kind access.node access.pid access.process)

/-- Counts a decision and a call that leaves. -/
def countDecision (arbiter : Arbiter) (decision : Decision) : Arbiter :=
  let arbiter := { arbiter with active := arbiter.active - 1 }
  match decision with
  | .ok v => arbiter.count (·.countVerdict v)
  | .error _ => arbiter.count (·.countIntegrityViolation)

/-- Reads an inquiry that has come to its end. -/
def settle (access : Access) (arbiter : Arbiter) : Inquiry → Arbiter × Call
  | .rule .outside => (arbiter.count (·.countFastPath), ofRuling access .outside)
  | .rule ruling => (arbiter, ofRuling access ruling)
  | inquiry => (arbiter, ask inquiry)

-- ============================================================ steps

/-- The call's own next step; a question has to be answered from outside. -/
def step (access : Access) (latency : Span) (arbiter : Arbiter) : Call → Arbiter × Call
  | enter =>
    ({ arbiter with active := arbiter.active + 1 },
      ask (Inquiry.ofAccess arbiter.crawlers access))
  | ask inquiry => settle access arbiter inquiry
  | errand (.done v) => (arbiter, leave (.ok v))
  | errand e =>
    let (arbiter, e) := e.step latency arbiter
    (arbiter, errand e)
  | leave decision => (countDecision arbiter decision, done decision)
  | done decision => (arbiter, done decision)

/-- The channel comes back. -/
def returned (arbiter : Arbiter) (result : Except SendFault Unit) : Call → Arbiter × Call
  | errand e =>
    let (arbiter, e) := e.returned arbiter result
    (arbiter, errand e)
  | other => (arbiter, other)

end Call

end Hydration
