/-
How far a call has come, and what the metrics are told on its way.

# Phases

Between its entry and its return a call is in one of a few phases (`Phase`). `Passage` has one rule for
each step from one phase to the next, with the metrics before and after it and the incidents that the
log tells of it. `Traffic.Step` leaves the metrics out and takes any inquiry for the next; here the
inquiry is the one into the access.

# The inquiry

An inquiry into an access reads the flags once at most, asks for the root after that or not at all, and
lets an object pass as one outside of every root exactly when the flags say so (`Inquiry.Posed`). By
itself it never comes to a verdict that only a request can come to. A call that is on its way has such
an inquiry before it, and calls a collaborator only when it has one to call (`Strand.Sound`).
-/
import Hydration.Proofs.Traffic.Drain
import Hydration.Proofs.Traffic.Numbers

namespace Hydration

-- ============================================================ inquiries into accesses

/-- The flags have been read, and the object lies outside of every root. -/
def Feedback.isLacking : Feedback → Bool
  | .flags (.ok word) => !word.isInRoot
  | _ => false

/-- A verdict that only a request for content can come to. -/
def Verdict.isOfRequest : Verdict → Bool
  | deny .hydrationFailed | deny .shuttingDown | deny .pathUnresolved
  | deny .providerUnreachable => true
  | _ => false

namespace Inquiry

/-- No flags are read any more. -/
def isLate : Inquiry → Bool
  | askManaged _ | askFlags _ => false
  | askRoot _ | rule _ => true

def isOutside : Inquiry → Bool
  | rule .outside => true
  | _ => false

/-- The questions come in their order, and lead only to what they can lead to. -/
def Posed : Inquiry → Prop
  | askManaged next => ∀ isManaged,
    (next isManaged).Posed ∧ (next isManaged).isOutside = false
  | askFlags next => ∀ result,
    (next result).Posed ∧ (next result).isLate = true ∧
      (next result).isOutside = (Feedback.flags result).isLacking
  | askRoot next => ∀ found,
    (next found).Posed ∧ (next found).isLate = true ∧ (next found).isOutside = false
  | rule (.verdict v) => v.isOfRequest = false
  | rule _ => True

theorem posed_offline (flags : Flags) (kind : NodeKind) (action : Action) :
    (rule (.verdict (Policy.offline flags kind action))).Posed := by
  show (Policy.offline flags kind action).isOfRequest = false
  unfold Policy.offline
  repeat' split
  all_goals rfl

theorem posed_ofRoot (access : Access) (flags : Flags) (root : Root) :
    (rule (ofRoot access flags root)).Posed ∧ (rule (ofRoot access flags root)).isOutside = false := by
  unfold ofRoot
  split
  · exact ⟨posed_offline _ _ _, rfl⟩
  · split
    · exact ⟨rfl, rfl⟩
    · split
      · exact ⟨rfl, rfl⟩
      · split
        · exact ⟨trivial, rfl⟩
        · exact ⟨rfl, rfl⟩

theorem posed_ofFlags (crawlers : Crawlers) (access : Access) (flags : Flags) :
    (ofFlags crawlers access flags).Posed ∧ (ofFlags crawlers access flags).isLate = true ∧
      (ofFlags crawlers access flags).isOutside = !flags.isInRoot := by
  unfold ofFlags
  cases hin : flags.isInRoot with
  | false => exact ⟨trivial, rfl, rfl⟩
  | true =>
      rw [if_neg (by decide)]
      split
      · exact ⟨rfl, rfl, rfl⟩
      · refine ⟨fun found => ?_, rfl, rfl⟩
        cases found with
        | none => exact ⟨rfl, rfl, rfl⟩
        | some root =>
            obtain ⟨hposed, hinside⟩ := posed_ofRoot access flags root
            exact ⟨hposed, rfl, hinside⟩

theorem posed_ofKind (crawlers : Crawlers) (access : Access) :
    (ofKind crawlers access).Posed ∧ (ofKind crawlers access).isOutside = false := by
  unfold ofKind
  split
  · exact ⟨rfl, rfl⟩
  · refine ⟨fun result => ?_, rfl⟩
    cases result with
    | error source => exact ⟨trivial, rfl, rfl⟩
    | ok flags => exact posed_ofFlags crawlers access flags

theorem posed_ofAccess (crawlers : Crawlers) (access : Access) :
    (ofAccess crawlers access).Posed := by
  intro isManaged
  cases isManaged with
  | false => exact ⟨rfl, rfl⟩
  | true => exact posed_ofKind crawlers access

end Inquiry

-- ============================================================ phases

/-- How far a call has come. -/
inductive Phase where
  /-- It has not entered. -/
  | waiting
  /-- The rules are asked; `late` when no flags are read any more. -/
  | asking (late : Bool)
  /-- The flags have told that the object lies outside of every root. -/
  | outside
  /-- A request is on its way into the table. -/
  | preparing
  /-- The request is in the table, and its message is to be handed over. -/
  | ready
  /-- The channel has the message. -/
  | sending
  | awaiting
  /-- The decision has been made. -/
  | bearing (decision : Decision)
  | done (decision : Decision)

def Errand.phase (out : Bool) : Errand → Phase
  | number _ _ | register _ _ => .preparing
  | send _ _ => if out then .sending else .ready
  | await _ => .awaiting
  | release _ v | done v => .bearing (.ok v)

def Call.phase (out : Bool) : Call → Phase
  | enter => .waiting
  | ask inquiry => if inquiry.isOutside then .outside else .asking inquiry.isLate
  | errand e => e.phase out
  | leave decision => .bearing decision
  | done decision => .done decision

theorem Call.phase_ask (out : Bool) (inquiry : Inquiry) :
    (ask inquiry).phase out = if inquiry.isOutside then .outside else .asking inquiry.isLate := rfl

def Strand.phase : Strand → Phase
  | ⟨.call _ c, out⟩ => c.phase out
  | ⟨.errand e, out⟩ => e.phase out

/-- The metrics with a latency, if they have room for any. -/
def Metrics.noteLatency (metrics : Metrics) (latency : Span) : Metrics :=
  match metrics.recordLatency latency with
  | .ok metrics => metrics
  | .error _ => metrics

theorem Arbiter.recordLatency_metrics (arbiter : Arbiter) (latency : Span) :
    (arbiter.recordLatency latency).metrics = arbiter.metrics.noteLatency latency := by
  unfold recordLatency Metrics.noteLatency
  cases arbiter.metrics.recordLatency latency <;> rfl

/-- The metrics with a decision. -/
def Metrics.countDecision (metrics : Metrics) : Decision → Metrics
  | .ok v => metrics.count (·.countVerdict v)
  | .error _ => metrics.count (·.countIntegrityViolation)

theorem Call.countDecision_metrics (arbiter : Arbiter) (decision : Decision) :
    (countDecision arbiter decision).metrics = arbiter.metrics.countDecision decision := by
  cases decision <;> rfl

/-- The steps of a call with a number, under a policy: its phase and the metrics before and after, and
the incidents. -/
inductive Passage (policy : UnreachablePolicy) (n : Nat) :
    Phase → Metrics → Phase → Metrics → List Incident → Prop where
  | enter (m : Metrics) (access : Access) :
    Passage policy n .waiting m (.asking false) m [.entered n access]
  | ask (m : Metrics) (late : Bool) (q : Question) :
    Passage policy n (.asking late) m (.asking late) m [.called n (.question q)]
  | managed (m : Metrics) (late isManaged : Bool) :
    Passage policy n (.asking false) m (.asking late) m [.returned n (.managed isManaged)]
  | flags (m : Metrics) (result : Except FlagsFault Flags)
      (h : (Feedback.flags result).isLacking = false) :
    Passage policy n (.asking false) m (.asking true) m [.returned n (.flags result)]
  | lacking (m : Metrics) (result : Except FlagsFault Flags)
      (h : (Feedback.flags result).isLacking = true) :
    Passage policy n (.asking false) m .outside m [.returned n (.flags result)]
  | root (m : Metrics) (found : Option Root) :
    Passage policy n (.asking true) m (.asking true) m [.returned n (.root found)]
  /-- An object outside of every root is let pass. -/
  | slip (m : Metrics) :
    Passage policy n .outside m (.bearing (.ok .allow)) (m.count (·.countFastPath)) []
  | verdict (m : Metrics) (v : Verdict) (h : v.isOfRequest = false) :
    Passage policy n (.asking true) m (.bearing (.ok v)) m []
  | unreadable (m : Metrics) (violation : IntegrityViolation) :
    Passage policy n (.asking true) m (.bearing (.error violation)) m []
  | commission (m : Metrics) (c : Commission) :
    Passage policy n (.asking true) m .preparing m [.requested n c]
  /-- Without a path there is nothing to ask for. -/
  | unresolved (m : Metrics) (c : Commission) :
    Passage policy n (.asking true) m (.bearing (.ok (.deny .pathUnresolved))) m
      [.requested n c, .resolved n (.deny .pathUnresolved)]
  | number (m : Metrics) (id : UInt64) : Passage policy n .preparing m .preparing m [.issued id]
  | register (m : Metrics) (message : Message) :
    Passage policy n .preparing m .ready (m.count (·.countRequest)) [.registered n message]
  /-- The table refuses a request only after a shutdown. -/
  | refuse (m : Metrics) (message : Message) (fault : RegisterFault) :
    Passage policy n .preparing m (.bearing (.ok (.deny .shuttingDown))) m
      [.refused n message fault, .resolved n (.deny .shuttingDown)]
  | hand (m : Metrics) (root : Int) (message : Message) :
    Passage policy n .ready m .sending m [.called n (.send root message)]
  | sent (m : Metrics) : Passage policy n .sending m .awaiting m [.returned n (.sent (.ok ()))]
  | unsent (m : Metrics) (fault : SendFault) :
    Passage policy n .sending m (.bearing (.ok (Errand.unreachable policy)))
      (m.count (·.countTransportFailure)) [.returned n (.sent (.error fault))]
  | wait (m : Metrics) : Passage policy n .awaiting m .awaiting m [.looked n none]
  | wake (m : Metrics) (outcome : WaitOutcome) (latency : Span) :
    Passage policy n .awaiting m (.bearing (.ok (Errand.verdictOf outcome)))
      (m.noteLatency latency) [.looked n (some outcome)]
  | release (m : Metrics) (v : Verdict) :
    Passage policy n (.bearing (.ok v)) m (.bearing (.ok v)) m [.resolved n v]
  | finish (m : Metrics) (v : Verdict) :
    Passage policy n (.bearing (.ok v)) m (.bearing (.ok v)) m []
  | leave (m : Metrics) (decision : Decision) :
    Passage policy n (.bearing decision) m (.done decision) (m.countDecision decision)
      [.left n decision]

-- ============================================================ sound strands

/-- A call whose inquiry is one into its access, and that waits for a collaborator only when it has
called one. -/
structure Strand.Sound (strand : Strand) : Prop where
  isCall : strand.IsCall
  out : strand.out = true → strand.task.contact?.isSome = true
  posed : ∀ access inquiry, strand.task = .call access (.ask inquiry) → inquiry.Posed

namespace Strand

variable {access : Access}

theorem sound_call {c : Call} (hc : ∀ inquiry, c = .ask inquiry → inquiry.Posed) :
    Sound ⟨.call access c, false⟩ where
  isCall := ⟨access, c, rfl⟩
  out := nofun
  posed other inquiry h := by
    injection h with _ h
    exact hc inquiry h

theorem sound_ask {inquiry : Inquiry} (h : inquiry.Posed) :
    Sound ⟨.call access (.ask inquiry), false⟩ :=
  sound_call fun other heq => by
    injection heq with heq
    exact heq ▸ h

/-- A call without a collaborator to call has none at work. -/
theorem Sound.out_eq_false {c : Call} {out : Bool} (h : Sound ⟨.call access c, out⟩)
    (hnone : (Task.call access c).contact? = none) : out = false := by
  cases out with
  | false => rfl
  | true =>
      have hsome := h.out rfl
      rw [hnone] at hsome
      cases hsome

end Strand

/-- A step that a call does not take. -/
structure Idle (arbiter after : Arbiter) (task next : Task) (incidents : List Incident) : Prop where
  metrics : after.metrics = arbiter.metrics
  task : next = task
  incidents : incidents = []

/-- What becomes of a sound strand in a step: it passes on, or stays where it is. -/
structure Strand.Passes (policy : UnreachablePolicy) (n : Nat) (before : Strand) (m : Metrics)
    (after : Strand) (m' : Metrics) (incidents : List Incident) : Prop where
  sound : after.Sound
  passage : Passage policy n before.phase m after.phase m' incidents

namespace Call

variable {access : Access} {out : Bool}

/-- The own step of an inquiry that has come to its ruling. -/
theorem passes_rule (policy : UnreachablePolicy) (n : Nat) (arbiter : Arbiter) (ruling : Ruling)
    (hposed : (Inquiry.rule ruling).Posed) :
    Strand.Passes policy n ⟨.call access (.ask (.rule ruling)), false⟩ arbiter.metrics
      ⟨.call access (settle access arbiter (.rule ruling)).2, false⟩
      (settle access arbiter (.rule ruling)).1.metrics
      ((Task.call access (.ask (.rule ruling))).incidents n arbiter) := by
  cases ruling with
  | verdict v => exact ⟨Strand.sound_call nofun, .verdict _ v hposed⟩
  | outside => exact ⟨Strand.sound_call nofun, .slip _⟩
  | unreadable source => exact ⟨Strand.sound_call nofun, .unreadable _ _⟩
  | hydrate root kind =>
      refine ⟨Strand.sound_call nofun, ?_⟩
      show Passage policy n (.asking true) arbiter.metrics
        ((Errand.start root kind access.node access.pid access.process).phase false) _
        (Commission.incidents n ⟨root, kind, access.node, access.pid, access.process⟩)
      unfold Commission.incidents Commission.errand Errand.start
      dsimp only
      cases Errand.target root access.node with
      | error fault => exact .unresolved _ _
      | ok path => exact .commission _ _

/-- The own step of an errand, when the table has no entry under the id that is to be registered. -/
theorem passes_errand (n : Nat) (latency : Span) (arbiter : Arbiter) (e : Errand)
    (hmoving : ∀ root message, e ≠ .send root message) (hopen : ∀ v, e ≠ .done v)
    (hfresh : ∀ root message, e = .register root message →
      arbiter.pending.contains message.id = false) :
    Strand.Passes arbiter.onUnreachable n ⟨.call access (.errand e), false⟩ arbiter.metrics
      ⟨.call access (.errand (e.step latency arbiter).2), false⟩
      (e.step latency arbiter).1.metrics (e.incidents n arbiter) := by
  cases e with
  | number root message => exact ⟨Strand.sound_call nofun, .number _ _⟩
  | send root message => exact absurd rfl (hmoving root message)
  | done v => exact absurd rfl (hopen v)
  | release id v => exact ⟨Strand.sound_call nofun, .release _ v⟩
  | await id =>
      unfold Errand.step Errand.incidents
      dsimp only
      cases arbiter.pending.outcome? id with
      | none => exact ⟨Strand.sound_call nofun, .wait _⟩
      | some outcome =>
          refine ⟨Strand.sound_call nofun, ?_⟩
          show Passage _ n .awaiting _ _ (arbiter.recordLatency latency).metrics _
          rw [Arbiter.recordLatency_metrics]
          exact .wake _ outcome latency
  | register root message =>
      unfold Errand.step Errand.incidents
      dsimp only
      cases hreg : arbiter.pending.register message with
      | ok pending => exact ⟨Strand.sound_call nofun, .register _ message⟩
      | error fault =>
          refine ⟨Strand.sound_call nofun, ?_⟩
          rcases Pending.register_error_iff.1 hreg with ⟨-, rfl⟩ | ⟨-, htaken, -⟩
          · exact .refuse _ message _
          · rw [hfresh root message rfl] at htaken
            cases htaken

/-- The own step of a call. -/
theorem passes_step (n : Nat) (latency : Span) (arbiter : Arbiter) (c : Call)
    (hsound : Strand.Sound ⟨.call access c, out⟩)
    (hfresh : ∀ root message, c = .errand (.register root message) →
      arbiter.pending.contains message.id = false) :
    Strand.Passes arbiter.onUnreachable n ⟨.call access c, out⟩ arbiter.metrics
        ⟨.call access (c.step access latency arbiter).2, out⟩
        (c.step access latency arbiter).1.metrics ((Task.call access c).incidents n arbiter) ∨
      Idle arbiter (c.step access latency arbiter).1 (.call access c)
        (.call access (c.step access latency arbiter).2)
        ((Task.call access c).incidents n arbiter) := by
  -- whoever waits for a collaborator has no step of its own
  cases c with
  | enter =>
      obtain rfl := hsound.out_eq_false rfl
      exact .inl ⟨Strand.sound_ask (Inquiry.posed_ofAccess arbiter.crawlers access), .enter _ access⟩
  | done decision => exact .inr ⟨rfl, rfl, rfl⟩
  | leave decision =>
      obtain rfl := hsound.out_eq_false rfl
      refine .inl ⟨Strand.sound_call nofun, ?_⟩
      show Passage _ n (.bearing decision) _ (.done decision)
        (countDecision arbiter decision).metrics _
      rw [countDecision_metrics]
      exact .leave _ decision
  | ask inquiry =>
      cases inquiry with
      | askManaged next => exact .inr ⟨rfl, rfl, rfl⟩
      | askFlags next => exact .inr ⟨rfl, rfl, rfl⟩
      | askRoot next => exact .inr ⟨rfl, rfl, rfl⟩
      | rule ruling =>
          obtain rfl := hsound.out_eq_false rfl
          exact .inl (passes_rule _ n arbiter ruling (hsound.posed _ _ rfl))
  | errand e =>
      cases e with
      | done v =>
          obtain rfl := hsound.out_eq_false rfl
          exact .inl ⟨Strand.sound_call nofun, .finish _ v⟩
      | send root message => exact .inr ⟨rfl, rfl, rfl⟩
      | number root message =>
          obtain rfl := hsound.out_eq_false rfl
          exact .inl (passes_errand n latency arbiter _ nofun nofun nofun)
      | register root message =>
          obtain rfl := hsound.out_eq_false rfl
          refine .inl (passes_errand n latency arbiter _ nofun nofun fun other m h => ?_)
          exact hfresh other m (congrArg errand h)
      | await id =>
          obtain rfl := hsound.out_eq_false rfl
          exact .inl (passes_errand n latency arbiter _ nofun nofun nofun)
      | release id v =>
          obtain rfl := hsound.out_eq_false rfl
          exact .inl (passes_errand n latency arbiter _ nofun nofun nofun)

/-- A call turns to its next collaborator. -/
theorem passes_turn (policy : UnreachablePolicy) (n : Nat) (m : Metrics) (c : Call)
    (hsound : Strand.Sound ⟨.call access c, false⟩) {contact : Contact}
    (hcontact : (Task.call access c).contact? = some contact) :
    Strand.Passes policy n ⟨.call access c, false⟩ m ⟨.call access c, true⟩ m
      [.called n contact] := by
  refine ⟨⟨hsound.isCall, fun _ => by rw [hcontact]; rfl, hsound.posed⟩, ?_⟩
  unfold Task.contact? at hcontact
  split at hcontact <;> cases hcontact
  all_goals
    rename_i htask
    cases htask
  · exact .ask _ _ _
  · exact .ask _ _ _
  · exact .ask _ _ _
  · exact .hand _ _ _

/-- A collaborator comes back to a call. -/
theorem passes_hear (n : Nat) (arbiter : Arbiter) (c : Call)
    (hsound : Strand.Sound ⟨.call access c, true⟩) {contact : Contact} {feedback : Feedback}
    (hcontact : (Task.call access c).contact? = some contact)
    (hanswers : feedback.answers contact = true) :
    Strand.Passes arbiter.onUnreachable n ⟨.call access c, true⟩ arbiter.metrics
      ⟨((Task.call access c).hear arbiter feedback).2, false⟩
      ((Task.call access c).hear arbiter feedback).1.metrics [.returned n feedback] := by
  unfold Task.contact? at hcontact
  split at hcontact
  case h_1 _ next htask =>
    cases htask
    cases hcontact
    cases feedback with
    | managed isManaged =>
        obtain ⟨hnext, hinside⟩ := hsound.posed _ _ rfl isManaged
        refine ⟨Strand.sound_ask hnext, ?_⟩
        show Passage _ n (.asking false) _ (phase false (.ask (next isManaged))) _ _
        rw [phase_ask, hinside]
        exact .managed _ _ isManaged
    | flags | root | sent => cases hanswers
  case h_2 _ next htask =>
    cases htask
    cases hcontact
    cases feedback with
    | flags result =>
        obtain ⟨hnext, hlate, houtside⟩ := hsound.posed _ _ rfl result
        refine ⟨Strand.sound_ask hnext, ?_⟩
        show Passage _ n (.asking false) _ (phase false (.ask (next result))) _ _
        rw [phase_ask, houtside, hlate]
        cases hlacking : (Feedback.flags result).isLacking with
        | true => exact .lacking _ result hlacking
        | false => exact .flags _ result hlacking
    | managed | root | sent => cases hanswers
  case h_3 _ next htask =>
    cases htask
    cases hcontact
    cases feedback with
    | root found =>
        obtain ⟨hnext, hlate, hinside⟩ := hsound.posed _ _ rfl found
        refine ⟨Strand.sound_ask hnext, ?_⟩
        show Passage _ n (.asking true) _ (phase false (.ask (next found))) _ _
        rw [phase_ask, hinside, hlate]
        exact .root _ found
    | managed | flags | sent => cases hanswers
  case h_4 _ root message htask =>
    cases htask
    cases hcontact
    cases feedback with
    | sent result =>
        cases result with
        | ok done => exact ⟨Strand.sound_call nofun, .sent _⟩
        | error fault => exact ⟨Strand.sound_call nofun, .unsent _ fault⟩
    | managed | flags | root => cases hanswers
  case h_5 => cases ‹Task.call access c = _›
  case h_6 => cases hcontact

end Call

-- ============================================================ all strands

namespace Traffic

/-- What a move does to calls, to the metrics and to the log. -/
inductive Passes (policy : UnreachablePolicy) (t next : Traffic) : Prop where
  | strand (n : Nat) (before after : Strand) (incidents : List Incident)
      (hn : t.strands[n]? = some before)
      (h : before.Passes policy n t.arbiter.metrics after next.arbiter.metrics incidents)
      (hstrands : next.strands = t.strands.set n after) (hlog : next.log = t.log ++ incidents)
  /-- A call arrives, and has not entered yet. -/
  | arrive (access : Access) (hmetrics : next.arbiter.metrics = t.arbiter.metrics)
      (hstrands : next.strands = t.strands ++ [⟨.call access .enter, false⟩])
      (hlog : next.log = t.log)
  /-- Something happens that no call does. -/
  | outside (incidents : List Incident) (hmetrics : next.arbiter.metrics = t.arbiter.metrics)
      (hstrands : next.strands = t.strands) (hlog : next.log = t.log ++ incidents)
      (hnobody : ∀ i ∈ incidents, i.strand? = none)

theorem Passes.idle (policy : UnreachablePolicy) (t : Traffic) : Passes policy t t :=
  .outside [] rfl rfl (List.append_nil _).symm fun _ h => absurd h List.not_mem_nil

/-- Every move passes a sound call on, brings one, or concerns none. -/
theorem passes_step {t : Traffic} {move : Move} (hmove : ∀ c, move ≠ .request c)
    (hsound : ∀ strand ∈ t.strands, strand.Sound)
    (hfresh : ∀ (n : Nat) (strand : Strand) (root : Int) (message : Message),
      t.strands[n]? = some strand → strand.task.errand? = some (.register root message) →
        t.pending.contains message.id = false) :
    Passes t.arbiter.onUnreachable t (t.step move) := by
  have hoff : ∀ incidents : List Incident, (∀ i ∈ incidents, i.strand? = none) →
      ∀ {arbiter : Arbiter} {closing : Closing}, arbiter.metrics = t.arbiter.metrics →
        Passes t.arbiter.onUnreachable t ⟨arbiter, t.strands, closing, t.log ++ incidents⟩ :=
    fun incidents hnobody _ _ hmetrics => .outside incidents hmetrics rfl rfl hnobody
  have hone : ∀ {i : Incident}, i.strand? = none → ∀ other ∈ [i], other.strand? = none :=
    fun h other hother => List.mem_singleton.1 hother ▸ h
  cases move with
  | arrive access => exact .arrive access rfl rfl rfl
  | request c => exact absurd rfl (hmove c)
  | takeId => exact hoff _ (hone rfl) rfl
  | deliver id kind => exact hoff _ (hone rfl) rfl
  | shutDown => exact hoff _ (hone rfl) rfl
  | check => exact hoff _ (hone rfl) rfl
  | close =>
      unfold step close
      dsimp only
      cases t.closing with
      | running | unlistened | draining | drained => exact hoff _ (hone rfl) rfl
      | released => exact .idle _ t
  | step n latency =>
      cases hn : t.strands[n]? with
      | none =>
          rw [show t.step (.step n latency) = t by simp only [step, hn]]
          exact .idle _ t
      | some strand =>
          obtain ⟨task, out⟩ := strand
          have hstrand := hsound _ (List.mem_of_getElem? hn)
          obtain ⟨access, c, htask⟩ := hstrand.isCall
          cases htask
          have hnext : t.step (.step n latency) =
              { t with
                arbiter := (c.step access latency t.arbiter).1
                strands := t.strands.set n
                  ⟨.call access (c.step access latency t.arbiter).2, out⟩ }.note
                ((Task.call access c).incidents n t.arbiter) := by
            simp only [step, hn]
            rfl
          rw [hnext]
          rcases Call.passes_step n latency t.arbiter c hstrand
            (fun root message h => hfresh n _ root message hn (h ▸ rfl)) with hpass | hidle
          · exact .strand n _ _ _ hn hpass rfl rfl
          · refine .outside [] hidle.metrics ?_ ?_ fun _ h => absurd h List.not_mem_nil
            · show t.strands.set n _ = t.strands
              rw [hidle.task]
              exact set_self hn
            · show t.log ++ _ = t.log ++ []
              rw [hidle.incidents]
  | turn n =>
      unfold step
      dsimp only
      split
      case h_2 => exact .idle _ t
      case h_1 task hn =>
        split
        case h_2 => exact .idle _ t
        case h_1 contact hcontact =>
          have hstrand := hsound _ (List.mem_of_getElem? hn)
          obtain ⟨access, c, htask⟩ := hstrand.isCall
          cases htask
          exact .strand n _ _ _ hn (Call.passes_turn _ n _ c hstrand hcontact) rfl rfl
  | back n feedback =>
      unfold step
      dsimp only
      split
      case h_2 => exact .idle _ t
      case h_1 task hn =>
        split
        case isFalse => exact .idle _ t
        case isTrue hanswers =>
          have hstrand := hsound _ (List.mem_of_getElem? hn)
          obtain ⟨access, c, htask⟩ := hstrand.isCall
          cases htask
          obtain ⟨contact, hcontact, hto⟩ := (Option.any_eq_true _ _).1 hanswers
          exact .strand n _ _ _ hn (Call.passes_hear n t.arbiter c hstrand hcontact hto) rfl rfl

/-- Sound calls stay sound. -/
theorem Passes.sound {policy : UnreachablePolicy} {t next : Traffic} (h : Passes policy t next)
    (hsound : ∀ strand ∈ t.strands, strand.Sound) : ∀ strand ∈ next.strands, strand.Sound := by
  intro strand hstrand
  cases h with
  | strand n before after incidents hn h hstrands hlog =>
      rw [hstrands] at hstrand
      rcases List.mem_or_eq_of_mem_set hstrand with hold | rfl
      · exact hsound strand hold
      · exact h.sound
  | arrive access hmetrics hstrands hlog =>
      rw [hstrands] at hstrand
      rcases List.mem_append.1 hstrand with hold | hnew
      · exact hsound strand hold
      · obtain rfl := List.mem_singleton.1 hnew
        exact Strand.sound_call nofun
  | outside incidents hmetrics hstrands hlog hnobody =>
      rw [hstrands] at hstrand
      exact hsound strand hstrand

/-- What holds at the start and is kept by whatever passes holds after every run of calls, while fewer
than 2^64 ids have been given out. -/
theorem passes_induction (holds : Traffic → Prop) {config : Config} {moves : List Move}
    (hcalls : OnlyCalls moves)
    (hcount : (issuedIds ((start config).run moves).log).length < 2 ^ 64)
    (hstart : holds (start config))
    (hstep : ∀ t next, Passes config.onUnreachable t next → holds t → holds next) :
    holds ((start config).run moves) := by
  have hboth : (∀ strand ∈ ((start config).run moves).strands, strand.Sound) ∧
      holds ((start config).run moves) := by
    induction moves using List.reverseRecOn with
    | nil => exact ⟨fun _ h => absurd h List.not_mem_nil, hstart⟩
    | append_singleton moves move ih =>
        rw [run_concat] at hcount ⊢
        have hgrown := issuedIds_length_mono (step_step ((start config).run moves) move)
        have hearlier : (issuedIds ((start config).run moves).log).length < 2 ^ 64 :=
          Nat.lt_of_le_of_lt hgrown hcount
        obtain ⟨hsound, hholds⟩ :=
          ih (fun c hc => hcalls c (List.mem_append_left _ hc)) hearlier
        have hpass := passes_step
          (fun c hc => hcalls c (hc ▸ List.mem_append_right _ (List.mem_singleton_self _))) hsound
          fun n strand root message hn he =>
            (apart_run config hearlier).contains_eq_false (owned_run config moves) hn he
        rw [onUnreachable_run] at hpass
        exact ⟨hpass.sound hsound, hstep _ _ hpass hholds⟩
  exact hboth.2

end Traffic

end Hydration
