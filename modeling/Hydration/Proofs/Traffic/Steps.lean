/-
All that a move can do to a traffic, written out once. What every invariant needs of a step is here:
the table before and after, the counter of calls, the strand that moved, and what the log tells of it.
The metrics are left out, nothing depends on them.

# The rules

`Strand.Step` has one rule for each kind of step of a strand, and `Outside.Step` one for each thing
that can happen to the table from outside. `Traffic.step_cases` says that there is nothing else: a
move starts a strand, moves one strand by one of its rules, or comes from outside.
-/
import Hydration.Proofs.Traffic.Basic
import Hydration.Proofs.Pending.Table
import Mathlib.Data.List.Induction

namespace Hydration

-- ============================================================ the rules of a strand

/-- The steps of a strand with a number, under a policy: the table and the counter before and after,
the strand before and after, and the incidents. -/
inductive Strand.Step (policy : UnreachablePolicy) (n : Nat) :
    Pending → Nat → Strand → Pending → Nat → Strand → List Incident → Prop where
  /-- A call enters and is counted. -/
  | enter (table : Pending) (active : Nat) (access : Access) (inquiry : Inquiry) (out : Bool) :
    Step policy n table active ⟨.call access .enter, out⟩ table (active + 1)
      ⟨.call access (.ask inquiry), out⟩ [.entered n access]
  /-- The rules have come to a decision without the provider. -/
  | rule (table : Pending) (active : Nat) (access : Access) (ruling : Ruling) (out : Bool)
      (decision : Decision) :
    Step policy n table active ⟨.call access (.ask (.rule ruling)), out⟩ table active
      ⟨.call access (.leave decision), out⟩ []
  /-- The rules want the provider to be asked. -/
  | commission (table : Pending) (active : Nat) (access : Access) (ruling : Ruling) (out : Bool)
      (c : Commission) :
    Step policy n table active ⟨.call access (.ask (.rule ruling)), out⟩ table active
      ⟨.call access (.errand c.errand), out⟩ (c.incidents n)
  /-- A collaborator is called. -/
  | turn (table : Pending) (active : Nat) (task : Task) (contact : Contact)
      (h : task.contact? = some contact) :
    Step policy n table active ⟨task, false⟩ table active ⟨task, true⟩ [.called n contact]
  /-- A question is answered. -/
  | answered (table : Pending) (active : Nat) (access : Access) (asked next : Inquiry)
      (feedback : Feedback) (h : ∀ result, feedback ≠ .sent result) :
    Step policy n table active ⟨.call access (.ask asked), true⟩ table active
      ⟨.call access (.ask next), false⟩ [.returned n feedback]
  /-- An errand takes its id. -/
  | number (table : Pending) (active : Nat) (task : Task) (out : Bool) (root : Int)
      (message : Message) (h : task.errand? = some (.number root message)) :
    Step policy n table active ⟨task, out⟩ table.takeId.2 active
      ⟨task.withErrand (.register root { message with id := table.nextId }), out⟩
      [.issued table.nextId]
  /-- The table takes the request. -/
  | register (table next : Pending) (active : Nat) (task : Task) (out : Bool) (root : Int)
      (message : Message) (h : task.errand? = some (.register root message))
      (hnext : table.register message = .ok next) :
    Step policy n table active ⟨task, out⟩ next active
      ⟨task.withErrand (.send root message), out⟩ [.registered n message]
  /-- The table refuses the request. -/
  | refuse (table : Pending) (active : Nat) (task : Task) (out : Bool) (root : Int)
      (message : Message) (fault : RegisterFault)
      (h : task.errand? = some (.register root message))
      (hfault : table.register message = .error fault) :
    Step policy n table active ⟨task, out⟩ table active
      ⟨task.withErrand (.done (Errand.refusalOf fault)), out⟩
      [.refused n message fault, .resolved n (Errand.refusalOf fault)]
  /-- The channel has taken the message. -/
  | sent (table : Pending) (active : Nat) (task : Task) (root : Int) (message : Message)
      (h : task.errand? = some (.send root message)) :
    Step policy n table active ⟨task, true⟩ table active
      ⟨task.withErrand (.await message.id), false⟩ [.returned n (.sent (.ok ()))]
  /-- The channel has not taken the message. -/
  | unsent (table : Pending) (active : Nat) (task : Task) (root : Int) (message : Message)
      (fault : SendFault) (h : task.errand? = some (.send root message)) :
    Step policy n table active ⟨task, true⟩ table active
      ⟨task.withErrand (.release message.id (Errand.unreachable policy)), false⟩
      [.returned n (.sent (.error fault))]
  /-- A look for the answer in vain. -/
  | wait (table : Pending) (active : Nat) (task : Task) (out : Bool) (id : UInt64)
      (h : task.errand? = some (.await id)) (houtcome : table.outcome? id = none) :
    Step policy n table active ⟨task, out⟩ table active ⟨task, out⟩ [.looked n none]
  /-- A look that ends the wait. -/
  | wake (table : Pending) (active : Nat) (task : Task) (out : Bool) (id : UInt64)
      (outcome : WaitOutcome) (h : task.errand? = some (.await id))
      (houtcome : table.outcome? id = some outcome) :
    Step policy n table active ⟨task, out⟩ table active
      ⟨task.withErrand (.release id (Errand.verdictOf outcome)), out⟩ [.looked n (some outcome)]
  /-- The request is let go. -/
  | release (table : Pending) (active : Nat) (task : Task) (out : Bool) (id : UInt64)
      (v : Verdict) (h : task.errand? = some (.release id v)) :
    Step policy n table active ⟨task, out⟩ (table.drop id) active
      ⟨task.withErrand (.done v), out⟩ [.resolved n v]
  /-- A call goes on with the verdict of its errand. -/
  | finish (table : Pending) (active : Nat) (access : Access) (out : Bool) (v : Verdict) :
    Step policy n table active ⟨.call access (.errand (.done v)), out⟩ table active
      ⟨.call access (.leave (.ok v)), out⟩ []
  /-- A call returns and is no longer counted. -/
  | leave (table : Pending) (active : Nat) (access : Access) (out : Bool) (decision : Decision) :
    Step policy n table active ⟨.call access (.leave decision), out⟩ table (active - 1)
      ⟨.call access (.done decision), out⟩ [.left n decision]

/-- What happens to the table from outside, and how whoever stops the service gets on, at a count of
calls: the table and the closing before and after, and the incidents. -/
inductive Outside.Step (active : Nat) :
    Pending → Closing → Pending → Closing → List Incident → Prop where
  | idle (table : Pending) (closing : Closing) : Step active table closing table closing []
  | issue (table : Pending) (closing : Closing) :
    Step active table closing table.takeId.2 closing [.issued table.nextId]
  | deliver (table : Pending) (closing : Closing) (id : UInt64) (kind : MessageKind) :
    Step active table closing (table.deliver id kind).2 closing [.delivered id kind]
  | shutDown (table : Pending) (closing : Closing) :
    Step active table closing table.abort.2 closing [.shutDown]
  | check (table : Pending) (closing : Closing) :
    Step active table closing table closing [.checked active]
  | unlisten (table : Pending) : Step active table .running table .unlistened [.unlistened]
  | drain (table : Pending) : Step active table .unlistened table.abort.2 .draining [.shutDown]
  | look (table : Pending) :
    Step active table .draining table (if active = 0 then .drained else .draining)
      [.checked active]
  | release (table : Pending) : Step active table .drained table .released [.released]

-- ============================================================ nothing else happens

namespace Task

@[simp] theorem errand?_withErrand (task : Task) (e : Errand) :
    (task.withErrand e).errand? = some e := by
  cases task <;> rfl

/-- Only a task with a message to send has the channel to call. -/
theorem errand?_of_contact? {task : Task} {root : Int} {message : Message}
    (h : task.contact? = some (.send root message)) :
    task.errand? = some (.send root message) := by
  unfold contact? at h
  split at h <;> cases h <;> rfl

/-- A task with the errand that it has already is the task itself. -/
theorem withErrand_of_errand? {task : Task} {e : Errand} (h : task.errand? = some e) :
    task.withErrand e = task := by
  unfold errand? at h
  split at h <;> cases h <;> rfl

end Task

namespace Call

@[simp] theorem countDecision_pending (arbiter : Arbiter) (decision : Decision) :
    (countDecision arbiter decision).pending = arbiter.pending := by
  cases decision <;> rfl

@[simp] theorem countDecision_active (arbiter : Arbiter) (decision : Decision) :
    (countDecision arbiter decision).active = arbiter.active - 1 := by
  cases decision <;> rfl

@[simp] theorem countDecision_onUnreachable (arbiter : Arbiter) (decision : Decision) :
    (countDecision arbiter decision).onUnreachable = arbiter.onUnreachable := by
  cases decision <;> rfl

end Call

namespace Arbiter

variable (arbiter : Arbiter) (latency : Span)

@[simp] theorem recordLatency_pending :
    (arbiter.recordLatency latency).pending = arbiter.pending := by
  unfold recordLatency
  split <;> rfl

@[simp] theorem recordLatency_active :
    (arbiter.recordLatency latency).active = arbiter.active := by
  unfold recordLatency
  split <;> rfl

@[simp] theorem recordLatency_onUnreachable :
    (arbiter.recordLatency latency).onUnreachable = arbiter.onUnreachable := by
  unfold recordLatency
  split <;> rfl

end Arbiter

namespace Errand

@[simp] theorem step_onUnreachable (latency : Span) (arbiter : Arbiter) (e : Errand) :
    (e.step latency arbiter).1.onUnreachable = arbiter.onUnreachable := by
  unfold step
  split
  · rfl
  · split <;> rfl
  · split
    · exact arbiter.recordLatency_onUnreachable latency
    · rfl
  · rfl
  · rfl

@[simp] theorem returned_onUnreachable (arbiter : Arbiter) (result : Except SendFault Unit)
    (e : Errand) : (e.returned arbiter result).1.onUnreachable = arbiter.onUnreachable := by
  unfold returned
  split
  · split <;> rfl
  · rfl

end Errand

namespace Task

@[simp] theorem step_onUnreachable (latency : Span) (arbiter : Arbiter) (task : Task) :
    (task.step latency arbiter).1.onUnreachable = arbiter.onUnreachable := by
  cases task with
  | errand e => exact e.step_onUnreachable latency arbiter
  | call access c =>
      show (c.step access latency arbiter).1.onUnreachable = _
      unfold Call.step
      split
      · rfl
      · unfold Call.settle
        split <;> rfl
      · rfl
      · exact Errand.step_onUnreachable _ _ _
      · exact Call.countDecision_onUnreachable _ _
      · rfl

@[simp] theorem hear_onUnreachable (arbiter : Arbiter) (feedback : Feedback) (task : Task) :
    (task.hear arbiter feedback).1.onUnreachable = arbiter.onUnreachable := by
  unfold hear
  split
  case h_4 result access c =>
    show (c.returned arbiter result).1.onUnreachable = _
    unfold Call.returned
    split
    · exact Errand.returned_onUnreachable _ _ _
    · rfl
  case h_5 result e => exact e.returned_onUnreachable arbiter result
  all_goals rfl

end Task

/-- A step that changed nothing that counts, and of which the log tells nothing. -/
structure Unmoved (before after : Arbiter) (task next : Task) (incidents : List Incident) :
    Prop where
  pending : after.pending = before.pending
  active : after.active = before.active
  task : next = task
  incidents : incidents = []

/-- An errand goes on by one of the rules, or stays where it is. -/
theorem Errand.step_cases (n : Nat) (latency : Span) (arbiter : Arbiter) (task : Task)
    (out : Bool) {e : Errand} (h : task.errand? = some e) :
    Strand.Step arbiter.onUnreachable n arbiter.pending arbiter.active ⟨task, out⟩
        (e.step latency arbiter).1.pending (e.step latency arbiter).1.active
        ⟨task.withErrand (e.step latency arbiter).2, out⟩ (e.incidents n arbiter) ∨
      Unmoved arbiter (e.step latency arbiter).1 task
        (task.withErrand (e.step latency arbiter).2) (e.incidents n arbiter) := by
  have hstay := Task.withErrand_of_errand? h
  cases e with
  | number root message => exact .inl (.number _ _ _ _ _ _ h)
  | register root message =>
      unfold step incidents
      dsimp only
      cases hreg : arbiter.pending.register message with
      | ok next => exact .inl (.register _ _ _ _ _ _ _ h hreg)
      | error fault => exact .inl (.refuse _ _ _ _ _ _ _ h hreg)
  | send root message => exact .inr ⟨rfl, rfl, hstay, rfl⟩
  | await id =>
      unfold step incidents
      dsimp only
      cases houtcome : arbiter.pending.outcome? id with
      | none =>
          dsimp only
          rw [hstay]
          exact .inl (.wait _ _ _ _ _ h houtcome)
      | some outcome =>
          dsimp only
          rw [Arbiter.recordLatency_pending, Arbiter.recordLatency_active]
          exact .inl (.wake _ _ _ _ _ _ h houtcome)
  | release id v => exact .inl (.release _ _ _ _ _ _ h)
  | done v => exact .inr ⟨rfl, rfl, hstay, rfl⟩

/-- So does a task. -/
theorem Task.step_cases (n : Nat) (latency : Span) (arbiter : Arbiter) (task : Task)
    (out : Bool) :
    Strand.Step arbiter.onUnreachable n arbiter.pending arbiter.active ⟨task, out⟩
        (task.step latency arbiter).1.pending (task.step latency arbiter).1.active
        ⟨(task.step latency arbiter).2, out⟩ (task.incidents n arbiter) ∨
      Unmoved arbiter (task.step latency arbiter).1 task (task.step latency arbiter).2
        (task.incidents n arbiter) := by
  cases task with
  | errand e => exact Errand.step_cases n latency arbiter _ out rfl
  | call access c =>
      cases c with
      | enter => exact .inl (.enter _ _ _ _ _)
      | done decision => exact .inr ⟨rfl, rfl, rfl, rfl⟩
      | leave decision =>
          show Strand.Step _ n _ _ _ (Call.countDecision arbiter decision).pending
              (Call.countDecision arbiter decision).active _ _ ∨ _
          rw [Call.countDecision_pending, Call.countDecision_active]
          exact .inl (.leave _ _ _ _ _)
      | ask inquiry =>
          cases inquiry with
          | askManaged next => exact .inr ⟨rfl, rfl, rfl, rfl⟩
          | askFlags next => exact .inr ⟨rfl, rfl, rfl, rfl⟩
          | askRoot next => exact .inr ⟨rfl, rfl, rfl, rfl⟩
          | rule ruling =>
              cases ruling with
              | verdict v => exact .inl (.rule _ _ _ _ _ _)
              | outside => exact .inl (.rule _ _ _ _ _ _)
              | unreadable source => exact .inl (.rule _ _ _ _ _ _)
              | hydrate root kind =>
                  exact .inl (.commission _ _ _ _ _
                    ⟨root, kind, access.node, access.pid, access.process⟩)
      | errand e =>
          cases e with
          | done v => exact .inl (.finish _ _ _ _ _)
          | _ => exact Errand.step_cases n latency arbiter (.call access (.errand _)) out rfl

/-- A collaborator that comes back takes the strand on by one of the rules. -/
theorem Task.hear_step (n : Nat) (arbiter : Arbiter) {feedback : Feedback} {task : Task}
    {contact : Contact} (h : task.contact? = some contact)
    (hanswers : feedback.answers contact = true) :
    Strand.Step arbiter.onUnreachable n arbiter.pending arbiter.active ⟨task, true⟩
      (task.hear arbiter feedback).1.pending (task.hear arbiter feedback).1.active
      ⟨(task.hear arbiter feedback).2, false⟩ [.returned n feedback] := by
  -- the contact fixes which feedback can come, and the message on its way
  unfold contact? at h
  split at h
  case h_6 => cases h
  all_goals
    injection h with h
    subst h
    cases feedback <;> try cases hanswers
  · exact .answered _ _ _ _ _ _ fun result h => by cases h
  · exact .answered _ _ _ _ _ _ fun result h => by cases h
  · exact .answered _ _ _ _ _ _ fun result h => by cases h
  · next result =>
      cases result with
      | ok => exact .sent _ _ _ _ _ rfl
      | error fault => exact .unsent _ _ _ _ _ _ rfl
  · next result =>
      cases result with
      | ok => exact .sent _ _ _ _ _ rfl
      | error fault => exact .unsent _ _ _ _ _ _ rfl

-- ============================================================ the moves

/-- What a move does to a traffic: it takes a strand on, starts one, or comes from outside. -/
inductive Traffic.Step (t : Traffic) (move : Move) (next : Traffic) : Prop where
  | strand (n : Nat) (before after : Strand) (incidents : List Incident)
      (hn : t.strands[n]? = some before)
      (hstep : Strand.Step t.arbiter.onUnreachable n t.pending t.arbiter.active before
        next.pending next.arbiter.active after incidents)
      (hstrands : next.strands = t.strands.set n after) (hclosing : next.closing = t.closing)
      (hlog : next.log = t.log ++ incidents)
  | arrive (access : Access) (hpending : next.pending = t.pending)
      (hactive : next.arbiter.active = t.arbiter.active)
      (hstrands : next.strands = t.strands ++ [⟨.call access .enter, false⟩])
      (hclosing : next.closing = t.closing) (hlog : next.log = t.log)
  | request (c : Commission) (hmove : move = .request c) (hpending : next.pending = t.pending)
      (hactive : next.arbiter.active = t.arbiter.active)
      (hstrands : next.strands = t.strands ++ [⟨.errand c.errand, false⟩])
      (hclosing : next.closing = t.closing)
      (hlog : next.log = t.log ++ c.incidents t.strands.length)
  | outside (incidents : List Incident)
      (hstep : Outside.Step t.arbiter.active t.pending t.closing next.pending next.closing
        incidents)
      (hactive : next.arbiter.active = t.arbiter.active)
      (hstrands : next.strands = t.strands) (hlog : next.log = t.log ++ incidents)

namespace Traffic

/-- A move that leaves all as it is. -/
theorem Step.idle (t : Traffic) (move : Move) : Step t move t :=
  .outside [] (.idle _ _) rfl rfl (by simp)

@[simp] theorem deliver_pending (arbiter : Arbiter) (id : UInt64) (kind : MessageKind) :
    (arbiter.deliver id kind).2.pending = (arbiter.pending.deliver id kind).2 := rfl

/-- Setting a strand to what it is changes nothing. -/
theorem set_self {strands : List Strand} {n : Nat} {strand : Strand}
    (h : strands[n]? = some strand) : strands.set n strand = strands := by
  obtain ⟨hlt, heq⟩ := List.getElem?_eq_some_iff.1 h
  rw [← heq, List.set_getElem_self]

/-- The log only grows. -/
theorem Step.log_grows {t next : Traffic} {move : Move} (h : Step t move next) :
    ∃ incidents, next.log = t.log ++ incidents := by
  cases h with
  | strand _ _ _ incidents _ _ _ _ hlog => exact ⟨incidents, hlog⟩
  | arrive _ _ _ _ _ hlog => exact ⟨[], by simp [hlog]⟩
  | request _ _ _ _ _ _ hlog => exact ⟨_, hlog⟩
  | outside incidents _ _ _ hlog => exact ⟨incidents, hlog⟩

theorem step_close (t : Traffic) : Step t .close (t.step .close) := by
  obtain ⟨arbiter, strands, closing, log⟩ := t
  cases closing with
  | running => exact .outside _ (.unlisten _) rfl rfl rfl
  | unlistened => exact .outside _ (.drain _) rfl rfl rfl
  | draining => exact .outside _ (.look _) rfl rfl rfl
  | drained => exact .outside _ (.release _) rfl rfl rfl
  | released => exact .idle _ _

/-- Every move is one of these. -/
theorem step_step (t : Traffic) (move : Move) : Step t move (t.step move) := by
  cases move with
  | arrive access => exact .arrive access rfl rfl rfl rfl rfl
  | request c => exact .request c rfl rfl rfl rfl rfl rfl
  | step n latency =>
      cases hn : t.strands[n]? with
      | none =>
          rw [show t.step (.step n latency) = t by simp only [step, hn]]
          exact .idle _ _
      | some strand =>
          have hnext : t.step (.step n latency) =
              { t with
                arbiter := (strand.task.step latency t.arbiter).1
                strands := t.strands.set n
                  ⟨(strand.task.step latency t.arbiter).2, strand.out⟩ }.note
                (strand.task.incidents n t.arbiter) := by
            simp only [step, hn]
          rw [hnext]
          rcases Task.step_cases n latency t.arbiter strand.task strand.out with hstep | hsame
          · exact .strand n strand _ _ hn hstep rfl rfl rfl
          · refine .outside [] ?_ hsame.active ?_ ?_
            · show Outside.Step _ t.pending t.closing
                (strand.task.step latency t.arbiter).1.pending t.closing []
              rw [hsame.pending]
              exact .idle _ _
            · show t.strands.set n ⟨(strand.task.step latency t.arbiter).2, strand.out⟩ = t.strands
              rw [hsame.task]
              exact set_self hn
            · show t.log ++ strand.task.incidents n t.arbiter = _
              rw [hsame.incidents]
  | turn n =>
      unfold step
      dsimp only
      split
      case h_2 => exact .idle _ _
      case h_1 task hn =>
        split
        case h_2 => exact .idle _ _
        case h_1 contact hcontact =>
          exact .strand n _ _ _ hn (.turn _ _ _ _ hcontact) rfl rfl rfl
  | back n feedback =>
      unfold step
      dsimp only
      split
      case h_2 => exact .idle _ _
      case h_1 task hn =>
        split
        case isFalse => exact .idle _ _
        case isTrue hanswers =>
          obtain ⟨contact, hcontact, hanswers⟩ := (Option.any_eq_true _ _).1 hanswers
          exact .strand n _ _ _ hn (Task.hear_step n t.arbiter hcontact hanswers) rfl rfl rfl
  | takeId => exact .outside _ (.issue _ _) rfl rfl rfl
  | deliver id kind => exact .outside _ (.deliver _ _ _ _) rfl rfl rfl
  | shutDown => exact .outside _ (.shutDown _ _) rfl rfl rfl
  | check => exact .outside _ (.check _ _) rfl rfl rfl
  | close => exact t.step_close

/-- Nobody changes the policy. -/
theorem onUnreachable_step (t : Traffic) (move : Move) :
    (t.step move).arbiter.onUnreachable = t.arbiter.onUnreachable := by
  cases move with
  | arrive | request | takeId | deliver | shutDown | check => rfl
  | close =>
      unfold step close
      dsimp only
      split <;> rfl
  | turn n =>
      unfold step
      dsimp only
      split
      · split <;> rfl
      · rfl
  | step n latency =>
      cases hn : t.strands[n]? with
      | none => simp only [step, hn]
      | some strand =>
          have hnext : (t.step (.step n latency)).arbiter =
              (strand.task.step latency t.arbiter).1 := by
            simp only [step, hn]
            rfl
          rw [hnext, Task.step_onUnreachable]
  | back n feedback =>
      unfold step
      dsimp only
      split
      · split
        · exact Task.hear_onUnreachable _ _ _
        · rfl
      · rfl

theorem onUnreachable_run (t : Traffic) (moves : List Move) :
    (t.run moves).arbiter.onUnreachable = t.arbiter.onUnreachable := by
  induction moves using List.reverseRecOn with
  | nil => rfl
  | append_singleton moves move ih => rw [run_concat, onUnreachable_step, ih]

theorem run_log_grows (t : Traffic) (moves : List Move) :
    ∃ incidents, (t.run moves).log = t.log ++ incidents := by
  induction moves using List.reverseRecOn with
  | nil => exact ⟨[], by simp [run]⟩
  | append_singleton moves move ih =>
      obtain ⟨before, hbefore⟩ := ih
      obtain ⟨after, hafter⟩ := ((t.run moves).step_step move).log_grows
      exact ⟨before ++ after, by rw [run_concat, hafter, hbefore, List.append_assoc]⟩

end Traffic

end Hydration
