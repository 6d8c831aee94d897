/-
One access run through from its beginning, among collaborators of which none is at anything else.

# What stands around

`Standing` fixes all that a call can see or leave behind: the entries of the table, the queue of the
provider and the tree, and what stays the same throughout (`Around`). Each move of a call takes one
standing to another. The counters of the tree and the metrics are nobody's concern and stay open.

# The way of a call

The questions of an inquiry are answered by the tree (`Inquiry.ruling`); there are at most three. Then
the ruling is carried out (`Call.run_enter`). If the provider has to be asked, the worker is idle and
the queue empty, so the message is the next one that it takes, and the wait is over with the first look
(`Call.moves_number_served`).
-/
import Hydration.Proofs.Agreement.Rules
import Hydration.Proofs.Pending.Table
import Hydration.Simulation.Harness

namespace Hydration

-- ============================================================ moves

namespace Call

variable {σ : Type} {others : Collaborators σ} {access : Access}

/-- A call that is done stays as it is. -/
theorem moves_done (count : Nat) (arbiter : Arbiter) (world : σ) (decision : Decision) :
    (done decision).moves others access count arbiter world = (done decision, arbiter, world) := by
  induction count with
  | zero => rfl
  | succ count ih => exact ih

/-- So many moves and then so many. -/
theorem moves_add (first second : Nat) (arbiter : Arbiter) (world : σ) (call : Call) :
    call.moves others access (first + second) arbiter world =
      let (call, arbiter, world) := call.moves others access first arbiter world
      call.moves others access second arbiter world := by
  induction first generalizing arbiter world call with
  | zero => rw [Nat.zero_add]; rfl
  | succ first ih =>
      rw [Nat.succ_add]
      exact ih _ _ _

/-- A call that is done after some moves is done after more. -/
theorem moves_of_done {count more : Nat} (hle : count ≤ more) {arbiter arbiter' : Arbiter}
    {world world' : σ} {call : Call} {decision : Decision}
    (h : call.moves others access count arbiter world = (done decision, arbiter', world')) :
    call.moves others access more arbiter world = (done decision, arbiter', world') := by
  obtain ⟨rest, rfl⟩ := Nat.exists_eq_add_of_le hle
  rw [moves_add, h]
  exact moves_done rest arbiter' world' decision

theorem moves_succ {count : Nat} {arbiter arbiter' : Arbiter} {world world' : σ} {call next : Call}
    (h : call.move others access arbiter world = (next, arbiter', world')) :
    call.moves others access (count + 1) arbiter world =
      next.moves others access count arbiter' world' := by
  rw [moves, h]

end Call

-- ============================================================ what stands around

/-- What stays the same while a call runs. -/
structure Around where
  crawlers : Crawlers
  policy : UnreachablePolicy
  behaviour : Behaviour
  listening : Bool

namespace Around

/-- The verdict on a request. -/
def answered (around : Around) : Verdict :=
  match around.behaviour with
  | .succeed | .succeedAfter _ => .allow
  | .fail => .deny .hydrationFailed
  | .reject => Errand.unreachable around.policy
  | .ignore => .deny .shuttingDown

/-- A provider that takes messages and does not ignore them gives an answer, and that makes the
verdict. -/
theorem exists_answer (around : Around) (hignore : around.behaviour ≠ .ignore)
    (hreject : around.behaviour ≠ .reject) :
    ∃ kind outcome, around.behaviour.answer? = some kind ∧ kind.outcome? = some outcome ∧
      Errand.verdictOf (.answered outcome) = around.answered := by
  unfold answered
  cases hbehaviour : around.behaviour with
  | succeed | succeedAfter => exact ⟨.success, .success, rfl, rfl, rfl⟩
  | fail => exact ⟨.failure, .failure, rfl, rfl, rfl⟩
  | ignore => exact absurd hbehaviour hignore
  | reject => exact absurd hbehaviour hreject

end Around

/-- The state of an arbiter and of what is around it, as far as it concerns anybody. -/
structure Standing (around : Around) (active : Nat) (entries : List Entry) (queue : List Job)
    (tree : Tree) (arbiter : Arbiter) (stage : Stage) : Prop where
  crawlers : arbiter.crawlers = around.crawlers
  policy : arbiter.onUnreachable = around.policy
  active : arbiter.active = active
  entries : arbiter.pending.entries = entries
  up : arbiter.pending.shuttingDown = false
  general : stage.provider.general = around.behaviour
  byPath : stage.provider.byPath = []
  stopped : stage.provider.stopped = false
  queue : stage.provider.queue = queue
  hand : stage.provider.hand = none
  tree : stage.tree = tree
  listening : stage.listening = around.listening

/-- The tree with its counters at some other values. -/
def Tree.counted (tree : Tree) (lookups reads : Nat) : Tree := { tree with lookups, reads }

-- ============================================================ the questions

namespace Inquiry

/-- What an inquiry comes to when a tree answers. -/
def ruling (tree : Tree) (node : Node) : Inquiry → Ruling
  | askManaged next => (next (tree.isManaged node)).ruling tree node
  | askFlags next => (next (tree.flagsOf node)).ruling tree node
  | askRoot next => (next (tree.rootOf? node)).ruling tree node
  | rule r => r

/-- How many questions it takes. -/
def questions (tree : Tree) (node : Node) : Inquiry → Nat
  | askManaged next => (next (tree.isManaged node)).questions tree node + 1
  | askFlags next => (next (tree.flagsOf node)).questions tree node + 1
  | askRoot next => (next (tree.rootOf? node)).questions tree node + 1
  | rule _ => 0

theorem questions_ofAccess (crawlers : Crawlers) (access : Access) (tree : Tree) (node : Node) :
    (ofAccess crawlers access).questions tree node ≤ 3 := by
  unfold ofAccess questions
  cases tree.isManaged node with
  | false => exact Nat.le_of_ble_eq_true rfl
  | true =>
      dsimp only
      unfold ofKind
      split
      · exact Nat.le_of_ble_eq_true rfl
      · unfold questions
        cases tree.flagsOf node with
        | error source => exact Nat.le_of_ble_eq_true rfl
        | ok flags =>
            dsimp only
            unfold ofFlags
            split
            · exact Nat.le_of_ble_eq_true rfl
            · split
              · exact Nat.le_of_ble_eq_true rfl
              · cases hroot : tree.rootOf? node <;> simp [questions, hroot]

/-- The counters of a tree have no part in its answers. -/
theorem ruling_counted (tree : Tree) (lookups reads : Nat) (node : Node) (inquiry : Inquiry) :
    inquiry.ruling (tree.counted lookups reads) node = inquiry.ruling tree node ∧
      inquiry.questions (tree.counted lookups reads) node = inquiry.questions tree node := by
  induction inquiry with
  | askManaged next ih => exact ⟨(ih _).1, congrArg (· + 1) (ih _).2⟩
  | askFlags next ih => exact ⟨(ih _).1, congrArg (· + 1) (ih _).2⟩
  | askRoot next ih => exact ⟨(ih _).1, congrArg (· + 1) (ih _).2⟩
  | rule r => exact ⟨rfl, rfl⟩

end Inquiry

/-- The tree answers the questions, and the call goes on with what the rules say. -/
theorem Call.moves_ask (access : Access) (arbiter : Arbiter) (stage : Stage) (inquiry : Inquiry) :
    ∃ f lookups reads,
      (Call.ask inquiry).moves Stage.collaborators access
          (inquiry.questions stage.tree access.node + 1) arbiter stage =
        (Call.ofRuling access (inquiry.ruling stage.tree access.node), arbiter.count f,
          { stage with tree := stage.tree.counted lookups reads }) := by
  induction inquiry generalizing stage with
  | rule r =>
      by_cases hr : r = .outside
      · subst hr
        exact ⟨_, stage.tree.lookups, stage.tree.reads, rfl⟩
      · refine ⟨id, stage.tree.lookups, stage.tree.reads, ?_⟩
        cases r <;> first | rfl | exact absurd rfl hr
  | askManaged next ih => exact ih (stage.tree.isManaged access.node) stage
  | askFlags next ih =>
      have hasked := ih (stage.tree.flagsOf access.node)
        { stage with tree := stage.tree.counted stage.tree.lookups (stage.tree.reads + 1) }
      rw [(Inquiry.ruling_counted ..).1, (Inquiry.ruling_counted ..).2] at hasked
      exact hasked
  | askRoot next ih =>
      have hasked := ih (stage.tree.rootOf? access.node)
        { stage with tree := stage.tree.counted (stage.tree.lookups + 1) stage.tree.reads }
      rw [(Inquiry.ruling_counted ..).1, (Inquiry.ruling_counted ..).2] at hasked
      exact hasked

namespace Standing

variable {around : Around} {active : Nat} {entries : List Entry} {queue : List Job} {tree : Tree}
  {arbiter : Arbiter} {stage : Stage}

/-- Another arbiter with the same settings. -/
theorem withArbiter (h : Standing around active entries queue tree arbiter stage)
    {arbiter' : Arbiter} {active' : Nat} {entries' : List Entry}
    (hcrawlers : arbiter'.crawlers = arbiter.crawlers)
    (hpolicy : arbiter'.onUnreachable = arbiter.onUnreachable) (hactive : arbiter'.active = active')
    (hentries : arbiter'.pending.entries = entries')
    (hup : arbiter'.pending.shuttingDown = false) :
    Standing around active' entries' queue tree arbiter' stage :=
  ⟨hcrawlers.trans h.crawlers, hpolicy.trans h.policy, hactive, hentries, hup, h.general, h.byPath,
    h.stopped, h.queue, h.hand, h.tree, h.listening⟩

/-- Another stage with the same provider. -/
theorem withStage (h : Standing around active entries queue tree arbiter stage) {stage' : Stage}
    {next : Tree} (hprovider : stage'.provider = stage.provider) (htree : stage'.tree = next)
    (hlistening : stage'.listening = stage.listening) :
    Standing around active entries queue next arbiter stage' := by
  obtain ⟨hcrawlers, hpolicy, hactive, hentries, hup, hgeneral, hbyPath, hstopped, hqueue, hhand, -,
    hlistens⟩ := h
  rw [← hprovider] at hgeneral hbyPath hstopped hqueue hhand
  exact ⟨hcrawlers, hpolicy, hactive, hentries, hup, hgeneral, hbyPath, hstopped, hqueue, hhand,
    htree, hlistening.trans hlistens⟩

/-- Whatever the metrics are. -/
theorem count (h : Standing around active entries queue tree arbiter stage)
    (f : Counters → Counters) :
    Standing around active entries queue tree (arbiter.count f) stage :=
  h.withArbiter rfl rfl h.active h.entries h.up

/-- The tree has answered. -/
theorem withTree (h : Standing around active entries queue tree arbiter stage) (next : Tree) :
    Standing around active entries queue next arbiter { stage with tree := next } :=
  h.withStage rfl rfl rfl

end Standing

-- ============================================================ the errand

/-- The tree when the worker is done with a message. -/
def Standing.afterJob (tree : Tree) (job : Job) : Tree :=
  if job.behaviour.succeeds then Provider.hydrateTarget tree job else tree

theorem Standing.afterJob_counted (tree : Tree) (lookups reads : Nat) (job : Job) :
    afterJob (tree.counted lookups reads) job = (afterJob tree job).counted lookups reads := by
  unfold afterJob
  split
  · have hroot : (tree.counted lookups reads).root? job.root = tree.root? job.root := rfl
    unfold Provider.hydrateTarget
    rw [hroot]
    cases tree.root? job.root <;> rfl
  · rfl

/-- A worker with one message takes it and answers it. -/
theorem Provider.workAll_single (provider : Provider) {tree : Tree} {arbiter : Arbiter} {job : Job}
    {kind : MessageKind} (hstopped : provider.stopped = false) (hhand : provider.hand = none)
    (hqueue : provider.queue = [job]) (hanswer : job.behaviour.answer? = some kind) :
    provider.workAll tree arbiter =
      ({ provider with hand := none, queue := [], finished := provider.finished ++ [job] },
        Standing.afterJob tree job, (arbiter.deliver job.message.id kind).2) := by
  obtain ⟨general, byPath, stopped, sent, queue, hand, finished⟩ := provider
  cases hstopped
  cases hhand
  cases hqueue
  simp only [Provider.workAll, List.length_singleton, Provider.work, Provider.take,
    Provider.answer, hanswer]
  rfl

/-- The provider, which had nothing to do, has taken a message. -/
def Stage.taken (stage : Stage) (job : Job) : Stage :=
  { stage with
    provider := { stage.provider with sent := stage.provider.sent ++ [job.message], queue := [job] } }

/-- Its worker is done with it. -/
def Stage.served (stage : Stage) (job : Job) : Stage :=
  { stage with
    provider := { stage.provider with
      sent := stage.provider.sent ++ [job.message]
      finished := stage.provider.finished ++ [job] }
    tree := Standing.afterJob stage.tree job }

theorem Arbiter.recordLatency_eq (arbiter : Arbiter) (latency : Span) :
    ∃ metrics, arbiter.recordLatency latency = { arbiter with metrics } := by
  unfold recordLatency
  cases arbiter.metrics.recordLatency latency with
  | ok metrics => exact ⟨metrics, rfl⟩
  | error fault => exact ⟨arbiter.metrics, rfl⟩

/-- The arbiter with other entries in its table and other metrics. -/
def Arbiter.withTable (arbiter : Arbiter) (entries : List Entry) (next : UInt64) (metrics : Metrics) :
    Arbiter :=
  { arbiter with pending := ⟨entries, false, next⟩, metrics }

namespace Call

variable {arbiter : Arbiter} {stage : Stage} {next : UInt64}

/-- An errand takes its id, and an empty table takes every request. -/
theorem moves_number (hpending : arbiter.pending = ⟨[], false, next⟩) (access : Access)
    (stage : Stage) (root : Int) (message : Message) (count : Nat) :
    ∃ metrics, (errand (.number root message)).moves Stage.collaborators access (count + 2) arbiter
        stage =
      (errand (.send root { message with id := next })).moves Stage.collaborators access count
        (arbiter.withTable [⟨{ message with id := next }, none⟩] (next + 1) metrics) stage := by
  obtain ⟨crawlers, policy, pending, active, metrics⟩ := arbiter
  cases hpending
  have hregister : Pending.register ⟨[], false, next + 1⟩ { message with id := next } =
      .ok ⟨[⟨{ message with id := next }, none⟩], false, next + 1⟩ := rfl
  refine ⟨metrics.count (·.countRequest), (moves_succ rfl).trans (moves_succ ?_)⟩
  simp only [move, Errand.move, Errand.step, Arbiter.takeId, Pending.takeId, hregister]
  rfl

/-- A provider that refuses messages gets none into its queue. -/
theorem move_send_refused {message : Message}
    (hreject : stage.provider.behaviourFor message.path = .reject) (access : Access)
    (arbiter : Arbiter) (root : Int) :
    (errand (.send root message)).move Stage.collaborators access arbiter stage =
      (errand (.release message.id (Errand.unreachable arbiter.onUnreachable)),
        arbiter.count (·.countTransportFailure), stage) := by
  have hsend : stage.provider.send root message =
      (.error (.rejected root "provider queue closed"), stage.provider) := if_pos hreject
  simp only [move, Errand.move, Stage.collaborators, Stage.send, hsend, Errand.returned]

/-- Any other provider takes the message. -/
theorem move_send_taken {message : Message}
    (haccept : stage.provider.behaviourFor message.path ≠ .reject)
    (hstopped : stage.provider.stopped = false) (hqueue : stage.provider.queue = [])
    (access : Access) (arbiter : Arbiter) (root : Int) :
    (errand (.send root message)).move Stage.collaborators access arbiter stage =
      (errand (.await message.id), arbiter,
        stage.taken ⟨root, message, stage.provider.behaviourFor message.path⟩) := by
  have hsend : stage.provider.send root message = (.ok (),
      (stage.taken ⟨root, message, stage.provider.behaviourFor message.path⟩).provider) := by
    unfold Provider.send
    rw [if_neg haccept, if_neg (by simp [hstopped]), hqueue]
    rfl
  simp only [move, Errand.move, Stage.collaborators, Stage.send, hsend, Errand.returned]
  rfl

/-- While a call waits the worker answers, and the first look shows the answer. -/
theorem move_await (hstopped : stage.provider.stopped = false) (hhand : stage.provider.hand = none)
    (hqueue : stage.provider.queue = []) {job : Job} {kind : MessageKind} {outcome : Outcome}
    (hanswer : job.behaviour.answer? = some kind) (houtcome : kind.outcome? = some outcome)
    (access : Access) (arbiter : Arbiter) (next : UInt64) (before : Metrics) :
    ∃ metrics, (errand (.await job.message.id)).move Stage.collaborators access
        (arbiter.withTable [⟨job.message, none⟩] next before) (stage.taken job) =
      (errand (.release job.message.id (Errand.verdictOf (.answered outcome))),
        arbiter.withTable [⟨job.message, some outcome⟩] next metrics, stage.served job) := by
  have hwaits : ((arbiter.withTable [⟨job.message, none⟩] next before).pending.outcome?
      job.message.id).isSome = false := by
    simp [Arbiter.withTable, Pending.outcome?, Pending.find?, Entry.id]
  have hdeliver : ((arbiter.withTable [⟨job.message, none⟩] next before).deliver job.message.id
      kind).2 = arbiter.withTable [⟨job.message, some outcome⟩] next before := by
    simp [Arbiter.withTable, Arbiter.deliver, Pending.deliver, Pending.find?, houtcome,
      Pending.writeAnswer, Entry.id]
  have hwork : Stage.work (arbiter.withTable [⟨job.message, none⟩] next before) (stage.taken job) =
      (arbiter.withTable [⟨job.message, some outcome⟩] next before, stage.served job) := by
    rw [Stage.work, Provider.workAll_single (stage.taken job).provider hstopped hhand rfl hanswer,
      hdeliver]
    unfold Stage.served
    rw [← hhand, ← hqueue]
    rfl
  have hlook : (arbiter.withTable [⟨job.message, some outcome⟩] next before).pending.outcome?
      job.message.id = some (.answered outcome) := by
    simp [Arbiter.withTable, Pending.outcome?, Pending.find?, Entry.id]
  obtain ⟨metrics, hrecord⟩ :=
    (arbiter.withTable [⟨job.message, some outcome⟩] next before).recordLatency_eq .zero
  refine ⟨metrics, ?_⟩
  simp only [move, Errand.move, hwaits, Bool.false_eq_true, if_false, Stage.collaborators, hwork,
    Errand.step, hlook, hrecord]
  rfl

/-- The request is let go, and the call leaves. -/
theorem moves_release (access : Access) (arbiter : Arbiter) (entry : Entry) (next : UInt64)
    (before : Metrics) (stage : Stage) (v : Verdict) :
    ∃ metrics, (errand (.release entry.id v)).moves Stage.collaborators access 3
        (arbiter.withTable [entry] next before) stage =
      (done (.ok v), { arbiter.withTable [] next metrics with active := arbiter.active - 1 },
        stage) := by
  have hdrop : (arbiter.withTable [entry] next before).pending.drop entry.id =
      ⟨[], false, next⟩ := by
    simp [Arbiter.withTable, Pending.drop]
  have hrelease : (errand (.release entry.id v)).move Stage.collaborators access
      (arbiter.withTable [entry] next before) stage =
        (errand (.done v), arbiter.withTable [] next before, stage) := by
    simp only [move, Errand.move, Errand.step, hdrop]
    rfl
  exact ⟨before.count (·.countVerdict v), moves_succ hrelease⟩

/-- An errand whose message is refused ends as the policy says. -/
theorem moves_number_refused (hpending : arbiter.pending = ⟨[], false, next⟩) (message : Message)
    (hreject : stage.provider.behaviourFor message.path = .reject) (access : Access) (root : Int) :
    ∃ metrics, (errand (.number root message)).moves Stage.collaborators access 7 arbiter stage =
      (done (.ok (Errand.unreachable arbiter.onUnreachable)),
        { arbiter.withTable [] (next + 1) metrics with active := arbiter.active - 1 }, stage) := by
  obtain ⟨metrics₁, hnumber⟩ := moves_number hpending access stage root message 5
  have hnumbered : stage.provider.behaviourFor { message with id := next }.path = .reject := hreject
  rw [hnumber, moves_succ (move_send_refused hnumbered access _ root)]
  obtain ⟨metrics₂, hrelease⟩ := moves_release access arbiter ⟨{ message with id := next }, none⟩
    (next + 1) (metrics₁.count (·.countTransportFailure)) stage
    (Errand.unreachable arbiter.onUnreachable)
  exact ⟨metrics₂, moves_of_done (by decide) hrelease⟩

/-- An errand that finds nobody else at work: its message is the one that the worker answers. -/
theorem moves_number_served (hpending : arbiter.pending = ⟨[], false, next⟩)
    (hstopped : stage.provider.stopped = false) (hqueue : stage.provider.queue = [])
    (hhand : stage.provider.hand = none) (message : Message)
    (haccept : stage.provider.behaviourFor message.path ≠ .reject)
    {kind : MessageKind} {outcome : Outcome}
    (hanswer : (stage.provider.behaviourFor message.path).answer? = some kind)
    (houtcome : kind.outcome? = some outcome) (access : Access) (root : Int) :
    ∃ metrics, (errand (.number root message)).moves Stage.collaborators access 7 arbiter stage =
      (done (.ok (Errand.verdictOf (.answered outcome))),
        { arbiter.withTable [] (next + 1) metrics with active := arbiter.active - 1 },
        stage.served ⟨root, { message with id := next },
          stage.provider.behaviourFor message.path⟩) := by
  obtain ⟨metrics₁, hnumber⟩ := moves_number hpending access stage root message 5
  have hnumbered : stage.provider.behaviourFor { message with id := next }.path ≠ .reject := haccept
  rw [hnumber, moves_succ (move_send_taken hnumbered hstopped hqueue access _ root)]
  have hserves : (Job.mk root { message with id := next }
    (stage.provider.behaviourFor message.path)).behaviour.answer? = some kind := hanswer
  obtain ⟨metrics₂, hawait⟩ :=
    move_await hstopped hhand hqueue hserves houtcome access arbiter (next + 1) metrics₁
  obtain ⟨metrics₃, hrelease⟩ := moves_release access arbiter
    ⟨{ message with id := next }, some outcome⟩ (next + 1) metrics₂
    (stage.served ⟨root, { message with id := next }, stage.provider.behaviourFor message.path⟩)
    (Errand.verdictOf (.answered outcome))
  exact ⟨metrics₃, (moves_succ hawait).trans hrelease⟩

end Call

namespace Standing

variable {around : Around} {active : Nat} {tree : Tree} {arbiter : Arbiter} {stage : Stage}

/-- A call counts its decision and leaves. -/
theorem move_leave {entries : List Entry} {queue : List Job}
    (h : Standing around (active + 1) entries queue tree arbiter stage)
    (access : Access) (decision : Decision) :
    ∃ arbiter', (Call.leave decision).move Stage.collaborators access arbiter stage =
        (.done decision, arbiter', stage) ∧
      Standing around active entries queue tree arbiter' stage := by
  refine ⟨Call.countDecision arbiter decision, rfl, ?_⟩
  have hactive : arbiter.active - 1 = active := by
    rw [h.active]
    rfl
  cases decision <;> exact h.withArbiter rfl rfl hactive h.entries h.up

theorem behaviourFor_eq {entries : List Entry} {queue : List Job}
    (h : Standing around active entries queue tree arbiter stage) (path : String) :
    stage.provider.behaviourFor path = around.behaviour := by
  unfold Provider.behaviourFor
  rw [h.byPath, h.general]
  rfl

/-- An errand of a call that finds nobody else at work: the request is registered, sent, answered as
the provider behaves, and let go. -/
theorem moves_number (h : Standing around (active + 1) [] [] tree arbiter stage)
    (hignore : around.behaviour ≠ .ignore) (access : Access) (root : Int) (message : Message) :
    ∃ arbiter' stage', (Call.errand (.number root message)).moves Stage.collaborators access 7
          arbiter stage = (.done (.ok around.answered), arbiter', stage') ∧
      Standing around active [] [] (afterJob tree ⟨root, message, around.behaviour⟩) arbiter'
        stage' := by
  have hpending : arbiter.pending = ⟨[], false, arbiter.pending.nextId⟩ := by
    rw [← h.entries, ← h.up]
  have hactive : arbiter.active - 1 = active := by
    rw [h.active]
    rfl
  have hbehaviour := h.behaviourFor_eq message.path
  by_cases hreject : around.behaviour = .reject
  · obtain ⟨metrics, hmoves⟩ :=
      Call.moves_number_refused hpending message (hbehaviour.trans hreject) access root
    have hverdict : Errand.unreachable arbiter.onUnreachable = around.answered := by
      rw [Around.answered, hreject, h.policy]
    have htree : afterJob tree ⟨root, message, around.behaviour⟩ = tree := by
      rw [hreject]
      rfl
    rw [hverdict] at hmoves
    rw [htree]
    exact ⟨_, _, hmoves, h.withArbiter rfl rfl hactive rfl rfl⟩
  · obtain ⟨kind, outcome, hanswer, houtcome, hverdict⟩ := around.exists_answer hignore hreject
    rw [← hbehaviour] at hreject hanswer
    obtain ⟨metrics, hmoves⟩ :=
      Call.moves_number_served hpending h.stopped h.queue h.hand message hreject hanswer houtcome
        access root
    rw [hverdict] at hmoves
    refine ⟨_, _, hmoves, h.crawlers, h.policy, hactive, rfl, rfl, h.general, h.byPath, h.stopped,
      h.queue, h.hand, ?_, h.listening⟩
    rw [← h.tree, ← hbehaviour]
    rfl

end Standing

-- ============================================================ a whole access

/-- A call enters, the questions are answered, and with what is left of its moves it carries out the
ruling. -/
theorem Call.run_enter_eq (access : Access) (arbiter : Arbiter) (stage : Stage) :
    ∃ count f lookups reads, 7 ≤ count ∧
      enter.run Stage.collaborators access arbiter stage =
        (ofRuling access ((Inquiry.ofAccess arbiter.crawlers access).ruling stage.tree
          access.node)).moves Stage.collaborators access count
          (Arbiter.count { arbiter with active := arbiter.active + 1 } f)
          { stage with tree := stage.tree.counted lookups reads } := by
  obtain ⟨f, lookups, reads, hask⟩ := moves_ask access
    { arbiter with active := arbiter.active + 1 } stage (.ofAccess arbiter.crawlers access)
  have henter : enter.move Stage.collaborators access arbiter stage =
      (ask (.ofAccess arbiter.crawlers access), { arbiter with active := arbiter.active + 1 },
        stage) := rfl
  have hquestions := Inquiry.questions_ofAccess arbiter.crawlers access stage.tree access.node
  generalize (Inquiry.ofAccess arbiter.crawlers access).questions stage.tree access.node = questions
    at hask hquestions
  -- the entry, the questions and their end, and what the ruling takes
  obtain ⟨count, hcount⟩ : ∃ count, 12 = questions + 1 + count + 1 := ⟨10 - questions, by omega⟩
  refine ⟨count, f, lookups, reads, by omega, ?_⟩
  rw [run, hcount, moves_succ henter, moves_add (questions + 1) count, hask]

/-- So a call ends as its ruling does. -/
theorem Call.run_enter (access : Access) (arbiter : Arbiter) (stage : Stage) :
    ∃ f lookups reads, ∀ {decision : Decision} {arbiter' : Arbiter} {stage' : Stage},
      (ofRuling access ((Inquiry.ofAccess arbiter.crawlers access).ruling stage.tree
          access.node)).moves Stage.collaborators access 7
          (Arbiter.count { arbiter with active := arbiter.active + 1 } f)
          { stage with tree := stage.tree.counted lookups reads } =
        (done decision, arbiter', stage') →
      enter.run Stage.collaborators access arbiter stage = (done decision, arbiter', stage') := by
  obtain ⟨count, f, lookups, reads, hcount, hrun⟩ := run_enter_eq access arbiter stage
  refine ⟨f, lookups, reads, fun hrule => ?_⟩
  rw [hrun]
  exact moves_of_done hcount hrule

/-- The decision that a ruling leads to, and the tree then. -/
def Ruling.conclusion (around : Around) (tree : Tree) (access : Access) : Ruling → Decision × Tree
  | verdict v => (.ok v, tree)
  | outside => (.ok .allow, tree)
  | unreadable source => (.error (Call.violation access source), tree)
  | hydrate root kind =>
    match Errand.target root access.node with
    | .error _ => (.ok (.deny .pathUnresolved), tree)
    | .ok path =>
      (.ok around.answered, Standing.afterJob tree
        ⟨root.index, ⟨0, kind, access.pid, access.process, path⟩, around.behaviour⟩)

theorem Ruling.conclusion_counted (around : Around) (tree : Tree) (lookups reads : Nat)
    (access : Access) (ruling : Ruling) :
    ruling.conclusion around (tree.counted lookups reads) access =
      ((ruling.conclusion around tree access).1,
        (ruling.conclusion around tree access).2.counted lookups reads) := by
  cases ruling with
  | verdict | outside | unreadable => rfl
  | hydrate root kind =>
      simp only [conclusion]
      cases Errand.target root access.node with
      | error fault => rfl
      | ok path => exact congrArg (Prod.mk _) (Standing.afterJob_counted tree lookups reads _)

namespace Standing

variable {around : Around} {active : Nat} {tree : Tree} {arbiter : Arbiter} {stage : Stage}

/-- A ruling is carried out. -/
theorem moves_ofRuling (h : Standing around (active + 1) [] [] tree arbiter stage)
    (hignore : around.behaviour ≠ .ignore) (access : Access) (ruling : Ruling) :
    ∃ arbiter' stage', (Call.ofRuling access ruling).moves Stage.collaborators access 7 arbiter
          stage = (.done (ruling.conclusion around tree access).1, arbiter', stage') ∧
      Standing around active [] [] (ruling.conclusion around tree access).2 arbiter' stage' := by
  have hleaves : ∀ decision, ∃ arbiter', (Call.leave decision).moves Stage.collaborators access 7
      arbiter stage = (.done decision, arbiter', stage) ∧
        Standing around active [] [] tree arbiter' stage := by
    intro decision
    obtain ⟨arbiter', hleave, h'⟩ := h.move_leave access decision
    exact ⟨arbiter', Call.moves_of_done (by decide : 1 ≤ 7) (Call.moves_succ hleave), h'⟩
  cases ruling with
  | verdict v =>
      obtain ⟨arbiter', hmoves, h'⟩ := hleaves (.ok v)
      exact ⟨arbiter', stage, hmoves, h'⟩
  | outside =>
      obtain ⟨arbiter', hmoves, h'⟩ := hleaves (.ok .allow)
      exact ⟨arbiter', stage, hmoves, h'⟩
  | unreadable source =>
      obtain ⟨arbiter', hmoves, h'⟩ := hleaves (.error (Call.violation access source))
      exact ⟨arbiter', stage, hmoves, h'⟩
  | hydrate root kind =>
      simp only [Ruling.conclusion, Call.ofRuling, Errand.start]
      cases Errand.target root access.node with
      | error fault =>
          obtain ⟨arbiter', hleave, h'⟩ := h.move_leave access (.ok (.deny .pathUnresolved))
          refine ⟨arbiter', stage, Call.moves_of_done (by decide : 2 ≤ 7) ?_, h'⟩
          exact (Call.moves_succ rfl).trans (Call.moves_succ hleave)
      | ok path => exact h.moves_number hignore access root.index _

/-- An access with nobody else around ends as the rules say. -/
theorem run_enter (h : Standing around active [] [] tree arbiter stage)
    (hignore : around.behaviour ≠ .ignore) (access : Access) :
    ∃ arbiter' stage' lookups reads,
      Call.enter.run Stage.collaborators access arbiter stage =
        (.done (((Inquiry.ofAccess around.crawlers access).ruling tree access.node).conclusion
          around tree access).1, arbiter', stage') ∧
      Standing around active [] []
        ((((Inquiry.ofAccess around.crawlers access).ruling tree access.node).conclusion
          around tree access).2.counted lookups reads) arbiter' stage' := by
  obtain rfl := h.tree
  rw [← h.crawlers]
  obtain ⟨f, lookups, reads, hrun⟩ := Call.run_enter access arbiter stage
  have hentered : Standing around (active + 1) [] [] stage.tree
      { arbiter with active := arbiter.active + 1 } stage :=
    h.withArbiter rfl rfl (congrArg (· + 1) h.active) h.entries h.up
  obtain ⟨arbiter', stage', hrule, h'⟩ :=
    ((hentered.count f).withTree (stage.tree.counted lookups reads)).moves_ofRuling hignore access
      ((Inquiry.ofAccess arbiter.crawlers access).ruling stage.tree access.node)
  rw [Ruling.conclusion_counted] at hrule h'
  exact ⟨arbiter', stage', lookups, reads, hrun hrule, h'⟩

end Standing

theorem Harness.decide_of_run {harness : Harness} {access : Access} {decision : Decision}
    {arbiter' : Arbiter} {stage' : Stage}
    (h : Call.enter.run Stage.collaborators access harness.arbiter harness.stage =
      (.done decision, arbiter', stage')) :
    harness.decide access = (.decided decision, harness.withState arbiter' stage') := by
  unfold decide
  rw [h]
  rfl

/-- A host that listens reports an access, and notes when it returns. -/
theorem Harness.access_of_run {harness : Harness} {access : Access} {decision : Decision}
    {arbiter' : Arbiter} {stage' : Stage} (hlistening : harness.stage.listening = true)
    (h : Call.enter.run Stage.collaborators access harness.arbiter
      { harness.stage with dispatched := harness.stage.dispatched + 1 } =
        (.done decision, arbiter', stage')) :
    harness.access access = (.decided decision,
      (harness.withState arbiter' stage').mapStage (·.note (.callReturned access.pid))) := by
  have hdecide : Harness.decide
      ⟨harness.service, { harness.stage with dispatched := harness.stage.dispatched + 1 }⟩ access =
        (.decided decision, harness.withState arbiter' stage') :=
    decide_of_run h
  unfold Harness.access
  dsimp only
  rw [if_neg (by simp [hlistening]), hdecide]
  rfl

/-- So does an access that is made through a host that listens. -/
theorem Harness.access_eq {around : Around} {active : Nat} {tree : Tree} {harness : Harness}
    (h : Standing around active [] [] tree harness.arbiter harness.stage)
    (hlistening : around.listening = true) (hignore : around.behaviour ≠ .ignore)
    (access : Access) :
    ∃ harness' lookups reads,
      harness.access access =
        (.decided (((Inquiry.ofAccess around.crawlers access).ruling tree access.node).conclusion
          around tree access).1, harness') ∧
      Standing around active [] []
        ((((Inquiry.ofAccess around.crawlers access).ruling tree access.node).conclusion
          around tree access).2.counted lookups reads) harness'.arbiter harness'.stage := by
  have hcounted : Standing around active [] [] tree harness.arbiter
      { harness.stage with dispatched := harness.stage.dispatched + 1 } :=
    h.withStage rfl h.tree rfl
  obtain ⟨arbiter', stage', lookups, reads, hrun, h'⟩ := hcounted.run_enter hignore access
  exact ⟨_, lookups, reads, access_of_run (h.listening.trans hlistening) hrun,
    h'.withStage rfl h'.tree rfl⟩

end Hydration
