/-
A provider at work: any number of those who send to it at the same time, the one worker, and those
who change its behaviour or stop it. Whoever is to move next moves; nobody else has a say in it.

# Small steps

`Provider.send` accepts a message at one stretch, and `Provider.take` and `Provider.answer` do the
same for the worker. In fact each lock is held for a moment only. A sender looks up how the provider
is to react, then whether it has stopped, then puts the message with those that were sent, and then
into the queue; and the worker looks whether the provider has stopped, takes a message, looks for
the root, writes the content and answers. Everything else can happen between any two of these steps.
Only between its look and its taking does the worker keep the queue closed to the senders.

Made at one stretch the steps come to those of the provider (`Workshop.run_send`,
`Workshop.run_work`).

# The books

Who has put which job with those sent and into the queue is written down, and so is what the worker
does to the tree and at the arbiter. Nothing reads the books.
-/
import Hydration.Proofs.Content.Visit

namespace Hydration

-- ============================================================ senders

/-- What a sender has to do next with a message to a root. -/
inductive Sender where
  /-- Look up how the provider is to react. -/
  | choose (root : Int) (message : Message)
  /-- See whether the provider has stopped. -/
  | check (job : Job)
  /-- Put the message with those that were sent. -/
  | record (job : Job)
  /-- Put the job into the queue. -/
  | enqueue (job : Job)
  | done (job : Job) (result : Except SendFault Unit)

namespace Sender

/-- The job that the sender has made of its message. -/
def job? : Sender → Option Job
  | choose _ _ => none
  | check job | record job | enqueue job | done job _ => some job

/-- The job whose message stands with those sent. -/
def recorded? : Sender → Option Job
  | enqueue job | done job (.ok _) => some job
  | _ => none

/-- The job that was put into the queue. -/
def enqueued? : Sender → Option Job
  | done job (.ok _) => some job
  | _ => none

/-- The sender's own next step. Nothing is put into a queue that is closed. -/
def step (closed : Bool) (provider : Provider) : Sender → Provider × Sender
  | choose root message =>
    let job : Job := ⟨root, message, provider.behaviourFor message.path⟩
    if job.behaviour = .reject then
      (provider, done job (.error (.rejected root "provider queue closed")))
    else (provider, check job)
  | check job =>
    if provider.stopped then (provider, done job (.error (.notConnected job.root)))
    else (provider, record job)
  | record job => ({ provider with sent := provider.sent ++ [job.message] }, enqueue job)
  | enqueue job =>
    if closed then (provider, enqueue job)
    else ({ provider with queue := provider.queue ++ [job] }, done job (.ok ()))
  | done job result => (provider, done job result)

end Sender

-- ============================================================ the worker

/-- What the worker does to the tree or at the arbiter. -/
inductive Doing where
  /-- It writes the content of a path. -/
  | wrote (path : String)
  /-- It answers a request. -/
  | answered (id : UInt64) (kind : MessageKind)
deriving DecidableEq

/-- What a doing makes of the tree and the arbiter. -/
def Doing.apply : Tree × Arbiter → Doing → Tree × Arbiter
  | (tree, arbiter), wrote path => (tree.hydrate path, arbiter)
  | (tree, arbiter), answered id kind => (tree, (arbiter.deliver id kind).2)

/-- All that is done for a job, from its behaviour. -/
def Job.doings (tree : Tree) (job : Job) : List Doing :=
  match job.behaviour with
  | .succeed | .succeedAfter _ =>
    (tree.targetOf? job).toList.map .wrote ++ [.answered job.message.id .success]
  | .fail => [.answered job.message.id .failure]
  | .ignore | .reject => []

/-- The path whose content is to be written for a job, if there is one. -/
def Job.path? (tree : Tree) (job : Job) : Option String :=
  if job.behaviour.succeeds then tree.targetOf? job else none

/-- The answer that a job is to get, if it is to get one. -/
def Job.answer (job : Job) : List Doing :=
  job.behaviour.answer?.toList.map (.answered job.message.id)

/-- What the worker has to do next. -/
inductive Worker where
  /-- See whether the provider has stopped. -/
  | look
  /-- Take the first job of the queue, which is closed to everybody else. -/
  | pick
  /-- Go about a job: look for its root if it is to succeed. -/
  | start (job : Job)
  /-- Write the content of a path. -/
  | write (job : Job) (path : String)
  /-- Give the answer, if there is to be one, and be through with the job. -/
  | reply (job : Job)
  /-- Nothing any more: it has seen that the provider has stopped. -/
  | gone

namespace Worker

/-- The job in the worker's hand. -/
def job? : Worker → Option Job
  | look | pick | gone => none
  | start job | write job _ | reply job => some job

/-- The worker's own next step, and what it does by that. -/
def step (provider : Provider) (tree : Tree) : Worker → Provider × Worker × List Doing
  | look => (provider, if provider.stopped then gone else pick, [])
  | pick =>
    match provider.queue with
    | [] => (provider, look, [])
    | job :: queue => ({ provider with hand := some job, queue }, start job, [])
  | start job =>
    match job.path? tree with
    | some path => (provider, write job path, [])
    | none => (provider, reply job, [])
  | write job path => (provider, reply job, [.wrote path])
  | reply job =>
    ({ provider with hand := none, finished := provider.finished ++ [job] }, look, job.answer)
  | gone => (provider, gone, [])

end Worker

-- ============================================================ the workshop

structure Workshop where
  provider : Provider
  tree : Tree
  arbiter : Arbiter
  senders : List Sender
  worker : Worker
  /-- The jobs whose messages were put with those sent, each with the number of its sender, in
  order. -/
  recorded : List (Nat × Job)
  /-- The jobs that were put into the queue, likewise. -/
  enqueued : List (Nat × Job)
  /-- What the worker has done, in order. -/
  doings : List Doing

namespace Workshop

/-- Who moves next, and how. -/
inductive Turn where
  /-- Somebody comes with a message to a root. -/
  | arrive (root : Int) (message : Message)
  /-- A sender takes its next step. -/
  | send (n : Nat)
  /-- The worker takes its next step. -/
  | work
  | setBehaviour (behaviour : Behaviour)
  | setBehaviourFor (path : String) (behaviour : Behaviour)
  | stop
  /-- A root gets or loses its provider. -/
  | setProvider (index : Int) (pid : Option Int)
  /-- Others use the tree and the arbiter, and leave them like this. The roots stay as they are. -/
  | outside (tree : Tree) (arbiter : Arbiter)

/-- A new provider with its worker. -/
def start (tree : Tree) (arbiter : Arbiter) : Workshop :=
  ⟨.start, tree, arbiter, [], .look, [], [], []⟩

/-- The queue is closed to the senders. -/
def closed (w : Workshop) : Bool :=
  match w.worker with
  | .pick => true
  | _ => false

/-- A book with the entry that the step of a sender adds to it, if it adds one. -/
def enter (book : List (Nat × Job)) (n : Nat) (before after : Option Job) : List (Nat × Job) :=
  match before, after with
  | none, some job => book ++ [(n, job)]
  | _, _ => book

/-- The next step of a sender. -/
def send (w : Workshop) (n : Nat) (sender : Sender) : Workshop :=
  let (provider, next) := sender.step w.closed w.provider
  { w with
    provider
    senders := w.senders.set n next
    recorded := enter w.recorded n sender.recorded? next.recorded?
    enqueued := enter w.enqueued n sender.enqueued? next.enqueued? }

/-- The worker does some things to the tree and at the arbiter. -/
def perform (w : Workshop) (doings : List Doing) : Workshop :=
  let state := doings.foldl Doing.apply (w.tree, w.arbiter)
  { w with tree := state.1, arbiter := state.2, doings := w.doings ++ doings }

/-- The next step of the worker. -/
def work (w : Workshop) : Workshop :=
  let (provider, worker, doings) := w.worker.step w.provider w.tree
  { w.perform doings with provider, worker }

/-- One turn. A sender that has not come leaves all as it is. -/
def step (w : Workshop) : Turn → Workshop
  | .arrive root message => { w with senders := w.senders ++ [.choose root message] }
  | .send n =>
    match w.senders[n]? with
    | some sender => w.send n sender
    | none => w
  | .work => w.work
  | .setBehaviour behaviour => { w with provider := w.provider.setBehaviour behaviour }
  | .setBehaviourFor path behaviour =>
    { w with provider := w.provider.setBehaviourFor path behaviour }
  | .stop => { w with provider := w.provider.stop }
  | .setProvider index pid => { w with tree := w.tree.setProvider index pid }
  | .outside tree arbiter => { w with tree := { tree with roots := w.tree.roots }, arbiter }

/-- The workshop after some turns. -/
def run (w : Workshop) (turns : List Turn) : Workshop := turns.foldl step w

theorem perform_nil (w : Workshop) : w.perform [] = w := by
  unfold perform
  rw [List.append_nil]
  rfl

theorem run_append (w : Workshop) (before after : List Turn) :
    w.run (before ++ after) = (w.run before).run after :=
  List.foldl_append

theorem run_concat (w : Workshop) (turns : List Turn) (turn : Turn) :
    w.run (turns ++ [turn]) = (w.run turns).step turn := by
  rw [run_append]
  rfl

end Workshop

-- ============================================================ at one stretch

/-- Four steps of a sender that nobody comes in between. -/
theorem Sender.iterate_step (provider : Provider) (root : Int) (message : Message) :
    (fun state : Provider × Sender => state.2.step false state.1)^[4]
        (provider, .choose root message) =
      ((provider.send root message).2,
        .done ⟨root, message, provider.behaviourFor message.path⟩
          (provider.send root message).1) := by
  simp only [Function.iterate_succ, Function.iterate_zero, Function.comp, id]
  unfold Provider.send
  by_cases hreject : provider.behaviourFor message.path = .reject
  · simp [Sender.step, hreject]
  · by_cases hstopped : provider.stopped = true
    · simp [Sender.step, hreject, hstopped]
    · simp [Sender.step, hreject, hstopped]

namespace Workshop

variable {w : Workshop}

theorem step_send {n : Nat} {sender : Sender} (h : w.senders[n]? = some sender) :
    w.step (.send n) = w.send n sender := by
  simp only [step, h]

/-- Some steps of the sender that has come last. -/
theorem run_replicate_send {others : List Sender} {sender : Sender}
    (h : w.senders = others ++ [sender]) (count : Nat) :
    let after := w.run (List.replicate count (.send others.length))
    let state := (fun state : Provider × Sender => state.2.step w.closed state.1)^[count]
      (w.provider, sender)
    after.provider = state.1 ∧ after.senders = others ++ [state.2] := by
  induction count generalizing w sender with
  | zero => exact ⟨rfl, h⟩
  | succ count ih =>
      have hn : w.senders[others.length]? = some sender := by
        rw [h, List.getElem?_concat_length]
      have hnext : (w.send others.length sender).senders =
          others ++ [(sender.step w.closed w.provider).2] := by
        show w.senders.set others.length (sender.step w.closed w.provider).2 = _
        rw [h, List.set_append_right _ _ (Nat.le_refl _), Nat.sub_self, List.set_cons_zero]
      have hlater := ih hnext
      dsimp only at hlater ⊢
      rw [List.replicate_succ, Function.iterate_succ_apply, run, List.foldl_cons, step_send hn]
      exact hlater

/-- A message that is sent at one stretch is sent as the provider has it. -/
theorem run_send (hopen : w.closed = false) (root : Int) (message : Message) :
    let after := w.run (.arrive root message :: List.replicate 4 (.send w.senders.length))
    after.provider = (w.provider.send root message).2 ∧
      after.senders = w.senders ++ [.done ⟨root, message, w.provider.behaviourFor message.path⟩
        (w.provider.send root message).1] := by
  have h := run_replicate_send (w := w.step (.arrive root message)) rfl 4
  rw [show (w.step (.arrive root message)).closed = false from hopen] at h
  have hstate := Sender.iterate_step w.provider root message
  dsimp only at h ⊢
  rwa [show (w.step (.arrive root message)).provider = w.provider from rfl, hstate] at h

/-- What the worker leaves of a tree. -/
theorem afterJob_eq (tree : Tree) (job : Job) :
    Standing.afterJob tree job =
      match job.path? tree with
      | some path => tree.hydrate path
      | none => tree := by
  unfold Standing.afterJob Job.path?
  by_cases hsucceeds : job.behaviour.succeeds = true
  · rw [if_pos hsucceeds, if_pos hsucceeds]
    cases htarget : tree.targetOf? job with
    | some path => exact Tree.hydrateTarget_eq htarget
    | none =>
        have hroot : tree.root? job.root = none := Option.map_eq_none_iff.1 htarget
        unfold Provider.hydrateTarget
        rw [hroot]
  · rw [if_neg hsucceeds, if_neg hsucceeds]

theorem work_eq {provider : Provider} {next : Worker} {doings : List Doing}
    (h : w.worker.step w.provider w.tree = (provider, next, doings)) :
    w.work = { w.perform doings with provider, worker := next } := by
  unfold work
  rw [h]

/-- A step by which nothing is done. -/
theorem work_eq_of_nil {provider : Provider} {next : Worker}
    (h : w.worker.step w.provider w.tree = (provider, next, [])) :
    w.work = { w with provider, worker := next } := by
  rw [work_eq h, perform_nil]

/-- Work at one stretch on the job in the worker's hand. -/
theorem run_start {job : Job} (hworker : w.worker = .start job)
    (hhand : w.provider.hand = some job) :
    ∃ count, let after := w.run (List.replicate count .work)
      (after.provider, after.tree, after.arbiter) = w.provider.answer w.tree w.arbiter ∧
        after.worker.job? = none := by
  rw [Provider.answer_of_hand hhand, afterJob_eq]
  cases hpath : job.path? w.tree with
  | some path =>
      have hfirst : w.work = { w with worker := .write job path } := by
        refine work_eq_of_nil ?_
        rw [hworker]
        simp only [Worker.step, hpath]
      have hall : w.run (List.replicate 3 .work) =
          ({ w with worker := .write job path } : Workshop).work.work := by
        show w.work.work.work = _
        rw [hfirst]
      refine ⟨3, ?_⟩
      dsimp only
      rw [hall]
      refine ⟨?_, rfl⟩
      cases hanswer : job.behaviour.answer? with
      | none => simp [work, perform, Worker.step, Doing.apply, Job.answer, hanswer]
      | some kind => simp [work, perform, Worker.step, Doing.apply, Job.answer, hanswer]
  | none =>
      have hfirst : w.work = { w with worker := .reply job } := by
        refine work_eq_of_nil ?_
        rw [hworker]
        simp only [Worker.step, hpath]
      have hall : w.run (List.replicate 2 .work) =
          ({ w with worker := .reply job } : Workshop).work := by
        show w.work.work = _
        rw [hfirst]
      refine ⟨2, ?_⟩
      dsimp only
      rw [hall]
      refine ⟨?_, rfl⟩
      cases hanswer : job.behaviour.answer? with
      | none => simp [work, perform, Worker.step, Job.answer, hanswer]
      | some kind => simp [work, perform, Worker.step, Doing.apply, Job.answer, hanswer]

/-- A worker that works at one stretch takes and answers as the provider has it. -/
theorem run_work (hlook : w.worker = .look) (hhand : w.provider.hand = none) :
    ∃ count, let after := w.run (List.replicate count .work)
      (after.provider, after.tree, after.arbiter) = w.provider.take.answer w.tree w.arbiter ∧
        after.worker.job? = none := by
  have hidle : w.provider.answer w.tree w.arbiter = (w.provider, w.tree, w.arbiter) := by
    unfold Provider.answer
    rw [hhand]
  by_cases hstopped : w.provider.stopped = true
  · have htake : w.provider.take = w.provider := by
      unfold Provider.take
      rw [hstopped]
    have hall : w.run (List.replicate 1 .work) = { w with worker := .gone } := by
      refine work_eq_of_nil ?_
      rw [hlook]
      simp only [Worker.step, hstopped, if_true]
    refine ⟨1, ?_⟩
    rw [htake, hidle, hall]
    exact ⟨rfl, rfl⟩
  · have hfirst : w.work = { w with worker := .pick } := by
      refine work_eq_of_nil ?_
      rw [hlook]
      simp only [Worker.step, if_neg hstopped]
    cases hqueue : w.provider.queue with
    | nil =>
        have htake : w.provider.take = w.provider := by
          unfold Provider.take
          rw [eq_false_of_ne_true hstopped, hhand, hqueue]
        have hall : w.run (List.replicate 2 .work) = { w with worker := .look } := by
          show w.work.work = _
          rw [hfirst]
          refine work_eq_of_nil ?_
          simp only [Worker.step, hqueue]
        refine ⟨2, ?_⟩
        rw [htake, hidle, hall]
        exact ⟨rfl, rfl⟩
    | cons job queue =>
        have htake : w.provider.take = { w.provider with hand := some job, queue } := by
          simp only [Provider.take, eq_false_of_ne_true hstopped, hhand, hqueue]
        have hsecond : w.run (List.replicate 2 .work) =
            { w with provider := w.provider.take, worker := .start job } := by
          show w.work.work = _
          rw [hfirst, htake]
          refine work_eq_of_nil ?_
          simp only [Worker.step, hqueue]
        have hworker : (w.run (List.replicate 2 .work)).worker = .start job := by
          rw [hsecond]
        have htaken : (w.run (List.replicate 2 .work)).provider.hand = some job := by
          rw [hsecond, htake]
        obtain ⟨count, hrest⟩ := run_start hworker htaken
        refine ⟨2 + count, ?_⟩
        dsimp only at hrest ⊢
        rw [List.replicate_add, run_append, hrest.1, hrest.2, hsecond]
        exact ⟨rfl, rfl⟩

end Workshop

end Hydration
