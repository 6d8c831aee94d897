/-
All that a turn at a workshop can do, written out once, and what the books and the lists of the
provider show after any turns.

# The rules

`Sender.Step` has one rule for each kind of step of a sender, and `Worker.Step` for each of the
worker. `Workshop.step_moves` says that there is nothing else: somebody comes, a sender or the
worker takes a step by one of its rules, or the behaviour, the stop or others change what they may
change (`Workshop.Move`).

# The books

A book shows what a sender has done exactly when it has done it, and once (`Booked`). The lists of
the provider are what the books say: the messages sent are those recorded, and the jobs finished, in
the hand and in the queue make up those enqueued, in this order (`Workshop.InLine`).
-/
import Hydration.Proofs.Content.Once
import Hydration.Proofs.Queue.Basic
import Mathlib.Data.List.Induction
import Mathlib.Data.List.Nodup

namespace Hydration

-- ============================================================ the rules of a sender

/-- The steps of a sender at a provider: the sender before, the provider and the sender after. -/
inductive Sender.Step (closed : Bool) (provider : Provider) : Sender → Provider → Sender → Prop where
  | refuse (root : Int) (message : Message) (h : provider.behaviourFor message.path = .reject) :
    Step closed provider (.choose root message) provider
      (.done ⟨root, message, .reject⟩ (.error (.rejected root "provider queue closed")))
  | choose (root : Int) (message : Message) (h : provider.behaviourFor message.path ≠ .reject) :
    Step closed provider (.choose root message) provider
      (.check ⟨root, message, provider.behaviourFor message.path⟩)
  /-- The sender finds that the provider has stopped. -/
  | unconnected (job : Job) (h : provider.stopped = true) :
    Step closed provider (.check job) provider (.done job (.error (.notConnected job.root)))
  | pass (job : Job) (h : provider.stopped = false) :
    Step closed provider (.check job) provider (.record job)
  | record (job : Job) :
    Step closed provider (.record job) { provider with sent := provider.sent ++ [job.message] }
      (.enqueue job)
  /-- The queue is closed. -/
  | wait (job : Job) (h : closed = true) :
    Step closed provider (.enqueue job) provider (.enqueue job)
  | enqueue (job : Job) (h : closed = false) :
    Step closed provider (.enqueue job) { provider with queue := provider.queue ++ [job] }
      (.done job (.ok ()))
  | rest (job : Job) (result : Except SendFault Unit) :
    Step closed provider (.done job result) provider (.done job result)

namespace Sender

variable {closed : Bool} {provider after : Provider} {sender next : Sender}

/-- A sender takes its steps by the rules. -/
theorem step_rules (closed : Bool) (provider : Provider) (sender : Sender) :
    Step closed provider sender (sender.step closed provider).1 (sender.step closed provider).2 := by
  cases sender with
  | choose root message =>
      dsimp only [step]
      by_cases hreject : provider.behaviourFor message.path = .reject
      · rw [if_pos hreject, hreject]
        exact .refuse root message hreject
      · rw [if_neg hreject]
        exact .choose root message hreject
  | check job =>
      dsimp only [step]
      by_cases hstopped : provider.stopped = true
      · rw [if_pos hstopped]
        exact .unconnected job hstopped
      · rw [if_neg hstopped]
        exact .pass job (eq_false_of_ne_true hstopped)
  | record job => exact .record job
  | enqueue job =>
      dsimp only [step]
      by_cases hclosed : closed = true
      · rw [if_pos hclosed]
        exact .wait job hclosed
      · rw [if_neg hclosed]
        exact .enqueue job (eq_false_of_ne_true hclosed)
  | done job result => exact .rest job result

/-- A sender changes nothing of a provider but what was sent and the queue. -/
theorem Step.provider_eq (h : Step closed provider sender after next) :
    ∃ sent queue, after = { provider with sent, queue } := by
  cases h <;> exact ⟨_, _, rfl⟩

theorem Step.recorded?_kept {job : Job} (h : Step closed provider sender after next)
    (hjob : sender.recorded? = some job) : next.recorded? = some job := by
  cases h with
  | wait => exact hjob
  | enqueue => exact hjob
  | rest => exact hjob
  | refuse | choose | unconnected | pass | record => cases hjob

theorem Step.enqueued?_kept {job : Job} (h : Step closed provider sender after next)
    (hjob : sender.enqueued? = some job) : next.enqueued? = some job := by
  cases h with
  | rest => exact hjob
  | refuse | choose | unconnected | pass | record | wait | enqueue => cases hjob

end Sender

-- ============================================================ the rules of the worker

/-- The steps of the worker at a provider and a tree: the worker before, the provider and the worker
after, and what is done. -/
inductive Worker.Step (provider : Provider) (tree : Tree) :
    Worker → Provider → Worker → List Doing → Prop where
  | leave (h : provider.stopped = true) : Step provider tree .look provider .gone []
  | turn (h : provider.stopped = false) : Step provider tree .look provider .pick []
  | miss (h : provider.queue = []) : Step provider tree .pick provider .look []
  | take (job : Job) (queue : List Job) (h : provider.queue = job :: queue) :
    Step provider tree .pick { provider with hand := some job, queue } (.start job) []
  | find (job : Job) (path : String) (h : job.path? tree = some path) :
    Step provider tree (.start job) provider (.write job path) []
  /-- There is nothing to write. -/
  | skip (job : Job) (h : job.path? tree = none) :
    Step provider tree (.start job) provider (.reply job) []
  | write (job : Job) (path : String) :
    Step provider tree (.write job path) provider (.reply job) [.wrote path]
  | reply (job : Job) :
    Step provider tree (.reply job)
      { provider with hand := none, finished := provider.finished ++ [job] } .look job.answer
  | rest : Step provider tree .gone provider .gone []

/-- The worker takes its steps by the rules. -/
theorem Worker.step_rules (provider : Provider) (tree : Tree) (worker : Worker) :
    Step provider tree worker (worker.step provider tree).1 (worker.step provider tree).2.1
      (worker.step provider tree).2.2 := by
  cases worker with
  | look =>
      dsimp only [step]
      by_cases hstopped : provider.stopped = true
      · rw [if_pos hstopped]
        exact .leave hstopped
      · rw [if_neg hstopped]
        exact .turn (eq_false_of_ne_true hstopped)
  | pick =>
      dsimp only [step]
      cases hqueue : provider.queue with
      | nil => exact .miss hqueue
      | cons job queue => exact .take job queue hqueue
  | start job =>
      dsimp only [step]
      cases hpath : job.path? tree with
      | some path => exact .find job path hpath
      | none => exact .skip job hpath
  | write job path => exact .write job path
  | reply job => exact .reply job
  | gone => exact .rest

-- ============================================================ nothing else happens

namespace Workshop

/-- Somebody comes in this turn. -/
def Turn.arrival? : Turn → Option (Int × Message)
  | arrive root message => some (root, message)
  | _ => none

/-- What a turn can do to a workshop. -/
inductive Move (w : Workshop) : Turn → Workshop → Prop where
  | arrive (root : Int) (message : Message) :
    Move w (.arrive root message) { w with senders := w.senders ++ [.choose root message] }
  | send (n : Nat) (sender next : Sender) (provider : Provider) (hn : w.senders[n]? = some sender)
      (hstep : Sender.Step w.closed w.provider sender provider next) :
    Move w (.send n)
      { w with
        provider
        senders := w.senders.set n next
        recorded := enter w.recorded n sender.recorded? next.recorded?
        enqueued := enter w.enqueued n sender.enqueued? next.enqueued? }
  | work (worker next : Worker) (provider : Provider) (doings : List Doing)
      (hworker : w.worker = worker)
      (hstep : Worker.Step w.provider w.tree worker provider next doings) :
    Move w .work { w.perform doings with provider, worker := next }
  /-- Neither the senders nor the worker. -/
  | aside (turn : Turn) (general : Behaviour) (byPath : List (String × Behaviour)) (stopped : Bool)
      (tree : Tree) (arbiter : Arbiter) (harrival : turn.arrival? = none)
      (hstopped : w.provider.stopped = true → stopped = true)
      (hplaces : tree.places = w.tree.places) :
    Move w turn { w with provider := { w.provider with general, byPath, stopped }, tree, arbiter }

variable {w after : Workshop} {turn : Turn}

/-- Every turn is one of these moves. -/
theorem step_moves (w : Workshop) (turn : Turn) : Move w turn (w.step turn) := by
  cases turn with
  | arrive root message => exact .arrive root message
  | send n =>
      cases hn : w.senders[n]? with
      | some sender =>
          rw [step_send hn]
          exact .send n sender _ _ hn (Sender.step_rules w.closed w.provider sender)
      | none =>
          dsimp only [step]
          rw [hn]
          exact .aside _ _ _ _ _ _ rfl id rfl
  | work => exact .work _ _ _ _ rfl (Worker.step_rules w.provider w.tree w.worker)
  | setBehaviour => exact .aside _ _ _ _ _ _ rfl id rfl
  | setBehaviourFor => exact .aside _ _ _ _ _ _ rfl id rfl
  | stop => exact .aside _ _ _ _ _ _ rfl (fun _ => rfl) rfl
  | setProvider => exact .aside _ _ _ _ _ _ rfl id (Tree.places_setProvider ..)
  | outside => exact .aside _ _ _ _ _ _ rfl id rfl

end Workshop

-- ============================================================ the books

/-- A book shows of each sender what it has done, and shows it once. -/
structure Booked (shown : Sender → Option Job) (senders : List Sender) (book : List (Nat × Job)) :
    Prop where
  mem_iff : ∀ n job, (n, job) ∈ book ↔ senders[n]?.bind shown = some job
  nodup : (book.map Prod.fst).Nodup

namespace Booked

variable {shown : Sender → Option Job} {senders : List Sender} {book : List (Nat × Job)}

theorem nil (shown : Sender → Option Job) : Booked shown [] [] :=
  ⟨fun _ _ => iff_of_false List.not_mem_nil nofun, List.nodup_nil⟩

/-- Somebody comes who has done nothing. -/
theorem concat (h : Booked shown senders book) {sender : Sender} (hnone : shown sender = none) :
    Booked shown (senders ++ [sender]) book := by
  refine ⟨fun n job => ?_, h.nodup⟩
  rw [h.mem_iff]
  by_cases hlt : n < senders.length
  · rw [List.getElem?_append_left hlt]
  · have hle : senders.length ≤ n := by omega
    rw [List.getElem?_append_right hle, List.getElem?_eq_none hle]
    by_cases hn : n - senders.length = 0
    · rw [hn]
      show none = some job ↔ shown sender = some job
      rw [hnone]
    · rw [List.getElem?_eq_none (l := [sender]) (by simp only [List.length_singleton]; omega)]

/-- A sender takes a step and takes nothing back; what it has done by that is entered. -/
theorem set (h : Booked shown senders book) {n : Nat} {sender next : Sender}
    (hn : senders[n]? = some sender)
    (hkept : ∀ job, shown sender = some job → shown next = some job) :
    Booked shown (senders.set n next) (Workshop.enter book n (shown sender) (shown next)) := by
  have hothers : ∀ m job, m ≠ n →
      ((senders.set n next)[m]?.bind shown = some job ↔ (m, job) ∈ book) := by
    intro m job hm
    rw [List.getElem?_set_ne (Ne.symm hm), h.mem_iff]
  have hown : (senders.set n next)[n]?.bind shown = shown next := by
    rw [List.getElem?_set_self (List.getElem?_eq_some_iff.1 hn).1]
    rfl
  have hbefore : ∀ job, (n, job) ∈ book ↔ shown sender = some job := by
    intro job
    rw [h.mem_iff, hn]
    rfl
  cases hsender : shown sender with
  | some done =>
      refine ⟨fun m job => ?_, h.nodup⟩
      show (m, job) ∈ book ↔ _
      by_cases hm : m = n
      · subst hm
        rw [hown, hbefore, hsender, hkept done hsender]
      · exact (hothers m job hm).symm
  | none =>
      have hnew : ∀ job, (n, job) ∉ book := by
        intro job hmem
        rw [hbefore, hsender] at hmem
        cases hmem
      cases hnext : shown next with
      | none =>
          refine ⟨fun m job => ?_, h.nodup⟩
          show (m, job) ∈ book ↔ _
          by_cases hm : m = n
          · subst hm
            rw [hown, hnext]
            exact iff_of_false (hnew job) nofun
          · exact (hothers m job hm).symm
      | some done =>
          refine ⟨fun m job => ?_, ?_⟩
          · show (m, job) ∈ book ++ [(n, done)] ↔ _
            rw [List.mem_append, List.mem_singleton]
            by_cases hm : m = n
            · subst hm
              rw [hown, hnext, or_iff_right (hnew job), Prod.mk.injEq, Option.some.injEq]
              exact ⟨fun h => h.2.symm, fun h => ⟨rfl, h.symm⟩⟩
            · rw [hothers m job hm, or_iff_left fun h => hm (congrArg Prod.fst h)]
          · show ((book ++ [(n, done)]).map Prod.fst).Nodup
            rw [List.map_append, List.map_singleton, List.nodup_append_comm]
            refine List.nodup_cons.2 ⟨fun hmem => ?_, h.nodup⟩
            obtain ⟨⟨m, job⟩, hentry, rfl⟩ := List.mem_map.1 hmem
            exact hnew job hentry

end Booked

-- ============================================================ the lists of the provider

namespace Workshop

variable {w after : Workshop} {turn : Turn}

/-- Both books are kept. -/
structure Kept (w : Workshop) : Prop where
  recorded : Booked Sender.recorded? w.senders w.recorded
  enqueued : Booked Sender.enqueued? w.senders w.enqueued

theorem Kept.move (h : w.Kept) (hmove : Move w turn after) : after.Kept := by
  cases hmove with
  | arrive => exact ⟨h.recorded.concat rfl, h.enqueued.concat rfl⟩
  | send n sender next provider hn hstep =>
      exact ⟨h.recorded.set hn fun _ => hstep.recorded?_kept,
        h.enqueued.set hn fun _ => hstep.enqueued?_kept⟩
  | work => exact ⟨h.recorded, h.enqueued⟩
  | aside => exact ⟨h.recorded, h.enqueued⟩

/-- The lists of the provider are what the books say, and the worker has in its hand what the
provider has there. -/
structure InLine (w : Workshop) : Prop where
  sent : w.provider.sent = w.recorded.map (·.2.message)
  order : w.enqueued.map Prod.snd =
    w.provider.finished ++ w.provider.hand.toList ++ w.provider.queue
  hand : w.provider.hand = w.worker.job?
  gone : w.worker = .gone → w.provider.stopped = true

theorem InLine.move (h : w.InLine) (hmove : Move w turn after) : after.InLine := by
  cases hmove with
  | arrive => exact ⟨h.sent, h.order, h.hand, h.gone⟩
  | send n sender next provider hn hstep =>
      cases hstep with
      | record job =>
          refine ⟨?_, h.order, h.hand, h.gone⟩
          show w.provider.sent ++ [job.message] = (w.recorded ++ [(n, job)]).map (·.2.message)
          rw [h.sent, List.map_append]
          rfl
      | enqueue job =>
          refine ⟨h.sent, ?_, h.hand, h.gone⟩
          show (w.enqueued ++ [(n, job)]).map Prod.snd = _ ++ (w.provider.queue ++ [job])
          rw [List.map_append, h.order, List.append_assoc]
          rfl
      | refuse | choose | unconnected | pass | wait => exact ⟨h.sent, h.order, h.hand, h.gone⟩
      | rest job result => cases result <;> exact ⟨h.sent, h.order, h.hand, h.gone⟩
  | work worker next provider doings hworker hstep =>
      have hhand := h.hand
      rw [hworker] at hhand
      have horder := h.order
      rw [hhand] at horder
      cases hstep with
      | leave hstopped => exact ⟨h.sent, h.order, hhand, fun _ => hstopped⟩
      | turn => exact ⟨h.sent, h.order, hhand, nofun⟩
      | miss => exact ⟨h.sent, h.order, hhand, nofun⟩
      | take job queue hqueue =>
          refine ⟨h.sent, ?_, rfl, nofun⟩
          rw [hqueue] at horder
          show w.enqueued.map Prod.snd = w.provider.finished ++ [job] ++ queue
          rw [horder, List.append_assoc, List.append_assoc]
          rfl
      | find => exact ⟨h.sent, h.order, hhand, nofun⟩
      | skip => exact ⟨h.sent, h.order, hhand, nofun⟩
      | write => exact ⟨h.sent, h.order, hhand, nofun⟩
      | reply job =>
          refine ⟨h.sent, ?_, rfl, nofun⟩
          show w.enqueued.map Prod.snd = w.provider.finished ++ [job] ++ [] ++ w.provider.queue
          rw [horder, List.append_nil]
          rfl
      | rest => exact ⟨h.sent, h.order, hhand, fun _ => h.gone hworker⟩
  | aside _ _ _ stopped _ _ _ hstopped =>
      exact ⟨h.sent, h.order, h.hand, fun hgone => hstopped (h.gone hgone)⟩

end Workshop

end Hydration
