/-
Work at a provider is neither lost nor done twice, and it goes where it was sent, whoever moves
when.

# What is kept

Five things hold of a new workshop and are kept by every move (`Workshop.Invariant`): the books, the
lists of the provider, what a sender knows, where its job comes from, and what the worker has done
for which job. Nothing that was there is ever taken back (`Workshop.Since`), and a worker that has
left does not come back (`Workshop.Idle`).

# What follows

`Workshop.Conserved` is the whole: every job that was accepted is in exactly one place, in the order
in which the jobs were put into the queue; what was done and answered is what the finished jobs ask
for, each in its turn and with the behaviour that it had got when it was sent; the paths that were
written have lost their marks and no others; whoever was refused has left no trace; and once the
worker has seen that the provider has stopped, it does nothing more.
-/
import Hydration.Proofs.Queue.Course

namespace Hydration

namespace Workshop

variable {w after : Workshop} {turn : Turn} {tree : Tree} {arbiter : Arbiter} {turns : List Turn}

-- ============================================================ nothing is taken back

/-- What was there is still there: the books and the lists have only become longer, and whoever had
made a job of a message or was through with it has kept to that. -/
structure Since (w after : Workshop) : Prop where
  recorded : w.recorded <+: after.recorded
  enqueued : w.enqueued <+: after.enqueued
  finished : w.provider.finished <+: after.provider.finished
  doings : w.doings <+: after.doings
  jobs : ∀ (n : Nat) (sender : Sender) (job : Job), w.senders[n]? = some sender →
    sender.job? = some job → ∃ next, after.senders[n]? = some next ∧ next.job? = some job
  results : ∀ (n : Nat) (job : Job) (result : Except SendFault Unit),
    w.senders[n]? = some (.done job result) → after.senders[n]? = some (.done job result)

theorem Since.refl (w : Workshop) : Since w w :=
  ⟨List.prefix_rfl, List.prefix_rfl, List.prefix_rfl, List.prefix_rfl,
    fun _ sender _ hn hjob => ⟨sender, hn, hjob⟩, fun _ _ _ hn => hn⟩

theorem Since.trans {last : Workshop} (h : Since w after) (h' : Since after last) : Since w last := by
  refine ⟨h.recorded.trans h'.recorded, h.enqueued.trans h'.enqueued, h.finished.trans h'.finished,
    h.doings.trans h'.doings, fun n sender job hn hjob => ?_, fun n job result hn => ?_⟩
  · obtain ⟨next, hnext, hnextJob⟩ := h.jobs n sender job hn hjob
    exact h'.jobs n next job hnext hnextJob
  · exact h'.results n job result (h.results n job result hn)

theorem prefix_enter (book : List (Nat × Job)) (n : Nat) (before after : Option Job) :
    book <+: enter book n before after := by
  unfold enter
  split
  · exact List.prefix_append _ _
  · exact List.prefix_rfl

theorem Since.of_move (hmove : Move w turn after) : Since w after := by
  cases hmove with
  | arrive =>
      have hkept : ∀ {n : Nat} {sender found : Sender}, w.senders[n]? = some found →
          (w.senders ++ [sender])[n]? = some found := by
        intro n sender found hn
        rw [List.getElem?_append_left (List.getElem?_eq_some_iff.1 hn).1]
        exact hn
      exact ⟨List.prefix_rfl, List.prefix_rfl, List.prefix_rfl, List.prefix_rfl,
        fun _ sender _ hn hjob => ⟨sender, hkept hn, hjob⟩, fun _ _ _ hn => hkept hn⟩
  | send n sender next provider hn hstep =>
      have hown : (w.senders.set n next)[n]? = some next :=
        List.getElem?_set_self (List.getElem?_eq_some_iff.1 hn).1
      have hstill : ∀ {m : Nat} {found : Sender}, w.senders[m]? = some found →
          (m = n ∧ found = sender) ∨ (w.senders.set n next)[m]? = some found := by
        intro m found hm
        by_cases hmn : m = n
        · subst hmn
          rw [hn] at hm
          exact .inl ⟨rfl, (Option.some.inj hm).symm⟩
        · exact .inr ((List.getElem?_set_ne (Ne.symm hmn)).trans hm)
      have hfinished : provider.finished = w.provider.finished := by
        obtain ⟨sent, queue, rfl⟩ := hstep.provider_eq
        rfl
      refine ⟨prefix_enter .., prefix_enter .., hfinished ▸ List.prefix_rfl, List.prefix_rfl, ?_, ?_⟩
      · intro m found job hm hjob
        rcases hstill hm with ⟨rfl, rfl⟩ | hstays
        · exact ⟨next, hown, hstep.job?_kept hjob⟩
        · exact ⟨found, hstays, hjob⟩
      · intro m job result hm
        rcases hstill hm with ⟨rfl, rfl⟩ | hstays
        · cases hstep
          exact hown
        · exact hstays
  | work worker next provider doings hworker hstep =>
      have hfinished : w.provider.finished <+: provider.finished := by
        cases hstep with
        | reply => exact List.prefix_append _ _
        | leave | turn | miss | take | find | skip | write | rest => exact List.prefix_rfl
      exact ⟨List.prefix_rfl, List.prefix_rfl, hfinished, List.prefix_append _ _,
        fun _ sender _ hn hjob => ⟨sender, hn, hjob⟩, fun _ _ _ hn => hn⟩
  | aside =>
      exact ⟨List.prefix_rfl, List.prefix_rfl, List.prefix_rfl, List.prefix_rfl,
        fun _ sender _ hn hjob => ⟨sender, hn, hjob⟩, fun _ _ _ hn => hn⟩

theorem Since.run (w : Workshop) (turns : List Turn) : Since w (w.run turns) := by
  induction turns generalizing w with
  | nil => exact .refl w
  | cons turn rest ih => exact (Since.of_move (w.step_moves turn)).trans (ih (w.step turn))

/-- A worker that has left does nothing more, and does not come back. -/
structure Idle (w after : Workshop) : Prop where
  worker : after.worker = .gone
  doings : after.doings = w.doings
  finished : after.provider.finished = w.provider.finished
  hand : after.provider.hand = w.provider.hand

theorem Idle.of_move (hgone : w.worker = .gone) (hmove : Move w turn after) : Idle w after := by
  cases hmove with
  | arrive => exact ⟨hgone, rfl, rfl, rfl⟩
  | send n sender next provider hn hstep =>
      obtain ⟨sent, queue, rfl⟩ := hstep.provider_eq
      exact ⟨hgone, rfl, rfl, rfl⟩
  | work worker next provider doings hworker hstep =>
      rw [hgone] at hworker
      subst hworker
      cases hstep
      exact ⟨rfl, List.append_nil _, rfl, rfl⟩
  | aside => exact ⟨hgone, rfl, rfl, rfl⟩

theorem Idle.run (hgone : w.worker = .gone) (turns : List Turn) : Idle w (w.run turns) := by
  induction turns generalizing w with
  | nil => exact ⟨hgone, rfl, rfl, rfl⟩
  | cons turn rest ih =>
      have hfirst := Idle.of_move hgone (w.step_moves turn)
      have hrest := ih hfirst.worker
      exact ⟨hrest.worker, hrest.doings.trans hfirst.doings, hrest.finished.trans hfirst.finished,
        hrest.hand.trans hfirst.hand⟩

-- ============================================================ any turns

/-- Everything that the moves keep. -/
structure Invariant (tree : Tree) (arbiter : Arbiter) (turns : List Turn) (w : Workshop) : Prop where
  kept : w.Kept
  inLine : w.InLine
  onCourse : OnCourse tree w
  sound : w.Sound
  traced : Traced tree arbiter turns w

theorem invariant_start (tree : Tree) (arbiter : Arbiter) :
    Invariant tree arbiter [] (start tree arbiter) where
  kept := ⟨.nil Sender.recorded?, .nil Sender.enqueued?⟩
  inLine := ⟨rfl, rfl, rfl, nofun⟩
  onCourse := ⟨rfl, rfl, True.intro⟩
  sound := fun _ _ hn => nomatch hn
  traced := ⟨rfl, fun _ _ _ hn => nomatch hn⟩

theorem invariant (tree : Tree) (arbiter : Arbiter) (turns : List Turn) :
    Invariant tree arbiter turns ((start tree arbiter).run turns) := by
  induction turns using List.reverseRecOn with
  | nil => exact invariant_start tree arbiter
  | append_singleton turns turn ih =>
      rw [run_concat]
      have hmove := ((start tree arbiter).run turns).step_moves turn
      exact ⟨ih.kept.move hmove, ih.inLine.move hmove, ih.onCourse.move hmove, ih.sound.move hmove,
        ih.traced.move hmove⟩

/-- Where the jobs are, each with the number of its sender. -/
structure Places (w : Workshop) (through held waiting : List (Nat × Job)) : Prop where
  finished : through.map Prod.snd = w.provider.finished
  hand : held.map Prod.snd = w.provider.hand.toList
  queue : waiting.map Prod.snd = w.provider.queue
  /-- They were put into the queue in this order. -/
  order : through ++ held ++ waiting = w.enqueued
  /-- A job that was accepted is in one place, and once. -/
  once : ∀ n job, w.senders[n]? = some (.done job (.ok ())) →
    through.count (n, job) + held.count (n, job) + waiting.count (n, job) = 1
  /-- Nothing else is anywhere. -/
  nothingElse : ∀ n job, (n, job) ∈ through ++ held ++ waiting →
    w.senders[n]? = some (.done job (.ok ()))

theorem exists_places (hkept : w.Kept) (hline : w.InLine) :
    ∃ through held waiting, Places w through held waiting := by
  obtain ⟨front, waiting, hentries, hfront, hqueue⟩ := List.map_eq_append_iff.1 hline.order
  obtain ⟨through, held, rfl, hfinished, hhand⟩ := List.map_eq_append_iff.1 hfront
  have haccepted : ∀ n job, (n, job) ∈ through ++ held ++ waiting ↔
      w.senders[n]? = some (.done job (.ok ())) := by
    intro n job
    rw [← hentries, hkept.enqueued.mem_iff, Option.bind_eq_some_iff]
    constructor
    · intro h
      obtain ⟨sender, hn, hsender⟩ := h
      rw [hn]
      unfold Sender.enqueued? at hsender
      split at hsender
      · cases hsender
        rfl
      · cases hsender
    · intro hn
      exact ⟨_, hn, rfl⟩
  have hnodup : (through ++ held ++ waiting).Nodup := by
    rw [← hentries]
    exact hkept.enqueued.nodup.of_map Prod.fst
  refine ⟨through, held, waiting, hfinished, hhand, hqueue, hentries.symm, fun n job hn => ?_,
    fun n job => (haccepted n job).1⟩
  rw [← List.count_append, ← List.count_append]
  exact List.count_eq_one_of_mem hnodup ((haccepted n job).2 hn)

/-- Whoever is refused has done nothing that is in a book. -/
theorem Kept.refused (h : w.Kept) {n : Nat} {job : Job} {fault : SendFault}
    (hn : w.senders[n]? = some (.done job (.error fault))) (other : Job) :
    (n, other) ∉ w.recorded ∧ (n, other) ∉ w.enqueued := by
  rw [h.recorded.mem_iff, h.enqueued.mem_iff, hn]
  exact ⟨nofun, nofun⟩

-- ============================================================ what single turns do

/-- Nothing has changed but one of the senders. -/
def withSender (w : Workshop) (n : Nat) (sender : Sender) : Workshop :=
  { w with senders := w.senders.set n sender }

/-- A refusal changes nothing but the sender. -/
theorem step_send_rejected {n : Nat} {root : Int} {message : Message}
    (hn : w.senders[n]? = some (.choose root message))
    (hreject : w.provider.behaviourFor message.path = .reject) :
    w.step (.send n) =
      w.withSender n
        (.done ⟨root, message, .reject⟩ (.error (.rejected root "provider queue closed"))) := by
  rw [step_send hn]
  unfold send Sender.step
  simp only [hreject, if_true]
  rfl

theorem step_send_unconnected {n : Nat} {job : Job} (hn : w.senders[n]? = some (.check job))
    (hstopped : w.provider.stopped = true) :
    w.step (.send n) = w.withSender n (.done job (.error (.notConnected job.root))) := by
  rw [step_send hn]
  unfold send Sender.step
  simp only [hstopped, if_true]
  rfl

theorem step_work_stopped (hlook : w.worker = .look) (hstopped : w.provider.stopped = true) :
    w.step .work = { w with worker := .gone } := by
  refine work_eq_of_nil ?_
  rw [hlook]
  simp only [Worker.step, hstopped, if_true]

/-- Others use the tree or the arbiter. -/
def Turn.isOutside : Turn → Bool
  | setProvider _ _ | outside _ _ => true
  | _ => false

/-- The worker has done something, and nothing else has happened to the tree and the arbiter. -/
structure Does (w after : Workshop) (doings : List Doing) : Prop where
  told : after.doings = w.doings ++ doings
  state : (after.tree, after.arbiter) = doings.foldl Doing.apply (w.tree, w.arbiter)

theorem Does.nil (htree : after.tree = w.tree) (harbiter : after.arbiter = w.arbiter)
    (hdoings : after.doings = w.doings) : Does w after [] :=
  ⟨hdoings.trans (List.append_nil _).symm, Prod.ext htree harbiter⟩

theorem Does.append {last : Workshop} {first later : List Doing} (h : Does w after first)
    (h' : Does after last later) : Does w last (first ++ later) := by
  refine ⟨?_, ?_⟩
  · rw [h'.told, h.told, List.append_assoc]
  · rw [List.foldl_append, ← h.state, h'.state]

/-- Nobody but the worker does anything. -/
theorem exists_does (w : Workshop) (hinside : turn.isOutside = false) :
    ∃ doings, Does w (w.step turn) doings ∧ (turn ≠ .work → doings = []) := by
  cases turn with
  | arrive | setBehaviour | setBehaviourFor | stop =>
      exact ⟨[], .nil rfl rfl rfl, fun _ => rfl⟩
  | send n =>
      refine ⟨[], ?_, fun _ => rfl⟩
      dsimp only [step]
      cases w.senders[n]? <;> exact .nil rfl rfl rfl
  | work => exact ⟨_, ⟨rfl, rfl⟩, absurd rfl⟩
  | setProvider | outside => cases hinside

theorem exists_does_run (w : Workshop) (turns : List Turn)
    (hinside : ∀ turn ∈ turns, turn.isOutside = false) : ∃ doings, Does w (w.run turns) doings := by
  induction turns generalizing w with
  | nil => exact ⟨[], .nil rfl rfl rfl⟩
  | cons turn rest ih =>
      obtain ⟨first, hfirst, -⟩ := exists_does w (hinside turn (List.mem_cons_self ..))
      obtain ⟨later, hlater⟩ :=
        ih (w.step turn) fun other hother => hinside other (List.mem_cons_of_mem _ hother)
      exact ⟨first ++ later, hfirst.append hlater⟩

/-- When nobody else uses the tree and the arbiter, all that has happened to them is what was done. -/
theorem does_run (hinside : ∀ turn ∈ turns, turn.isOutside = false) :
    Does (start tree arbiter) ((start tree arbiter).run turns)
      ((start tree arbiter).run turns).doings := by
  obtain ⟨doings, hdoes⟩ := exists_does_run (start tree arbiter) turns hinside
  have htold : ((start tree arbiter).run turns).doings = doings := hdoes.told
  rw [htold]
  exact hdoes

/-- Each step of the worker takes the mark from the path that it writes, if it writes one. -/
theorem flagsAt_step_work (w : Workshop) (path : String) :
    (w.step .work).tree.flagsAt path =
      if w.worker.writes? = some path then (w.tree.flagsAt path).hydrated
      else w.tree.flagsAt path := by
  have hrules := Worker.step_rules w.provider w.tree w.worker
  refine (Doing.flagsAt_foldl_apply _ (w.tree, w.arbiter) path).trans ?_
  exact if_congr (hrules.wrote_mem_iff path) rfl rfl

theorem Does.flagsAt {doings : List Doing} (h : Does w after doings) (path : String) :
    after.tree.flagsAt path =
      if .wrote path ∈ doings then (w.tree.flagsAt path).hydrated else w.tree.flagsAt path := by
  have htree : after.tree = (doings.foldl Doing.apply (w.tree, w.arbiter)).1 :=
    congrArg Prod.fst h.state
  rw [htree, Doing.flagsAt_foldl_apply]

-- ============================================================ the whole

/-- What holds of a workshop after any turns. -/
structure Conserved (tree : Tree) (arbiter : Arbiter) (turns : List Turn) (w : Workshop) : Prop where
  /-- Every job that was accepted is in exactly one place, in the order of the queue. -/
  places : ∃ through held waiting, Places w through held waiting
  /-- The messages sent are those that senders have put there. -/
  sent : w.provider.sent = w.recorded.map (·.2.message)
  /-- Nothing of it is taken back, whatever comes later. -/
  since : ∀ later, Since w (w.run later)
  /-- Every sender has the root and the message that it came with. -/
  requests : w.senders.map Sender.request = arrivals turns
  /-- And its job has the behaviour that was set when it was sent. -/
  chosen : ∀ n sender job, w.senders[n]? = some sender → sender.job? = some job →
    Chosen tree arbiter turns n job
  /-- All that was done was done for the finished jobs, in their order, and for the one in hand. -/
  doings : w.doings = w.provider.finished.flatMap (Job.doings tree) ++ w.worker.begun tree
  /-- A finished job has got the answer that its behaviour has for its own request, or none. -/
  answers : w.doings.filterMap Doing.answer? =
    w.provider.finished.filterMap fun job => job.behaviour.answer?.map (job.message.id, ·)
  /-- What the worker does changes the tree and the arbiter, and nothing else does, unless others
  use them. -/
  effects : ∀ turn, turn.isOutside = false →
    ∃ doings, Does w (w.step turn) doings ∧ (turn ≠ .work → doings = [])
  /-- The path that the worker is about to write is that of its job. -/
  finds : w.worker.Finds tree
  /-- Writing takes the mark from that path and from no other, and no other step takes one. -/
  marks : ∀ path, (w.step .work).tree.flagsAt path =
    if w.worker.writes? = some path then (w.tree.flagsAt path).hydrated else w.tree.flagsAt path
  /-- When nobody else has used them, all that was done has made them what they are. -/
  alone : (∀ turn ∈ turns, turn.isOutside = false) →
    (w.tree, w.arbiter) = w.doings.foldl Doing.apply (tree, arbiter)
  /-- The paths that were written have then lost their marks, and no others. -/
  unmarked : (∀ turn ∈ turns, turn.isOutside = false) → ∀ path, w.tree.flagsAt path =
    if .wrote path ∈ w.doings then (tree.flagsAt path).hydrated else tree.flagsAt path
  /-- Who goes on is not to be refused, and who was refused knows why. -/
  sound : w.Sound
  rejects : ∀ n root message, w.senders[n]? = some (.choose root message) →
    w.provider.behaviourFor message.path = .reject →
    w.step (.send n) =
      w.withSender n
        (.done ⟨root, message, .reject⟩ (.error (.rejected root "provider queue closed")))
  unconnected : ∀ n job, w.senders[n]? = some (.check job) → w.provider.stopped = true →
    w.step (.send n) = w.withSender n (.done job (.error (.notConnected job.root)))
  /-- A message that was refused is neither with those sent nor in the queue, nor was it ever. -/
  refused : ∀ n job fault, w.senders[n]? = some (.done job (.error fault)) →
    ∀ other, (n, other) ∉ w.recorded ∧ (n, other) ∉ w.enqueued
  /-- The worker that sees the stop is gone. -/
  leaves : w.worker = .look → w.provider.stopped = true → w.step .work = { w with worker := .gone }
  /-- It has then nothing in its hand, and nothing more is done. -/
  gone : w.worker = .gone →
    w.provider.stopped = true ∧ w.provider.hand = none ∧ ∀ later, Idle w (w.run later)
  /-- At one stretch, the steps of a sender and those of the worker are those of the provider. -/
  sends : w.closed = false → ∀ root message,
    let after := w.run (.arrive root message :: List.replicate 4 (.send w.senders.length))
    after.provider = (w.provider.send root message).2 ∧
      after.senders = w.senders ++ [.done ⟨root, message, w.provider.behaviourFor message.path⟩
        (w.provider.send root message).1]
  works : w.worker = .look → ∃ count, let after := w.run (List.replicate count .work)
    (after.provider, after.tree, after.arbiter) = w.provider.take.answer w.tree w.arbiter ∧
      after.worker.job? = none

/-- Whoever moves when, work is neither lost nor done twice nor done elsewhere. -/
theorem conserved (tree : Tree) (arbiter : Arbiter) (turns : List Turn) :
    Conserved tree arbiter turns ((start tree arbiter).run turns) := by
  have h := invariant tree arbiter turns
  exact {
    places := exists_places h.kept h.inLine
    sent := h.inLine.sent
    since := Since.run _
    requests := h.traced.requests
    chosen := h.traced.chosen
    doings := h.onCourse.doings
    answers := h.onCourse.answers
    effects := fun turn => exists_does _
    finds := h.onCourse.finds
    marks := flagsAt_step_work _
    alone := fun hinside => (does_run hinside).state
    unmarked := fun hinside => (does_run hinside).flagsAt
    sound := h.sound
    rejects := fun n root message => step_send_rejected
    unconnected := fun n job => step_send_unconnected
    refused := fun n job fault => h.kept.refused
    leaves := step_work_stopped
    gone := by
      intro hgone
      refine ⟨h.inLine.gone hgone, ?_, Idle.run hgone⟩
      rw [h.inLine.hand, hgone]
      rfl
    sends := run_send
    works := by
      intro hlook
      refine run_work hlook ?_
      rw [h.inLine.hand, hlook]
      rfl }

/-- Of two who send at the same time, the one whose message is sent first can be the one whose job
is queued last. -/
example (tree : Tree) (arbiter : Arbiter) (a b : Message) :
    let w := (start tree arbiter).run [.arrive 0 a, .arrive 0 b, .send 0, .send 0, .send 1, .send 1,
      .send 0, .send 1, .send 1, .send 0]
    w.provider.sent = [a, b] ∧ w.provider.queue.map Job.message = [b, a] := by
  constructor <;> cbv

end Workshop

end Hydration
