/-
Whose a job is and what is done for it, whoever moves when.

# Senders

A job is made of the message that its sender came with, and has the behaviour that was set for the
path when the sender looked it up (`Workshop.Traced`). From then on the sender keeps it. A sender
that goes on has a message that is not to be refused, and one that fails does so for one of two
reasons (`Sender.Sound`).

# The worker

What the worker has done is what is to be done for the jobs it has finished, one after the other,
and what it has begun for the one in its hand (`Workshop.OnCourse`). Nobody else answers for the
provider, so that the answers are those of the finished jobs (`Workshop.OnCourse.answers`).
-/
import Hydration.Proofs.Queue.Steps

namespace Hydration

-- ============================================================ what is done for a job

/-- The request that a doing answers, and how. -/
def Doing.answer? : Doing → Option (UInt64 × MessageKind)
  | wrote _ => none
  | answered id kind => some (id, kind)

theorem Job.path?_congr {tree other : Tree} (h : other.places = tree.places) (job : Job) :
    job.path? other = job.path? tree := by
  unfold path?
  rw [Tree.targetOf?_congr h]

/-- Writing comes first, then the answer. -/
theorem Job.doings_eq (tree : Tree) (job : Job) :
    job.doings tree = (job.path? tree).toList.map .wrote ++ job.answer := by
  unfold doings path? answer
  cases job.behaviour <;> rfl

theorem Doing.filterMap_wrote (paths : List String) :
    (paths.map wrote).filterMap answer? = [] := by
  rw [List.filterMap_map]
  exact List.filterMap_eq_nil_iff.2 fun _ _ => rfl

/-- A job is answered as its behaviour has it, and once at most. -/
theorem Job.filterMap_doings (tree : Tree) (job : Job) :
    (job.doings tree).filterMap Doing.answer? =
      (job.behaviour.answer?.map (job.message.id, ·)).toList := by
  rw [doings_eq, List.filterMap_append, Doing.filterMap_wrote]
  unfold answer
  cases job.behaviour.answer? <;> rfl

/-- Neither writing nor answering moves a root. -/
theorem Doing.places_foldl_apply (doings : List Doing) (state : Tree × Arbiter) :
    (doings.foldl Doing.apply state).1.places = state.1.places := by
  induction doings generalizing state with
  | nil => rfl
  | cons doing rest ih =>
      rw [List.foldl_cons, ih]
      cases doing <;> rfl

/-- Writing takes the mark from a path, and nothing else does. -/
theorem Doing.flagsAt_foldl_apply (doings : List Doing) (state : Tree × Arbiter) (path : String) :
    (doings.foldl Doing.apply state).1.flagsAt path =
      if .wrote path ∈ doings then (state.1.flagsAt path).hydrated else state.1.flagsAt path := by
  induction doings generalizing state with
  | nil => exact (if_neg List.not_mem_nil).symm
  | cons doing rest ih =>
      rw [List.foldl_cons, ih]
      cases doing with
      | answered id kind => simp [apply]
      | wrote other =>
          show (if _ then ((state.1.hydrate other).flagsAt path).hydrated
            else (state.1.hydrate other).flagsAt path) = _
          rw [Tree.flagsAt_hydrate]
          by_cases hpath : path = other
          · simp [hpath]
          · simp [hpath]

/-- What the worker has done for the job in its hand. -/
def Worker.begun (tree : Tree) : Worker → List Doing
  | reply job => (job.path? tree).toList.map .wrote
  | look | pick | start _ | write _ _ | gone => []

/-- The worker writes the path of its job. -/
def Worker.Finds (tree : Tree) : Worker → Prop
  | write job path => job.path? tree = some path
  | look | pick | start _ | reply _ | gone => True

/-- The path that the worker writes with its next step. -/
def Worker.writes? : Worker → Option String
  | write _ path => some path
  | look | pick | start _ | reply _ | gone => none

theorem Job.wrote_not_mem_answer (job : Job) (path : String) : .wrote path ∉ job.answer := by
  unfold answer
  simp

theorem Worker.Step.wrote_mem_iff {provider next : Provider} {tree : Tree} {worker after : Worker}
    {doings : List Doing} (h : Step provider tree worker next after doings) (path : String) :
    .wrote path ∈ doings ↔ worker.writes? = some path := by
  cases h with
  | write job other => simp [writes?, eq_comm]
  | reply job => exact iff_of_false (job.wrote_not_mem_answer path) nofun
  | leave | turn | miss | take | find | skip | rest => exact iff_of_false List.not_mem_nil nofun

-- ============================================================ senders and their jobs

namespace Sender

/-- The root and the message of a sender. -/
def request : Sender → Int × Message
  | choose root message => (root, message)
  | check job | record job | enqueue job | done job _ => (job.root, job.message)

/-- A sender goes on only with a message that is not to be refused, and it fails for one of two
reasons. -/
def Sound (stopped : Bool) : Sender → Prop
  | choose _ _ => True
  | check job | record job | enqueue job | done job (.ok _) => job.behaviour ≠ .reject
  | done job (.error fault) =>
    (job.behaviour = .reject ∧ fault = .rejected job.root "provider queue closed") ∨
      (job.behaviour ≠ .reject ∧ stopped = true ∧ fault = .notConnected job.root)

variable {closed : Bool} {provider after : Provider} {sender next : Sender}

theorem Step.request_eq (h : Step closed provider sender after next) :
    next.request = sender.request := by
  cases h <;> rfl

theorem Step.job?_kept {job : Job} (h : Step closed provider sender after next)
    (hjob : sender.job? = some job) : next.job? = some job := by
  cases h with
  | refuse | choose => cases hjob
  | unconnected | pass | record | wait | enqueue | rest => exact hjob

/-- A job is made from the message, with the behaviour that the provider has for it then. -/
theorem Step.of_job? {job : Job} (h : Step closed provider sender after next)
    (hjob : next.job? = some job) :
    sender.job? = some job ∨
      (sender = .choose job.root job.message ∧
        job.behaviour = provider.behaviourFor job.message.path) := by
  cases h with
  | refuse root message hreject =>
      obtain rfl := Option.some.inj hjob
      exact .inr ⟨rfl, hreject.symm⟩
  | choose root message =>
      obtain rfl := Option.some.inj hjob
      exact .inr ⟨rfl, rfl⟩
  | unconnected | pass | record | wait | enqueue | rest => exact .inl hjob

theorem Step.sound (h : Step closed provider sender after next)
    (hsound : sender.Sound provider.stopped) : next.Sound provider.stopped := by
  cases h with
  | refuse => exact .inl ⟨rfl, rfl⟩
  | choose _ _ hreject => exact hreject
  | unconnected job hstopped => exact .inr ⟨hsound, hstopped, rfl⟩
  | pass | record | wait | enqueue | rest => exact hsound

/-- A provider that has stopped explains no less than one that has not. -/
theorem Sound.mono {before after : Bool} (hstopped : before = true → after = true)
    (h : sender.Sound before) : sender.Sound after := by
  cases sender with
  | choose | check | record | enqueue => exact h
  | done job result =>
      cases result with
      | ok => exact h
      | error =>
          rcases h with hreject | ⟨hreject, hbefore, hfault⟩
          · exact .inl hreject
          · exact .inr ⟨hreject, hstopped hbefore, hfault⟩

end Sender

namespace Workshop

/-- Who has come, in order. -/
def arrivals (turns : List Turn) : List (Int × Message) := turns.filterMap Turn.arrival?

variable {w after : Workshop} {turn : Turn} {tree : Tree} {arbiter : Arbiter} {turns : List Turn}

/-- The number of a sender that takes a step is that of the one after it, and the others stay. -/
theorem getElem?_senders_set {n m : Nat} {sender next found : Sender}
    (hn : w.senders[n]? = some sender) (hfound : (w.senders.set n next)[m]? = some found) :
    (m = n ∧ found = next) ∨ w.senders[m]? = some found := by
  by_cases hm : m = n
  · subst hm
    rw [List.getElem?_set_self (List.getElem?_eq_some_iff.1 hn).1] at hfound
    exact .inl ⟨rfl, (Option.some.inj hfound).symm⟩
  · rw [List.getElem?_set_ne (Ne.symm hm)] at hfound
    exact .inr hfound

/-- Whoever is found after somebody has come was there, or is the one who has come. -/
theorem getElem?_senders_concat {n : Nat} {sender found : Sender}
    (hfound : (w.senders ++ [sender])[n]? = some found) :
    w.senders[n]? = some found ∨ found = sender := by
  by_cases hn : n < w.senders.length
  · rw [List.getElem?_append_left hn] at hfound
    exact .inl hfound
  · rw [List.getElem?_append_right (by omega)] at hfound
    exact .inr (List.mem_singleton.1 (List.mem_of_getElem? hfound))

/-- Every sender is as it can be. -/
def Sound (w : Workshop) : Prop :=
  ∀ (n : Nat) (sender : Sender), w.senders[n]? = some sender → sender.Sound w.provider.stopped

theorem Sound.move (h : w.Sound) (hmove : Move w turn after) : after.Sound := by
  intro m found hfound
  cases hmove with
  | arrive root message =>
      rcases getElem?_senders_concat hfound with hbefore | rfl
      · exact h m found hbefore
      · exact True.intro
  | send n sender next provider hn hstep =>
      have hstopped : provider.stopped = w.provider.stopped := by
        obtain ⟨sent, queue, rfl⟩ := hstep.provider_eq
        rfl
      show found.Sound provider.stopped
      rw [hstopped]
      rcases getElem?_senders_set hn hfound with ⟨rfl, rfl⟩ | hbefore
      · exact hstep.sound (h m sender hn)
      · exact h m found hbefore
  | work worker next provider doings hworker hstep =>
      have hstopped : provider.stopped = w.provider.stopped := by
        cases hstep <;> rfl
      show found.Sound provider.stopped
      rw [hstopped]
      exact h m found hfound
  | aside _ _ _ stopped _ _ _ hstopped => exact (h m found hfound).mono hstopped

/-- The job is that of a sender's message, with the behaviour that the provider had for it when the
sender looked it up. -/
def Chosen (tree : Tree) (arbiter : Arbiter) (turns : List Turn) (n : Nat) (job : Job) : Prop :=
  ∃ before rest, turns = before ++ .send n :: rest ∧
    ((start tree arbiter).run before).senders[n]? = some (.choose job.root job.message) ∧
    job.behaviour = ((start tree arbiter).run before).provider.behaviourFor job.message.path

theorem Chosen.concat {n : Nat} {job : Job} (h : Chosen tree arbiter turns n job) (turn : Turn) :
    Chosen tree arbiter (turns ++ [turn]) n job := by
  obtain ⟨before, rest, rfl, hsender, hbehaviour⟩ := h
  refine ⟨before, rest ++ [turn], ?_, hsender, hbehaviour⟩
  rw [List.append_assoc, List.cons_append]

/-- Everybody who has come has the message that they came with, and their jobs are of their
choosing. -/
structure Traced (tree : Tree) (arbiter : Arbiter) (turns : List Turn) (w : Workshop) : Prop where
  requests : w.senders.map Sender.request = arrivals turns
  chosen : ∀ n sender job, w.senders[n]? = some sender → sender.job? = some job →
    Chosen tree arbiter turns n job

theorem Traced.move (h : Traced tree arbiter turns ((start tree arbiter).run turns))
    (hmove : Move ((start tree arbiter).run turns) turn after) :
    Traced tree arbiter (turns ++ [turn]) after := by
  have harrivals : arrivals (turns ++ [turn]) = arrivals turns ++ turn.arrival?.toList := by
    unfold arrivals
    rw [List.filterMap_append]
    cases harrival : turn.arrival? <;> simp [harrival]
  have hchosen : ∀ n sender job, ((start tree arbiter).run turns).senders[n]? = some sender →
      sender.job? = some job → Chosen tree arbiter (turns ++ [turn]) n job :=
    fun n sender job hn hjob => (h.chosen n sender job hn hjob).concat turn
  cases hmove with
  | arrive root message =>
      refine ⟨?_, fun n found job hfound hjob => ?_⟩
      · rw [harrivals, ← h.requests, List.map_append]
        rfl
      · rcases getElem?_senders_concat hfound with hbefore | rfl
        · exact hchosen n found job hbefore hjob
        · cases hjob
  | send n sender next provider hn hstep =>
      refine ⟨?_, fun m found job hfound hjob => ?_⟩
      · obtain ⟨hlt, hget⟩ := List.getElem?_eq_some_iff.1 hn
        have hsame : (((start tree arbiter).run turns).senders.set n next).map Sender.request =
            ((start tree arbiter).run turns).senders.map Sender.request := by
          rw [List.map_set, hstep.request_eq, ← hget, ← List.map_set, List.set_getElem_self]
        rw [harrivals, ← h.requests]
        exact hsame.trans (List.append_nil _).symm
      · rcases getElem?_senders_set hn hfound with ⟨rfl, rfl⟩ | hbefore
        · rcases hstep.of_job? hjob with hkept | ⟨rfl, hbehaviour⟩
          · exact hchosen m sender job hn hkept
          · exact ⟨turns, [], rfl, hn, hbehaviour⟩
        · exact hchosen m found job hbefore hjob
  | work =>
      refine ⟨?_, hchosen⟩
      rw [harrivals, ← h.requests]
      exact (List.append_nil _).symm
  | aside _ _ _ _ _ _ harrival =>
      refine ⟨?_, hchosen⟩
      rw [harrivals, ← h.requests, harrival]
      exact (List.append_nil _).symm

-- ============================================================ the worker's doings

/-- What was done is all for the finished jobs, in their order, and what was begun for the one in
hand. The paths are those of the roots at the start. -/
structure OnCourse (tree : Tree) (w : Workshop) : Prop where
  places : w.tree.places = tree.places
  doings : w.doings = w.provider.finished.flatMap (Job.doings tree) ++ w.worker.begun tree
  finds : w.worker.Finds tree

theorem OnCourse.move (h : OnCourse tree w) (hmove : Move w turn after) : OnCourse tree after := by
  cases hmove with
  | arrive => exact ⟨h.places, h.doings, h.finds⟩
  | send n sender next provider hn hstep =>
      obtain ⟨sent, queue, rfl⟩ := hstep.provider_eq
      exact ⟨h.places, h.doings, h.finds⟩
  | work worker next provider doings hworker hstep =>
      have hplaces : (w.perform doings).tree.places = tree.places :=
        (Doing.places_foldl_apply doings _).trans h.places
      have hdoings := h.doings
      have hfinds := h.finds
      rw [hworker] at hdoings hfinds
      cases hstep with
      | leave => exact ⟨hplaces, (List.append_nil _).trans hdoings, True.intro⟩
      | turn => exact ⟨hplaces, (List.append_nil _).trans hdoings, True.intro⟩
      | miss => exact ⟨hplaces, (List.append_nil _).trans hdoings, True.intro⟩
      | take => exact ⟨hplaces, (List.append_nil _).trans hdoings, True.intro⟩
      | find job path hpath =>
          exact ⟨hplaces, (List.append_nil _).trans hdoings,
            (job.path?_congr h.places).symm.trans hpath⟩
      | skip job hpath =>
          rw [job.path?_congr h.places] at hpath
          refine ⟨hplaces, ?_, True.intro⟩
          show w.doings ++ [] = _ ++ (job.path? tree).toList.map Doing.wrote
          rw [hpath, List.append_nil]
          exact hdoings
      | write job path =>
          refine ⟨hplaces, ?_, True.intro⟩
          show w.doings ++ [.wrote path] = _ ++ (job.path? tree).toList.map Doing.wrote
          rw [show job.path? tree = some path from hfinds, hdoings]
          exact congrArg (· ++ _) (List.append_nil _)
      | reply job =>
          refine ⟨hplaces, ?_, True.intro⟩
          show w.doings ++ job.answer =
            (w.provider.finished ++ [job]).flatMap (Job.doings tree) ++ []
          rw [List.append_nil, List.flatMap_append, List.flatMap_singleton, job.doings_eq,
            ← List.append_assoc, hdoings]
          rfl
      | rest => exact ⟨hplaces, (List.append_nil _).trans hdoings, True.intro⟩
  | aside _ _ _ _ _ _ _ _ hplaces => exact ⟨hplaces.trans h.places, h.doings, h.finds⟩

/-- The answers are those of the finished jobs. -/
theorem OnCourse.answers (h : OnCourse tree w) :
    w.doings.filterMap Doing.answer? =
      w.provider.finished.filterMap fun job => job.behaviour.answer?.map (job.message.id, ·) := by
  have hbegun : (w.worker.begun tree).filterMap Doing.answer? = [] := by
    cases w.worker with
    | reply job => exact Doing.filterMap_wrote _
    | look | pick | start | write | gone => rfl
  rw [h.doings, List.filterMap_append, hbegun, List.append_nil, List.filterMap_flatMap,
    List.filterMap_eq_flatMap_toList]
  exact congrArg (List.flatMap · _) (funext (Job.filterMap_doings tree))

end Workshop

end Hydration
