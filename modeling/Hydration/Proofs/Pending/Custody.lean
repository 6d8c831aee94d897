/-
The table of requests in flight under any history: what stands in it is exactly what somebody holds.

# Deeds and custody

A history is a list of deeds, each one critical section of the table: an id is taken, a request is
registered under whatever id its message bears, an answer comes in, a shutdown begins, the holder of
a request looks for its answer, is woken, or lets the request go. `Custody` runs the table through a
history and keeps the account of the handles beside it: a registration that succeeds hands one out,
and only its holder can look or let go through it. The table never reads the account.

# What is proved

`Represents` is the invariant: the messages of the table are those of the handles that are held, up
to order, and the table is in the strict order of ids, so no two handles share an id. Every deed
keeps it. The rest is read off it:

- what becomes of one entry from its registration on (`find?_foldl_step`): its message stays, and
  its answer is the first outcome that was delivered to its id since;
- who holds what, in terms of the history alone (`HeldSince`): a request is held exactly when some
  deed registered it, the table took it, and no later deed let it go.

`Faithful` collects what the holders rely on, and `faithful_run` is the result.
-/
import Hydration.Pending.Waiters
import Hydration.Proofs.Pending.Table
import Mathlib.Data.List.Induction
import Mathlib.Data.List.Nodup

namespace Hydration

-- ============================================================ deeds

/-- One critical section of the table. -/
inductive Deed where
  | takeId
  | register (message : Message)
  | deliver (id : UInt64) (kind : MessageKind)
  | abort
  /-- The holder of a request looks for its answer, and goes to sleep if there is none. -/
  | look (id : UInt64)
  /-- A sleeping holder wakes by itself. -/
  | stir (id : UInt64)
  /-- The holder of a request lets it go. -/
  | drop (id : UInt64)
deriving DecidableEq

/-- The outcome that a deed brings to the request with an id. -/
def Deed.answerTo? (id : UInt64) : Deed → Option Outcome
  | deliver other kind => if other = id then kind.outcome? else none
  | _ => none

/-- The first outcome that is brought to the request with an id. -/
def firstAnswer (id : UInt64) (deeds : List Deed) : Option Outcome :=
  deeds.findSome? (Deed.answerTo? id)

theorem firstAnswer_cons (id : UInt64) (deed : Deed) (rest : List Deed) :
    firstAnswer id (deed :: rest) = (deed.answerTo? id).or (firstAnswer id rest) := by
  unfold firstAnswer
  rw [List.findSome?_cons]
  cases deed.answerTo? id <;> rfl

-- ============================================================ custody

/-- A table with its waiters, and the account of the handles. -/
structure Custody where
  waiters : Waiters
  /-- The messages of the handles that are held, in the order of their registration. -/
  live : List Message

namespace Custody

def start : Custody := ⟨.start, []⟩

def table (c : Custody) : Pending := c.waiters.pending

/-- Somebody holds a handle with the id. -/
def holds (c : Custody) (id : UInt64) : Bool := c.live.any (·.id = id)

/-- One deed. Nobody can look or let go without a handle. -/
def step (c : Custody) : Deed → Custody
  | .takeId => { c with waiters := c.waiters.takeId.2 }
  | .register message =>
    match c.waiters.register message with
    | .ok waiters => ⟨waiters, c.live ++ [message]⟩
    | .error _ => c
  | .deliver id kind => { c with waiters := (c.waiters.deliver id kind).2 }
  | .abort => { c with waiters := c.waiters.abort.2 }
  | .look id => if c.holds id then { c with waiters := (c.waiters.look id).2 } else c
  | .stir id => { c with waiters := c.waiters.stir id }
  | .drop id =>
    if c.holds id then ⟨c.waiters.drop id, c.live.eraseP (·.id = id)⟩ else c

/-- The table after a history. -/
def run (deeds : List Deed) : Custody := deeds.foldl step start

theorem run_append (before after : List Deed) :
    run (before ++ after) = after.foldl step (run before) :=
  List.foldl_append

theorem run_concat (deeds : List Deed) (deed : Deed) :
    run (deeds ++ [deed]) = (run deeds).step deed := by
  rw [run_append]
  rfl

theorem holds_iff {c : Custody} {id : UInt64} :
    c.holds id = true ↔ ∃ message ∈ c.live, message.id = id := by
  simp [holds]

end Custody

-- ============================================================ waiters leave the table alone

namespace Waiters

variable {w : Waiters}

@[simp] theorem setWaiter_pending (id : UInt64) (f : Waiter → Waiter) :
    (w.setWaiter id f).pending = w.pending := rfl

@[simp] theorem setWaiter_ids (id : UInt64) (f : Waiter → Waiter) :
    (w.setWaiter id f).handles.map Handle.id = w.handles.map Handle.id := by
  unfold setWaiter
  rw [List.map_map]
  refine List.map_congr_left fun handle _ => ?_
  simp only [Function.comp]
  split <;> rfl

@[simp] theorem deliver_pending (id : UInt64) (kind : MessageKind) :
    (w.deliver id kind).2.pending = (w.pending.deliver id kind).2 := by
  unfold deliver
  split <;> simp_all

@[simp] theorem deliver_ids (id : UInt64) (kind : MessageKind) :
    (w.deliver id kind).2.handles.map Handle.id = w.handles.map Handle.id := by
  unfold deliver
  split
  · rw [setWaiter_ids]
  · rfl

@[simp] theorem abort_pending : w.abort.2.pending = w.pending.abort.2 := rfl

@[simp] theorem abort_ids : w.abort.2.handles.map Handle.id = w.handles.map Handle.id := by
  simp [abort, List.map_map, Function.comp_def]

@[simp] theorem look_pending (id : UInt64) : (w.look id).2.pending = w.pending := by
  unfold look
  split <;> rfl

@[simp] theorem look_ids (id : UInt64) :
    (w.look id).2.handles.map Handle.id = w.handles.map Handle.id := by
  unfold look
  split <;> rw [setWaiter_ids]

@[simp] theorem stir_pending (id : UInt64) : (w.stir id).pending = w.pending := rfl

@[simp] theorem stir_ids (id : UInt64) :
    (w.stir id).handles.map Handle.id = w.handles.map Handle.id := setWaiter_ids id wake

@[simp] theorem takeId_pending : w.takeId.2.pending = w.pending.takeId.2 := rfl

@[simp] theorem takeId_handles : w.takeId.2.handles = w.handles := rfl

@[simp] theorem drop_pending (id : UInt64) : (w.drop id).pending = w.pending.drop id := rfl

theorem drop_ids (id : UInt64) :
    (w.drop id).handles.map Handle.id = (w.handles.map Handle.id).filter (· != id) := by
  rw [List.filter_map]
  rfl

/-- A registration goes through exactly when the table takes it, and hands out one handle. -/
theorem register_ok_iff {message : Message} {next : Waiters} :
    w.register message = .ok next ↔
      ∃ pending, w.pending.register message = .ok pending ∧
        next = ⟨pending, w.handles ++ [⟨message.id, .running⟩]⟩ := by
  unfold register
  cases w.pending.register message <;> simp [eq_comm]

end Waiters

namespace Custody

variable {c : Custody}

-- ============================================================ what a deed can do

/-- A deed that leaves every handle where it is; at most it brings an answer. -/
structure Still (c : Custody) (deed : Deed) : Prop where
  live : (c.step deed).live = c.live
  ids : (c.step deed).waiters.handles.map Handle.id = c.waiters.handles.map Handle.id
  messages : (c.step deed).table.outstanding = c.table.outstanding
  find? : ∀ id, (c.step deed).table.find? id =
    (c.table.find? id).map (Entry.hear (deed.answerTo? id))

/-- A registration that the table takes. -/
structure Takes (c : Custody) (message : Message) : Prop where
  register : c.table.register message = .ok (c.step (.register message)).table
  live : (c.step (.register message)).live = c.live ++ [message]
  ids : (c.step (.register message)).waiters.handles.map Handle.id =
    c.waiters.handles.map Handle.id ++ [message.id]

/-- A handle that is let go. -/
structure LetsGo (c : Custody) (id : UInt64) : Prop where
  holds : c.holds id = true
  table : (c.step (.drop id)).table = c.table.drop id
  ids : (c.step (.drop id)).waiters.handles.map Handle.id =
    (c.waiters.handles.map Handle.id).filter (· != id)

/-- A deed without an outcome that changes neither the table nor who has a handle. -/
theorem Still.of_table {deed : Deed} (hlive : (c.step deed).live = c.live)
    (hids : (c.step deed).waiters.handles.map Handle.id = c.waiters.handles.map Handle.id)
    (hentries : (c.step deed).table.entries = c.table.entries)
    (hanswer : ∀ id, deed.answerTo? id = none) : Still c deed where
  live := hlive
  ids := hids
  messages := by rw [Pending.outstanding, hentries, Pending.outstanding]
  find? id := by
    rw [hanswer, Entry.map_hear_none, Pending.find?, hentries, Pending.find?]

theorem still_deliver (c : Custody) (id : UInt64) (kind : MessageKind) :
    Still c (.deliver id kind) where
  live := rfl
  ids := Waiters.deliver_ids id kind
  messages := by
    show (c.waiters.deliver id kind).2.pending.outstanding = _
    rw [Waiters.deliver_pending, Pending.outstanding_deliver]
    rfl
  find? other := by
    show (c.waiters.deliver id kind).2.pending.find? other = _
    rw [Waiters.deliver_pending, Pending.find?_deliver]
    show _ = (c.table.find? other).map (Entry.hear (if id = other then _ else none))
    by_cases h : other = id
    · subst h
      simp [table]
    · simp [h, Ne.symm h, table]

/-- Everything that a deed can do: a handle more, a handle less, or the handles as they were. -/
theorem step_cases (c : Custody) (deed : Deed) :
    (∃ message, deed = .register message ∧ Takes c message) ∨
      (∃ id, deed = .drop id ∧ LetsGo c id) ∨ Still c deed := by
  cases deed with
  | takeId => exact .inr (.inr (.of_table rfl rfl rfl fun _ => rfl))
  | register message =>
      cases hreg : c.waiters.register message with
      | error fault =>
          have hstep : c.step (.register message) = c := by simp [step, hreg]
          refine .inr (.inr (.of_table ?_ ?_ ?_ fun _ => rfl)) <;> rw [hstep]
      | ok waiters =>
          have hstep : c.step (.register message) = ⟨waiters, c.live ++ [message]⟩ := by
            simp [step, hreg]
          obtain ⟨pending, hpending, rfl⟩ := Waiters.register_ok_iff.1 hreg
          refine .inl ⟨message, rfl, ?_, ?_, ?_⟩ <;> rw [hstep]
          · exact hpending
          · simp
  | deliver id kind => exact .inr (.inr (still_deliver c id kind))
  | abort => exact .inr (.inr (.of_table rfl Waiters.abort_ids rfl fun _ => rfl))
  | look id =>
      cases hholds : c.holds id with
      | true =>
          have hstep : c.step (.look id) = { c with waiters := (c.waiters.look id).2 } := by
            simp [step, hholds]
          refine .inr (.inr (.of_table ?_ ?_ ?_ fun _ => rfl)) <;> rw [hstep]
          · exact Waiters.look_ids id
          · simp [table]
      | false =>
          have hstep : c.step (.look id) = c := by simp [step, hholds]
          refine .inr (.inr (.of_table ?_ ?_ ?_ fun _ => rfl)) <;> rw [hstep]
  | stir id => exact .inr (.inr (.of_table rfl (Waiters.stir_ids id) rfl fun _ => rfl))
  | drop id =>
      cases hholds : c.holds id with
      | true =>
          have hstep : c.step (.drop id) = ⟨c.waiters.drop id, c.live.eraseP (·.id = id)⟩ := by
            simp [step, hholds]
          refine .inr (.inl ⟨id, rfl, hholds, ?_, ?_⟩) <;> rw [hstep]
          · rfl
          · exact Waiters.drop_ids id
      | false =>
          have hstep : c.step (.drop id) = c := by simp [step, hholds]
          refine .inr (.inr (.of_table ?_ ?_ ?_ fun _ => rfl)) <;> rw [hstep]

-- ============================================================ the invariant

/-- The table stands for the handles that are held. -/
structure Represents (c : Custody) : Prop where
  /-- The entries stand in the strict order of their ids. -/
  ordered : c.table.Ordered
  /-- The messages are those of the handles. -/
  messages : c.table.outstanding.Perm c.live
  /-- Every handle has its waiter. -/
  waiters : c.waiters.handles.map Handle.id = c.live.map Message.id

/-- No two handles share an id. -/
theorem Represents.nodup (h : Represents c) : (c.live.map Message.id).Nodup :=
  (h.messages.map Message.id).nodup_iff.1 h.ordered.nodup

/-- An id is in the table exactly when somebody holds a handle with it. -/
theorem Represents.contains_iff (h : Represents c) {id : UInt64} :
    c.table.contains id = true ↔ ∃ message ∈ c.live, message.id = id := by
  rw [Pending.contains_iff]
  simp only [h.messages.mem_iff]

theorem Represents.contains_eq_holds (h : Represents c) (id : UInt64) :
    c.table.contains id = c.holds id := by
  rw [Bool.eq_iff_iff, h.contains_iff, holds_iff]

/-- A handle that is held finds its entry, with the message it was registered with. -/
theorem Represents.find? (h : Represents c) {message : Message} (hm : message ∈ c.live) :
    ∃ answer, c.table.find? message.id = some ⟨message, answer⟩ := by
  have hhas := h.contains_iff.2 ⟨message, hm, rfl⟩
  obtain ⟨entry, hentry⟩ := Option.isSome_iff_exists.1 hhas
  have hmem : entry.message ∈ c.live :=
    h.messages.mem_iff.1 (List.mem_map_of_mem (List.mem_of_find?_eq_some hentry))
  have hsame : entry.message = message :=
    List.inj_on_of_nodup_map h.nodup hmem hm (Pending.id_of_find? hentry)
  exact ⟨entry.answer, by rw [hentry, ← hsame]⟩

/-- Where no two messages share an id, erasing the one with an id is filtering by it. -/
theorem eraseP_eq_filter {messages : List Message} (h : (messages.map Message.id).Nodup)
    (id : UInt64) :
    messages.eraseP (·.id = id) = messages.filter (·.id != id) := by
  induction messages with
  | nil => rfl
  | cons first rest ih =>
      rw [List.map_cons] at h
      obtain ⟨hfirst, hrest⟩ := List.nodup_cons.1 h
      by_cases heq : first.id = id
      · have hkeep : rest.filter (·.id != id) = rest := by
          refine List.filter_eq_self.2 fun message hmessage => ?_
          rw [bne_iff_ne]
          rintro rfl
          exact hfirst (heq ▸ List.mem_map_of_mem hmessage)
        simp [heq, hkeep]
      · rw [List.eraseP_cons_of_neg (by simpa using heq), ih hrest,
          List.filter_cons_of_pos (by simpa using heq)]

/-- A drop takes exactly the handle with the id away. -/
theorem Represents.live_drop (h : Represents c) (id : UInt64) :
    (c.step (.drop id)).live = c.live.filter (·.id != id) := by
  unfold step
  dsimp only
  split
  · exact eraseP_eq_filter h.nodup id
  next hnot =>
    refine (List.filter_eq_self.2 fun message hmessage => ?_).symm
    rw [bne_iff_ne]
    exact fun hid => hnot (holds_iff.2 ⟨message, hmessage, hid⟩)

theorem represents_start : Represents start where
  ordered := Pending.ordered_start
  messages := List.Perm.refl _
  waiters := rfl

/-- Every deed keeps the table in step with the handles. -/
theorem Represents.step (h : Represents c) (deed : Deed) : Represents (c.step deed) := by
  rcases step_cases c deed with ⟨message, rfl, htakes⟩ | ⟨id, rfl, hgoes⟩ | hstill
  · refine ⟨h.ordered.register htakes.register, ?_, ?_⟩
    · rw [htakes.live]
      calc (c.step (.register message)).table.outstanding
        _ |>.Perm (message :: c.table.outstanding) := Pending.outstanding_register htakes.register
        _ |>.Perm (message :: c.live) := h.messages.cons message
        _ |>.Perm (c.live ++ [message]) := (List.perm_append_singleton _ _).symm
    · rw [htakes.ids, htakes.live, h.waiters, List.map_append]
      rfl
  · refine ⟨?_, ?_, ?_⟩
    · rw [hgoes.table]
      exact h.ordered.drop id
    · rw [hgoes.table, h.live_drop, Pending.outstanding_drop]
      exact h.messages.filter _
    · rw [hgoes.ids, h.live_drop, h.waiters, List.filter_map]
      rfl
  · refine ⟨?_, ?_, ?_⟩
    · rw [Pending.ordered_iff_outstanding, hstill.messages]
      exact Pending.ordered_iff_outstanding.1 h.ordered
    · rw [hstill.messages, hstill.live]
      exact h.messages
    · rw [hstill.ids, hstill.live, h.waiters]

theorem Represents.foldl_step (h : Represents c) (deeds : List Deed) :
    Represents (deeds.foldl Custody.step c) := by
  induction deeds generalizing c with
  | nil => exact h
  | cons deed rest ih => exact ih (h.step deed)

/-- After every history the table stands for the handles that are held. -/
theorem represents_run (deeds : List Deed) : Represents (run deeds) :=
  represents_start.foldl_step deeds

-- ============================================================ one request, from its registration on

/-- The table takes a registration exactly when that succeeds. -/
theorem takes_of_register {message : Message} {next : Pending}
    (h : c.table.register message = .ok next) : Takes c message := by
  rcases step_cases c (.register message) with ⟨other, heq, htakes⟩ | ⟨id, heq, -⟩ | hstill
  · injection heq with heq
    exact heq ▸ htakes
  · cases heq
  · -- the entry that the registration wrote is none that was there before
    exfalso
    have hstep : (c.step (.register message)).table = next := by
      have hreg : c.waiters.register message =
          .ok ⟨next, c.waiters.handles ++ [⟨message.id, .running⟩]⟩ :=
        Waiters.register_ok_iff.2 ⟨next, h, rfl⟩
      simp [step, hreg, table]
    have hlen := (Pending.outstanding_register h).length_eq
    rw [← hstep, hstill.messages, List.length_cons] at hlen
    omega

/-- A registration that succeeds hands out a handle, and its slot is open. -/
theorem live_of_register {message : Message} {next : Pending}
    (h : c.table.register message = .ok next) :
    message ∈ (c.step (.register message)).live ∧
      (c.step (.register message)).table.find? message.id = some ⟨message, none⟩ := by
  have htakes := takes_of_register h
  refine ⟨by simp [htakes.live], ?_⟩
  rw [Pending.find?_register htakes.register, if_pos rfl]

/-- What one deed does to a request that its holder keeps. -/
theorem find?_step {message : Message} {answer : Option Outcome} (hm : message ∈ c.live)
    (hfind : c.table.find? message.id = some ⟨message, answer⟩) {deed : Deed}
    (hkeeps : deed ≠ .drop message.id) :
    message ∈ (c.step deed).live ∧
      (c.step deed).table.find? message.id =
        some ⟨message, answer.or (deed.answerTo? message.id)⟩ := by
  rcases step_cases c deed with ⟨other, rfl, htakes⟩ | ⟨id, rfl, hgoes⟩ | hstill
  · have hfree := (Pending.register_ok_iff.1 htakes.register).2.1
    have hne : message.id ≠ other.id := by
      intro heq
      rw [Pending.contains, ← heq, hfind] at hfree
      cases hfree
    refine ⟨by simp [htakes.live, hm], ?_⟩
    rw [Pending.find?_register htakes.register, if_neg hne, hfind]
    simp [Deed.answerTo?]
  · have hne : message.id ≠ id := fun heq => hkeeps (heq ▸ rfl)
    constructor
    · simp only [step, hgoes.holds, if_true]
      exact (List.mem_eraseP_of_neg (by simpa using hne)).2 hm
    · rw [hgoes.table, Pending.find?_drop, if_neg hne, hfind]
      simp [Deed.answerTo?]
  · refine ⟨hstill.live ▸ hm, ?_⟩
    rw [hstill.find?, hfind]
    rfl

/-- What a history does to a request that its holder keeps: the message stays, and so does an
answer; an open slot gets the first answer that comes. -/
theorem find?_foldl_step {message : Message} {answer : Option Outcome} {deeds : List Deed}
    (hm : message ∈ c.live) (hfind : c.table.find? message.id = some ⟨message, answer⟩)
    (hkeeps : ∀ deed ∈ deeds, deed ≠ .drop message.id) :
    message ∈ (deeds.foldl step c).live ∧
      (deeds.foldl step c).table.find? message.id =
        some ⟨message, answer.or (firstAnswer message.id deeds)⟩ := by
  induction deeds generalizing c answer with
  | nil => exact ⟨hm, by simpa [firstAnswer] using hfind⟩
  | cons deed rest ih =>
      obtain ⟨hm', hfind'⟩ := find?_step hm hfind (hkeeps deed (List.mem_cons_self ..))
      obtain ⟨hlive, hrest⟩ := ih hm' hfind' fun later hlater =>
        hkeeps later (List.mem_cons_of_mem _ hlater)
      refine ⟨hlive, ?_⟩
      rw [List.foldl_cons, hrest, Option.or_assoc, firstAnswer_cons]

/-- A registration that the table took and that was not let go since, as a history tells it. -/
def HeldSince (deeds : List Deed) (message : Message) (after : List Deed) : Prop :=
  ∃ before, deeds = before ++ .register message :: after ∧
    (∃ next, (run before).table.register message = .ok next) ∧
    ∀ deed ∈ after, deed ≠ .drop message.id

/-- Such a request is held, and its answer is the first that came since its registration. -/
theorem HeldSince.find? {deeds after : List Deed} {message : Message}
    (h : HeldSince deeds message after) :
    message ∈ (run deeds).live ∧
      (run deeds).table.find? message.id = some ⟨message, firstAnswer message.id after⟩ := by
  obtain ⟨before, rfl, ⟨next, hnext⟩, hkeeps⟩ := h
  obtain ⟨hm, hfind⟩ := live_of_register hnext
  rw [run_append]
  exact find?_foldl_step hm hfind hkeeps

/-- Nobody holds a request otherwise. -/
theorem heldSince_of_mem_live {deeds : List Deed} {message : Message}
    (h : message ∈ (run deeds).live) : ∃ after, HeldSince deeds message after := by
  induction deeds using List.reverseRecOn with
  | nil => cases h
  | append_singleton deeds deed ih =>
      rw [run_concat] at h
      -- a handle that was there before is there still, whatever the deed
      have hold : message ∈ (run deeds).live → deed ≠ .drop message.id →
          ∃ after, HeldSince (deeds ++ [deed]) message after := by
        intro hm hne
        obtain ⟨after, before, hdeeds, hnext, hkeeps⟩ := ih hm
        refine ⟨after ++ [deed], before, by simp [hdeeds], hnext, fun other hother => ?_⟩
        rcases List.mem_append.1 hother with hother | hother
        · exact hkeeps other hother
        · rw [List.mem_singleton.1 hother]
          exact hne
      rcases step_cases (run deeds) deed with ⟨other, rfl, htakes⟩ | ⟨id, rfl, -⟩ | hstill
      · rw [htakes.live, List.mem_append, List.mem_singleton] at h
        rcases h with hm | rfl
        · exact hold hm (by simp)
        · exact ⟨[], deeds, rfl, ⟨_, htakes.register⟩, by simp⟩
      · rw [(represents_run deeds).live_drop, List.mem_filter, bne_iff_ne] at h
        exact hold h.1 fun heq => h.2 (by injection heq with heq; exact heq.symm)
      · refine hold (hstill.live ▸ h) ?_
        rintro rfl
        rw [(represents_run deeds).live_drop, List.mem_filter, bne_iff_ne] at h
        exact h.2 rfl

-- ============================================================ the table after any history

/-- Only a registration adds an id to the table, and only its holder's drop takes one away. -/
theorem contains_step (h : Represents c) {deed : Deed} {id : UInt64}
    (hchanged : (c.step deed).table.contains id ≠ c.table.contains id) :
    (∃ message next, deed = .register message ∧ message.id = id ∧
        c.table.register message = .ok next) ∨
      (deed = .drop id ∧ c.holds id = true) := by
  rcases step_cases c deed with ⟨message, rfl, htakes⟩ | ⟨other, rfl, hgoes⟩ | hstill
  · refine .inl ⟨message, _, rfl, ?_, htakes.register⟩
    by_contra hne
    refine hchanged ?_
    rw [Pending.contains, Pending.find?_register htakes.register, if_neg (Ne.symm hne)]
    rfl
  · have heq : id = other := by
      by_contra hne
      refine hchanged ?_
      rw [Pending.contains, hgoes.table, Pending.find?_drop, if_neg hne]
      rfl
    subst heq
    exact .inr ⟨rfl, hgoes.holds⟩
  · refine absurd ?_ hchanged
    rw [(h.step deed).contains_eq_holds, h.contains_eq_holds, holds, holds, hstill.live]

/-- What the table owes after a history to those who hold its requests. -/
structure Faithful (deeds : List Deed) : Prop where
  /-- A request is held exactly when the table took it and it was not let go since. -/
  held : ∀ message,
    message ∈ (run deeds).live ↔ ∃ after, HeldSince deeds message after
  /-- No two handles share an id. -/
  distinct : ((run deeds).live.map Message.id).Nodup
  /-- The ids of the table are those of the handles. -/
  keys : ∀ id, (run deeds).table.contains id = true ↔
    ∃ message ∈ (run deeds).live, message.id = id
  /-- Each entry stands under the id of its own message, which is the one of its handle. -/
  stored : ∀ id entry, (run deeds).table.find? id = some entry →
    entry.message.id = id ∧ entry.message ∈ (run deeds).live
  /-- The holder of a request always finds its entry, with the message as it was registered and the
  first answer that came since. -/
  found : ∀ message after, HeldSince deeds message after →
    (run deeds).table.find? message.id = some ⟨message, firstAnswer message.id after⟩
  /-- An answer is never written over, whatever happens until the request is let go. -/
  writtenOnce : ∀ message ∈ (run deeds).live, ∀ outcome,
    (run deeds).table.find? message.id = some ⟨message, some outcome⟩ →
    ∀ later, (∀ deed ∈ later, deed ≠ .drop message.id) →
    (run (deeds ++ later)).table.find? message.id = some ⟨message, some outcome⟩
  /-- Nothing but a registration and a drop of the id itself adds or takes away an id. -/
  frame : ∀ deed id,
    (run (deeds ++ [deed])).table.contains id ≠ (run deeds).table.contains id →
    (∃ message next, deed = .register message ∧ message.id = id ∧
        (run deeds).table.register message = .ok next) ∨
      (deed = .drop id ∧ (run deeds).holds id = true)
  /-- The counts and the list of messages tell of the handles, in the order of their ids. -/
  size : (run deeds).table.size = (run deeds).live.length
  isEmpty : (run deeds).table.isEmpty = true ↔ (run deeds).live = []
  outstanding : (run deeds).table.outstanding.Perm (run deeds).live ∧
    (run deeds).table.outstanding.Pairwise (·.id < ·.id)

/-- After every history the table is exactly what its holders hold. -/
theorem faithful_run (deeds : List Deed) : Faithful deeds := by
  have hrep := represents_run deeds
  refine
    { held := fun message => ⟨heldSince_of_mem_live, fun ⟨_, hsince⟩ => hsince.find?.1⟩
      distinct := hrep.nodup
      keys := fun id => hrep.contains_iff
      stored := fun id entry hentry => ⟨Pending.id_of_find? hentry, ?_⟩
      found := fun message after hsince => hsince.find?.2
      writtenOnce := fun message hm outcome hfind later hkeeps => ?_
      frame := fun deed id hchanged => contains_step hrep (run_concat deeds deed ▸ hchanged)
      size := ?_
      isEmpty := ?_
      outstanding := ⟨hrep.messages, Pending.ordered_iff_outstanding.1 hrep.ordered⟩ }
  · exact hrep.messages.mem_iff.1 (List.mem_map_of_mem (List.mem_of_find?_eq_some hentry))
  · rw [run_append]
    exact (find?_foldl_step hm hfind hkeeps).2
  · rw [Pending.size_eq_length_outstanding, hrep.messages.length_eq]
  · rw [Pending.isEmpty_iff, ← List.length_eq_zero_iff, hrep.messages.length_eq,
      List.length_eq_zero_iff]

end Custody

end Hydration
