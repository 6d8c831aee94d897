/-
A shutdown is for good: what holds of the table at every moment after it has begun.

# The flag

Only a shutdown changes the flag, and it can only raise it (`Down.step`). While it is up the table
takes no registration, whatever the id, and every look ends the wait, whatever the entry holds.

# The sleepers

A shutdown wakes all who sleep, and nobody falls asleep while the flag is up, for no look is in vain.
So a wait that was under way when the shutdown began comes to another look, and that one ends it
(`Down.awake`).

# The handles

With no registration the handles only become fewer, one with every drop. Those that are left are the
ones that were held when the shutdown began and have not been let go since (`Down.live`).
-/
import Hydration.Proofs.Pending.Separation

namespace Hydration

-- ============================================================ who sleeps

namespace Waiters

variable {w : Waiters}

/-- Nobody sleeps. -/
def Awake (w : Waiters) : Prop := ∀ handle ∈ w.handles, handle.waiter ≠ .asleep

theorem wake_ne_asleep (waiter : Waiter) : wake waiter ≠ .asleep := by
  cases waiter <;> decide

/-- To wake one who does not sleep changes nothing. -/
theorem wake_of_ne_asleep {waiter : Waiter} (h : waiter ≠ .asleep) : wake waiter = waiter := by
  cases waiter with
  | asleep => exact absurd rfl h
  | running | notified => rfl

theorem Awake.setWaiter (h : Awake w) (id : UInt64) {f : Waiter → Waiter}
    (hf : ∀ waiter, f waiter ≠ .asleep) : Awake (w.setWaiter id f) := by
  intro handle hhandle
  obtain ⟨old, hold, rfl⟩ := List.mem_map.1 hhandle
  split
  · exact hf old.waiter
  · exact h old hold

theorem Awake.deliver (h : Awake w) (id : UInt64) (kind : MessageKind) :
    Awake (w.deliver id kind).2 := by
  unfold Waiters.deliver
  split
  · next pending _ => exact Awake.setWaiter (w := { w with pending }) h id wake_ne_asleep
  · exact h

theorem Awake.stir (h : Awake w) (id : UInt64) : Awake (w.stir id) :=
  h.setWaiter id wake_ne_asleep

theorem Awake.drop (h : Awake w) (id : UInt64) : Awake (w.drop id) :=
  fun handle hhandle => h handle (List.mem_filter.1 hhandle).1

/-- Who looks and sees something does not fall asleep. -/
theorem Awake.look (h : Awake w) {id : UInt64} {outcome : WaitOutcome}
    (houtcome : w.pending.outcome? id = some outcome) : Awake (w.look id).2 := by
  unfold Waiters.look
  rw [houtcome]
  exact h.setWaiter id fun _ => nofun

/-- A shutdown wakes all. -/
theorem awake_abort (w : Waiters) : Awake w.abort.2 := by
  intro handle hhandle
  obtain ⟨old, -, rfl⟩ := List.mem_map.1 hhandle
  exact wake_ne_asleep old.waiter

/-- To begin a shutdown again changes nothing once all are awake. -/
theorem abort_eq_self (hdown : w.pending.shuttingDown = true) (hawake : Awake w) :
    w.abort.2 = w := by
  obtain ⟨⟨entries, down, nextId⟩, handles⟩ := w
  cases (hdown : down = true)
  have hsame : handles.map (fun handle => { handle with waiter := wake handle.waiter }) = handles := by
    refine (List.map_congr_left fun handle hhandle => ?_).trans (List.map_id handles)
    rw [wake_of_ne_asleep (hawake handle hhandle)]
    rfl
  exact congrArg (Waiters.mk ⟨entries, true, nextId⟩) hsame

end Waiters

-- ============================================================ after the shutdown

namespace Pending

variable {pending : Pending}

/-- While the flag is up a look shows the shutdown, answer or not. -/
theorem outcome?_of_down (hdown : pending.shuttingDown = true) (id : UInt64) :
    pending.outcome? id = some .shutDown := by
  rw [outcome?, hdown]
  rfl

/-- And no registration succeeds; the shutdown goes before a duplicate. -/
theorem register_of_down (hdown : pending.shuttingDown = true) (message : Message) :
    pending.register message = .error (.shuttingDown message.id) :=
  register_error_iff.2 (.inl ⟨hdown, rfl⟩)

end Pending

namespace Custody

variable {c : Custody} {held : List Message} {since : List Deed}

/-- A shutdown has begun while the handles to certain messages were held, and a list of deeds has been
done since. -/
structure Down (held : List Message) (since : List Deed) (c : Custody) : Prop where
  represents : Represents c
  flag : c.table.shuttingDown = true
  awake : c.waiters.Awake
  /-- The handles that were held then and have not been let go since. -/
  live : c.live = held.filter fun message => .drop message.id ∉ since

theorem down_abort (h : Represents c) : Down c.live [] (c.step .abort) where
  represents := h.step .abort
  flag := rfl
  awake := Waiters.awake_abort c.waiters
  live := by simp [step]

/-- What has been dropped once more goes out of the list. -/
theorem filter_drop_concat (held : List Message) (since : List Deed) (deed : Deed) :
    (held.filter fun message => .drop message.id ∉ since).filter (fun message => deed ≠ .drop message.id) =
      held.filter fun message => .drop message.id ∉ since ++ [deed] := by
  rw [List.filter_filter]
  refine List.filter_congr fun message _ => ?_
  simp [and_comm, eq_comm]

/-- A deed that lets nobody go leaves the list as it is. -/
theorem filter_of_not_drop {deed : Deed} (h : ∀ id, deed ≠ .drop id) (messages : List Message) :
    messages.filter (fun message => deed ≠ .drop message.id) = messages :=
  List.filter_eq_self.2 fun message _ => decide_eq_true (h message.id)

namespace Down

theorem register (h : Down held since c) (message : Message) :
    c.step (.register message) = c := by
  have hfault := Waiters.register_error_iff.2 (Pending.register_of_down h.flag message)
  simp only [Custody.step, hfault]

/-- Every deed leaves it so. -/
theorem step (h : Down held since c) (deed : Deed) : Down held (since ++ [deed]) (c.step deed) := by
  -- the handles of a deed that is no drop are those that there were
  have hkept : (∀ id, deed ≠ .drop id) → (c.step deed).live = c.live →
      (c.step deed).live = held.filter fun message => .drop message.id ∉ since ++ [deed] := by
    intro hno hlive
    rw [hlive, ← filter_drop_concat, ← h.live, filter_of_not_drop hno]
  have hrep := h.represents.step deed
  cases deed with
  | takeId => exact ⟨hrep, h.flag, h.awake, hkept nofun rfl⟩
  | register message =>
      rw [h.register message] at hrep hkept ⊢
      exact ⟨hrep, h.flag, h.awake, hkept nofun rfl⟩
  | deliver id kind =>
      refine ⟨hrep, ?_, h.awake.deliver id kind, hkept nofun rfl⟩
      show (c.waiters.deliver id kind).2.pending.shuttingDown = true
      rw [Waiters.deliver_pending, Pending.shuttingDown_deliver]
      exact h.flag
  | abort => exact ⟨hrep, rfl, Waiters.awake_abort _, hkept nofun rfl⟩
  | stir id => exact ⟨hrep, h.flag, h.awake.stir id, hkept nofun rfl⟩
  | look id =>
      have hlook : Custody.step c (.look id) = { c with waiters := (c.waiters.look id).2 } ∨
          Custody.step c (.look id) = c := by
        unfold Custody.step
        dsimp only
        split
        · exact .inl rfl
        · exact .inr rfl
      rcases hlook with heq | heq
      · have hawake := h.awake.look (Pending.outcome?_of_down h.flag id)
        rw [heq] at hrep hkept ⊢
        refine ⟨hrep, ?_, hawake, hkept nofun rfl⟩
        show (c.waiters.look id).2.pending.shuttingDown = true
        rw [Waiters.look_pending]
        exact h.flag
      · rw [heq] at hrep hkept ⊢
        exact ⟨hrep, h.flag, h.awake, hkept nofun rfl⟩
  | drop id =>
      refine ⟨hrep, (shuttingDown_drop c id).trans h.flag, ?_, ?_⟩
      · unfold Custody.step
        dsimp only
        split
        · exact h.awake.drop id
        · exact h.awake
      · rw [h.represents.live_drop, h.live, ← filter_drop_concat]
        refine List.filter_congr fun message _ => ?_
        by_cases heq : message.id = id
        · simp [heq]
        · simp [heq, Ne.symm heq]

theorem foldl_step (h : Down held since c) (later : List Deed) :
    Down held (since ++ later) (later.foldl Custody.step c) := by
  induction later generalizing c since with
  | nil => rwa [List.append_nil]
  | cons deed rest ih =>
      have hrest := ih (h.step deed)
      rwa [List.append_assoc] at hrest

/-- An id is left exactly when it was held and has not been let go. -/
theorem contains_iff (h : Down held since c) {id : UInt64} :
    c.table.contains id = true ↔ (∃ message ∈ held, message.id = id) ∧ .drop id ∉ since := by
  rw [h.represents.contains_iff, h.live]
  constructor
  · rintro ⟨message, hmessage, rfl⟩
    obtain ⟨hheld, hkept⟩ := List.mem_filter.1 hmessage
    exact ⟨⟨message, hheld, rfl⟩, of_decide_eq_true hkept⟩
  · rintro ⟨⟨message, hheld, rfl⟩, hkept⟩
    exact ⟨message, List.mem_filter.2 ⟨hheld, decide_eq_true hkept⟩, rfl⟩

/-- Nothing is left exactly when all that was held has been let go. -/
theorem isEmpty_iff (h : Down held since c) :
    c.table.isEmpty = true ↔ ∀ message ∈ held, .drop message.id ∈ since := by
  have hsame : c.table.outstanding = [] ↔ c.live = [] :=
    ⟨fun hnil => (hnil ▸ h.represents.messages).nil_eq.symm,
      fun hnil => (hnil ▸ h.represents.messages).eq_nil⟩
  rw [Pending.isEmpty_iff, hsame, h.live, List.filter_eq_nil_iff]
  simp

end Down

/-- A shutdown tells how many handles are held. -/
theorem Represents.abort_fst (h : Represents c) : c.waiters.abort.1 = c.live.length := by
  show c.table.size = c.live.length
  rw [Pending.size_eq_length_outstanding, h.messages.length_eq]

-- ============================================================ the result

/-- What holds of the table at a moment after a shutdown has begun, when certain messages were held at
its beginning and a list of deeds has been done since. -/
structure Closed (held : List Message) (since : List Deed) (c : Custody) : Prop where
  flag : c.table.shuttingDown = true
  /-- No request is registered any more, whether its id is free or taken, and the attempt changes
  nothing. -/
  refused : ∀ message, c.waiters.register message = .error (.shuttingDown message.id) ∧
    c.step (.register message) = c
  /-- Whoever holds a request and looks for its answer learns of the shutdown, whatever answer the entry
  has. -/
  ended : ∀ id, (c.waiters.look id).1 = some .shutDown
  /-- Nobody who waits is left asleep. -/
  awake : ∀ handle ∈ c.waiters.handles, handle.waiter ≠ .asleep
  /-- The handles that are left were held at the beginning and have not been let go since. -/
  live : c.live = held.filter fun message => .drop message.id ∉ since
  entries : ∀ id, c.table.contains id = true ↔
    (∃ message ∈ held, message.id = id) ∧ .drop id ∉ since
  empty : c.table.isEmpty = true ↔ ∀ message ∈ held, .drop message.id ∈ since
  /-- To begin the shutdown again tells how many handles are left, and changes nothing. -/
  woken : c.waiters.abort.1 = c.live.length
  again : c.step .abort = c

theorem Down.closed (h : Down held since c) : Closed held since c where
  flag := h.flag
  refused message :=
    ⟨Waiters.register_error_iff.2 (Pending.register_of_down h.flag message), h.register message⟩
  ended id := (Waiters.look_fst id).trans (Pending.outcome?_of_down h.flag id)
  awake := h.awake
  live := h.live
  entries _ := h.contains_iff
  empty := h.isEmpty_iff
  woken := h.represents.abort_fst
  again := by
    show { c with waiters := c.waiters.abort.2 } = c
    rw [Waiters.abort_eq_self h.flag h.awake]

/-- A shutdown tells how many handles are held, and from then on, whatever is done, the table takes
nothing in, keeps nobody waiting, and loses an entry only when its handle is let go. -/
theorem closed_run (before since : List Deed) :
    (run before).waiters.abort.1 = (run before).live.length ∧
      Closed (run before).live since (run (before ++ .abort :: since)) ∧
      ∀ later id, (run (before ++ .abort :: since ++ later)).table.contains id = true →
        (run (before ++ .abort :: since)).table.contains id = true := by
  have hdown : ∀ deeds, Down (run before).live deeds (run (before ++ .abort :: deeds)) := by
    intro deeds
    rw [run_append]
    exact (down_abort (represents_run before)).foldl_step deeds
  refine ⟨(represents_run before).abort_fst, (hdown since).closed, fun later id hlater => ?_⟩
  rw [List.append_assoc, List.cons_append, (hdown (since ++ later)).contains_iff] at hlater
  rw [(hdown since).contains_iff]
  exact ⟨hlater.1, fun hdropped => hlater.2 (List.mem_append_left _ hdropped)⟩

end Custody

end Hydration
