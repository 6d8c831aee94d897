/-
Nobody sleeps through the news.

# The bells

`Waiters` wakes the keeper of a request by the id of the request. In fact each registration makes a
condition variable, here a bell, of its own; the entry keeps it for those who bring news, and the handle
keeps it for the keeper, who sleeps by it. An answer rings the bell in the entry, and of those who sleep
by that bell one is woken; a shutdown rings the bells in all entries. A bell that rings while nobody
sleeps by it is not heard later.

`Bells` keeps entries and handles with their bells apart, so that a bell could ring in vain, be the bell
of somebody else, or hang in the entry of a request whose id has been given out again.

# What is proved

No history does any of that: whatever keeper is asleep, its own bell hangs in the entry under its id, and
that entry has no answer (`Tuned`). So to wake by the bell comes to the same as to wake by the id, and
every history with bells is one of the table with its waiters (`Tuned.step`). News once brought stays
(`Informed`), so whoever has been brought an answer, or was registered at a shutdown, never sleeps again,
and does not have to wake by itself to hear of it (`prompt_run`).
-/
import Hydration.Proofs.Pending.Shutdown

namespace Hydration

-- ============================================================ the bells

/-- One who holds a request, and sleeps by a bell of its own. -/
structure Keeper where
  id : UInt64
  bell : Nat
  waiter : Waiter
deriving DecidableEq, Repr

/-- The keeper as it stands in the table's account, where no bells are known. -/
def Keeper.handle (keeper : Keeper) : Handle := ⟨keeper.id, keeper.waiter⟩

/-- The table, with the bells in its entries and those of the keepers. -/
structure Bells where
  pending : Pending
  /-- The bell in the entry under an id. -/
  hung : List (UInt64 × Nat)
  /-- In the order of their registration. -/
  keepers : List Keeper
  /-- The bell that the next registration makes. -/
  next : Nat
deriving DecidableEq, Repr

/-- One critical section. Whoever holds a request is told by its bell. -/
inductive Stroke where
  | takeId
  | register (message : Message)
  | deliver (id : UInt64) (kind : MessageKind)
  | abort
  /-- A keeper comes to the table, or back to it, and falls asleep if there is no news. -/
  | look (bell : Nat)
  /-- A sleeper wakes because its time is up, or for no reason. -/
  | stir (bell : Nat)
  | drop (bell : Nat)
deriving DecidableEq

namespace Bells

def start : Bells := ⟨.start, [], [], 0⟩

def bell? (b : Bells) (id : UInt64) : Option Nat := (b.hung.find? (·.1 = id)).map (·.2)

def keeper? (b : Bells) (bell : Nat) : Option Keeper := b.keepers.find? (·.bell = bell)

-- ============================================================ ringing

/-- Changes what some keepers do. -/
def change (which : Keeper → Bool) (f : Waiter → Waiter) (keepers : List Keeper) : List Keeper :=
  keepers.map fun keeper =>
    if which keeper then { keeper with waiter := f keeper.waiter } else keeper

/-- Wakes the first one who sleeps by a bell. -/
def ringOne (bell : Nat) : List Keeper → List Keeper
  | [] => []
  | keeper :: rest =>
    if keeper.bell = bell ∧ keeper.waiter = .asleep then { keeper with waiter := .notified } :: rest
    else keeper :: ringOne bell rest

/-- Wakes all who sleep by one of some bells. -/
def ringAll (bells : List Nat) (keepers : List Keeper) : List Keeper :=
  change (bells.contains ·.bell) Waiters.wake keepers

-- ============================================================ critical sections

/-- Registers a request under a new bell. -/
def register (b : Bells) (message : Message) : Except RegisterFault Bells :=
  match b.pending.register message with
  | .ok pending => .ok ⟨pending, (message.id, b.next) :: b.hung,
      b.keepers ++ [⟨message.id, b.next, .running⟩], b.next + 1⟩
  | .error fault => .error fault

/-- An answer that counts rings the bell in its entry. -/
def deliver (b : Bells) (id : UInt64) (kind : MessageKind) : Bool × Bells :=
  match b.pending.deliver id kind with
  | (true, pending) =>
    (true, { b with
      pending
      keepers := ((b.bell? id).map fun bell => ringOne bell b.keepers).getD b.keepers })
  | (false, pending) => (false, { b with pending })

/-- A shutdown rings the bells in all entries. -/
def abort (b : Bells) : Bells :=
  { b with
    pending := b.pending.abort.2
    keepers := ringAll (b.pending.entries.filterMap fun entry => b.bell? entry.id) b.keepers }

/-- A keeper looks at the table, and sees some news or falls asleep. -/
def look (b : Bells) (keeper : Keeper) : Bells :=
  let waiter : Waiter := if (b.pending.outcome? keeper.id).isSome then .running else .asleep
  { b with keepers := change (·.bell = keeper.bell) (fun _ => waiter) b.keepers }

def stir (b : Bells) (bell : Nat) : Bells :=
  { b with keepers := change (·.bell = bell) Waiters.wake b.keepers }

/-- A keeper lets its request go. -/
def drop (b : Bells) (keeper : Keeper) : Bells :=
  { b with
    pending := b.pending.drop keeper.id
    hung := b.hung.filter (·.1 != keeper.id)
    keepers := b.keepers.filter (·.bell != keeper.bell) }

/-- Whoever sleeps comes to the table only after it was woken, and lets nothing go in the middle of a
wait. -/
def step (b : Bells) : Stroke → Bells
  | .takeId => { b with pending := b.pending.takeId.2 }
  | .register message => (b.register message).toOption.getD b
  | .deliver id kind => (b.deliver id kind).2
  | .abort => b.abort
  | .look bell => (((b.keeper? bell).filter (·.waiter != .asleep)).map b.look).getD b
  | .stir bell => b.stir bell
  | .drop bell => (((b.keeper? bell).filter (·.waiter = .running)).map b.drop).getD b

/-- The bells after a history. -/
def run (strokes : List Stroke) : Bells := strokes.foldl step start

theorem run_append (before after : List Stroke) :
    run (before ++ after) = after.foldl step (run before) :=
  List.foldl_append

/-- The table with its waiters, as they are without bells. -/
def forget (b : Bells) : Waiters := ⟨b.pending, b.keepers.map Keeper.handle⟩

end Bells

-- ============================================================ news

namespace Pending

variable {pending : Pending}

/-- A registration is no news for the others. -/
theorem outcome?_register {message : Message} {next : Pending} {id : UInt64}
    (h : pending.register message = .ok next) (hne : id ≠ message.id) :
    next.outcome? id = pending.outcome? id := by
  unfold outcome?
  rw [shuttingDown_register h, find?_register h, if_neg hne, (register_ok_iff.1 h).1]

theorem outcome?_drop {id other : UInt64} (hne : other ≠ id) :
    (pending.drop id).outcome? other = pending.outcome? other := by
  unfold outcome?
  rw [shuttingDown_drop, find?_drop, if_neg hne]

theorem outcome?_deliver_of_ne {id other : UInt64} (hne : other ≠ id) (kind : MessageKind) :
    (pending.deliver id kind).2.outcome? other = pending.outcome? other := by
  unfold outcome?
  rw [shuttingDown_deliver, find?_deliver, if_neg hne]

/-- An answer that does not count changes nothing. -/
theorem deliver_of_fst {id : UInt64} {kind : MessageKind}
    (h : (pending.deliver id kind).1 = false) : pending.deliver id kind = (false, pending) := by
  unfold deliver at h ⊢
  split
  case h_1 outcome message hkind hfind =>
    rw [hkind, hfind] at h
    cases h
  case h_2 => rfl

/-- An answer that counts is news for the one it is for. -/
theorem isSome_outcome?_of_deliver {id : UInt64} {kind : MessageKind}
    (h : (pending.deliver id kind).1 = true) :
    ((pending.deliver id kind).2.outcome? id).isSome = true := by
  obtain ⟨hkind, message, hfind⟩ := deliver_fst_iff.1 h
  obtain ⟨outcome, houtcome⟩ := Option.isSome_iff_exists.1 hkind
  unfold outcome?
  rw [shuttingDown_deliver, find?_deliver, if_pos rfl, hfind, houtcome]
  split <;> rfl

/-- News stays, whatever else is answered. -/
theorem isSome_outcome?_deliver {other : UInt64} (h : (pending.outcome? other).isSome = true)
    (id : UInt64) (kind : MessageKind) :
    ((pending.deliver id kind).2.outcome? other).isSome = true := by
  by_cases hne : other = id
  · subst hne
    cases hcounts : (pending.deliver other kind).1 with
    | true => exact isSome_outcome?_of_deliver hcounts
    | false => rwa [deliver_of_fst hcounts]
  · rwa [outcome?_deliver_of_ne hne]

end Pending

-- ============================================================ ringing

namespace Bells

variable {keepers : List Keeper} {which : Keeper → Bool} {f : Waiter → Waiter}

theorem mem_change {after : Keeper} (h : after ∈ change which f keepers) :
    ∃ before ∈ keepers, after.id = before.id ∧ after.bell = before.bell ∧
      after.waiter = if which before then f before.waiter else before.waiter := by
  obtain ⟨before, hbefore, rfl⟩ := List.mem_map.1 h
  refine ⟨before, hbefore, ?_⟩
  split <;> exact ⟨rfl, rfl, rfl⟩

theorem map_change {α : Type} {g : Keeper → α}
    (hg : ∀ keeper waiter, g { keeper with waiter } = g keeper) :
    (change which f keepers).map g = keepers.map g := by
  unfold change
  rw [List.map_map]
  refine List.map_congr_left fun keeper _ => ?_
  rw [Function.comp]
  split
  · exact hg keeper _
  · rfl

/-- To change those with an id is what the account knows of. -/
theorem map_handle_change {id : UInt64} (h : ∀ keeper ∈ keepers, which keeper = (keeper.id = id)) :
    (change which f keepers).map Keeper.handle =
      (keepers.map Keeper.handle).map fun handle =>
        if handle.id = id then { handle with waiter := f handle.waiter } else handle := by
  unfold change
  rw [List.map_map, List.map_map]
  refine List.map_congr_left fun keeper hkeeper => ?_
  show (if which keeper then _ else _ : Keeper).handle = if keeper.id = id then _ else keeper.handle
  by_cases hid : keeper.id = id
  · rw [if_pos hid, if_pos (by rw [h keeper hkeeper]; exact hid)]
    rfl
  · rw [if_neg hid, if_neg (by rw [h keeper hkeeper]; exact hid)]

theorem deliver_of_fst {b : Bells} {id : UInt64} {kind : MessageKind}
    (h : (b.pending.deliver id kind).1 = false) : b.deliver id kind = (false, b) := by
  unfold deliver
  rw [Pending.deliver_of_fst h]

/-- Where every bell has one sleeper, to wake the first of them is to wake all. -/
theorem ringOne_eq_change {bell : Nat} (h : (keepers.map Keeper.bell).Nodup) :
    ringOne bell keepers = change (·.bell = bell) Waiters.wake keepers := by
  induction keepers with
  | nil => rfl
  | cons keeper rest ih =>
      rw [List.map_cons, List.nodup_cons] at h
      have hrest := ih h.2
      unfold ringOne change
      rw [List.map_cons]
      by_cases hbell : keeper.bell = bell
      · rw [if_pos (decide_eq_true hbell)]
        by_cases hasleep : keeper.waiter = .asleep
        · -- nobody further back sleeps by the same bell
          have hothers : change (·.bell = bell) Waiters.wake rest = rest := by
            refine (List.map_congr_left fun other hother => if_neg ?_).trans (List.map_id rest)
            rw [decide_eq_true_eq]
            rintro rfl
            exact h.1 (hbell ▸ List.mem_map_of_mem hother)
          rw [if_pos ⟨hbell, hasleep⟩, hasleep]
          exact congrArg _ hothers.symm
        · rw [if_neg fun hboth => hasleep hboth.2, Waiters.wake_of_ne_asleep hasleep, hrest]
          rfl
      · rw [if_neg fun hboth => hbell hboth.1, if_neg (by rw [decide_eq_true_eq]; exact hbell), hrest]
        rfl

end Bells

-- ============================================================ the invariant

/-- The bells agree with the account of the table that knows none of them. -/
structure Tuned (b : Bells) (c : Custody) : Prop where
  represents : Custody.Represents c
  forget : b.forget = c.waiters
  /-- The bell of every keeper hangs in the entry under its id. -/
  hung : ∀ keeper ∈ b.keepers, b.bell? keeper.id = some keeper.bell
  apart : (b.keepers.map Keeper.bell).Nodup
  fresh : ∀ keeper ∈ b.keepers, keeper.bell < b.next
  /-- There is no news for those who sleep. -/
  asleep : ∀ keeper ∈ b.keepers, keeper.waiter = .asleep → b.pending.outcome? keeper.id = none

namespace Tuned

variable {b : Bells} {c : Custody}

theorem pending (h : Tuned b c) : b.pending = c.table := congrArg Waiters.pending h.forget

theorem handles (h : Tuned b c) : b.keepers.map Keeper.handle = c.waiters.handles :=
  congrArg Waiters.handles h.forget

theorem ids (h : Tuned b c) : b.keepers.map Keeper.id = c.live.map Message.id := by
  rw [← h.represents.waiters, ← h.handles, List.map_map]
  rfl

theorem ids_nodup (h : Tuned b c) : (b.keepers.map Keeper.id).Nodup :=
  h.ids ▸ h.represents.nodup

/-- One keeper has one bell and one id. -/
theorem bell_eq_iff (h : Tuned b c) {keeper other : Keeper} (hkeeper : keeper ∈ b.keepers)
    (hother : other ∈ b.keepers) : keeper.bell = other.bell ↔ keeper.id = other.id := by
  constructor
  · intro heq
    rw [List.inj_on_of_nodup_map h.apart hkeeper hother heq]
  · intro heq
    rw [List.inj_on_of_nodup_map h.ids_nodup hkeeper hother heq]

/-- Every keeper finds its entry. -/
theorem find? (h : Tuned b c) {keeper : Keeper} (hkeeper : keeper ∈ b.keepers) :
    ∃ message answer, b.pending.find? keeper.id = some ⟨message, answer⟩ := by
  have hlive : keeper.id ∈ c.live.map Message.id := h.ids ▸ List.mem_map_of_mem hkeeper
  obtain ⟨message, hmessage, hid⟩ := List.mem_map.1 hlive
  obtain ⟨answer, hfind⟩ := h.represents.find? hmessage
  exact ⟨message, answer, by rw [h.pending, ← hid, hfind]⟩

theorem contains (h : Tuned b c) {keeper : Keeper} (hkeeper : keeper ∈ b.keepers) :
    b.pending.contains keeper.id = true := by
  obtain ⟨message, answer, hfind⟩ := h.find? hkeeper
  unfold Pending.contains
  rw [hfind]
  rfl

/-- And every entry has its keeper. -/
theorem exists_keeper (h : Tuned b c) {id : UInt64} (hid : b.pending.contains id = true) :
    ∃ keeper ∈ b.keepers, keeper.id = id := by
  rw [h.pending, h.represents.contains_iff] at hid
  obtain ⟨message, hmessage, rfl⟩ := hid
  exact List.mem_map.1 (h.ids ▸ List.mem_map_of_mem hmessage)

theorem holds (h : Tuned b c) {keeper : Keeper} (hkeeper : keeper ∈ b.keepers) :
    c.holds keeper.id = true := by
  rw [← h.represents.contains_eq_holds, ← h.pending]
  exact h.contains hkeeper

theorem mem_of_keeper? {bell : Nat} {keeper : Keeper} {keep : Keeper → Bool}
    (hfound : (b.keeper? bell).filter keep = some keeper) :
    keeper ∈ b.keepers ∧ keep keeper = true :=
  (Option.filter_eq_some_iff.1 hfound).imp_left List.mem_of_find?_eq_some

-- ============================================================ what the strokes keep

/-- Some change what they do, and the entries may change with it. -/
theorem change (h : Tuned b c) {c' : Custody} {pending : Pending} {which : Keeper → Bool}
    {f : Waiter → Waiter} (hrepresents : Custody.Represents c')
    (hforget : (Bells.forget { b with pending, keepers := Bells.change which f b.keepers }) =
      c'.waiters)
    (hasleep : ∀ keeper ∈ b.keepers,
      (if which keeper then f keeper.waiter else keeper.waiter) = .asleep →
        pending.outcome? keeper.id = none) :
    Tuned { b with pending, keepers := Bells.change which f b.keepers } c' where
  represents := hrepresents
  forget := hforget
  hung after hafter := by
    obtain ⟨before, hbefore, hid, hbell, -⟩ := Bells.mem_change hafter
    rw [hid, hbell]
    exact h.hung before hbefore
  apart := by
    show ((Bells.change which f b.keepers).map Keeper.bell).Nodup
    rw [Bells.map_change fun _ _ => rfl]
    exact h.apart
  fresh after hafter := by
    obtain ⟨before, hbefore, -, hbell, -⟩ := Bells.mem_change hafter
    rw [hbell]
    exact h.fresh before hbefore
  asleep after hafter hwaiter := by
    obtain ⟨before, hbefore, hid, -, hnow⟩ := Bells.mem_change hafter
    rw [hid]
    exact hasleep before hbefore (hnow ▸ hwaiter)

/-- To change the one with a bell is to change the one with its id. -/
theorem handles_change (h : Tuned b c) {keeper : Keeper} (hkeeper : keeper ∈ b.keepers)
    (f : Waiter → Waiter) :
    (Bells.change (·.bell = keeper.bell) f b.keepers).map Keeper.handle =
      (c.waiters.setWaiter keeper.id f).handles := by
  have hsame : ∀ other ∈ b.keepers, decide (other.bell = keeper.bell) = (other.id = keeper.id) := by
    intro other hother
    rw [decide_eq_true_eq, h.bell_eq_iff hother hkeeper]
  rw [Bells.map_handle_change hsame, h.handles]
  rfl

theorem takeId (h : Tuned b c) : Tuned (b.step .takeId) (c.step .takeId) where
  represents := h.represents.step .takeId
  forget := by
    show Waiters.mk b.pending.takeId.2 (b.keepers.map Keeper.handle) = c.waiters.takeId.2
    rw [h.handles, h.pending]
    rfl
  hung := h.hung
  apart := h.apart
  fresh := h.fresh
  asleep := h.asleep

theorem register (h : Tuned b c) (message : Message) :
    Tuned (b.step (.register message)) (c.step (.register message)) := by
  have hrepresents := h.represents.step (.register message)
  unfold Bells.step Bells.register
  dsimp only
  cases hreg : b.pending.register message with
  | error fault =>
      have hfault : c.waiters.register message = .error fault := by
        unfold Waiters.register
        rw [show c.waiters.pending = b.pending from h.pending.symm, hreg]
      have hstep : c.step (.register message) = c := by simp only [Custody.step, hfault]
      rw [hstep]
      exact h
  | ok pending =>
      have htaken : c.waiters.register message =
          .ok ⟨pending, c.waiters.handles ++ [⟨message.id, .running⟩]⟩ := by
        unfold Waiters.register
        rw [show c.waiters.pending = b.pending from h.pending.symm, hreg]
      have hstep : c.step (.register message) =
          ⟨⟨pending, c.waiters.handles ++ [⟨message.id, .running⟩]⟩, c.live ++ [message]⟩ := by
        simp only [Custody.step, htaken]
      rw [hstep] at hrepresents ⊢
      dsimp only [Except.toOption, Option.getD_some]
      -- the id was free, so it is nobody's
      have hfree : ∀ keeper ∈ b.keepers, keeper.id ≠ message.id := by
        rintro keeper hkeeper heq
        have hhas := h.contains hkeeper
        rw [heq, (Pending.register_ok_iff.1 hreg).2.1] at hhas
        cases hhas
      refine ⟨hrepresents, ?_, ?_, ?_, ?_, ?_⟩
      · show Waiters.mk pending ((b.keepers ++ [_]).map Keeper.handle) = _
        rw [List.map_append, h.handles]
        rfl
      · intro keeper hkeeper
        show (((message.id, b.next) :: b.hung).find? (·.1 = keeper.id)).map (·.2) =
          some keeper.bell
        rcases List.mem_append.1 hkeeper with hold | hnew
        · rw [List.find?_cons_of_neg (by simpa using (hfree keeper hold).symm)]
          exact h.hung keeper hold
        · obtain rfl := List.mem_singleton.1 hnew
          rw [List.find?_cons_of_pos (by simp)]
          rfl
      · show ((b.keepers ++ [_]).map Keeper.bell).Nodup
        rw [List.map_append]
        refine List.Nodup.append h.apart (List.nodup_singleton _) ?_
        intro bell hbell hnew
        obtain ⟨keeper, hkeeper, rfl⟩ := List.mem_map.1 hbell
        exact Nat.ne_of_lt (h.fresh keeper hkeeper) (List.mem_singleton.1 hnew)
      · intro keeper hkeeper
        rcases List.mem_append.1 hkeeper with hold | hnew
        · exact Nat.lt_succ_of_lt (h.fresh keeper hold)
        · obtain rfl := List.mem_singleton.1 hnew
          exact Nat.lt_succ_self b.next
      · intro keeper hkeeper hwaiter
        rcases List.mem_append.1 hkeeper with hold | hnew
        · exact (Pending.outcome?_register hreg (hfree keeper hold)).trans
            (h.asleep keeper hold hwaiter)
        · obtain rfl := List.mem_singleton.1 hnew
          cases hwaiter

/-- An answer that counts is for some keeper, and its bell wakes that one. -/
theorem deliver_eq (h : Tuned b c) {id : UInt64} {kind : MessageKind}
    (hcounts : (b.pending.deliver id kind).1 = true) :
    ∃ keeper ∈ b.keepers, keeper.id = id ∧
      (b.deliver id kind) = (true, { b with
        pending := (b.pending.deliver id kind).2
        keepers := Bells.change (·.bell = keeper.bell) Waiters.wake b.keepers }) := by
  obtain ⟨-, message, hfind⟩ := Pending.deliver_fst_iff.1 hcounts
  have hcontains : b.pending.contains id = true := by
    unfold Pending.contains
    rw [hfind]
    rfl
  obtain ⟨keeper, hkeeper, rfl⟩ := h.exists_keeper hcontains
  refine ⟨keeper, hkeeper, rfl, ?_⟩
  unfold Bells.deliver
  rw [show b.pending.deliver keeper.id kind = (true, (b.pending.deliver keeper.id kind).2) from
    Prod.ext hcounts rfl, h.hung keeper hkeeper, ← Bells.ringOne_eq_change h.apart]
  rfl

/-- The one whose answer counts is woken, and it is the only one that its bell can wake. -/
theorem deliver (h : Tuned b c) (id : UInt64) (kind : MessageKind) :
    Tuned (b.step (.deliver id kind)) (c.step (.deliver id kind)) := by
  have hrepresents : Custody.Represents { c with waiters := (c.waiters.deliver id kind).2 } :=
    h.represents.step (.deliver id kind)
  have hpending : c.waiters.pending = b.pending := h.pending.symm
  show Tuned (b.deliver id kind).2 { c with waiters := (c.waiters.deliver id kind).2 }
  cases hcounts : (b.pending.deliver id kind).1 with
  | false =>
      have hwaiters : (c.waiters.deliver id kind).2 = c.waiters := by
        unfold Waiters.deliver
        rw [hpending, Pending.deliver_of_fst hcounts, ← hpending]
      rw [Bells.deliver_of_fst hcounts, hwaiters]
      exact h
  | true =>
      obtain ⟨keeper, hkeeper, rfl, hbells⟩ := h.deliver_eq hcounts
      have hwaiters : (c.waiters.deliver keeper.id kind).2 =
          { c.waiters.setWaiter keeper.id Waiters.wake with
            pending := (b.pending.deliver keeper.id kind).2 } := by
        unfold Waiters.deliver
        rw [hpending, show b.pending.deliver keeper.id kind =
          (true, (b.pending.deliver keeper.id kind).2) from Prod.ext hcounts rfl]
        rfl
      rw [hbells]
      refine h.change hrepresents ?_ fun other hother hwaiter => ?_
      · rw [hwaiters]
        exact congrArg (Waiters.mk _) (h.handles_change hkeeper _)
      · -- whoever still sleeps has another bell, and so another id
        by_cases hbell : other.bell = keeper.bell
        · rw [if_pos (decide_eq_true hbell)] at hwaiter
          exact absurd hwaiter (Waiters.wake_ne_asleep _)
        · rw [if_neg (by rw [decide_eq_true_eq]; exact hbell)] at hwaiter
          rw [Pending.outcome?_deliver_of_ne (mt (h.bell_eq_iff hother hkeeper).2 hbell)]
          exact h.asleep other hother hwaiter

/-- A shutdown reaches everybody, because everybody's bell hangs in some entry. -/
theorem abort (h : Tuned b c) : Tuned (b.step .abort) (c.step .abort) := by
  have hall : ∀ keeper ∈ b.keepers,
      (b.pending.entries.filterMap fun entry => b.bell? entry.id).contains keeper.bell = true := by
    intro keeper hkeeper
    obtain ⟨message, answer, hfind⟩ := h.find? hkeeper
    refine List.contains_iff_mem.2 (List.mem_filterMap.2
      ⟨⟨message, answer⟩, List.mem_of_find?_eq_some hfind, ?_⟩)
    rw [Pending.id_of_find? hfind]
    exact h.hung keeper hkeeper
  refine h.change (h.represents.step .abort) ?_ fun keeper hkeeper hwaiter => ?_
  · show Waiters.mk b.pending.abort.2 ((Bells.ringAll _ _).map Keeper.handle) = c.waiters.abort.2
    have hwoken : (Bells.ringAll (b.pending.entries.filterMap fun entry => b.bell? entry.id)
        b.keepers).map Keeper.handle = (b.keepers.map Keeper.handle).map fun handle =>
          { handle with waiter := Waiters.wake handle.waiter } := by
      unfold Bells.ringAll Bells.change
      rw [List.map_map, List.map_map]
      refine List.map_congr_left fun keeper hkeeper => ?_
      rw [Function.comp, if_pos (hall keeper hkeeper)]
      rfl
    rw [hwoken, h.handles, h.pending]
    rfl
  · rw [if_pos (hall keeper hkeeper)] at hwaiter
    exact absurd hwaiter (Waiters.wake_ne_asleep _)

/-- Whoever falls asleep has just seen that there is no news. -/
theorem look (h : Tuned b c) {keeper : Keeper} (hkeeper : keeper ∈ b.keepers) :
    Tuned (b.look keeper) (c.step (.look keeper.id)) := by
  have hrepresents := h.represents.step (.look keeper.id)
  have hstep : c.step (.look keeper.id) =
      { c with waiters := (c.waiters.look keeper.id).2 } := by
    simp only [Custody.step, h.holds hkeeper, if_true]
  rw [hstep] at hrepresents ⊢
  refine h.change hrepresents ?_ fun other hother hwaiter => ?_
  · show Waiters.mk b.pending _ = (c.waiters.look keeper.id).2
    rw [h.handles_change hkeeper]
    unfold Waiters.look
    rw [show c.waiters.pending = b.pending from h.pending.symm]
    cases b.pending.outcome? keeper.id <;> rw [h.pending] <;> rfl
  · by_cases hbell : other.bell = keeper.bell
    · rw [if_pos (decide_eq_true hbell)] at hwaiter
      rw [(h.bell_eq_iff hother hkeeper).1 hbell]
      cases hnews : b.pending.outcome? keeper.id with
      | none => rfl
      | some outcome =>
          rw [hnews] at hwaiter
          cases hwaiter
    · rw [if_neg (by rw [decide_eq_true_eq]; exact hbell)] at hwaiter
      exact h.asleep other hother hwaiter

theorem stir (h : Tuned b c) {keeper : Keeper} (hkeeper : keeper ∈ b.keepers) :
    Tuned (b.stir keeper.bell) (c.step (.stir keeper.id)) := by
  refine h.change (h.represents.step (.stir keeper.id)) ?_ fun other hother hwaiter => ?_
  · show Waiters.mk b.pending _ = c.waiters.stir keeper.id
    rw [h.handles_change hkeeper, h.pending]
    rfl
  · by_cases hbell : other.bell = keeper.bell
    · rw [if_pos (decide_eq_true hbell)] at hwaiter
      exact absurd hwaiter (Waiters.wake_ne_asleep _)
    · rw [if_neg (by rw [decide_eq_true_eq]; exact hbell)] at hwaiter
      exact h.asleep other hother hwaiter

theorem drop (h : Tuned b c) {keeper : Keeper} (hkeeper : keeper ∈ b.keepers) :
    Tuned (b.drop keeper) (c.step (.drop keeper.id)) := by
  have hrepresents := h.represents.step (.drop keeper.id)
  have hstep : c.step (.drop keeper.id) =
      ⟨c.waiters.drop keeper.id, c.live.eraseP (·.id = keeper.id)⟩ := by
    simp only [Custody.step, h.holds hkeeper, if_true]
  rw [hstep] at hrepresents ⊢
  have hleft : b.keepers.filter (·.bell != keeper.bell) = b.keepers.filter (·.id != keeper.id) := by
    refine List.filter_congr fun other hother => ?_
    rw [Bool.eq_iff_iff, bne_iff_ne, bne_iff_ne]
    exact not_congr (h.bell_eq_iff hother hkeeper)
  have hother : ∀ other ∈ b.keepers.filter (·.bell != keeper.bell),
      other ∈ b.keepers ∧ other.id ≠ keeper.id := by
    intro other hother
    rw [hleft] at hother
    exact ⟨(List.mem_filter.1 hother).1, bne_iff_ne.1 (List.mem_filter.1 hother).2⟩
  refine ⟨hrepresents, ?_, fun other hmem => ?_, ?_, fun other hmem => ?_,
    fun other hmem hwaiter => ?_⟩
  · show Waiters.mk (b.pending.drop keeper.id) ((b.keepers.filter _).map Keeper.handle) =
      c.waiters.drop keeper.id
    rw [hleft, h.pending]
    unfold Waiters.drop
    rw [← h.handles, List.filter_map]
    rfl
  · have hkept : (b.drop keeper).bell? other.id = b.bell? other.id := by
      unfold Bells.bell? Bells.drop
      rw [List.find?_filter]
      congr 2
      funext entry
      by_cases hentry : entry.1 = other.id <;> simp [hentry, (hother other hmem).2]
    exact hkept.trans (h.hung other (hother other hmem).1)
  · exact h.apart.sublist ((List.filter_sublist).map _)
  · exact h.fresh other (hother other hmem).1
  · exact (Pending.outcome?_drop (hother other hmem).2).trans
      (h.asleep other (hother other hmem).1 hwaiter)

/-- Every stroke is a deed of the table, or none. -/
theorem step (h : Tuned b c) (stroke : Stroke) :
    ∃ deeds : List Deed, Tuned (b.step stroke) (deeds.foldl Custody.step c) := by
  cases stroke with
  | takeId => exact ⟨[.takeId], h.takeId⟩
  | register message => exact ⟨[.register message], h.register message⟩
  | deliver id kind => exact ⟨[.deliver id kind], h.deliver id kind⟩
  | abort => exact ⟨[.abort], h.abort⟩
  | look bell =>
      unfold Bells.step
      dsimp only
      cases hfound : (b.keeper? bell).filter (·.waiter != .asleep) with
      | none => exact ⟨[], h⟩
      | some keeper => exact ⟨[.look keeper.id], h.look (mem_of_keeper? hfound).1⟩
  | stir bell =>
      cases hfound : b.keeper? bell with
      | none =>
          -- nobody sleeps by that bell
          have hsame : Bells.change (·.bell = bell) Waiters.wake b.keepers = b.keepers := by
            refine (List.map_congr_left fun keeper hkeeper => if_neg ?_).trans (List.map_id _)
            have hother := List.find?_eq_none.1 hfound keeper hkeeper
            exact hother
          exact ⟨[], by rwa [Bells.step, Bells.stir, hsame]⟩
      | some keeper =>
          have hbell : keeper.bell = bell := by simpa using List.find?_some hfound
          exact ⟨[.stir keeper.id], hbell ▸ h.stir (List.mem_of_find?_eq_some hfound)⟩
  | drop bell =>
      unfold Bells.step
      dsimp only
      cases hfound : (b.keeper? bell).filter (·.waiter = .running) with
      | none => exact ⟨[], h⟩
      | some keeper => exact ⟨[.drop keeper.id], h.drop (mem_of_keeper? hfound).1⟩

theorem foldl_step (h : Tuned b c) (strokes : List Stroke) :
    ∃ deeds : List Deed, Tuned (strokes.foldl Bells.step b) (deeds.foldl Custody.step c) := by
  induction strokes generalizing b c with
  | nil => exact ⟨[], h⟩
  | cons stroke rest ih =>
      obtain ⟨first, hfirst⟩ := h.step stroke
      obtain ⟨later, hlater⟩ := ih hfirst
      exact ⟨first ++ later, by rwa [List.foldl_append]⟩

end Tuned

theorem tuned_start : Tuned Bells.start Custody.start where
  represents := Custody.represents_start
  forget := rfl
  hung _ hkeeper := by cases hkeeper
  apart := List.nodup_nil
  fresh _ hkeeper := by cases hkeeper
  asleep _ hkeeper := by cases hkeeper

/-- Every history with bells is one of the table with its waiters. -/
theorem tuned_run (strokes : List Stroke) :
    ∃ deeds, Tuned (Bells.run strokes) (Custody.run deeds) :=
  tuned_start.foldl_step strokes

-- ============================================================ news that has come

/-- Whoever holds the request with a bell has news, now and for as long as it is held. -/
structure Informed (bell : Nat) (b : Bells) : Prop where
  old : bell < b.next
  news : ∀ keeper ∈ b.keepers, keeper.bell = bell →
    (b.pending.outcome? keeper.id).isSome = true

namespace Informed

variable {bell : Nat} {b : Bells} {c : Custody}

/-- Each keeper has been one before, and whoever had news still has it. -/
theorem of_keepers (h : Informed bell b) {b' : Bells} (hnext : b.next ≤ b'.next)
    (hkeepers : ∀ after ∈ b'.keepers, after.bell = bell → ∃ before ∈ b.keepers,
      before.bell = bell ∧ ((b.pending.outcome? before.id).isSome = true →
        (b'.pending.outcome? after.id).isSome = true)) : Informed bell b' := by
  refine ⟨Nat.lt_of_lt_of_le h.old hnext, fun after hafter hbell => ?_⟩
  obtain ⟨before, hbefore, hsame, hkept⟩ := hkeepers after hafter hbell
  exact hkept (h.news before hbefore hsame)

/-- Some change what they do, and no news is lost. -/
theorem change (h : Informed bell b) {pending : Pending} {which : Keeper → Bool} {f : Waiter → Waiter}
    (hkept : ∀ id, (b.pending.outcome? id).isSome = true → (pending.outcome? id).isSome = true) :
    Informed bell { b with pending, keepers := Bells.change which f b.keepers } := by
  refine h.of_keepers (Nat.le_refl _) fun after hafter hbell => ?_
  obtain ⟨before, hbefore, hid, hsame, -⟩ := Bells.mem_change hafter
  exact ⟨before, hbefore, hsame ▸ hbell, fun hnews => hid ▸ hkept before.id hnews⟩

theorem step (h : Informed bell b) (htuned : Tuned b c) (stroke : Stroke) :
    Informed bell (b.step stroke) := by
  cases stroke with
  | takeId => exact ⟨h.old, h.news⟩
  | register message =>
      unfold Bells.step Bells.register
      dsimp only
      cases hreg : b.pending.register message with
      | error fault => exact h
      | ok pending =>
          refine h.of_keepers (Nat.le_succ _) fun after hafter hbell => ?_
          rcases List.mem_append.1 hafter with hold | hnew
          · refine ⟨after, hold, hbell, fun hnews => ?_⟩
            have hne : after.id ≠ message.id := by
              intro heq
              have hhas := htuned.contains hold
              rw [heq, (Pending.register_ok_iff.1 hreg).2.1] at hhas
              cases hhas
            show (pending.outcome? after.id).isSome = true
            rwa [Pending.outcome?_register hreg hne]
          · -- the new bell has never been used
            obtain rfl := List.mem_singleton.1 hnew
            exact absurd hbell (Nat.ne_of_gt h.old)
  | deliver id kind =>
      show Informed bell (b.deliver id kind).2
      cases hcounts : (b.pending.deliver id kind).1 with
      | false =>
          rw [Bells.deliver_of_fst hcounts]
          exact h
      | true =>
          obtain ⟨keeper, -, -, hbells⟩ := htuned.deliver_eq hcounts
          rw [hbells]
          exact h.change fun _ hnews => Pending.isSome_outcome?_deliver hnews id kind
  | abort => exact h.change fun id _ => by rw [Pending.outcome?_of_down rfl]; rfl
  | look bell =>
      unfold Bells.step
      dsimp only
      cases (b.keeper? bell).filter (·.waiter != .asleep) with
      | none => exact h
      | some keeper => exact h.change fun _ hnews => hnews
  | stir bell => exact h.change fun _ hnews => hnews
  | drop bell =>
      unfold Bells.step
      dsimp only
      cases hfound : (b.keeper? bell).filter (·.waiter = .running) with
      | none => exact h
      | some keeper =>
          refine h.of_keepers (Nat.le_refl _) fun after hafter hbell => ?_
          obtain ⟨hold, hne⟩ := List.mem_filter.1 hafter
          refine ⟨after, hold, hbell, fun hnews => ?_⟩
          have hother : after.id ≠ keeper.id :=
            mt (htuned.bell_eq_iff hold (Tuned.mem_of_keeper? hfound).1).2 (bne_iff_ne.1 hne)
          show ((b.pending.drop keeper.id).outcome? after.id).isSome = true
          rwa [Pending.outcome?_drop hother]

theorem foldl_step (h : Informed bell b) (htuned : Tuned b c) (strokes : List Stroke) :
    Informed bell (strokes.foldl Bells.step b) := by
  induction strokes generalizing b c with
  | nil => exact h
  | cons stroke rest ih =>
      obtain ⟨deeds, hnext⟩ := htuned.step stroke
      exact ih (h.step htuned stroke) hnext

end Informed

/-- An answer that counts is news for the one keeper of the request. -/
theorem Tuned.informed_deliver {b : Bells} {c : Custody} (h : Tuned b c) {id : UInt64}
    {kind : MessageKind} (hcounts : (b.deliver id kind).1 = true) :
    ∃ keeper ∈ b.keepers, keeper.id = id ∧ Informed keeper.bell (b.step (.deliver id kind)) := by
  have hpending : (b.pending.deliver id kind).1 = true := by
    cases hnot : (b.pending.deliver id kind).1 with
    | true => rfl
    | false =>
        rw [Bells.deliver_of_fst hnot] at hcounts
        cases hcounts
  obtain ⟨keeper, hkeeper, rfl, hbells⟩ := h.deliver_eq hpending
  refine ⟨keeper, hkeeper, rfl, ?_⟩
  show Informed keeper.bell (b.deliver keeper.id kind).2
  rw [hbells]
  refine ⟨h.fresh keeper hkeeper, fun after hafter hbell => ?_⟩
  obtain ⟨before, hbefore, hid, hsame, -⟩ := Bells.mem_change hafter
  rw [hid, (h.bell_eq_iff hbefore hkeeper).1 (hsame.symm.trans hbell)]
  exact Pending.isSome_outcome?_of_deliver hpending

/-- A shutdown is news for everybody who holds a request. -/
theorem Tuned.informed_abort {b : Bells} {c : Custody} (h : Tuned b c) {keeper : Keeper}
    (hkeeper : keeper ∈ b.keepers) : Informed keeper.bell (b.step .abort) := by
  refine ⟨h.fresh keeper hkeeper, fun after _ _ => ?_⟩
  show (b.pending.abort.2.outcome? after.id).isSome = true
  rw [Pending.outcome?_of_down rfl]
  rfl

-- ============================================================ the result

/-- Who holds the request with a bell does not sleep, and the next look ends the wait. -/
def Bells.IsUp (b : Bells) (bell : Nat) : Prop :=
  ∀ keeper ∈ b.keepers, keeper.bell = bell →
    keeper.waiter ≠ .asleep ∧ (b.pending.outcome? keeper.id).isSome = true

theorem Informed.isUp {b : Bells} {c : Custody} {bell : Nat} (h : Informed bell b) (htuned : Tuned b c) :
    b.IsUp bell := by
  intro keeper hkeeper hbell
  have hnews := h.news keeper hkeeper hbell
  refine ⟨fun hasleep => ?_, hnews⟩
  rw [htuned.asleep keeper hkeeper hasleep] at hnews
  cases hnews

/-- What is true after every history, and stays true whatever is done later. -/
structure Prompt (strokes : List Stroke) : Prop where
  /-- Whoever sleeps has its bell in the entry under its id, there is no answer in it, and no shutdown
  has begun. -/
  asleep : ∀ keeper ∈ (Bells.run strokes).keepers, keeper.waiter = .asleep →
    (Bells.run strokes).pending.shuttingDown = false ∧
    (Bells.run strokes).bell? keeper.id = some keeper.bell ∧
    ∃ message, (Bells.run strokes).pending.find? keeper.id = some ⟨message, none⟩
  /-- Bells are told apart, and so are ids. -/
  apart : ((Bells.run strokes).keepers.map Keeper.bell).Nodup ∧
    ((Bells.run strokes).keepers.map Keeper.id).Nodup
  /-- When an answer counts, the one who waits for it never sleeps again. -/
  answered : ∀ id kind, ((Bells.run strokes).deliver id kind).1 = true →
    ∃ keeper ∈ (Bells.run strokes).keepers, keeper.id = id ∧
      ∀ later, (Bells.run (strokes ++ .deliver id kind :: later)).IsUp keeper.bell
  /-- When a shutdown begins, nobody who holds a request ever sleeps again. -/
  aborted : ∀ keeper ∈ (Bells.run strokes).keepers, ∀ later,
    (Bells.run (strokes ++ .abort :: later)).IsUp keeper.bell
  /-- Without its bells it is a history of the table with its waiters. -/
  history : ∃ deeds, (Bells.run strokes).forget = (Custody.run deeds).waiters

/-- No keeper sleeps through an answer or a shutdown, in whatever order the critical sections of any
number of requests come, and whatever ids are given out again. -/
theorem prompt_run (strokes : List Stroke) : Prompt strokes := by
  obtain ⟨deeds, htuned⟩ := tuned_run strokes
  have hlater : ∀ {bell : Nat} (stroke : Stroke) (later : List Stroke),
      Informed bell ((Bells.run strokes).step stroke) →
        (Bells.run (strokes ++ stroke :: later)).IsUp bell := by
    intro bell stroke later hinformed
    obtain ⟨next, hnext⟩ := htuned.step stroke
    obtain ⟨all, hall⟩ := hnext.foldl_step later
    rw [Bells.run_append]
    exact (hinformed.foldl_step hnext later).isUp hall
  refine ⟨fun keeper hkeeper hasleep => ?_, ⟨htuned.apart, htuned.ids_nodup⟩,
    fun id kind hcounts => ?_, fun keeper hkeeper later => ?_, ⟨deeds, htuned.forget⟩⟩
  · obtain ⟨message, answer, hfind⟩ := htuned.find? hkeeper
    have hnone := htuned.asleep keeper hkeeper hasleep
    rw [Pending.outcome?_of_find? hfind] at hnone
    cases hdown : (Bells.run strokes).pending.shuttingDown with
    | true =>
        rw [hdown] at hnone
        cases hnone
    | false =>
        rw [hdown] at hnone
        obtain rfl := Option.map_eq_none_iff.1 hnone
        exact ⟨rfl, htuned.hung keeper hkeeper, message, hfind⟩
  · obtain ⟨keeper, hkeeper, hid, hinformed⟩ := htuned.informed_deliver hcounts
    exact ⟨keeper, hkeeper, hid, fun later => hlater _ later hinformed⟩
  · exact hlater .abort later (htuned.informed_abort hkeeper)

/-- The same id twice: the first keeper sleeps, is woken by its answer and lets go; the second one makes
a bell of its own and is woken by a shutdown. -/
example :
    let message : Message := ⟨7, .hydrateFile, 500, "cat", "a"⟩
    let first := [.register message, .look 0, .deliver 7 .success]
    let second := [.look 0, .drop 0, .register message, .look 1]
    (Bells.run first).keepers = [⟨7, 0, .notified⟩] ∧
      (Bells.run (first ++ second)).keepers = [⟨7, 1, .asleep⟩] ∧
      (Bells.run (first ++ second ++ [.abort])).keepers = [⟨7, 1, .notified⟩] := by
  decide

end Hydration
