/-
The ids of requests: each is given out once, as long as there are any left, and so no request ever
meets another one of its id in the table.

# Given out in order

Ids are the numbers from one on, in the order in which they are given out (`Numbered`). A word holds
them all while fewer than 2^64 have been given out, and then they are distinct.

# Whose they are

From the moment when it takes its id until it lets its request go, a strand is the only one with that
id (`Apart`). A request is refused as a duplicate only if the table has its id, hence only if another
strand holds it, and there is none.
-/
import Hydration.Proofs.Traffic.Ownership
import Mathlib.Algebra.Group.Nat.Defs
import Mathlib.Data.List.Nodup
import Mathlib.Data.List.Permutation

namespace Hydration

-- ============================================================ ids in the log

def Incident.issued? : Incident → Option UInt64
  | issued id => some id
  | _ => none

/-- The ids that have been given out, in order. -/
def issuedIds (log : List Incident) : List UInt64 := log.filterMap Incident.issued?

@[simp] theorem issuedIds_append (before after : List Incident) :
    issuedIds (before ++ after) = issuedIds before ++ issuedIds after :=
  List.filterMap_append

/-- An id that was given out stays so. -/
theorem mem_issuedIds_append {id : UInt64} {log : List Incident} (h : id ∈ issuedIds log)
    (news : List Incident) : id ∈ issuedIds (log ++ news) := by
  rw [issuedIds_append]
  exact List.mem_append_left _ h

@[simp] theorem Commission.issuedIds_incidents (c : Commission) (n : Nat) :
    issuedIds (c.incidents n) = [] := by
  unfold incidents
  split <;> rfl

-- ============================================================ whose they are

/-- The id of an errand that has taken one and has not let its request go. -/
def Errand.id? : Errand → Option UInt64
  | register _ message | send _ message => some message.id
  | await id | release id _ => some id
  | number _ _ | done _ => none

def Strand.id? (strand : Strand) : Option UInt64 := strand.task.errand?.bind Errand.id?

def Traffic.id? (t : Traffic) (n : Nat) : Option UInt64 := t.strands[n]?.bind Strand.id?

theorem Strand.id?_of_errand? {task : Task} {out : Bool} {e : Errand}
    (h : task.errand? = some e) : (Strand.mk task out).id? = e.id? := by
  simp [id?, h]

@[simp] theorem Strand.id?_withErrand (task : Task) (out : Bool) (e : Errand) :
    (Strand.mk (task.withErrand e) out).id? = e.id? :=
  id?_of_errand? (task.errand?_withErrand e)

/-- A commission has no id when it begins. -/
theorem Commission.id?_errand (c : Commission) : c.errand.id? = none := by
  unfold errand Errand.start
  split <;> rfl

theorem Errand.id?_of_held? {e : Errand} {id : UInt64} (h : e.held? = some id) :
    e.id? = some id := by
  cases e <;> first | exact h | cases h

/-- What a strand holds bears its id. -/
theorem Traffic.id?_of_held? {t : Traffic} {n : Nat} {id : UInt64} (h : t.held? n = some id) :
    t.id? n = some id := by
  obtain ⟨strand, hn, hheld⟩ := Option.bind_eq_some_iff.1 h
  obtain ⟨e, he, hid⟩ := Option.bind_eq_some_iff.1 hheld
  refine Option.bind_eq_some_iff.2 ⟨strand, hn, ?_⟩
  exact Option.bind_eq_some_iff.2 ⟨e, he, Errand.id?_of_held? hid⟩

/-- A rule takes a new id for a strand that has none, or takes none. -/
theorem Strand.Step.id_cases {policy : UnreachablePolicy} {n : Nat} {table table' : Pending}
    {active active' : Nat} {strand strand' : Strand} {incidents : List Incident}
    (h : Step policy n table active strand table' active' strand' incidents) :
    (issuedIds incidents = [table.nextId] ∧ table'.nextId = table.nextId + 1 ∧
        strand'.id? = some table.nextId) ∨
      (issuedIds incidents = [] ∧ table'.nextId = table.nextId ∧
        ∀ id, strand'.id? = some id → strand.id? = some id) := by
  cases h with
  | number _ _ _ _ _ he => exact .inl ⟨rfl, rfl, id?_withErrand _ _ _⟩
  | commission _ access ruling out c =>
      refine .inr ⟨c.issuedIds_incidents n, rfl, fun id hid => ?_⟩
      rw [show (Strand.mk (.call access (.errand c.errand)) out).id? = c.errand.id? from rfl,
        c.id?_errand] at hid
      cases hid
  | register _ _ _ _ _ _ he hnext =>
      refine .inr ⟨rfl, Pending.nextId_register hnext, fun id hid => ?_⟩
      rw [id?_withErrand] at hid
      rw [id?_of_errand? he]
      exact hid
  | refuse _ _ _ _ _ _ he _ | sent _ _ _ _ he | unsent _ _ _ _ _ he | wake _ _ _ _ _ he _
  | release _ _ _ _ _ he =>
      refine .inr ⟨rfl, rfl, fun id hid => ?_⟩
      rw [id?_withErrand] at hid
      rw [id?_of_errand? he]
      first | exact hid | cases hid
  | enter | rule | turn | answered | wait | finish | leave => exact .inr ⟨rfl, rfl, fun _ h => h⟩

/-- From outside an id is taken, or none is. -/
theorem Outside.Step.id_cases {active : Nat} {table table' : Pending}
    {closing closing' : Closing} {incidents : List Incident}
    (h : Step active table closing table' closing' incidents) :
    (issuedIds incidents = [table.nextId] ∧ table'.nextId = table.nextId + 1) ∨
      (issuedIds incidents = [] ∧ table'.nextId = table.nextId) := by
  cases h with
  | issue => exact .inl ⟨rfl, rfl⟩
  | deliver => exact .inr ⟨rfl, Pending.nextId_deliver _ _⟩
  | idle | shutDown | check | unlisten | drain | look | release => exact .inr ⟨rfl, rfl⟩

-- ============================================================ given out in order

/-- The id that is given out after so many others. -/
def idAfter (count : Nat) : UInt64 := .ofNat (count + 1)

/-- The ids that have been given out are the first ones, and the next one is next. -/
structure Numbered (t : Traffic) : Prop where
  issued : issuedIds t.log = (List.range (issuedIds t.log).length).map idAfter
  next : t.pending.nextId = idAfter (issuedIds t.log).length

namespace Numbered

variable {t next : Traffic}

theorem issue (h : Numbered t) (hissued : issuedIds next.log = issuedIds t.log ++ [t.pending.nextId])
    (hnext : next.pending.nextId = t.pending.nextId + 1) : Numbered next := by
  have hlength : (issuedIds next.log).length = (issuedIds t.log).length + 1 := by
    rw [hissued, List.length_append, List.length_singleton]
  refine ⟨?_, ?_⟩
  · rw [hlength, List.range_succ, List.map_append, ← h.issued, hissued, h.next]
    rfl
  · rw [hlength, hnext, h.next]
    exact (UInt64.ofNat_add _ 1).symm

theorem keep (h : Numbered t) (hissued : issuedIds next.log = issuedIds t.log)
    (hnext : next.pending.nextId = t.pending.nextId) : Numbered next :=
  ⟨by rw [hissued]; exact h.issued, by rw [hissued, hnext]; exact h.next⟩

theorem step (h : Numbered t) {move : Move} (hstep : t.Step move next) : Numbered next := by
  cases hstep with
  | strand n before after incidents hn hstep hstrands hclosing hlog =>
      rcases hstep.id_cases with ⟨hissued, hnext, -⟩ | ⟨hissued, hnext, -⟩
      · exact h.issue (by rw [hlog, issuedIds_append, hissued]) hnext
      · exact h.keep (by rw [hlog, issuedIds_append, hissued, List.append_nil]) hnext
  | arrive access hpending hactive hstrands hclosing hlog =>
      exact h.keep (by rw [hlog]) (by rw [hpending])
  | request c hmove hpending hactive hstrands hclosing hlog =>
      exact h.keep (by simp [hlog]) (by rw [hpending])
  | outside incidents hstep hactive hstrands hlog =>
      rcases hstep.id_cases with ⟨hissued, hnext⟩ | ⟨hissued, hnext⟩
      · exact h.issue (by rw [hlog, issuedIds_append, hissued]) hnext
      · exact h.keep (by rw [hlog, issuedIds_append, hissued, List.append_nil]) hnext

end Numbered

theorem numbered_run (config : Config) (moves : List Move) :
    Numbered ((Traffic.start config).run moves) := by
  induction moves using List.reverseRecOn with
  | nil => exact ⟨rfl, rfl⟩
  | append_singleton moves move ih =>
      rw [Traffic.run_concat]
      exact ih.step (Traffic.step_step _ move)

theorem idAfter_injOn {first second : Nat} (hfirst : first + 1 < 2 ^ 64)
    (hsecond : second + 1 < 2 ^ 64) (h : idAfter first = idAfter second) : first = second := by
  have hnat := congrArg UInt64.toNat h
  unfold idAfter at hnat
  rw [UInt64.toNat_ofNat_of_lt' hfirst, UInt64.toNat_ofNat_of_lt' hsecond] at hnat
  omega

/-- Fewer than 2^64 ids are distinct. -/
theorem Numbered.nodup {t : Traffic} (h : Numbered t) (hcount : (issuedIds t.log).length < 2 ^ 64) :
    (issuedIds t.log).Nodup := by
  rw [h.issued]
  refine List.Nodup.map_on (fun first hfirst second hsecond heq => ?_) List.nodup_range
  have hfirst := List.mem_range.1 hfirst
  have hsecond := List.mem_range.1 hsecond
  exact idAfter_injOn (by omega) (by omega) heq

/-- And the next one is none of them. -/
theorem Numbered.fresh {t : Traffic} (h : Numbered t)
    (hcount : (issuedIds t.log).length + 1 < 2 ^ 64) : t.pending.nextId ∉ issuedIds t.log := by
  rw [h.next, h.issued]
  intro hmem
  obtain ⟨earlier, hearlier, heq⟩ := List.mem_map.1 hmem
  have hearlier := List.mem_range.1 hearlier
  rw [List.length_map, List.length_range] at heq
  have hsame := idAfter_injOn (by omega) (by omega) heq
  omega

-- ============================================================ no two strands with an id

/-- The ids that strands have were given out, and no two strands have the same. -/
structure Apart (t : Traffic) : Prop where
  known : ∀ n id, t.id? n = some id → id ∈ issuedIds t.log
  alone : ∀ m n id, t.id? m = some id → t.id? n = some id → m = n

namespace Apart

variable {t next : Traffic}

/-- Where no strand comes to an id, nothing changes. -/
theorem keep (h : Apart t) (hissued : ∀ id ∈ issuedIds t.log, id ∈ issuedIds next.log)
    (hids : ∀ n id, next.id? n = some id → t.id? n = some id) : Apart next :=
  ⟨fun n id hn => hissued id (h.known n id (hids n id hn)),
    fun m n id hm hn => h.alone m n id (hids m id hm) (hids n id hn)⟩

/-- An id that was not given out before is that of the strand that takes it alone. -/
theorem take (h : Apart t) (k : Nat) {new : UInt64} (hnew : new ∉ issuedIds t.log)
    (hissued : issuedIds next.log = issuedIds t.log ++ [new])
    (hids : ∀ n id, next.id? n = some id → (n = k ∧ id = new) ∨ t.id? n = some id) :
    Apart next := by
  refine ⟨fun n id hn => ?_, fun m n id hm hn => ?_⟩
  · rw [hissued]
    rcases hids n id hn with ⟨-, rfl⟩ | hold
    · exact List.mem_append_right _ (List.mem_singleton_self _)
    · exact List.mem_append_left _ (h.known n id hold)
  · rcases hids m id hm with ⟨rfl, rfl⟩ | hmold <;> rcases hids n _ hn with ⟨rfl, hid⟩ | hnold
    · rfl
    · exact absurd (h.known n _ hnold) hnew
    · exact absurd (hid ▸ h.known m _ hmold) hnew
    · exact h.alone m n id hmold hnold

/-- A strand that is added has no id. -/
theorem id?_concat {strand : Strand} (hstrands : next.strands = t.strands ++ [strand])
    (hnone : strand.id? = none) {n : Nat} {id : UInt64} (hn : next.id? n = some id) :
    t.id? n = some id := by
  obtain ⟨found, hfound, hid⟩ := Option.bind_eq_some_iff.1 hn
  rw [hstrands] at hfound
  rcases Nat.lt_or_ge n t.strands.length with hlt | hge
  · rw [List.getElem?_append_left hlt] at hfound
    exact Option.bind_eq_some_iff.2 ⟨found, hfound, hid⟩
  · rw [List.getElem?_append_right hge] at hfound
    rw [List.mem_singleton.1 (List.mem_of_getElem? hfound), hnone] at hid
    cases hid

/-- When one strand moves, the others keep their ids. -/
theorem id?_set {k : Nat} {before after : Strand} (hk : t.strands[k]? = some before)
    (hstrands : next.strands = t.strands.set k after) {n : Nat} {id : UInt64}
    (hn : next.id? n = some id) : (n = k ∧ after.id? = some id) ∨ (n ≠ k ∧ t.id? n = some id) := by
  obtain ⟨found, hfound, hid⟩ := Option.bind_eq_some_iff.1 hn
  rw [hstrands] at hfound
  by_cases heq : n = k
  · subst heq
    obtain ⟨hlt, -⟩ := List.getElem?_eq_some_iff.1 hk
    rw [List.getElem?_set_self hlt] at hfound
    cases hfound
    exact .inl ⟨rfl, hid⟩
  · rw [List.getElem?_set_ne (Ne.symm heq)] at hfound
    exact .inr ⟨heq, Option.bind_eq_some_iff.2 ⟨found, hfound, hid⟩⟩

theorem step (h : Apart t) (hnumbered : Numbered t) {move : Move} (hstep : t.Step move next)
    (hcount : (issuedIds next.log).length < 2 ^ 64) : Apart next := by
  cases hstep with
  | strand k before after incidents hk hstep hstrands hclosing hlog =>
      rw [hlog, issuedIds_append] at hcount
      rcases hstep.id_cases with ⟨hissued, -, hnew⟩ | ⟨hissued, -, hold⟩
      · rw [hissued, List.length_append, List.length_singleton] at hcount
        refine h.take k (hnumbered.fresh hcount) (by rw [hlog, issuedIds_append, hissued])
          fun n id hn => ?_
        rcases id?_set hk hstrands hn with ⟨rfl, hid⟩ | ⟨-, hid⟩
        · rw [hnew] at hid
          exact .inl ⟨rfl, (Option.some.inj hid).symm⟩
        · exact .inr hid
      · refine h.keep (fun id hid => ?_) fun n id hn => ?_
        · rw [hlog, issuedIds_append]
          exact List.mem_append_left _ hid
        · rcases id?_set hk hstrands hn with ⟨rfl, hid⟩ | ⟨-, hid⟩
          · exact Option.bind_eq_some_iff.2 ⟨before, hk, hold id hid⟩
          · exact hid
  | arrive access hpending hactive hstrands hclosing hlog =>
      refine h.keep (fun id hid => by rw [hlog]; exact hid) fun n id hn => ?_
      exact id?_concat hstrands rfl hn
  | request c hmove hpending hactive hstrands hclosing hlog =>
      have hnone : (Strand.mk (.errand c.errand) false).id? = none := c.id?_errand
      refine h.keep (fun id hid => by simpa [hlog] using hid) fun n id hn => ?_
      exact id?_concat hstrands hnone hn
  | outside incidents hstep hactive hstrands hlog =>
      refine h.keep (fun id hid => ?_) fun n id hn => ?_
      · rw [hlog, issuedIds_append]
        exact List.mem_append_left _ hid
      · unfold Traffic.id? at hn
        rw [hstrands] at hn
        exact hn

end Apart

/-- The log never forgets an id. -/
theorem issuedIds_length_mono {t next : Traffic} {move : Move} (hstep : t.Step move next) :
    (issuedIds t.log).length ≤ (issuedIds next.log).length := by
  obtain ⟨incidents, hlog⟩ := hstep.log_grows
  rw [hlog, issuedIds_append, List.length_append]
  exact Nat.le_add_right _ _

theorem apart_run (config : Config) {moves : List Move}
    (hcount : (issuedIds ((Traffic.start config).run moves).log).length < 2 ^ 64) :
    Apart ((Traffic.start config).run moves) := by
  induction moves using List.reverseRecOn with
  | nil =>
      refine ⟨fun n id hn => ?_, fun m n id hm hn => ?_⟩
      · cases hn
      · cases hn
  | append_singleton moves move ih =>
      rw [Traffic.run_concat] at hcount ⊢
      have hstep := Traffic.step_step ((Traffic.start config).run moves) move
      have hearlier := issuedIds_length_mono hstep
      exact (ih (by omega)).step (numbered_run config moves) hstep hcount

/-- Who is about to register never finds its id in the table. -/
theorem Apart.contains_eq_false {t : Traffic} (h : Apart t) (howned : Owned t) {n : Nat}
    {strand : Strand} (hn : t.strands[n]? = some strand) {root : Int} {message : Message}
    (he : strand.task.errand? = some (.register root message)) :
    t.pending.contains message.id = false := by
  have hid : t.id? n = some message.id :=
    Option.bind_eq_some_iff.2 ⟨strand, hn, Strand.id?_of_errand? he⟩
  rw [Pending.contains_eq_false_iff]
  intro other hother hsame
  obtain ⟨holder, hheld⟩ := howned.exists_holder hother
  rw [hsame] at hheld
  -- the holder would be the one who is about to register, and that one holds nothing
  have halone := h.alone holder n message.id (Traffic.id?_of_held? hheld) hid
  rw [halone] at hheld
  obtain ⟨found, hfound, hheld⟩ := Option.bind_eq_some_iff.1 hheld
  rw [hn] at hfound
  cases hfound
  rw [Strand.held?_of_errand? he] at hheld
  cases hheld

end Hydration
