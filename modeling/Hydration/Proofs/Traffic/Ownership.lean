/-
Who owns what while many calls run: every request in the table belongs to one strand, and the counter
of calls counts the calls between their entry and their return.

# The two books

The table and the counter are kept by different steps of a strand. The table gains an id when the
request of a strand is registered and loses it when the strand lets the request go; the counter goes
up when a call enters and down when it returns. `Strand.Step.held_cases` and
`Strand.Step.underWay_cases` say which rules of a strand touch which book, and that all others leave
it as it is.

# The invariant

`Owned` says that both books tell of the strands: the ids of the table are those that the strands
hold, up to order, and the counter is the number of calls under way. A call holds a request only
while it is under way, so the table never has more entries than the counter counts.
-/
import Hydration.Proofs.Traffic.Steps

namespace Hydration

-- ============================================================ what a strand holds

/-- The id of the request that an errand has in the table. -/
def Errand.held? : Errand → Option UInt64
  | send _ message => some message.id
  | await id | release id _ => some id
  | number _ _ | register _ _ | done _ => none

/-- The id of the request that a strand has in the table. -/
def Strand.held? (strand : Strand) : Option UInt64 := strand.task.errand?.bind Errand.held?

/-- The id that the strand with a number holds. -/
def Traffic.held? (t : Traffic) (n : Nat) : Option UInt64 := t.strands[n]?.bind Strand.held?

/-- A call between its entry and its return. -/
def Strand.isUnderWay (strand : Strand) : Bool := strand.task.isUnderWay

/-- A strand that is a call and no request outside of any. -/
def Strand.IsCall (strand : Strand) : Prop := ∃ access call, strand.task = .call access call

theorem Strand.held?_of_errand? {task : Task} {out : Bool} {e : Errand}
    (h : task.errand? = some e) : (Strand.mk task out).held? = e.held? := by
  simp [held?, h]

@[simp] theorem Strand.held?_withErrand (task : Task) (out : Bool) (e : Errand) :
    (Strand.mk (task.withErrand e) out).held? = e.held? :=
  held?_of_errand? (task.errand?_withErrand e)

/-- A commission has nothing in the table when it begins. -/
theorem Commission.held?_errand (c : Commission) : c.errand.held? = none := by
  unfold errand Errand.start
  split <;> rfl

/-- Which task has an errand under way does not depend on how far the errand is. -/
@[simp] theorem Task.isUnderWay_withErrand {task : Task} {e : Errand}
    (h : task.errand? = some e) (next : Errand) :
    (task.withErrand next).isUnderWay = task.isUnderWay := by
  unfold errand? at h
  split at h <;> cases h <;> rfl

/-- A call has a request in the table only while it is under way. -/
theorem Strand.IsCall.isUnderWay_of_held? {strand : Strand} (h : strand.IsCall) {id : UInt64}
    (hheld : strand.held? = some id) : strand.isUnderWay = true := by
  obtain ⟨task, out⟩ := strand
  obtain ⟨access, call, rfl⟩ := h
  cases call <;> first | rfl | cases hheld

namespace Strand.Step

variable {policy : UnreachablePolicy} {n : Nat} {table table' : Pending}
  {active active' : Nat} {strand strand' : Strand} {incidents : List Incident}

-- ============================================================ the two books

/-- A rule registers a request, lets one go, or leaves the entries of the table and what is held as
they are. -/
theorem held_cases (h : Step policy n table active strand table' active' strand' incidents) :
    (∃ message, table.register message = .ok table' ∧ strand.held? = none ∧
        strand'.held? = some message.id) ∨
      (∃ id, table' = table.drop id ∧ strand.held? = some id ∧ strand'.held? = none) ∨
      (table'.entries = table.entries ∧ strand'.held? = strand.held?) := by
  cases h with
  | register _ _ _ _ _ message he hnext =>
      exact .inl ⟨message, hnext, held?_of_errand? he, held?_withErrand _ _ _⟩
  | release _ _ _ id v he =>
      exact .inr (.inl ⟨id, rfl, held?_of_errand? he, held?_withErrand _ _ _⟩)
  | commission _ access ruling out c => exact .inr (.inr ⟨rfl, c.held?_errand⟩)
  | number _ _ _ _ _ he =>
      refine .inr (.inr ⟨rfl, ?_⟩)
      rw [held?_withErrand, held?_of_errand? he]
      rfl
  | refuse _ _ _ _ _ _ he _ =>
      refine .inr (.inr ⟨rfl, ?_⟩)
      rw [held?_withErrand, held?_of_errand? he]
      rfl
  | sent _ _ _ _ he =>
      refine .inr (.inr ⟨rfl, ?_⟩)
      rw [held?_withErrand, held?_of_errand? he]
      rfl
  | unsent _ _ _ _ _ he =>
      refine .inr (.inr ⟨rfl, ?_⟩)
      rw [held?_withErrand, held?_of_errand? he]
      rfl
  | wake _ _ _ _ _ he _ =>
      refine .inr (.inr ⟨rfl, ?_⟩)
      rw [held?_withErrand, held?_of_errand? he]
      rfl
  | enter | rule | turn | answered | wait | finish | leave => exact .inr (.inr ⟨rfl, rfl⟩)

/-- A rule counts a call, ends to count one, or leaves the counter and what is under way as they
are. -/
theorem underWay_cases
    (h : Step policy n table active strand table' active' strand' incidents) :
    (active' = active + 1 ∧ strand.isUnderWay = false ∧ strand'.isUnderWay = true) ∨
      (active' = active - 1 ∧ strand.isUnderWay = true ∧ strand'.isUnderWay = false) ∨
      (active' = active ∧ strand'.isUnderWay = strand.isUnderWay) := by
  cases h with
  | enter => exact .inl ⟨rfl, rfl, rfl⟩
  | leave => exact .inr (.inl ⟨rfl, rfl, rfl⟩)
  | number _ _ _ _ _ he | register _ _ _ _ _ _ he _ | refuse _ _ _ _ _ _ he _
  | sent _ _ _ _ he | unsent _ _ _ _ _ he | wake _ _ _ _ _ he _ | release _ _ _ _ _ he =>
      exact .inr (.inr ⟨rfl, Task.isUnderWay_withErrand he _⟩)
  | rule | commission | turn | answered | wait | finish => exact .inr (.inr ⟨rfl, rfl⟩)

/-- A call stays a call. -/
theorem isCall (h : Step policy n table active strand table' active' strand' incidents)
    (hcall : strand.IsCall) : strand'.IsCall := by
  obtain ⟨access, call, hcall⟩ := hcall
  cases h with
  | number | register | refuse | sent | unsent | wake | release =>
      subst hcall
      exact ⟨access, _, rfl⟩
  | wait | turn => exact ⟨access, call, hcall⟩
  | enter | rule | commission | answered | finish | leave => exact ⟨_, _, rfl⟩

end Strand.Step

-- ============================================================ the invariant

/-- Nothing from outside puts a request into the table or takes one out. -/
theorem Outside.Step.outstanding {active : Nat} {table table' : Pending}
    {closing closing' : Closing} {incidents : List Incident}
    (h : Outside.Step active table closing table' closing' incidents) : table'.outstanding = table.outstanding := by
  cases h <;> simp

/-- Both books tell of the strands. -/
structure Owned (t : Traffic) : Prop where
  ordered : t.pending.Ordered
  /-- The ids of the table are those that the strands hold. -/
  held : (t.pending.outstanding.map Message.id).Perm (t.strands.filterMap Strand.held?)
  /-- The counter is the number of calls under way. -/
  counted : t.arbiter.active = t.strands.countP Strand.isUnderWay

namespace Owned

variable {t next : Traffic}

theorem start (config : Config) : Owned (.start config) :=
  ⟨Pending.ordered_start, List.Perm.refl _, rfl⟩

/-- No two strands hold the same id, for no two entries have the same. -/
theorem nodup (h : Owned t) : (t.strands.filterMap Strand.held?).Nodup :=
  h.held.nodup_iff.1 h.ordered.nodup

/-- The messages of the table stay, so the order does. -/
theorem ordered_of_outstanding {table table' : Pending} (h : table.Ordered)
    (hsame : table'.outstanding = table.outstanding) : table'.Ordered := by
  rw [Pending.ordered_iff_outstanding, hsame]
  exact Pending.ordered_iff_outstanding.1 h

/-- A new strand holds nothing and is not under way. -/
theorem append (h : Owned t) {strand : Strand} (hheld : strand.held? = none)
    (hidle : strand.isUnderWay = false) (hpending : next.pending = t.pending)
    (hactive : next.arbiter.active = t.arbiter.active)
    (hstrands : next.strands = t.strands ++ [strand]) : Owned next := by
  refine ⟨hpending ▸ h.ordered, ?_, ?_⟩
  · rw [hpending, hstrands, List.filterMap_append, List.filterMap_cons_none hheld,
      List.filterMap_nil, List.append_nil]
    exact h.held
  · rw [hactive, hstrands, List.countP_append, List.countP_cons_of_neg (by simp [hidle]),
      List.countP_nil]
    exact h.counted

/-- The step of a strand keeps the table in step with what is held. -/
theorem held_set (h : Owned t) {policy : UnreachablePolicy} {n active active' : Nat}
    {before after : Strand} {table' : Pending} {incidents : List Incident}
    (hn : t.strands[n]? = some before)
    (hstep : Strand.Step policy n t.pending active before table' active' after incidents) :
    table'.Ordered ∧
      (table'.outstanding.map Message.id).Perm
        ((t.strands.set n after).filterMap Strand.held?) := by
  obtain ⟨hlt, hbefore⟩ := List.getElem?_eq_some_iff.1 hn
  obtain ⟨front, back, hsplit, -, hset⟩ := @List.exists_of_set _ n after _ hlt
  have hheld := h.held
  rw [hsplit, hbefore, List.filterMap_append] at hheld
  rw [hset, List.filterMap_append]
  rcases hstep.held_cases with ⟨message, hreg, hnone, hsome⟩ | ⟨id, rfl, hsome, hnone⟩ |
    ⟨hentries, hsame⟩
  · rw [List.filterMap_cons_none hnone] at hheld
    rw [List.filterMap_cons_some hsome]
    have hgrown := (Pending.outstanding_register hreg).map Message.id
    exact ⟨h.ordered.register hreg, hgrown.trans ((hheld.cons _).trans List.perm_middle.symm)⟩
  · -- no other entry has the id, so letting go erases one
    rw [List.filterMap_cons_some hsome] at hheld
    rw [List.filterMap_cons_none hnone]
    refine ⟨h.ordered.drop id, ?_⟩
    have herase : ((t.pending.drop id).outstanding.map Message.id) =
        (t.pending.outstanding.map Message.id).erase id := by
      rw [h.ordered.nodup.erase_eq_filter, Pending.outstanding_drop, List.filter_map]
      rfl
    rw [herase]
    have hshrunk := (hheld.trans List.perm_middle).erase id
    rwa [List.erase_cons_head] at hshrunk
  · have houtstanding : table'.outstanding = t.pending.outstanding :=
      congrArg (List.map Entry.message) hentries
    refine ⟨ordered_of_outstanding h.ordered houtstanding, ?_⟩
    rw [houtstanding, List.filterMap_cons, hsame, ← List.filterMap_cons]
    exact hheld

/-- It keeps the counter in step with what is under way. -/
theorem counted_set (h : Owned t) {policy : UnreachablePolicy} {n active' : Nat}
    {before after : Strand} {table' : Pending} {incidents : List Incident}
    (hn : t.strands[n]? = some before)
    (hstep : Strand.Step policy n t.pending t.arbiter.active before table' active' after
      incidents) :
    active' = (t.strands.set n after).countP Strand.isUnderWay := by
  obtain ⟨hlt, hbefore⟩ := List.getElem?_eq_some_iff.1 hn
  obtain ⟨front, back, hsplit, -, hset⟩ := @List.exists_of_set _ n after _ hlt
  have hcounted := h.counted
  rw [hsplit, hbefore, List.countP_append] at hcounted
  rw [hset, List.countP_append]
  rcases hstep.underWay_cases with ⟨rfl, hno, hyes⟩ | ⟨rfl, hyes, hno⟩ | ⟨rfl, hsame⟩
  · rw [List.countP_cons_of_neg (by simp [hno])] at hcounted
    rw [List.countP_cons_of_pos hyes]
    omega
  · rw [List.countP_cons_of_pos hyes] at hcounted
    rw [List.countP_cons_of_neg (by simp [hno])]
    omega
  · rw [List.countP_cons, hsame, ← List.countP_cons]
    exact hcounted

/-- Every move keeps the books. -/
theorem step (h : Owned t) {move : Move} (hstep : t.Step move next) : Owned next := by
  cases hstep with
  | strand n before after incidents hn hstep hstrands hclosing hlog =>
      obtain ⟨hordered, hheld⟩ := h.held_set hn hstep
      refine ⟨hordered, ?_, ?_⟩
      · rwa [hstrands]
      · rw [hstrands]
        exact h.counted_set hn hstep
  | arrive access hpending hactive hstrands hclosing hlog =>
      exact h.append rfl rfl hpending hactive hstrands
  | request c hmove hpending hactive hstrands hclosing hlog =>
      have hheld : (Strand.mk (.errand c.errand) false).held? = none := c.held?_errand
      exact h.append hheld rfl hpending hactive hstrands
  | outside incidents hstep hactive hstrands hlog =>
      have hsame := hstep.outstanding
      refine ⟨ordered_of_outstanding h.ordered hsame, ?_, ?_⟩
      · rw [hsame, hstrands]
        exact h.held
      · rw [hactive, hstrands]
        exact h.counted

-- ============================================================ holders

/-- A request that is held is in the table. -/
theorem contains_of_held (h : Owned t) {n : Nat} {id : UInt64} (hheld : t.held? n = some id) :
    t.pending.contains id = true := by
  obtain ⟨strand, hn, hheld⟩ := Option.bind_eq_some_iff.1 hheld
  have hmem : id ∈ t.strands.filterMap Strand.held? :=
    List.mem_filterMap.2 ⟨strand, List.mem_of_getElem? hn, hheld⟩
  obtain ⟨message, hmessage, hid⟩ := List.mem_map.1 (h.held.mem_iff.2 hmem)
  exact Pending.contains_iff.2 ⟨message, hmessage, hid⟩

/-- Every request of the table has one who holds it. -/
theorem exists_holder (h : Owned t) {message : Message}
    (hmessage : message ∈ t.pending.outstanding) : ∃ n, t.held? n = some message.id := by
  have hmem := h.held.mem_iff.1 (List.mem_map_of_mem hmessage)
  obtain ⟨strand, hstrand, hheld⟩ := List.mem_filterMap.1 hmem
  obtain ⟨n, hn⟩ := List.mem_iff_getElem?.1 hstrand
  exact ⟨n, Option.bind_eq_some_iff.2 ⟨strand, hn, hheld⟩⟩

/-- It has no two. -/
theorem holder_unique (h : Owned t) {m n : Nat} {id : UInt64} (hm : t.held? m = some id)
    (hn : t.held? n = some id) : m = n := by
  obtain ⟨first, hfirst, hmid⟩ := Option.bind_eq_some_iff.1 hm
  obtain ⟨second, hsecond, hnid⟩ := Option.bind_eq_some_iff.1 hn
  obtain ⟨hmlt, rfl⟩ := List.getElem?_eq_some_iff.1 hfirst
  obtain ⟨hnlt, rfl⟩ := List.getElem?_eq_some_iff.1 hsecond
  have hapart := List.pairwise_iff_getElem.1 (List.pairwise_filterMap.1 h.nodup)
  rcases Nat.lt_trichotomy m n with hlt | heq | hgt
  · exact absurd rfl (hapart m n hmlt hnlt hlt id hmid id hnid)
  · exact heq
  · exact absurd rfl (hapart n m hnlt hmlt hgt id hnid id hmid)

end Owned

/-- The books are kept in every state that can be reached. -/
theorem owned_run (config : Config) (moves : List Move) :
    Owned ((Traffic.start config).run moves) := by
  induction moves using List.reverseRecOn with
  | nil => exact Owned.start config
  | append_singleton moves move ih =>
      rw [Traffic.run_concat]
      exact ih.step (Traffic.step_step _ move)

end Hydration
