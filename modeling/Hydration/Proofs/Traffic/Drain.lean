/-
What it means that the counter of calls shows none: the table is empty, every call that has entered
has returned, and none of them turns to a collaborator any more. So the registry, which a stop gives
back after it has seen the counter at none, is given back after the last call that was still counted.

# From the counter to the table

While nobody makes requests outside of calls, a request in the table is held by a call under way, and
such a call is counted (`Owned`). So a counter at none leaves nobody who could hold a request.

# From the counter to the future

A call that is not under way has either returned, and no rule moves it, or it has not entered, and the
only thing that can happen to it is its entry (`Strand.Step.of_idle`). So the log tells of the calls
again only when one enters.

# The stop

`Ready` is what the log shows when a stop has come to its end: no further calls were let in, the
shutdown has begun, and then the counter was seen at none. `stop_eq` says that a stop of the service
amid the traffic is such a run of the traffic.
-/
import Hydration.Proofs.Traffic.Log
import Hydration.Proofs.Traffic.Ownership

namespace Hydration

-- ============================================================ calls only

/-- Nobody makes requests outside of calls. -/
def OnlyCalls (moves : List Move) : Prop := ∀ c, .request c ∉ moves

namespace Traffic

theorem Step.isCall {t next : Traffic} {move : Move} (hstep : t.Step move next)
    (hmove : ∀ c, move ≠ .request c) (h : ∀ strand ∈ t.strands, strand.IsCall) :
    ∀ strand ∈ next.strands, strand.IsCall := by
  intro strand hstrand
  cases hstep with
  | strand n before after incidents hn hstep hstrands hclosing hlog =>
      rw [hstrands] at hstrand
      rcases List.mem_or_eq_of_mem_set hstrand with hstrand | rfl
      · exact h strand hstrand
      · exact hstep.isCall (h before (List.mem_of_getElem? hn))
  | arrive access hpending hactive hstrands hclosing hlog =>
      rw [hstrands] at hstrand
      rcases List.mem_append.1 hstrand with hstrand | hstrand
      · exact h strand hstrand
      · rw [List.mem_singleton.1 hstrand]
        exact ⟨access, .enter, rfl⟩
  | request c hreq => exact absurd hreq (hmove c)
  | outside incidents hstep hactive hstrands hlog =>
      rw [hstrands] at hstrand
      exact h strand hstrand

theorem isCall_run (config : Config) {moves : List Move} (hcalls : OnlyCalls moves) :
    ∀ strand ∈ ((start config).run moves).strands, strand.IsCall := by
  induction moves using List.reverseRecOn with
  | nil => exact fun _ h => absurd h List.not_mem_nil
  | append_singleton moves move ih =>
      rw [run_concat]
      refine (step_step _ move).isCall (fun c hc => hcalls c ?_)
        (ih fun c hc => hcalls c (List.mem_append_left _ hc))
      rw [hc]
      exact List.mem_append_right _ (List.mem_singleton_self _)

end Traffic

-- ============================================================ from the counter to the table

variable {t next : Traffic}

/-- Who holds a request is counted. -/
theorem Owned.size_le_active (h : Owned t) (hcalls : ∀ strand ∈ t.strands, strand.IsCall) :
    t.pending.size ≤ t.arbiter.active := by
  calc t.pending.size = (t.pending.outstanding.map Message.id).length := by simp
    _ = (t.strands.filterMap Strand.held?).length := h.held.length_eq
    _ = t.strands.countP fun strand => strand.held?.isSome := List.length_filterMap_eq_countP
    _ ≤ t.strands.countP Strand.isUnderWay := by
        refine List.countP_mono_left fun strand hstrand hheld => ?_
        obtain ⟨id, hid⟩ := Option.isSome_iff_exists.1 hheld
        exact (hcalls strand hstrand).isUnderWay_of_held? hid
    _ = t.arbiter.active := h.counted.symm

theorem Owned.isEmpty (h : Owned t) (hcalls : ∀ strand ∈ t.strands, strand.IsCall)
    (hnone : t.arbiter.active = 0) : t.pending.isEmpty = true := by
  have hsize := h.size_le_active hcalls
  rw [Pending.size_eq_length_outstanding] at hsize
  rw [Pending.isEmpty_iff]
  exact List.eq_nil_of_length_eq_zero (by omega)

theorem Owned.not_isUnderWay (h : Owned t) (hnone : t.arbiter.active = 0) :
    ∀ strand ∈ t.strands, strand.isUnderWay = false := by
  intro strand hstrand
  have hcount := h.counted
  rw [hnone] at hcount
  exact Bool.eq_false_iff.2 (List.countP_eq_zero.1 hcount.symm strand hstrand)

-- ============================================================ from the counter to the future

/-- A call that is not under way has nothing to do but enter. -/
theorem Strand.Step.of_idle {policy : UnreachablePolicy} {n : Nat} {table table' : Pending}
    {active active' : Nat} {strand strand' : Strand} {incidents : List Incident}
    (h : Step policy n table active strand table' active' strand' incidents)
    (hcall : strand.IsCall) (hidle : strand.isUnderWay = false) :
    ∃ access, incidents = [.entered n access] := by
  obtain ⟨task, out⟩ := strand
  obtain ⟨access, call, rfl⟩ := hcall
  have hreturned := h.not_hasReturned
  cases call with
  | ask | errand | leave => cases hidle
  | done => cases hreturned
  | enter =>
      cases h with
      | enter => exact ⟨access, rfl⟩
      | turn _ _ _ hcontact => cases hcontact
      | number _ _ _ _ _ he | register _ _ _ _ _ _ he _ | refuse _ _ _ _ _ _ he _
      | sent _ _ _ _ he | unsent _ _ _ _ _ he | wait _ _ _ _ he _ | wake _ _ _ _ _ he _
      | release _ _ _ _ _ he => cases he

/-- With no call under way the log tells of none before one enters, and none is counted. -/
theorem Traffic.Step.quiet {move : Move} (hstep : t.Step move next) (howned : Owned t)
    (hcalls : ∀ strand ∈ t.strands, strand.IsCall) (hnone : t.arbiter.active = 0)
    (hmove : ∀ c, move ≠ .request c) {news : List Incident} (hnews : next.log = t.log ++ news)
    (hentry : ∀ n access, .entered n access ∉ news) :
    next.arbiter.active = 0 ∧ ∀ i ∈ news, i.strand? = none := by
  cases hstep with
  | strand n before after incidents hn hstep hstrands hclosing hlog =>
      have hbefore := List.mem_of_getElem? hn
      obtain ⟨access, rfl⟩ :=
        hstep.of_idle (hcalls before hbefore) (howned.not_isUnderWay hnone before hbefore)
      rw [hlog] at hnews
      rw [← List.append_cancel_left hnews] at hentry
      exact absurd (List.mem_singleton_self _) (hentry n access)
  | arrive access hpending hactive hstrands hclosing hlog =>
      rw [hlog] at hnews
      rw [List.self_eq_append_right.1 hnews, hactive]
      exact ⟨hnone, fun _ h => absurd h List.not_mem_nil⟩
  | request c hreq => exact absurd hreq (hmove c)
  | outside incidents hstep hactive hstrands hlog =>
      rw [hlog] at hnews
      rw [← List.append_cancel_left hnews, hactive]
      exact ⟨hnone, fun i hi => hstep.strand?_of_mem hi⟩

namespace Traffic

theorem owned_and_calls (config : Config) (moves : List Move) (hcalls : OnlyCalls moves) :
    Owned ((start config).run moves) ∧
      ∀ strand ∈ ((start config).run moves).strands, strand.IsCall :=
  ⟨owned_run config moves, isCall_run config hcalls⟩

/-- So it stays until one enters. -/
theorem quiet_run (config : Config) {moves later : List Move} (hcalls : OnlyCalls moves)
    (hlater : OnlyCalls later) (hnone : ((start config).run moves).arbiter.active = 0)
    {news : List Incident}
    (hnews : (((start config).run moves).run later).log = ((start config).run moves).log ++ news)
    (hentry : ∀ n access, .entered n access ∉ news) :
    (((start config).run moves).run later).arbiter.active = 0 ∧
      ∀ i ∈ news, i.strand? = none := by
  induction later using List.reverseRecOn generalizing news with
  | nil =>
      rw [List.self_eq_append_right.1 hnews]
      exact ⟨hnone, fun _ h => absurd h List.not_mem_nil⟩
  | append_singleton later move ih =>
      have hearlier : OnlyCalls later := fun c hc => hlater c (List.mem_append_left _ hc)
      have hmove : ∀ c, move ≠ .request c := by
        rintro c rfl
        exact hlater c (List.mem_append_right _ (List.mem_singleton_self _))
      obtain ⟨old, hold⟩ := ((start config).run moves).run_log_grows later
      have hstep := step_step (((start config).run moves).run later) move
      obtain ⟨new, hnew⟩ := hstep.log_grows
      rw [run_concat] at hnews ⊢
      have hsplit : news = old ++ new := by
        rw [hnew, hold, List.append_assoc] at hnews
        exact (List.append_cancel_left hnews).symm
      subst hsplit
      obtain ⟨hactive, hquiet⟩ :=
        ih hearlier hold fun n access h => hentry n access (List.mem_append_left _ h)
      obtain ⟨howned, hall⟩ := owned_and_calls config (moves ++ later) fun c hc =>
        (List.mem_append.1 hc).elim (hcalls c) (hearlier c)
      rw [run_append] at howned hall
      obtain ⟨hactive, hnews⟩ := hstep.quiet howned hall hactive hmove hnew
        fun n access h => hentry n access (List.mem_append_right _ h)
      exact ⟨hactive, fun i hi => (List.mem_append.1 hi).elim (hquiet i) (hnews i)⟩

end Traffic

-- ============================================================ the counter and the log

/-- When one of many changes, the count of those that pass a test changes with it. -/
theorem countP_set_add {α : Type} {all : List α} {n : Nat} {old : α} (hn : all[n]? = some old)
    (new : α) (test : α → Bool) :
    (all.set n new).countP test + (test old).toNat = all.countP test + (test new).toNat := by
  obtain ⟨hlt, hold⟩ := List.getElem?_eq_some_iff.1 hn
  have hmem : (test old).toNat ≤ all.countP test := by
    cases htest : test old with
    | false => exact Nat.zero_le _
    | true => exact List.countP_pos_iff.2 ⟨old, List.mem_of_getElem? hn, htest⟩
  have htoNat : ∀ b : Bool, (if b = true then 1 else 0) = b.toNat := fun b => by cases b <;> rfl
  rw [List.countP_set hlt, hold, htoNat, htoNat]
  omega

/-- Counting the members of a list is counting their places. -/
theorem countP_eq_countP_range (shows : Strand → Bool) (strands : List Strand) :
    strands.countP shows =
      (List.range strands.length).countP fun n => strands[n]?.any shows := by
  induction strands using List.reverseRecOn with
  | nil => rfl
  | append_singleton strands strand ih =>
      have hearlier : ∀ n ∈ List.range strands.length,
          (strands[n]?.any shows = true ↔ (strands ++ [strand])[n]?.any shows = true) := by
        intro n hn
        rw [List.getElem?_append_left (List.mem_range.1 hn)]
      rw [List.countP_append, ih, List.length_append, List.length_singleton, List.range_succ,
        List.countP_append, List.countP_congr hearlier]
      simp [List.countP_cons]

/-- The counter and the table, compared with what the log tells of the calls. -/
structure Accounted (t : Traffic) : Prop where
  /-- The counter is the number of calls between their entry and their return. -/
  counter : t.arbiter.active = (List.range t.strands.length).countP (isInside t.log)
  /-- Every request of the table is held by one of these calls, and by nobody else. -/
  owner : ∀ message ∈ t.pending.outstanding, ∃ n, isInside t.log n = true ∧
    t.held? n = some message.id ∧ ∀ other, t.held? other = some message.id → other = n
  size : t.pending.size ≤ t.arbiter.active

theorem accounted_run (config : Config) {moves : List Move} (hcalls : OnlyCalls moves) :
    Accounted ((Traffic.start config).run moves) := by
  obtain ⟨howned, hall⟩ := Traffic.owned_and_calls config moves hcalls
  refine ⟨?_, fun message hmessage => ?_, howned.size_le_active hall⟩
  · rw [howned.counted, countP_eq_countP_range]
    refine List.countP_congr fun n _ => ?_
    rw [isInside_run]
    rfl
  · obtain ⟨n, hn⟩ := howned.exists_holder hmessage
    refine ⟨n, ?_, hn, fun other hother => howned.holder_unique hother hn⟩
    obtain ⟨strand, hstrand, hheld⟩ := Option.bind_eq_some_iff.1 hn
    rw [isInside_run, hstrand]
    exact (hall strand (List.mem_of_getElem? hstrand)).isUnderWay_of_held? hheld

-- ============================================================ a counter that shows none

/-- Of the calls that have entered before, all have returned before, and nothing is told of them in
the rest: none of them turns to a collaborator there. -/
def Conclusive (before rest : List Incident) : Prop :=
  ∀ n access, .entered n access ∈ before →
    (∃ decision, .left n decision ∈ before) ∧ ∀ i ∈ rest, i.strand? ≠ some n

theorem returned_of_none (config : Config) {moves : List Move}
    (hnone : ((Traffic.start config).run moves).arbiter.active = 0) {n : Nat} {access : Access}
    (hentry : .entered n access ∈ ((Traffic.start config).run moves).log) :
    ∃ decision, .left n decision ∈ ((Traffic.start config).run moves).log := by
  have hinside := isInside_run config moves n
  have hnobody : (((Traffic.start config).run moves).strands[n]?.any
      fun strand => strand.task.isUnderWay) = false := by
    cases hn : ((Traffic.start config).run moves).strands[n]? with
    | none => rfl
    | some strand =>
        exact (owned_run config moves).not_isUnderWay hnone strand (List.mem_of_getElem? hn)
  rw [hnobody, isInside, any_isEntry_iff.2 ⟨access, hentry⟩, Bool.true_and,
    Bool.not_eq_false'] at hinside
  exact any_isReturn_iff.1 hinside

/-- A log that tells nothing of calls after their return settles what a counter at none says. -/
theorem conclusive_of_pairwise {before rest : List Incident}
    (hlog : (before ++ rest).Pairwise Incident.Precedes)
    (hreturned : ∀ n access, .entered n access ∈ before → ∃ decision, .left n decision ∈ before) :
    Conclusive before rest := by
  intro n access hentry
  obtain ⟨decision, hleft⟩ := hreturned n access hentry
  have hcross := (List.pairwise_append.1 hlog).2.2
  exact ⟨⟨decision, hleft⟩, fun i hi => hcross _ hleft i hi n decision rfl⟩

/-- The counter was looked at and showed none only when this was so. -/
theorem Outside.Step.active_of_checked {active : Nat} {table table' : Pending}
    {closing closing' : Closing} {prior post : List Incident}
    (h : Step active table closing table' closing' (prior ++ .checked 0 :: post)) :
    active = 0 ∧ prior = [] := by
  generalize hincidents : prior ++ .checked 0 :: post = incidents at h
  cases h <;> cases prior <;> simp at hincidents <;> simp [hincidents]

/-- A look at the counter that showed none was conclusive. -/
theorem conclusive_of_checked (config : Config) (moves : List Move)
    {before rest : List Incident}
    (hlog : ((Traffic.start config).run moves).log = before ++ .checked 0 :: rest) :
    Conclusive before rest := by
  obtain ⟨early, move, late, prior, post, rfl, rfl, hnews⟩ :=
    Traffic.exists_move config moves hlog
  obtain ⟨hnone, rfl⟩ := ((Traffic.step_step _ move).outside_of_mem hnews
    (List.mem_append_right _ (List.mem_cons_self ..)) rfl nofun).active_of_checked
  rw [List.append_nil] at hlog ⊢
  have hpairwise := Traffic.log_pairwise config (early ++ move :: late)
  rw [hlog] at hpairwise
  refine conclusive_of_pairwise ?_ fun n access hentry => returned_of_none config hnone hentry
  exact hpairwise.sublist (List.Sublist.append_left (List.sublist_cons_self ..) _)

-- ============================================================ the stop

/-- A stop has come to its end: no further calls were let in, the shutdown has begun, and then the
counter showed none. -/
def Ready (log : List Incident) : Prop :=
  ∃ before between, log = before ++ .checked 0 :: between ∧
    .unlistened ∈ before ∧ .shutDown ∈ before

theorem Ready.append {log : List Incident} (h : Ready log) (news : List Incident) :
    Ready (log ++ news) := by
  obtain ⟨before, between, rfl, hunlistened, hdown⟩ := h
  exact ⟨before, between ++ news, by simp, hunlistened, hdown⟩

/-- What the log shows of a stop that has come so far. -/
def Closing.Shows : Closing → List Incident → Prop
  | running, _ => True
  | unlistened, log => .unlistened ∈ log
  | draining, log => .unlistened ∈ log ∧ .shutDown ∈ log
  | drained, log | released, log => Ready log

theorem Closing.Shows.append {closing : Closing} {log : List Incident} (h : closing.Shows log)
    (news : List Incident) : closing.Shows (log ++ news) := by
  cases closing with
  | running => trivial
  | unlistened => exact List.mem_append_left _ h
  | draining => exact ⟨List.mem_append_left _ h.1, List.mem_append_left _ h.2⟩
  | drained | released => exact Ready.append h news

theorem Closing.Shows.step {move : Move} (h : t.closing.Shows t.log)
    (hstep : t.Step move next) : next.closing.Shows next.log := by
  cases hstep with
  | strand n before after incidents hn hstep hstrands hclosing hlog =>
      rw [hclosing, hlog]
      exact h.append incidents
  | arrive access hpending hactive hstrands hclosing hlog =>
      rw [hclosing, hlog]
      exact h
  | request c hmove hpending hactive hstrands hclosing hlog =>
      rw [hclosing, hlog]
      exact h.append _
  | outside incidents hstep hactive hstrands hlog =>
      rw [hlog]
      have hkept := h.append incidents
      generalize t.closing = closing, next.closing = closing', t.pending = table,
        next.pending = table' at h hkept hstep
      cases hstep with
      | idle | issue | deliver | shutDown | check => exact hkept
      | unlisten => exact List.mem_append_right _ (List.mem_singleton_self _)
      | drain => exact ⟨hkept, List.mem_append_right _ (List.mem_singleton_self _)⟩
      | release => exact hkept
      | look =>
          split
          case isFalse => exact hkept
          case isTrue hnone =>
            rw [hnone]
            exact ⟨t.log, [], rfl, h.1, h.2⟩

theorem shows_run (config : Config) (moves : List Move) :
    ((Traffic.start config).run moves).closing.Shows ((Traffic.start config).run moves).log := by
  induction moves using List.reverseRecOn with
  | nil => trivial
  | append_singleton moves move ih =>
      rw [Traffic.run_concat]
      exact ih.step (Traffic.step_step _ move)

/-- The registry is given back only by a stop that has seen the counter at none. -/
theorem Outside.Step.closing_of_released {active : Nat} {table table' : Pending}
    {closing closing' : Closing} {prior post : List Incident}
    (h : Step active table closing table' closing' (prior ++ .released :: post)) :
    closing = .drained ∧ prior = [] := by
  generalize hincidents : prior ++ .released :: post = incidents at h
  cases h <;> cases prior <;> simp at hincidents
  exact ⟨rfl, rfl⟩

theorem ready_of_released (config : Config) (moves : List Move) {early late : List Incident}
    (hlog : ((Traffic.start config).run moves).log = early ++ .released :: late) :
    Ready early := by
  obtain ⟨before, move, after, prior, post, rfl, rfl, hnews⟩ :=
    Traffic.exists_move config moves hlog
  obtain ⟨hdrained, rfl⟩ := ((Traffic.step_step _ move).outside_of_mem hnews
    (List.mem_append_right _ (List.mem_cons_self ..)) rfl nofun).closing_of_released
  have hshows := shows_run config before
  rw [hdrained] at hshows
  rw [List.append_nil]
  exact hshows

/-- Of the calls that had entered when a stop looked at the counter for the last time, nothing is told
after that look, and the registry is given back after it. -/
def ReleasedAfterCalls (early late : List Incident) : Prop :=
  ∃ before between, early = before ++ .checked 0 :: between ∧ .unlistened ∈ before ∧
    .shutDown ∈ before ∧ Conclusive before (between ++ .released :: late)

theorem releasedAfterCalls_of_log (config : Config) (moves : List Move)
    {early late : List Incident}
    (hlog : ((Traffic.start config).run moves).log = early ++ .released :: late) :
    ReleasedAfterCalls early late := by
  obtain ⟨before, between, rfl, hunlistened, hdown⟩ := ready_of_released config moves hlog
  refine ⟨before, between, rfl, hunlistened, hdown, ?_⟩
  refine conclusive_of_checked config moves ?_
  rw [hlog, List.append_assoc, List.cons_append]

namespace Service

/-- The surroundings of a service amid the traffic. The moves are those that are made while its stop
waits for the calls to return. -/
def premises (during : List Move) : Premises Traffic where
  init t := (.ok (), t)
  listen t := (.ok (), t)
  unlisten t := t.step .close
  drain arbiter t :=
    let t := ({ t with arbiter, closing := .draining }.note [.shutDown]).run during
    (t.arbiter, t)
  release t := (.ok (), t.step .close)

/-- The traffic when a stop has given the registry back. -/
def afterStop (t : Traffic) (during : List Move) : Traffic :=
  (t.run (.close :: .close :: during)).step .close

/-- A stop of the service is a run of the traffic. -/
theorem stop_eq (during : List Move) (hrunning : t.closing = .running) :
    stop (premises during) ⟨t.arbiter, true⟩ t =
      (.ok t.pending.size, ⟨(t.run (.close :: .close :: during)).arbiter, false⟩,
        afterStop t during) := by
  obtain ⟨arbiter, strands, closing, log⟩ := t
  cases hrunning
  rfl

end Service

-- ============================================================ the result

/-- What a counter that shows none says about the state: the table is empty, and every call that has
entered has returned. -/
structure Settled (t : Traffic) : Prop where
  empty : t.pending.isEmpty = true
  returned : ∀ n access, .entered n access ∈ t.log → ∃ decision, .left n decision ∈ t.log

/-- What it says about a later state: the earlier calls are not heard of again, and while no call
enters the counter stays at none, the table stays empty, and no call turns to a collaborator. -/
def Quiet (t later : Traffic) : Prop :=
  ∃ news, later.log = t.log ++ news ∧ Conclusive t.log news ∧
    ((∀ n access, .entered n access ∉ news) →
      later.arbiter.active = 0 ∧ later.pending.isEmpty = true ∧ ∀ i ∈ news, i.strand? = none)

theorem OnlyCalls.append {moves later : List Move} (h : OnlyCalls moves)
    (hlater : OnlyCalls later) : OnlyCalls (moves ++ later) :=
  fun c hc => (List.mem_append.1 hc).elim (h c) (hlater c)

theorem settled_of_none (config : Config) {moves : List Move} (hcalls : OnlyCalls moves)
    (hnone : ((Traffic.start config).run moves).arbiter.active = 0) :
    Settled ((Traffic.start config).run moves) := by
  obtain ⟨howned, hall⟩ := Traffic.owned_and_calls config moves hcalls
  exact ⟨howned.isEmpty hall hnone, fun n access hentry => returned_of_none config hnone hentry⟩

theorem quiet_of_none (config : Config) {moves later : List Move} (hcalls : OnlyCalls moves)
    (hlater : OnlyCalls later)
    (hnone : ((Traffic.start config).run moves).arbiter.active = 0) :
    Quiet ((Traffic.start config).run moves)
      (((Traffic.start config).run moves).run later) := by
  obtain ⟨news, hnews⟩ := ((Traffic.start config).run moves).run_log_grows later
  refine ⟨news, hnews, ?_, fun hentry => ?_⟩
  · refine conclusive_of_pairwise ?_ fun n access hentry => returned_of_none config hnone hentry
    rw [← hnews, ← Traffic.run_append]
    exact Traffic.log_pairwise config (moves ++ later)
  · obtain ⟨hactive, hquiet⟩ := Traffic.quiet_run config hcalls hlater hnone hnews hentry
    obtain ⟨howned, hall⟩ := Traffic.owned_and_calls config _ (hcalls.append hlater)
    rw [Traffic.run_append] at howned hall
    exact ⟨hactive, howned.isEmpty hall hactive, hquiet⟩

/-- The registry is the last thing that a stop gives back. -/
theorem releasedAfterCalls_of_stop (config : Config) {moves during : List Move}
    (hdrained : (((Traffic.start config).run moves).run (.close :: .close :: during)).closing =
      .drained) :
    ∃ early, (Service.afterStop ((Traffic.start config).run moves) during).log =
      early ++ [.released] ∧ ReleasedAfterCalls early [] := by
  have hlog : (Service.afterStop ((Traffic.start config).run moves) during).log =
      (((Traffic.start config).run moves).run (.close :: .close :: during)).log ++
        [.released] := by
    unfold Service.afterStop Traffic.step Traffic.close
    rw [hdrained]
    rfl
  refine ⟨_, hlog, ?_⟩
  refine releasedAfterCalls_of_log config ((moves ++ .close :: .close :: during) ++ [.close]) ?_
  rw [Traffic.run_concat, Traffic.run_append]
  exact hlog

/-- While all requests are made by calls, the counter counts the calls under way and they hold all that
is in the table. Once the counter shows none, the table is empty and stays so, the calls have returned
and stay away from their collaborators, and a stop gives the registry back only after that. -/
theorem drain_sound (config : Config) (moves : List Move) (hcalls : OnlyCalls moves) :
    let t := (Traffic.start config).run moves
    Accounted t ∧
      (t.arbiter.active = 0 →
        Settled t ∧ ∀ later, OnlyCalls later → Quiet t (t.run later)) ∧
      (∀ early late, t.log = early ++ .released :: late → ReleasedAfterCalls early late) ∧
      ∀ during, t.closing = .running →
        (t.run (.close :: .close :: during)).closing = .drained →
        ∃ service final, service.running = false ∧
          Service.stop (Service.premises during) ⟨t.arbiter, true⟩ t =
            (.ok t.pending.size, service, final) ∧
          ∃ early, final.log = early ++ [.released] ∧ ReleasedAfterCalls early [] := by
  intro t
  refine ⟨accounted_run config hcalls, fun hnone => ?_, fun early late hlog => ?_,
    fun during hrunning hdrained => ?_⟩
  · exact ⟨settled_of_none config hcalls hnone,
      fun later hlater => quiet_of_none config hcalls hlater hnone⟩
  · exact releasedAfterCalls_of_log config moves hlog
  · exact ⟨_, _, rfl, Service.stop_eq during hrunning,
      releasedAfterCalls_of_stop config hdrained⟩

/-- One call, counted when the stop begins, returns while the stop waits for it. -/
theorem drain_sound_of_one_call :
    let access : Access := ⟨7, "reader", ⟨.regular, .ok "/root/file"⟩, ⟨0⟩⟩
    let moves : List Move := [.arrive access, .step 0 .zero]
    let returning : List Move :=
      [.close, .turn 0, .back 0 (.managed false), .step 0 .zero, .step 0 .zero, .close]
    let t := (Traffic.start .standard).run moves
    OnlyCalls moves ∧ t.arbiter.active = 1 ∧
      ∃ service final, service.running = false ∧
        Service.stop (Service.premises returning) ⟨t.arbiter, true⟩ t = (.ok 0, service, final) ∧
        ∃ early, final.log = early ++ [.released] ∧ ReleasedAfterCalls early [] := by
  intro access moves returning t
  have hcalls : OnlyCalls moves := by
    intro c hc
    simp [moves] at hc
  exact ⟨hcalls, rfl, (drain_sound .standard moves hcalls).2.2.2 returning rfl rfl⟩

end Hydration
