/-
What the metrics tell when no call is under way.

# The counters and the log

A counter is how often the log tells of something: of returns with certain decisions, of requests that
were registered, of messages that were not taken (`Counters.tell`). One counter is not: the calls that
were let pass because their object lies outside of every root, for the log does not tell of that step.
They are counted when the flags have been read and the call has moved on (`slipped_run`).

# At rest

When no call is under way every account is closed, and the counters add up (`balanced_run`).
-/
import Hydration.Proofs.Traffic.Accounts
import Hydration.Proofs.Traffic.Recorded
import Mathlib.Algebra.BigOperators.Group.List.Basic
import Mathlib.Algebra.GroupWithZero.Nat

namespace Hydration

-- ============================================================ the counters and the log

namespace Counters

/-- What the counters are told of an incident. -/
def tell (c : Counters) : Incident → Counters
  | .left _ (.ok v) => c.countVerdict v
  | .left _ (.error _) => c.countIntegrityViolation
  | .registered _ _ => c.countRequest
  | .returned _ (.sent (.error _)) => c.countTransportFailure
  | _ => c

/-- The counters without the one of which the log does not tell. -/
def slow (c : Counters) : Counters := { c with fastPath := 0 }

theorem tell_of_nobody {i : Incident} (hi : i.strand? = none) (c : Counters) : c.tell i = c := by
  cases i with
  | left | registered | returned => cases hi
  | _ => rfl

theorem slow_countDecision (m : Metrics) (n : Nat) (decision : Decision) :
    (m.countDecision decision).counters.slow = m.counters.slow.tell (.left n decision) := by
  cases decision with
  | error => rfl
  | ok v =>
      cases v with
      | allow => rfl
      | deny reason => cases reason <;> rfl

/-- A counter of which the log tells: it goes up with some incidents and with no others. -/
structure Tally (field : Counters → UInt64) (counts : Incident → Bool) : Prop where
  slow : ∀ c, field (slow c) = field c
  zero : field .zero = 0
  tell : ∀ c i, field (tell c i) = if counts i then field c + 1 else field c

theorem Tally.foldl_tell {field : Counters → UInt64} {counts : Incident → Bool}
    (h : Tally field counts) (log : List Incident) (c : Counters) :
    field (log.foldl Counters.tell c) = field c + .ofNat (log.countP counts) := by
  induction log generalizing c with
  | nil => exact (UInt64.add_zero _).symm
  | cons i rest ih =>
      rw [List.foldl_cons, ih, h.tell]
      cases hcounts : counts i with
      | true =>
          rw [List.countP_cons_of_pos hcounts, Nat.add_comm, UInt64.ofNat_add, ← UInt64.add_assoc]
          rfl
      | false =>
          rw [List.countP_cons_of_neg (by rw [hcounts]; decide)]
          rfl

end Counters

theorem Metrics.noteLatency_counters (m : Metrics) (latency : Span) :
    (m.noteLatency latency).counters = m.counters := by
  unfold noteLatency recordLatency
  cases m.latencies.record latency <;> rfl

/-- The metrics are told of a step what the log tells of it. -/
theorem Passage.slow {policy : UnreachablePolicy} {n : Nat} {p p' : Phase} {m m' : Metrics}
    {incidents : List Incident} (h : Passage policy n p m p' m' incidents) :
    m'.counters.slow = incidents.foldl Counters.tell m.counters.slow := by
  cases h with
  | leave _ decision => exact Counters.slow_countDecision m n decision
  | wake _ outcome latency => exact congrArg Counters.slow (m.noteLatency_counters latency)
  | _ => rfl

/-- The counters of decisions. -/
inductive Head where
  | decisions
  | allowed
  | denied
  | violations
  | crawler
  | offline
  | failed
  | shutDown

namespace Head

def field : Head → Counters → UInt64
  | decisions, c => c.decisions
  | allowed, c => c.allowed
  | denied, c => c.denied
  | violations, c => c.integrityViolations
  | crawler, c => c.crawlerDenials
  | offline, c => c.offlineDenials
  | failed, c => c.hydrationFailures
  | shutDown, c => c.shutdownDenials

/-- The decisions that a counter counts. -/
def which : Head → Decision → Bool
  | decisions => fun _ => true
  | allowed => Decision.isAllowed
  | denied => Decision.isDenied
  | violations => Decision.isViolation
  | crawler => Decision.isDeniedFor .crawler
  | offline => Decision.isOffline
  | failed => Decision.isDeniedFor .hydrationFailed
  | shutDown => Decision.isDeniedFor .shuttingDown

theorem field_countVerdict (head : Head) (c : Counters) (v : Verdict) :
    head.field (c.countVerdict v) = if head.which (.ok v) then head.field c + 1 else head.field c := by
  cases v with
  | allow => cases head <;> rfl
  | deny reason => cases head <;> cases reason <;> rfl

theorem field_tell (head : Head) (c : Counters) (i : Incident) :
    head.field (c.tell i) =
      if Incident.isReturnWith head.which i then head.field c + 1 else head.field c := by
  cases i with
  | left n decision =>
      cases decision with
      | ok v => exact head.field_countVerdict c v
      | error violation => cases head <;> rfl
  | registered => cases head <;> rfl
  | returned n feedback =>
      cases feedback with
      | sent result =>
          cases result with
          | ok => rfl
          | error => cases head <;> rfl
      | _ => rfl
  | _ => rfl

/-- Every counter of decisions goes up when a call returns with such a decision, and then only. -/
theorem tally (head : Head) : Counters.Tally head.field (Incident.isReturnWith head.which) where
  slow _ := by cases head <;> rfl
  zero := by cases head <;> rfl
  tell := head.field_tell

end Head

/-- The counters of requests. -/
inductive Dispatch where
  | requests
  | failures

namespace Dispatch

def field : Dispatch → Counters → UInt64
  | requests, c => c.hydrationRequests
  | failures, c => c.transportFailures

/-- The incidents that a counter counts. -/
def counts : Dispatch → Incident → Bool
  | requests => Incident.isRegistration
  | failures => Incident.isUnsent

theorem field_countVerdict (dispatch : Dispatch) (c : Counters) (v : Verdict) :
    dispatch.field (c.countVerdict v) = dispatch.field c := by
  cases v with
  | allow => cases dispatch <;> rfl
  | deny reason => cases dispatch <;> cases reason <;> rfl

theorem field_tell (dispatch : Dispatch) (c : Counters) (i : Incident) :
    dispatch.field (c.tell i) =
      if dispatch.counts i then dispatch.field c + 1 else dispatch.field c := by
  cases i with
  | left n decision =>
      cases decision with
      | ok v =>
          refine (dispatch.field_countVerdict c v).trans ?_
          cases dispatch <;> rfl
      | error violation => cases dispatch <;> rfl
  | returned n feedback =>
      cases feedback with
      | sent result =>
          cases result with
          | ok => cases dispatch <;> rfl
          | error => cases dispatch <;> rfl
      | _ => cases dispatch <;> rfl
  | _ => cases dispatch <;> rfl

/-- The counters of requests go up when one is registered and when one is not taken; no decision has a
part in that. -/
theorem tally (dispatch : Dispatch) : Counters.Tally dispatch.field dispatch.counts where
  slow _ := by cases dispatch <;> rfl
  zero := by cases dispatch <;> rfl
  tell := dispatch.field_tell

end Dispatch

theorem issuedIds_length_lt {log : List Incident} (h : log.length < 2 ^ 64) :
    (issuedIds log).length < 2 ^ 64 :=
  Nat.lt_of_le_of_lt (List.length_filterMap_le _ log) h

section Runs

variable {config : Config} {moves : List Move}

theorem slow_run (hcalls : OnlyCalls moves)
    (hcount : (issuedIds ((Traffic.start config).run moves).log).length < 2 ^ 64) :
    ((Traffic.start config).run moves).arbiter.metrics.counters.slow =
      ((Traffic.start config).run moves).log.foldl Counters.tell .zero := by
  refine Traffic.passes_induction
    (fun t => t.arbiter.metrics.counters.slow = t.log.foldl Counters.tell .zero)
    hcalls hcount rfl fun t next hpass htold => ?_
  cases hpass with
  | strand n before after incidents hn hpass hstrands hlog =>
      rw [hpass.passage.slow, hlog, List.foldl_append, htold]
  | arrive access hmetrics hstrands hlog => rw [hmetrics, hlog, htold]
  | outside incidents hmetrics hstrands hlog hnobody =>
      have hquiet : ∀ c : Counters, incidents.foldl Counters.tell c = c := by
        intro c
        clear hlog
        induction incidents with
        | nil => rfl
        | cons i rest ih =>
            rw [List.foldl_cons, Counters.tell_of_nobody (hnobody i (List.mem_cons_self ..))]
            exact ih fun other hother => hnobody other (List.mem_cons_of_mem _ hother)
      rw [hmetrics, hlog, List.foldl_append, hquiet, htold]

/-- Every counter but one is the number of certain incidents. -/
theorem field_run {field : Counters → UInt64} {counts : Incident → Bool}
    (h : Counters.Tally field counts) (hcalls : OnlyCalls moves)
    (hlength : ((Traffic.start config).run moves).log.length < 2 ^ 64) :
    (field ((Traffic.start config).run moves).arbiter.metrics.counters).toNat =
      ((Traffic.start config).run moves).log.countP counts := by
  rw [← h.slow, slow_run hcalls (issuedIds_length_lt hlength), h.foldl_tell, h.zero,
    UInt64.zero_add, UInt64.toNat_ofNat_of_lt' (Nat.lt_of_le_of_lt List.countP_le_length hlength)]

end Runs

-- ============================================================ objects outside of every root

/-- The call whose flags tell that the object lies outside of every root. -/
def Incident.outsider? : Incident → Option Nat
  | returned n feedback => if feedback.isLacking then some n else none
  | _ => none

/-- The calls whose flags have told so, in order. -/
def outsiders (log : List Incident) : List Nat := log.filterMap Incident.outsider?

@[simp] theorem outsiders_append (before after : List Incident) :
    outsiders (before ++ after) = outsiders before ++ outsiders after :=
  List.filterMap_append

theorem outsiders_flags (n : Nat) (result : Except FlagsFault Flags) :
    outsiders [.returned n (.flags result)] =
      if (Feedback.flags result).isLacking then [n] else [] := by
  have hflags : (Incident.returned n (.flags result)).outsider? =
      if (Feedback.flags result).isLacking then some n else none := rfl
  unfold outsiders
  cases hlacking : (Feedback.flags result).isLacking with
  | true =>
      rw [hlacking, if_pos rfl] at hflags
      exact List.filterMap_cons_some hflags
  | false =>
      rw [hlacking, if_neg Bool.false_ne_true] at hflags
      exact List.filterMap_cons_none hflags

theorem outsiders_of_nobody {incidents : List Incident}
    (hnobody : ∀ i ∈ incidents, i.strand? = none) : outsiders incidents = [] := by
  refine List.filterMap_eq_nil_iff.2 fun i hi => ?_
  have hi := hnobody i hi
  cases i with
  | returned => cases hi
  | _ => rfl

namespace Phase

def isOutside : Phase → Bool
  | outside => true
  | _ => false

/-- A phase in which a call can be after its flags have told so. -/
def canBeOutsider : Phase → Bool
  | outside | bearing (.ok .allow) | done (.ok .allow) => true
  | _ => false

end Phase

namespace Passage

variable {policy : UnreachablePolicy} {n : Nat} {p p' : Phase} {m m' : Metrics}
  {incidents : List Incident}

/-- The flags tell of one step of a call at most, and of none after it. -/
theorem outsiders_cases (h : Passage policy n p m p' m' incidents) :
    outsiders incidents = [] ∨
      (outsiders incidents = [n] ∧ p.canBeOutsider = false ∧ p'.canBeOutsider = true) := by
  cases h with
  | flags _ result hnot => exact .inl (by rw [outsiders_flags, hnot]; rfl)
  | lacking _ result hlacking =>
      exact .inr ⟨by rw [outsiders_flags, hlacking]; rfl, rfl, rfl⟩
  | _ => exact .inl rfl

/-- From there a call only goes on to be let through. -/
theorem canBeOutsider (h : Passage policy n p m p' m' incidents) (hp : p.canBeOutsider = true) :
    p'.canBeOutsider = true := by
  cases h with
  | slip => rfl
  | release | finish => exact hp
  | leave _ decision =>
      cases decision with
      | error => cases hp
      | ok v =>
          cases v with
          | allow => rfl
          | deny => cases hp
  | _ => cases hp

/-- A call is counted as one that was let pass when it goes on from where the flags have brought it. -/
theorem fastPath_cases (h : Passage policy n p m p' m' incidents) :
    (m'.counters.fastPath = m.counters.fastPath ∧
        p'.isOutside.toNat = p.isOutside.toNat + (outsiders incidents).length) ∨
      (m'.counters.fastPath = m.counters.fastPath + 1 ∧ outsiders incidents = [] ∧
        p.isOutside = true ∧ p'.isOutside = false) := by
  cases h with
  | slip => exact .inr ⟨rfl, rfl, rfl, rfl⟩
  | lacking _ result hlacking => exact .inl ⟨rfl, by rw [outsiders_flags, hlacking]; rfl⟩
  | flags _ result hnot => exact .inl ⟨rfl, by rw [outsiders_flags, hnot]; rfl⟩
  | leave _ decision =>
      refine .inl ⟨?_, rfl⟩
      cases decision with
      | error => rfl
      | ok v =>
          cases v with
          | allow => rfl
          | deny reason => cases reason <;> rfl
  | wake _ outcome latency => exact .inl ⟨by rw [m.noteLatency_counters latency], rfl⟩
  | _ => exact .inl ⟨rfl, rfl⟩

end Passage

section Runs

variable {config : Config} {moves : List Move}

/-- Whose flags have told so has been counted, or is about to be. -/
theorem slipped_run (hcalls : OnlyCalls moves)
    (hcount : (issuedIds ((Traffic.start config).run moves).log).length < 2 ^ 64) :
    ((Traffic.start config).run moves).arbiter.metrics.counters.fastPath +
        .ofNat (((Traffic.start config).run moves).inPhase Phase.isOutside) =
      .ofNat (outsiders ((Traffic.start config).run moves).log).length := by
  refine Traffic.passes_induction
    (fun t => t.arbiter.metrics.counters.fastPath + .ofNat (t.inPhase Phase.isOutside) =
      .ofNat (outsiders t.log).length) hcalls hcount rfl fun t next hpass hslipped => ?_
  cases hpass with
  | strand n before after incidents hn hpass hstrands hlog =>
      have hset := Traffic.inPhase_set Phase.isOutside hn hstrands
      rw [hlog, outsiders_append, List.length_append, UInt64.ofNat_add, ← hslipped]
      rcases hpass.passage.fastPath_cases with ⟨hfast, hphase⟩ | ⟨hfast, hnone, hp, hp'⟩
      · have hmore : next.inPhase Phase.isOutside =
            t.inPhase Phase.isOutside + (outsiders incidents).length := by omega
        rw [hfast, hmore, UInt64.ofNat_add, UInt64.add_assoc]
      · have hless : t.inPhase Phase.isOutside = 1 + next.inPhase Phase.isOutside := by
          rw [hp, hp', Bool.toNat_true, Bool.toNat_false] at hset
          omega
        rw [hfast, hless, hnone, UInt64.ofNat_add, ← UInt64.add_assoc]
        exact (UInt64.add_zero _).symm
  | arrive access hmetrics hstrands hlog =>
      rw [hmetrics, hlog, Traffic.inPhase_arrive hstrands rfl]
      exact hslipped
  | outside incidents hmetrics hstrands hlog hnobody =>
      rw [hmetrics, hlog, Traffic.inPhase_congr hstrands, outsiders_append,
        outsiders_of_nobody hnobody, List.append_nil]
      exact hslipped

/-- Each of them is one call, which has been let through or is going to be. -/
theorem outsiders_run (hcalls : OnlyCalls moves)
    (hcount : (issuedIds ((Traffic.start config).run moves).log).length < 2 ^ 64) :
    (outsiders ((Traffic.start config).run moves).log).Nodup ∧
      ∀ n ∈ outsiders ((Traffic.start config).run moves).log,
        ∃ strand, ((Traffic.start config).run moves).strands[n]? = some strand ∧
          strand.phase.canBeOutsider = true := by
  refine Traffic.passes_induction
    (fun t => (outsiders t.log).Nodup ∧ ∀ n ∈ outsiders t.log, ∃ strand,
      t.strands[n]? = some strand ∧ strand.phase.canBeOutsider = true)
    hcalls hcount ⟨List.nodup_nil, fun _ h => absurd h List.not_mem_nil⟩
    fun t next hpass ⟨hnodup, hknown⟩ => ?_
  cases hpass with
  | strand n before after incidents hn hpass hstrands hlog =>
      have hlt : n < t.strands.length := (List.getElem?_eq_some_iff.1 hn).1
      have hothers : ∀ k ∈ outsiders t.log, ∃ strand,
          next.strands[k]? = some strand ∧ strand.phase.canBeOutsider = true := by
        intro k hk
        obtain ⟨strand, hstrand, hcan⟩ := hknown k hk
        rw [hstrands]
        by_cases heq : n = k
        · subst heq
          rw [hn] at hstrand
          cases hstrand
          exact ⟨after, List.getElem?_set_self hlt, hpass.passage.canBeOutsider hcan⟩
        · exact ⟨strand, by rw [List.getElem?_set_ne heq, hstrand], hcan⟩
      rw [hlog, outsiders_append]
      rcases hpass.passage.outsiders_cases with hnone | ⟨hone, hnot, hcan⟩
      · rw [hnone, List.append_nil]
        exact ⟨hnodup, hothers⟩
      · rw [hone]
        refine ⟨List.Nodup.append hnodup (List.nodup_singleton n) ?_, fun k hk => ?_⟩
        · -- it was in no phase for that before
          intro k hk hkn
          obtain rfl := List.mem_singleton.1 hkn
          obtain ⟨strand, hstrand, hcan⟩ := hknown k hk
          rw [hn] at hstrand
          cases hstrand
          rw [hnot] at hcan
          cases hcan
        · rcases List.mem_append.1 hk with hold | hnew
          · exact hothers k hold
          · obtain rfl := List.mem_singleton.1 hnew
            exact ⟨after, by rw [hstrands, List.getElem?_set_self hlt], hcan⟩
  | arrive access hmetrics hstrands hlog =>
      rw [hlog]
      refine ⟨hnodup, fun k hk => ?_⟩
      obtain ⟨strand, hstrand, hcan⟩ := hknown k hk
      have hlt : k < t.strands.length := (List.getElem?_eq_some_iff.1 hstrand).1
      exact ⟨strand, by rw [hstrands, List.getElem?_append_left hlt, hstrand], hcan⟩
  | outside incidents hmetrics hstrands hlog hnobody =>
      rw [hlog, outsiders_append, outsiders_of_nobody hnobody, List.append_nil, hstrands]
      exact ⟨hnodup, hknown⟩

end Runs

-- ============================================================ at rest

/-- What is counted under several heads is the sum of what is counted under each. -/
theorem countP_eq_sum {α : Type} {whole : α → Bool} (parts : List (α → Bool))
    (h : ∀ a, (whole a).toNat = (parts.map fun part => (part a).toNat).sum) (all : List α) :
    all.countP whole = (parts.map fun part => all.countP part).sum := by
  induction all with
  | nil => simp
  | cons a rest ih =>
      have hone : ∀ test : α → Bool, (a :: rest).countP test = (test a).toNat + rest.countP test := by
        intro test
        rw [List.countP_cons, Nat.add_comm]
        cases test a <;> rfl
      simp only [hone, List.sum_map_add]
      rw [h, ih]

namespace Traffic

variable {t : Traffic}

/-- No call is between its entry and its return. -/
def AtRest (t : Traffic) : Prop := ∀ strand ∈ t.strands, strand.isUnderWay = false

/-- The number of calls that have returned with certain decisions. -/
def returned (t : Traffic) (which : Decision → Bool) : Nat := t.inPhase (Phase.isDone which)

def counters (t : Traffic) : Counters := t.arbiter.metrics.counters

/-- A call that is not under way has not entered, or has returned. -/
theorem phase_of_atRest (hrest : t.AtRest) {strand : Strand} (hstrand : strand ∈ t.strands)
    (hcall : strand.IsCall) : strand.phase = .waiting ∨ ∃ decision, strand.phase = .done decision := by
  have hidle := hrest strand hstrand
  obtain ⟨task, out⟩ := strand
  obtain ⟨access, c, htask⟩ := hcall
  cases htask
  cases c with
  | enter => exact .inl rfl
  | done decision => exact .inr ⟨decision, rfl⟩
  | ask | errand | leave => cases hidle

theorem inPhase_of_atRest (hrest : t.AtRest) (hcalls : ∀ strand ∈ t.strands, strand.IsCall)
    {which : Phase → Bool} (hwaiting : which .waiting = false)
    (hdone : ∀ decision, which (.done decision) = false) : t.inPhase which = 0 := by
  refine List.countP_eq_zero.2 fun strand hstrand => ?_
  rcases phase_of_atRest hrest hstrand (hcalls strand hstrand) with hphase | ⟨decision, hphase⟩
  · rw [hphase, hwaiting]
    decide
  · rw [hphase, hdone]
    decide

end Traffic

/-- An account is closed when no call is under way. -/
theorem Account.Fair.closed {a : Account} {config : Config} {moves : List Move}
    (h : a.Fair config.onUnreachable) (hdone : ∀ decision, a.isOpen (.done decision) = false)
    (hcalls : OnlyCalls moves)
    (hcount : (issuedIds ((Traffic.start config).run moves).log).length < 2 ^ 64)
    (hrest : ((Traffic.start config).run moves).AtRest) :
    ((Traffic.start config).run moves).log.countP a.opens =
      ((Traffic.start config).run moves).log.countP a.closes := by
  rw [h.balance hcalls hcount,
    Traffic.inPhase_of_atRest hrest (Traffic.isCall_run config hcalls) h.waiting hdone]
  rfl

/-- Whoever has returned is done. -/
theorem Traffic.countP_isReturnWith {config : Config} {moves : List Move} (hcalls : OnlyCalls moves)
    (hcount : (issuedIds ((Traffic.start config).run moves).log).length < 2 ^ 64)
    (which : Decision → Bool) :
    ((Traffic.start config).run moves).log.countP (Incident.isReturnWith which) =
      ((Traffic.start config).run moves).returned which := by
  have hnone : ∀ log : List Incident, log.countP (fun _ => false) = 0 :=
    fun log => List.countP_eq_zero.2 fun _ _ => Bool.false_ne_true
  have hbalance := (Account.fair_returns which).balance hcalls hcount
  rwa [show (Account.returns which).closes = fun _ => false from rfl, hnone,
    Nat.zero_add] at hbalance

/-- A counter of decisions is the number of calls that have returned with such decisions. -/
theorem Head.returned_run {config : Config} {moves : List Move} (head : Head)
    (hcalls : OnlyCalls moves)
    (hlength : ((Traffic.start config).run moves).log.length < 2 ^ 64) :
    (head.field ((Traffic.start config).run moves).counters).toNat =
      ((Traffic.start config).run moves).returned head.which := by
  rw [← Traffic.countP_isReturnWith hcalls (issuedIds_length_lt hlength)]
  exact field_run head.tally hcalls hlength

/-- What is returned under several heads is the sum of what is returned under each. -/
theorem Traffic.returned_eq_sum (t : Traffic) (whole : Decision → Bool)
    (parts : List (Decision → Bool))
    (h : ∀ decision, (whole decision).toNat = (parts.map fun part => (part decision).toNat).sum) :
    t.returned whole = (parts.map t.returned).sum := by
  have hphase : ∀ phase : Phase, (phase.isDone whole).toNat =
      (parts.map fun part => (phase.isDone part).toNat).sum := by
    intro phase
    cases phase with
    | done decision => exact h decision
    | _ =>
        refine (List.sum_eq_zero fun one hone => ?_).symm
        obtain ⟨part, -, rfl⟩ := List.mem_map.1 hone
        rfl
  have hsum := countP_eq_sum (parts.map fun part (strand : Strand) => strand.phase.isDone part)
    (fun strand => by rw [List.map_map]; exact hphase strand.phase) t.strands
  rw [List.map_map] at hsum
  exact hsum

/-- Every decision is of one of three sorts. -/
theorem Traffic.returned_sorts (t : Traffic) :
    t.returned (fun _ => true) =
      t.returned Decision.isAllowed + t.returned Decision.isDenied +
        t.returned Decision.isViolation := by
  have hsum := t.returned_eq_sum (fun _ => true)
    [Decision.isAllowed, Decision.isDenied, Decision.isViolation] fun decision => by
      cases decision with
      | error => rfl
      | ok v => cases v <;> rfl
  simp only [List.map_cons, List.map_nil, List.sum_cons, List.sum_nil] at hsum
  omega

/-- Every refusal has its reason. -/
theorem Traffic.returned_reasons (t : Traffic) :
    t.returned Decision.isDenied =
      t.returned (Decision.isDeniedFor .crawler) + t.returned Decision.isOffline +
        t.returned (Decision.isDeniedFor .hydrationFailed) +
        t.returned (Decision.isDeniedFor .shuttingDown) +
        t.returned (Decision.isDeniedFor .pathUnresolved) +
        t.returned (Decision.isDeniedFor .providerUnreachable) := by
  have hsum := t.returned_eq_sum Decision.isDenied
    [Decision.isDeniedFor .crawler, Decision.isOffline, Decision.isDeniedFor .hydrationFailed,
      Decision.isDeniedFor .shuttingDown, Decision.isDeniedFor .pathUnresolved,
      Decision.isDeniedFor .providerUnreachable] fun decision => by
      cases decision with
      | error => rfl
      | ok v =>
          cases v with
          | allow => rfl
          | deny reason => cases reason <;> rfl
  simp only [List.map_cons, List.map_nil, List.sum_cons, List.sum_nil] at hsum
  omega

/-- A request is over when its message was not taken, or when its wait has ended. -/
theorem countP_waits_closes (log : List Incident) :
    log.countP Account.waits.closes =
      log.countP Incident.isUnsent + log.countP Incident.isWake :=
  countP_eq_sum [Incident.isUnsent, Incident.isWake] (fun i => by
    cases i with
    | returned n feedback =>
        cases feedback with
        | sent result => cases result <;> rfl
        | managed | flags | root => rfl
    | looked n outcome => cases outcome <;> rfl
    | _ => rfl) log

theorem countP_isFailure_le (log : List Incident) :
    log.countP Incident.isFailure ≤ log.countP Incident.isWake :=
  List.countP_mono_left fun i _ hi => by
    cases i with
    | looked n outcome =>
        cases outcome with
        | none => cases hi
        | some outcome => rfl
    | _ => cases hi

/-- Calls that are told apart by their numbers are no more than there are. -/
theorem length_le_countP {strands : List Strand} {test : Strand → Bool} {ns : List Nat}
    (hnodup : ns.Nodup) (h : ∀ n ∈ ns, ∃ strand, strands[n]? = some strand ∧ test strand = true) :
    ns.length ≤ strands.countP test := by
  rw [countP_eq_countP_range, List.countP_eq_length_filter]
  refine (List.subperm_of_subset hnodup fun n hn => ?_).length_le
  obtain ⟨strand, hstrand, htest⟩ := h n hn
  refine List.mem_filter.2 ⟨List.mem_range.2 (List.getElem?_eq_some_iff.1 hstrand).1, ?_⟩
  rw [hstrand]
  exact htest

/-- Whoever was let pass as an outsider has returned with that. -/
theorem outsiders_length_le {config : Config} {moves : List Move} (hcalls : OnlyCalls moves)
    (hcount : (issuedIds ((Traffic.start config).run moves).log).length < 2 ^ 64)
    (hrest : ((Traffic.start config).run moves).AtRest) :
    (outsiders ((Traffic.start config).run moves).log).length ≤
      ((Traffic.start config).run moves).returned Decision.isAllowed := by
  obtain ⟨hnodup, hknown⟩ := outsiders_run hcalls hcount
  refine length_le_countP hnodup fun n hn => ?_
  obtain ⟨strand, hstrand, hcan⟩ := hknown n hn
  have hmem := List.mem_of_getElem? hstrand
  refine ⟨strand, hstrand, ?_⟩
  rcases Traffic.phase_of_atRest hrest hmem (Traffic.isCall_run config hcalls strand hmem) with
    hphase | ⟨decision, hphase⟩
  · rw [hphase] at hcan
    cases hcan
  · rw [hphase] at hcan ⊢
    cases decision with
    | error => cases hcan
    | ok v =>
        cases v with
        | allow => rfl
        | deny => cases hcan

/-- When no call is under way, each outsider has been counted once. -/
theorem fastPath_run {config : Config} {moves : List Move} (hcalls : OnlyCalls moves)
    (hlength : ((Traffic.start config).run moves).log.length < 2 ^ 64)
    (hrest : ((Traffic.start config).run moves).AtRest) :
    ((Traffic.start config).run moves).counters.fastPath.toNat =
      (outsiders ((Traffic.start config).run moves).log).length := by
  have hfew := Nat.lt_of_le_of_lt (List.length_filterMap_le Incident.outsider? _) hlength
  have hfast := slipped_run hcalls (issuedIds_length_lt hlength)
  rw [Traffic.inPhase_of_atRest hrest (Traffic.isCall_run config hcalls) rfl fun _ => rfl] at hfast
  have hsame : ((Traffic.start config).run moves).counters.fastPath =
      .ofNat (outsiders ((Traffic.start config).run moves).log).length :=
    (UInt64.add_zero _).symm.trans hfast
  rw [hsame]
  exact UInt64.toNat_ofNat_of_lt' hfew

/-- What the metrics tell, compared with what has happened; `spans` are the latencies on the way. -/
structure Balanced (policy : UnreachablePolicy) (t : Traffic) (spans : List Span) : Prop where
  decisions : t.counters.decisions.toNat = t.returned fun _ => true
  violations : t.counters.integrityViolations.toNat = t.returned Decision.isViolation
  /-- Every decision is of one of three sorts. -/
  sorts : t.counters.decisions.toNat = t.counters.allowed.toNat + t.counters.denied.toNat +
    t.counters.integrityViolations.toNat
  /-- Every refusal has its reason; two reasons have no counter. -/
  reasons : t.counters.denied.toNat = t.counters.crawlerDenials.toNat +
    t.counters.offlineDenials.toNat + t.counters.hydrationFailures.toNat +
    t.counters.shutdownDenials.toNat + t.returned (Decision.isDeniedFor .pathUnresolved) +
    t.returned (Decision.isDeniedFor .providerUnreachable)
  /-- The calls whose flags have told that the object lies outside of every root, each once. -/
  fastPath : t.counters.fastPath.toNat = (outsiders t.log).length ∧ (outsiders t.log).Nodup
  passed : t.counters.fastPath.toNat ≤ t.counters.allowed.toNat
  /-- The channel is called once for every request. -/
  requests : t.counters.hydrationRequests.toNat = t.log.countP Incident.isSend
  /-- The messages that the channel has not taken. -/
  unsent : t.counters.transportFailures.toNat = t.log.countP Incident.isUnsent
  /-- One latency for each wait that has ended, and the latest of them in the window. -/
  recorded : t.Recorded spans
  /-- Every request fails on its way, or its latency is recorded. -/
  latencies : t.counters.hydrationRequests.toNat =
    t.counters.transportFailures.toNat + spans.length
  failures : t.counters.hydrationFailures.toNat ≤
    t.counters.hydrationRequests.toNat - t.counters.transportFailures.toNat
  deny : policy = .deny → t.counters.transportFailures.toNat =
    t.returned (Decision.isDeniedFor .providerUnreachable)
  allow : policy = .allow → t.returned (Decision.isDeniedFor .providerUnreachable) = 0

/-- When no call is under way the metrics add up: whatever calls have been made, in whatever order their
steps came, whatever the collaborators have answered, and whether or not a shutdown has begun. -/
theorem balanced_run {config : Config} {moves : List Move} (hcalls : OnlyCalls moves)
    (hlength : ((Traffic.start config).run moves).log.length < 2 ^ 64)
    (hrest : ((Traffic.start config).run moves).AtRest) :
    Balanced config.onUnreachable ((Traffic.start config).run moves)
      ((Traffic.start config).latencies moves) := by
  have hcount := issuedIds_length_lt hlength
  have hhead := fun head : Head => head.returned_run hcalls hlength
  have hreturned := Traffic.countP_isReturnWith hcalls hcount
  have hdispatch := fun dispatch : Dispatch => field_run dispatch.tally hcalls hlength
  have hfast := fastPath_run hcalls hlength hrest
  have houtsiders := outsiders_length_le hcalls hcount hrest
  obtain ⟨hnodup, -⟩ := outsiders_run hcalls hcount
  have hrecorded := Traffic.recorded_run config moves
  have hsends := Account.fair_sends.closed (fun _ => rfl) hcalls hcount hrest
  have hwaits := Account.fair_waits.closed (fun _ => rfl) hcalls hcount hrest
  have hfailures := Account.fair_failures.closed (fun _ => rfl) hcalls hcount hrest
  have hstrandings := Account.fair_strandings.closed (fun _ => rfl) hcalls hcount hrest
  generalize (Traffic.start config).run moves = t at *
  generalize (Traffic.start config).latencies moves = spans at *
  have hrequests : t.counters.hydrationRequests.toNat = t.log.countP Incident.isRegistration :=
    hdispatch .requests
  have hunsent : t.counters.transportFailures.toNat = t.log.countP Incident.isUnsent :=
    hdispatch .failures
  have hallowed : t.counters.allowed.toNat = t.returned Decision.isAllowed := hhead .allowed
  have hdenied : t.counters.denied.toNat = t.returned Decision.isDenied := hhead .denied
  have hfailed : t.counters.hydrationFailures.toNat = t.log.countP Incident.isFailure :=
    (hhead .failed).trans ((hreturned _).symm.trans hfailures.symm)
  have hstranded : t.log.countP (fun i => i.isUnsent && config.onUnreachable = .deny) =
      t.returned (Decision.isDeniedFor .providerUnreachable) := hstrandings.trans (hreturned _)
  have hover : t.counters.hydrationRequests.toNat =
      t.counters.transportFailures.toNat + spans.length := by
    rw [hrequests, hunsent, hrecorded.wakes]
    exact hwaits.trans (countP_waits_closes t.log)
  exact
    { decisions := hhead .decisions
      violations := hhead .violations
      sorts := by
        rw [hallowed, hdenied, show t.counters.integrityViolations.toNat = _ from hhead .violations]
        exact (hhead .decisions).trans t.returned_sorts
      reasons := by
        rw [hdenied, show t.counters.crawlerDenials.toNat = _ from hhead .crawler,
          show t.counters.offlineDenials.toNat = _ from hhead .offline,
          show t.counters.hydrationFailures.toNat = _ from hhead .failed,
          show t.counters.shutdownDenials.toNat = _ from hhead .shutDown]
        exact t.returned_reasons
      fastPath := ⟨hfast, hnodup⟩
      passed := by
        rw [hfast, hallowed]
        exact houtsiders
      requests := hrequests.trans hsends
      unsent := hunsent
      recorded := hrecorded
      latencies := hover
      failures := by
        have hwoken := countP_isFailure_le t.log
        have hwakes := hrecorded.wakes
        omega
      deny := fun hpolicy => by
        rw [hunsent, ← hstranded]
        exact List.countP_congr fun i _ => by simp [hpolicy]
      allow := fun hpolicy => by
        rw [← hstranded]
        exact List.countP_eq_zero.2 fun i _ => by simp [hpolicy] }

namespace FourCalls

def access : Access := ⟨7, "reader", ⟨.regular, .ok "/root/file"⟩, .ofRights [.readData]⟩

/-- A call comes in and is told the flags of its object. -/
def asking (n : Nat) (flags : Except FlagsFault Flags) : List Move :=
  [.arrive access, .step n .zero, .turn n, .back n (.managed true), .turn n, .back n (.flags flags)]

/-- A call comes in and hands its message to the channel. -/
def requesting (n : Nat) : List Move :=
  asking n (.ok (.inside true)) ++
    [.turn n, .back n (.root (some ⟨0, "/root", some 5⟩)), .step n .zero, .step n .zero,
      .step n .zero, .turn n]

/-- One request fails, one is not taken, one object lies outside of every root, and one has no flags. -/
def moves : List Move :=
  requesting 0 ++ requesting 1 ++ asking 2 (.ok .clear) ++ asking 3 (.error .unsupported) ++
    [.back 1 (.sent (.error (.notConnected 0))), .deliver 1 .failure, .back 0 (.sent (.ok ())),
      .step 2 .zero, .step 2 .zero, .step 3 .zero, .step 3 .zero] ++
    [0, 1, 0, 1, 0, 1, 0].map fun n => .step n .zero

def config : Config := { Config.standard with onUnreachable := .deny }

def final : Traffic := (Traffic.start config).run moves

/-- The counters of all four. -/
theorem balanced_of_four :
    OnlyCalls moves ∧ final.log.length < 2 ^ 64 ∧ final.AtRest ∧
      Balanced .deny final ((Traffic.start config).latencies moves) ∧
      final.counters.decisions = 4 ∧ final.counters.hydrationRequests = 2 ∧
      (Traffic.start config).latencies moves = [.zero] := by
  have hcalls : OnlyCalls moves := by
    intro c hc
    have hnone : (moves.any fun | .request _ => true | _ => false) = false := by rfl
    rw [List.any_eq_false] at hnone
    exact hnone _ hc rfl
  have hlength : final.log.length < 2 ^ 64 := by
    have hlong : final.log.length = 42 := by cbv
    rw [hlong]
    decide
  have hrest : final.AtRest := by
    have hall : (final.strands.all fun strand => !strand.isUnderWay) = true := by cbv
    intro strand hstrand
    simpa using List.all_eq_true.1 hall strand hstrand
  exact ⟨hcalls, hlength, hrest, balanced_run hcalls hlength hrest, by cbv, by cbv, by rfl⟩

end FourCalls

end Hydration
