/-
Incidents that come in equal numbers.

# Accounts

Two kinds of incidents are as many when no call is in between. An account (`Account`) opens with the one
and closes with the other, and the calls that keep it open are in certain phases. It is enough to look at
each rule of a passage (`Account.Fair`), and the balance holds after every run (`Account.Fair.balance`).

# Requests and refusals

Every request that is registered is sent (`sends`), and then it fails on its way or its wait ends
(`waits`). Two reasons for a refusal only come from there, and whoever is refused for one of them has
been given it by one incident (`denials`).
-/
import Hydration.Proofs.Traffic.Phases

namespace Hydration

-- ============================================================ accounts

/-- Incidents that open an account, incidents that close it, and the phases in between. -/
structure Account where
  opens : Incident → Bool
  closes : Incident → Bool
  isOpen : Phase → Bool

/-- The number of calls in certain phases. -/
def Traffic.inPhase (t : Traffic) (which : Phase → Bool) : Nat :=
  t.strands.countP fun strand => which strand.phase

namespace Traffic

variable {t next : Traffic} {which : Phase → Bool}

/-- One strand has moved. -/
theorem inPhase_set (which : Phase → Bool) {n : Nat} {before after : Strand} (hn : t.strands[n]? = some before)
    (hstrands : next.strands = t.strands.set n after) :
    next.inPhase which + (which before.phase).toNat = t.inPhase which + (which after.phase).toNat := by
  unfold inPhase
  rw [hstrands]
  exact countP_set_add hn after fun strand => which strand.phase

/-- A call has arrived. -/
theorem inPhase_arrive {access : Access}
    (hstrands : next.strands = t.strands ++ [⟨.call access .enter, false⟩])
    (hwaiting : which .waiting = false) : next.inPhase which = t.inPhase which := by
  have hnew : Strand.phase ⟨.call access .enter, false⟩ = .waiting := rfl
  unfold inPhase
  rw [hstrands, List.countP_append, List.countP_singleton, hnew, hwaiting]
  rfl

theorem inPhase_congr (hstrands : next.strands = t.strands) :
    next.inPhase which = t.inPhase which := by
  unfold inPhase
  rw [hstrands]

end Traffic

namespace Account

variable {a : Account}

/-- Each step of a call keeps the account. -/
structure Fair (a : Account) (policy : UnreachablePolicy) : Prop where
  waiting : a.isOpen .waiting = false
  nobody : ∀ i : Incident, i.strand? = none → a.opens i = false ∧ a.closes i = false
  passage : ∀ {n : Nat} {p p' : Phase} {m m' : Metrics} {incidents : List Incident},
    Passage policy n p m p' m' incidents →
      incidents.countP a.opens + (a.isOpen p).toNat =
        incidents.countP a.closes + (a.isOpen p').toNat

/-- Each account that was opened is closed or still open. -/
theorem Fair.balance {config : Config} {moves : List Move} (h : a.Fair config.onUnreachable)
    (hcalls : OnlyCalls moves)
    (hcount : (issuedIds ((Traffic.start config).run moves).log).length < 2 ^ 64) :
    ((Traffic.start config).run moves).log.countP a.opens =
      ((Traffic.start config).run moves).log.countP a.closes +
        ((Traffic.start config).run moves).inPhase a.isOpen := by
  refine Traffic.passes_induction
    (fun t => t.log.countP a.opens = t.log.countP a.closes + t.inPhase a.isOpen)
    hcalls hcount rfl fun t next hpass hbalance => ?_
  cases hpass with
  | strand n before after incidents hn hpass hstrands hlog =>
      have hset := Traffic.inPhase_set a.isOpen hn hstrands
      have hrule := h.passage hpass.passage
      rw [hlog, List.countP_append, List.countP_append]
      omega
  | arrive access hmetrics hstrands hlog =>
      rw [hlog, Traffic.inPhase_arrive hstrands h.waiting]
      exact hbalance
  | outside incidents hmetrics hstrands hlog hnobody =>
      have hopens : incidents.countP a.opens = 0 :=
        List.countP_eq_zero.2 fun i hi => by rw [(h.nobody i (hnobody i hi)).1]; decide
      have hcloses : incidents.countP a.closes = 0 :=
        List.countP_eq_zero.2 fun i hi => by rw [(h.nobody i (hnobody i hi)).2]; decide
      rw [hlog, Traffic.inPhase_congr hstrands, List.countP_append, List.countP_append, hopens, hcloses]
      exact hbalance

end Account

-- ============================================================ incidents that count

namespace Decision

def isAllowed : Decision → Bool
  | .ok .allow => true
  | _ => false

def isDenied : Decision → Bool
  | .ok (.deny _) => true
  | _ => false

def isViolation : Decision → Bool
  | .error _ => true
  | .ok _ => false

def isDeniedFor (reason : Reason) : Decision → Bool
  | .ok (.deny other) => other = reason
  | _ => false

def isOffline (decision : Decision) : Bool :=
  isDeniedFor .offlineWrite decision || isDeniedFor .offlinePlaceholder decision

/-- The rules alone refuse nothing for a reason that only a request has. -/
theorem isDeniedFor_of_not_ofRequest {v : Verdict} {reason : Reason} (h : v.isOfRequest = false)
    (hreason : (Verdict.deny reason).isOfRequest = true) : isDeniedFor reason (.ok v) = false := by
  cases v with
  | allow => rfl
  | deny other =>
      refine decide_eq_false fun heq => ?_
      rw [heq, hreason] at h
      cases h

end Decision

namespace Incident

/-- A call has returned with a decision of some sort. -/
def isReturnWith (which : Decision → Bool) : Incident → Bool
  | left _ decision => which decision
  | _ => false

/-- The channel is called. -/
def isSend : Incident → Bool
  | called _ (.send _ _) => true
  | _ => false

/-- The channel has not taken the message. -/
def isUnsent : Incident → Bool
  | returned _ (.sent (.error _)) => true
  | _ => false

/-- A wait has ended, and its latency is recorded. -/
def isWake : Incident → Bool
  | looked _ (some _) => true
  | _ => false

/-- The provider has answered that it failed. -/
def isFailure : Incident → Bool
  | looked _ (some (.answered .failure)) => true
  | _ => false

end Incident

namespace Phase

def isBearing (which : Decision → Bool) : Phase → Bool
  | bearing decision => which decision
  | _ => false

def isDone (which : Decision → Bool) : Phase → Bool
  | done decision => which decision
  | _ => false

def isReady : Phase → Bool
  | ready => true
  | _ => false

/-- The request has been counted, and is not over. -/
def isInFlight : Phase → Bool
  | ready | sending | awaiting => true
  | _ => false

end Phase

-- ============================================================ the accounts

theorem countP_one (test : Incident → Bool) (i : Incident) : [i].countP test = (test i).toNat := by
  rw [List.countP_singleton]
  cases test i <;> rfl

namespace Account

/-- Whoever has returned is done. -/
def returns (which : Decision → Bool) : Account where
  opens := Incident.isReturnWith which
  closes _ := false
  isOpen := Phase.isDone which

/-- A request that is registered is sent. -/
def sends : Account where
  opens := Incident.isRegistration
  closes := Incident.isSend
  isOpen := Phase.isReady

/-- A request that is registered fails on its way, or its wait ends. -/
def waits : Account where
  opens := Incident.isRegistration
  closes i := i.isUnsent || i.isWake
  isOpen := Phase.isInFlight

/-- Calls are refused for a reason that only requests have, and some incidents give it to them. -/
def denials (reason : Reason) (gives : Incident → Bool) : Account where
  opens := gives
  closes := Incident.isReturnWith (Decision.isDeniedFor reason)
  isOpen := Phase.isBearing (Decision.isDeniedFor reason)

variable {policy : UnreachablePolicy}

theorem fair_returns (which : Decision → Bool) : (returns which).Fair policy where
  waiting := rfl
  nobody i hi := by
    cases i with
    | left => cases hi
    | _ => exact ⟨rfl, rfl⟩
  passage h := by
    cases h with
    | leave _ decision =>
        rw [countP_one, countP_one]
        exact (Nat.zero_add _).symm
    | _ => rfl

theorem fair_sends : sends.Fair policy where
  waiting := rfl
  nobody i hi := by
    cases i with
    | registered | called => cases hi
    | _ => exact ⟨rfl, rfl⟩
  passage h := by cases h <;> rfl

theorem fair_waits : waits.Fair policy where
  waiting := rfl
  nobody i hi := by
    cases i with
    | registered | returned | looked => cases hi
    | _ => exact ⟨rfl, rfl⟩
  passage h := by cases h <;> rfl

/-- The verdict of a wait is given by the look that ends it, and the one of a message that was not taken
by the policy. -/
theorem fair_denials {reason : Reason} {gives : Incident → Bool}
    (hreason : reason = .hydrationFailed ∨ reason = .providerUnreachable)
    (hlooked : ∀ n outcome, gives (.looked n (some outcome)) =
      Decision.isDeniedFor reason (.ok (Errand.verdictOf outcome)))
    (hunsent : ∀ n fault, gives (.returned n (.sent (.error fault))) =
      Decision.isDeniedFor reason (.ok (Errand.unreachable policy)))
    (hothers : ∀ i : Incident, i.isWake = false → i.isUnsent = false → gives i = false) :
    (denials reason gives).Fair policy where
  waiting := rfl
  nobody i hi := by
    refine ⟨hothers i ?_ ?_, ?_⟩
    all_goals
      cases i with
      | looked | returned | left => cases hi
      | _ => rfl
  passage {n p p' m m' incidents} h := by
    have hquiet : (∀ i ∈ incidents, i.isWake = false ∧ i.isUnsent = false) →
        incidents.countP gives = 0 := fun hall =>
      List.countP_eq_zero.2 fun i hi => by rw [hothers i (hall i hi).1 (hall i hi).2]; decide
    show incidents.countP gives + _ = _
    cases h with
    | wake _ outcome _ =>
        rw [countP_one, hlooked]
        exact Nat.add_comm _ _
    | unsent _ fault =>
        rw [countP_one, hunsent]
        exact Nat.add_comm _ _
    | leave _ decision =>
        rw [hquiet (by simp [Incident.isWake, Incident.isUnsent])]
        show 0 + _ = [Incident.left n decision].countP _ + 0
        rw [countP_one, Nat.zero_add]
        rfl
    | verdict _ v hv =>
        have hother : Decision.isDeniedFor reason (.ok v) = false :=
          Decision.isDeniedFor_of_not_ofRequest hv (by rcases hreason with rfl | rfl <;> rfl)
        show 0 + 0 = 0 + (Decision.isDeniedFor reason (.ok v)).toNat
        rw [hother]
        rfl
    | _ =>
        rw [hquiet (by simp [Incident.isWake, Incident.isUnsent])]
        rcases hreason with rfl | rfl <;> rfl

/-- Calls fail because the provider has told that it failed. -/
theorem fair_failures : (denials .hydrationFailed Incident.isFailure).Fair policy := by
  refine fair_denials (.inl rfl) (fun n outcome => ?_) (fun n fault => ?_) fun i hwake hunsent => ?_
  · cases outcome with
    | shutDown => rfl
    | answered outcome => cases outcome <;> rfl
  · cases policy <;> rfl
  · cases i with
    | looked n outcome =>
        cases outcome with
        | none => rfl
        | some outcome => cases hwake
    | _ => rfl

/-- Calls do not reach the provider because their message was not taken, if the policy says so. -/
theorem fair_strandings :
    (denials .providerUnreachable fun i => i.isUnsent && policy = .deny).Fair policy := by
  refine fair_denials (.inr rfl) (fun n outcome => ?_) (fun n fault => ?_) fun i hwake hunsent => ?_
  · cases outcome with
    | shutDown => rfl
    | answered outcome => cases outcome <;> rfl
  · cases policy <;> rfl
  · rw [hunsent]
    rfl

end Account

end Hydration
