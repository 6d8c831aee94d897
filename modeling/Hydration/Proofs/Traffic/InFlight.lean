/-
Requests that are in flight when a shutdown begins.

# What is still told

From the registration on a request has few incidents left. `Fate` says for each thing its errand can
have to do next what has been told of it since the shutdown began: the channel may still have to be
called and to come back, then one look shows the shutdown, and the request is resolved. Others add
nothing to this (`Fated.step`), the strand's own step adds the next incident (`Fate.step`).

# The exception

A look shows the shutdown, whatever the slot holds. But a request whose message the channel did not
take is resolved without a look, by the policy alone, and the flag has no part in it. `Decided` has both
rules, and `not_prevails` shows that the second one is taken: there the access is let through, or
refused for another reason than the shutdown.

# Progress

Once the channel has come back the strand has at most two steps left, a look and the release. Nobody
can add to them, and each own step takes one off (`Fated.run`).
-/
import Hydration.Proofs.Pending.Shutdown
import Hydration.Proofs.Traffic.Provenance

namespace Hydration

-- ============================================================ requests in flight

/-- The request is registered, and no outcome has been seen: its message is to be sent or with the
channel, or its answer is waited for. -/
def Errand.isInFlight : Errand → Bool
  | send _ _ | await _ => true
  | _ => false

def Task.isInFlight (task : Task) : Bool := task.errand?.any Errand.isInFlight

/-- Incidents that decide nothing: the channel is called, or has taken the message. -/
def Uneventful (n : Nat) (told : List Incident) : Prop :=
  ∀ i ∈ told, (∃ contact, i = .called n contact) ∨ i = .returned n (.sent (.ok ()))

namespace Uneventful

variable {n : Nat} {told : List Incident}

theorem nil (n : Nat) : Uneventful n [] := List.forall_mem_nil _

theorem concat (h : Uneventful n told) {i : Incident}
    (hi : (∃ contact, i = .called n contact) ∨ i = .returned n (.sent (.ok ()))) :
    Uneventful n (told ++ [i]) :=
  List.forall_mem_append.2 ⟨h, List.forall_mem_singleton.2 hi⟩

theorem not_resolved (h : Uneventful n told) (v : Verdict) : .resolved n v ∉ told := by
  intro hv
  rcases h _ hv with ⟨contact, hcalled⟩ | hsent
  · cases hcalled
  · cases hsent

theorem not_failed (h : Uneventful n told) (fault : SendFault) :
    .returned n (.sent (.error fault)) ∉ told := by
  intro hfault
  rcases h _ hfault with ⟨contact, hcalled⟩ | hsent
  · cases hcalled
  · cases hsent

end Uneventful

/-- The last incident of a request in flight has decided on a verdict. -/
inductive Decided (policy : UnreachablePolicy) (n : Nat) : List Incident → Verdict → Prop where
  /-- A look has shown the shutdown. -/
  | woken (lead : List Incident) (hlead : Uneventful n lead) :
    Decided policy n (lead ++ [.looked n (some .shutDown)]) (.deny .shuttingDown)
  /-- The channel has not taken the message. -/
  | unsent (lead : List Incident) (hlead : Uneventful n lead) (fault : SendFault) :
    Decided policy n (lead ++ [.returned n (.sent (.error fault))]) (Errand.unreachable policy)

namespace Decided

variable {policy : UnreachablePolicy} {n : Nat} {told : List Incident} {v : Verdict}

theorem not_resolved (h : Decided policy n told v) (w : Verdict) : .resolved n w ∉ told := by
  cases h with
  | woken lead hlead => simp [hlead.not_resolved w]
  | unsent lead hlead fault => simp [hlead.not_resolved w]

/-- The verdict is that of the shutdown exactly when the channel has not failed. -/
theorem eq_shuttingDown_iff (h : Decided policy n told v) :
    v = .deny .shuttingDown ↔ ∀ fault, .returned n (.sent (.error fault)) ∉ told := by
  cases h with
  | woken lead hlead => simp [hlead.not_failed]
  | unsent lead hlead fault =>
      constructor
      · intro hv
        cases policy <;> cases hv
      · intro hno
        exact absurd (List.mem_append_right _ (List.mem_singleton_self _)) (hno fault)

end Decided

-- ============================================================ the fate of a strand

/-- What has been told of a request since the shutdown began, how much at most is still to be told,
and what its strand has to do next. -/
inductive Fate (policy : UnreachablePolicy) (n : Nat) (told : List Incident) :
    Nat → Strand → Prop where
  | sending (task : Task) (root : Int) (message : Message)
      (he : task.errand? = some (.send root message)) (htold : Uneventful n told) :
    Fate policy n told 4 ⟨task, false⟩
  | sent (task : Task) (root : Int) (message : Message)
      (he : task.errand? = some (.send root message)) (htold : Uneventful n told) :
    Fate policy n told 3 ⟨task, true⟩
  | waiting (task : Task) (out : Bool) (id : UInt64) (he : task.errand? = some (.await id))
      (htold : Uneventful n told) :
    Fate policy n told 2 ⟨task, out⟩
  | leaving (task : Task) (out : Bool) (id : UInt64) (v : Verdict)
      (he : task.errand? = some (.release id v)) (htold : Decided policy n told v) :
    Fate policy n told 1 ⟨task, out⟩
  | ended (task : Task) (out : Bool) (earlier : List Incident) (v : Verdict)
      (he : task.errand? = some (.done v) ∨ task.isOver = true)
      (htold : Decided policy n earlier v) (heq : told = earlier ++ [.resolved n v]) :
    Fate policy n told 0 ⟨task, out⟩

/-- Nothing has been told yet. -/
theorem Fate.begin (policy : UnreachablePolicy) (n : Nat) {strand : Strand}
    (h : strand.task.isInFlight = true) : ∃ left, Fate policy n [] left strand := by
  obtain ⟨task, out⟩ := strand
  obtain ⟨e, he, hflight⟩ := (Option.any_eq_true _ _).1 h
  cases e with
  | send root message =>
      cases out with
      | false => exact ⟨4, .sending task root message he (.nil n)⟩
      | true => exact ⟨3, .sent task root message he (.nil n)⟩
  | await id => exact ⟨2, .waiting task out id he (.nil n)⟩
  | number | register | release | done => cases hflight

/-- Nobody is called for a strand whose errand has nothing to send. -/
theorem Task.contact?_of_errand? {task : Task} {e : Errand} (he : task.errand? = some e)
    (hsend : ∀ root message, e ≠ .send root message) : task.contact? = none := by
  cases hcontact : task.contact? with
  | none => rfl
  | some contact =>
      obtain ⟨root, message, rfl, -⟩ := Task.send_of_contact? he hcontact
      exact absurd rfl (hsend root message)

namespace Fate

variable {policy : UnreachablePolicy} {n left : Nat} {told : List Incident}
  {table table' : Pending} {active active' : Nat} {strand strand' : Strand}
  {incidents : List Incident}

/-- The strand's own step while the flag is up. -/
theorem step (h : Fate policy n told left strand) (hdown : table.shuttingDown = true)
    (hstep : Strand.Step policy n table active strand table' active' strand' incidents) :
    ∃ left', Fate policy n (told ++ requestLog n incidents) left' strand' ∧
      left' + (requestLog n incidents).length ≤ left := by
  have htell : ∀ {i : Incident} {left' : Nat}, i.isOfRequest n = true →
      Fate policy n (told ++ [i]) left' strand' → left' < left →
      ∃ left', Fate policy n (told ++ requestLog n [i]) left' strand' ∧
        left' + (requestLog n [i]).length ≤ left := by
    intro i left' hi hfate hlt
    rw [requestLog, List.filter_cons_of_pos hi, List.filter_nil]
    exact ⟨left', hfate, hlt⟩
  -- only the rules for the errand at hand apply
  have honly : ∀ {e e' : Errand}, strand.task.errand? = some e → strand.task.errand? = some e' →
      e = e' := fun he he' => Option.some.inj (he.symm.trans he')
  cases h with
  | sending task root message he htold =>
      cases hstep with
      | enter | rule | commission | finish | leave => cases he
      | number _ _ _ _ _ he' | register _ _ _ _ _ _ he' _ | refuse _ _ _ _ _ _ he' _
      | wait _ _ _ _ he' _ | wake _ _ _ _ _ he' _ | release _ _ _ _ _ he' => cases honly he he'
      | turn _ _ contact hcontact =>
          obtain ⟨_, _, heq, rfl⟩ := Task.send_of_contact? he hcontact
          cases heq
          have hmore := htold.concat (.inl ⟨.send root message, rfl⟩)
          exact htell (decide_eq_true rfl) (.sent task root message he hmore) (by decide)
  | sent task root message he htold =>
      cases hstep with
      | enter | rule | commission | answered | finish | leave => cases he
      | number _ _ _ _ _ he' | register _ _ _ _ _ _ he' _ | refuse _ _ _ _ _ _ he' _
      | wait _ _ _ _ he' _ | wake _ _ _ _ _ he' _ | release _ _ _ _ _ he' => cases honly he he'
      | sent _ _ _ _ he' =>
          cases honly he he'
          have hmore := htold.concat (.inr rfl)
          exact htell (decide_eq_true rfl)
            (.waiting _ false message.id (task.errand?_withErrand _) hmore) (by decide)
      | unsent _ _ _ _ fault he' =>
          cases honly he he'
          exact htell (decide_eq_true rfl)
            (.leaving _ false message.id _ (task.errand?_withErrand _) (.unsent told htold fault))
            (by decide)
  | waiting task out id he htold =>
      cases hstep with
      | enter | rule | commission | answered | finish | leave => cases he
      | number _ _ _ _ _ he' | register _ _ _ _ _ _ he' _ | refuse _ _ _ _ _ _ he' _
      | sent _ _ _ _ he' | unsent _ _ _ _ _ he' | release _ _ _ _ _ he' => cases honly he he'
      | turn _ _ _ hcontact =>
          cases hcontact.symm.trans (Task.contact?_of_errand? he fun _ _ h => by cases h)
      | wait _ _ _ _ _ hnone =>
          -- no look is in vain while the flag is up
          rw [Pending.outcome?_of_down hdown] at hnone
          cases hnone
      | wake _ _ _ _ outcome he' hsome =>
          cases honly he he'
          rw [Pending.outcome?_of_down hdown] at hsome
          cases hsome
          exact htell (decide_eq_true rfl)
            (.leaving _ out id _ (task.errand?_withErrand _) (.woken told htold)) (by decide)
  | leaving task out id v he htold =>
      cases hstep with
      | enter | rule | commission | answered | finish | leave => cases he
      | number _ _ _ _ _ he' | register _ _ _ _ _ _ he' _ | refuse _ _ _ _ _ _ he' _
      | sent _ _ _ _ he' | unsent _ _ _ _ _ he' | wait _ _ _ _ he' _
      | wake _ _ _ _ _ he' _ => cases honly he he'
      | turn _ _ _ hcontact =>
          cases hcontact.symm.trans (Task.contact?_of_errand? he fun _ _ h => by cases h)
      | release _ _ _ _ _ he' =>
          cases honly he he'
          exact htell (decide_eq_true rfl)
            (.ended _ out told v (.inl (task.errand?_withErrand _)) htold rfl) (by decide)
  | ended task out earlier v he htold heq =>
      have hquiet : ∀ task', task'.isOver = true →
          ∃ left', Fate policy n (told ++ []) left' ⟨task', out⟩ ∧ left' + 0 ≤ 0 := by
        intro task' hover
        rw [List.append_nil]
        exact ⟨0, .ended task' out earlier v (.inr hover) htold heq, Nat.le_refl 0⟩
      rcases he with he | hover
      · cases hstep with
        | enter | rule | commission | answered | leave => cases he
        | number _ _ _ _ _ he' | register _ _ _ _ _ _ he' _ | refuse _ _ _ _ _ _ he' _
        | sent _ _ _ _ he' | unsent _ _ _ _ _ he' | wait _ _ _ _ he' _
        | wake _ _ _ _ _ he' _ | release _ _ _ _ _ he' => cases honly he he'
        | turn _ _ _ hcontact =>
            cases hcontact.symm.trans (Task.contact?_of_errand? he fun _ _ h => by cases h)
        | finish => exact hquiet _ rfl
      · cases hstep with
        | enter | rule | commission | answered | finish => cases hover
        | number _ _ _ _ _ he' | register _ _ _ _ _ _ he' _ | refuse _ _ _ _ _ _ he' _
        | sent _ _ _ _ he' | unsent _ _ _ _ _ he' | wait _ _ _ _ he' _
        | wake _ _ _ _ _ he' _ | release _ _ _ _ _ he' =>
            cases he'.symm.trans (Task.errand?_of_isOver hover)
        | turn _ _ _ hcontact => cases hcontact.symm.trans (Task.contact?_of_isOver hover)
        | leave => exact hquiet _ rfl

/-- A verdict is told last, after what has decided on it. -/
theorem decided (h : Fate policy n told left strand) {v : Verdict} (hv : .resolved n v ∈ told) :
    ∃ earlier, Decided policy n earlier v ∧ told = earlier ++ [.resolved n v] := by
  cases h with
  | sending _ _ _ _ htold | sent _ _ _ _ htold | waiting _ _ _ _ htold =>
      exact absurd hv (htold.not_resolved v)
  | leaving _ _ _ _ _ htold => exact absurd hv (htold.not_resolved v)
  | ended _ _ earlier w _ htold heq =>
      rw [heq, List.mem_append, List.mem_singleton] at hv
      rcases hv with hv | hv
      · exact absurd hv (htold.not_resolved v)
      · cases hv
        exact ⟨earlier, htold, heq⟩

theorem exists_resolved (h : Fate policy n told 0 strand) : ∃ v, .resolved n v ∈ told := by
  cases h with
  | ended _ _ earlier v _ _ heq =>
      rw [heq]
      exact ⟨v, List.mem_append_right _ (List.mem_singleton_self _)⟩

/-- The channel has come back. -/
theorem left_le_two (h : Fate policy n told left strand) (hnobody : strand.task.contact? = none) :
    left ≤ 2 := by
  have hsend : ∀ {task : Task} {root message}, task.errand? = some (.send root message) →
      task.contact? ≠ none := by
    intro task root message he
    unfold Task.errand? at he
    split at he <;> cases he <;> exact Option.some_ne_none _
  cases h with
  | sending _ _ _ he | sent _ _ _ he => exact absurd hnobody (hsend he)
  | waiting | leaving | ended => decide

/-- What the strand's own step tells while there is a look or a release to come. -/
theorem tells (h : Fate policy n told left strand) (hpos : 0 < left) (hle : left ≤ 2)
    (arbiter : Arbiter) : requestLog n (strand.task.incidents n arbiter) ≠ [] := by
  cases h with
  | sending | sent | ended => omega
  | waiting task _ id he =>
      rw [Task.incidents_of_errand? he]
      simp [Errand.incidents, requestLog, Incident.isOfRequest]
  | leaving task _ id v he =>
      rw [Task.incidents_of_errand? he]
      simp [Errand.incidents, requestLog, Incident.isOfRequest]

end Fate

-- ============================================================ amid the traffic

/-- Nobody takes the flag down. -/
theorem Traffic.Step.shuttingDown {t next : Traffic} {move : Move} (h : t.Step move next)
    (hdown : t.pending.shuttingDown = true) : next.pending.shuttingDown = true := by
  cases h with
  | strand n before after incidents hn hstep => rw [hstep.shuttingDown.1, hdown]
  | arrive _ hpending | request _ _ hpending => rw [hpending, hdown]
  | outside incidents hstep =>
      generalize t.pending = table, t.closing = closing, next.pending = table',
        next.closing = closing' at hdown hstep
      cases hstep with
      | idle | issue | check | unlisten | look | release => exact hdown
      | deliver => rwa [Pending.shuttingDown_deliver]
      | shutDown | drain => rfl

/-- A move is an own step of the strand with a number. -/
def Move.isStepOf (n : Nat) : Move → Bool
  | step m _ => m = n
  | _ => false

/-- A shutdown has begun, and the request of a strand goes its way. -/
structure Fated (policy : UnreachablePolicy) (n : Nat) (told : List Incident) (left : Nat)
    (t : Traffic) : Prop where
  onUnreachable : t.arbiter.onUnreachable = policy
  down : t.pending.shuttingDown = true
  fate : ∃ strand, t.strands[n]? = some strand ∧ Fate policy n told left strand

namespace Fated

variable {policy : UnreachablePolicy} {n left : Nat} {told : List Incident} {t : Traffic}

/-- Whoever moves, what is told of the request counts against what is left. -/
theorem step (h : Fated policy n told left t) (move : Move) :
    ∃ news left', (t.step move).log = t.log ++ news ∧
      Fated policy n (told ++ requestLog n news) left' (t.step move) ∧
      left' + (requestLog n news).length ≤ left := by
  have hpolicy := (Traffic.onUnreachable_step t move).trans h.onUnreachable
  have hstep := Traffic.step_step t move
  have hdown := hstep.shuttingDown h.down
  obtain ⟨strand, hn, hfate⟩ := h.fate
  -- moves of others tell nothing of the request
  have hother : ∀ news, (t.step move).log = t.log ++ news → requestLog n news = [] →
      (t.step move).strands[n]? = some strand →
      ∃ news left', (t.step move).log = t.log ++ news ∧
        Fated policy n (told ++ requestLog n news) left' (t.step move) ∧
        left' + (requestLog n news).length ≤ left := by
    intro news hlog hnews hsame
    refine ⟨news, left, hlog, ?_, ?_⟩
    · rw [hnews, List.append_nil]
      exact ⟨hpolicy, hdown, strand, hsame, hfate⟩
    · rw [hnews]
      exact Nat.le_refl left
  have hlt : n < t.strands.length := (List.getElem?_eq_some_iff.1 hn).1
  cases hstep with
  | strand k before after incidents hk hstep hstrands _ hlog =>
      by_cases heq : k = n
      · subst heq
        cases hn.symm.trans hk
        rw [h.onUnreachable] at hstep
        obtain ⟨left', hfate', hleft⟩ := hfate.step h.down hstep
        refine ⟨incidents, left', hlog, ⟨hpolicy, hdown, after, ?_, hfate'⟩, hleft⟩
        rw [hstrands, List.getElem?_set_self hlt]
      · refine hother incidents hlog (hstep.requestLog_other (Ne.symm heq)) ?_
        rw [hstrands, List.getElem?_set_ne heq, hn]
  | arrive access _ _ hstrands _ hlog =>
      refine hother [] (hlog.trans (List.append_nil _).symm) rfl ?_
      rw [hstrands, List.getElem?_append_left hlt, hn]
  | request c _ _ _ hstrands _ hlog =>
      refine hother _ hlog (requestLog_eq_nil fun i hi hown => ?_) ?_
      · rw [Commission.strand?_of_mem hi] at hown
        exact Nat.lt_irrefl n (Option.some.inj hown ▸ hlt)
      · rw [hstrands, List.getElem?_append_left hlt, hn]
  | outside incidents hstep _ hstrands hlog =>
      refine hother incidents hlog (hstep.requestLog n) ?_
      rw [hstrands, hn]

/-- The strand's own steps use up what is left once the channel has come back. -/
theorem tells (h : Fated policy n told left t) (hpos : 0 < left) (hle : left ≤ 2)
    {move : Move} (hmove : move.isStepOf n = true) {news : List Incident}
    (hlog : (t.step move).log = t.log ++ news) : 0 < (requestLog n news).length := by
  obtain ⟨strand, hn, hfate⟩ := h.fate
  cases move with
  | step m latency =>
      cases (of_decide_eq_true hmove : m = n)
      have htold : (t.step (.step n latency)).log =
          t.log ++ strand.task.incidents n t.arbiter := by
        simp only [Traffic.step, hn]
        rfl
      rw [List.append_cancel_left (hlog.symm.trans htold)]
      exact List.length_pos_iff.2 (hfate.tells hpos hle t.arbiter)
  | arrive | request | turn | back | takeId | deliver | shutDown | check | close => cases hmove

theorem run (h : Fated policy n told left t) (moves : List Move) :
    ∃ news left', (t.run moves).log = t.log ++ news ∧
      Fated policy n (told ++ requestLog n news) left' (t.run moves) ∧
      left' + (requestLog n news).length ≤ left ∧
      (left ≤ 2 → left' ≤ left - moves.countP (Move.isStepOf n)) := by
  induction moves generalizing t told left with
  | nil =>
      refine ⟨[], left, (List.append_nil _).symm, ?_, Nat.le_refl left, fun _ => Nat.le_refl left⟩
      rwa [requestLog, List.filter_nil, List.append_nil]
  | cons move rest ih =>
      obtain ⟨first, left₁, hfirst, hfated, hleft⟩ := h.step move
      obtain ⟨news, left₂, hnews, hend, hleft', hown⟩ := ih hfated
      refine ⟨first ++ news, left₂, ?_, ?_, ?_, fun hle => ?_⟩
      · show ((t.step move).run rest).log = _
        rw [hnews, hfirst, List.append_assoc]
      · rw [requestLog_append, ← List.append_assoc]
        exact hend
      · rw [requestLog_append, List.length_append]
        omega
      · have hrest := hown (by omega)
        rw [List.countP_cons]
        split
        case isTrue hmove =>
          rcases Nat.eq_zero_or_pos left with hzero | hpos
          · omega
          · have hlt := h.tells hpos hle hmove hfirst
            omega
        case isFalse => omega

end Fated

-- ============================================================ the result

/-- Every request that is in flight while a shutdown is under way, in whatever state the arbiter is
and whoever moves how: all that is told of it is that the channel is called and takes the message, then
either a look that shows the shutdown or a failure of the channel, then the verdict. The verdict is that
of the shutdown exactly when the channel has not failed, and otherwise that of the policy. Once the
channel has come back two steps of the strand are enough for it. -/
theorem resolved_of_inFlight {t : Traffic} (hdown : t.pending.shuttingDown = true) {n : Nat}
    {strand : Strand} (hn : t.strands[n]? = some strand)
    (hflight : strand.task.isInFlight = true) (moves later : List Move) :
    ∃ news more, (t.run moves).log = t.log ++ news ∧
      ((t.run moves).run later).log = t.log ++ news ++ more ∧
      (∀ v, .resolved n v ∈ news →
        (∃ earlier, Decided t.arbiter.onUnreachable n earlier v ∧
          requestLog n news = earlier ++ [.resolved n v]) ∧
        (v = .deny .shuttingDown ↔ ∀ fault, .returned n (.sent (.error fault)) ∉ news)) ∧
      ((∀ late, (t.run moves).strands[n]? = some late → late.task.contact? = none) →
        2 ≤ later.countP (Move.isStepOf n) → ∃ v, .resolved n v ∈ news ++ more) := by
  obtain ⟨left, hfate⟩ := Fate.begin t.arbiter.onUnreachable n hflight
  have hfated : Fated t.arbiter.onUnreachable n [] left t := ⟨rfl, hdown, strand, hn, hfate⟩
  obtain ⟨news, left₁, hnews, hmid, -, -⟩ := hfated.run moves
  obtain ⟨more, left₂, hmore, hend, -, hown⟩ := hmid.run later
  refine ⟨news, more, hnews, by rw [hmore, hnews], fun v hv => ?_, fun hnobody hsteps => ?_⟩
  · obtain ⟨late, -, hlate⟩ := hmid.fate
    obtain ⟨earlier, hdecided, heq⟩ :=
      hlate.decided (mem_requestLog hv (by simp [Incident.isOfRequest]))
    rw [List.nil_append] at heq
    refine ⟨⟨earlier, hdecided, heq⟩, hdecided.eq_shuttingDown_iff.trans ?_⟩
    refine forall_congr' fun fault => not_congr ?_
    -- a failure that is told is told of the request, before the verdict
    have hfailure : .returned n (.sent (.error fault)) ∈ news ↔
        .returned n (.sent (.error fault)) ∈ requestLog n news := by
      simp [requestLog, Incident.isOfRequest]
    rw [hfailure, heq]
    simp
  · obtain ⟨late, hlate, hwas⟩ := hmid.fate
    have hle := hown (hwas.left_le_two (hnobody late hlate))
    have htwo := hwas.left_le_two (hnobody late hlate)
    obtain ⟨last, -, hlast⟩ := hend.fate
    obtain rfl : left₂ = 0 := by omega
    obtain ⟨v, hv⟩ := hlast.exists_resolved
    rw [List.nil_append, ← requestLog_append] at hv
    exact ⟨v, (List.mem_filter.1 hv).1⟩

namespace LateFailure

/-- A request for the content of one file. -/
def commission : Commission :=
  ⟨⟨3, "/repo", some 77⟩, .hydrateFile, ⟨.regular, .ok "/repo/src/main.rs"⟩, 500, "cat"⟩

/-- Its message goes to the channel. -/
def before : List Move := [.request commission, .step 0 .zero, .step 0 .zero, .turn 0]

/-- The channel comes back with a failure, and the request is let go. -/
def after : List Move := [.back 0 (.sent (.error (.rejected 3 "stopped"))), .step 0 .zero]

/-- The shutdown begins while the message is with the channel. -/
def closing : Traffic := (Traffic.start .standard).run (before ++ [.shutDown])

/-- The policy decides. -/
theorem decided_by_policy :
    closing.pending.shuttingDown = true ∧
      ∃ news, (closing.run after).log = closing.log ++ news ∧
        ∃ earlier, Decided .allow 0 earlier .allow ∧
          requestLog 0 news = earlier ++ [.resolved 0 .allow] := by
  have hdown : closing.pending.shuttingDown = true := by cbv
  obtain ⟨strand, hn, hflight⟩ : ∃ strand, closing.strands[0]? = some strand ∧
      strand.task.isInFlight = true := by
    exact ⟨_, by cbv, by cbv⟩
  obtain ⟨news, -, hnews, -, hdecided, -⟩ := resolved_of_inFlight hdown hn hflight after []
  have hrest : (closing.run after).log = closing.log ++
      [.returned 0 (.sent (.error (.rejected 3 "stopped"))), .resolved 0 .allow] := by cbv
  have htold : .resolved 0 .allow ∈ news := by
    rw [List.append_cancel_left (hnews.symm.trans hrest)]
    exact List.mem_cons_of_mem _ (List.mem_singleton_self _)
  exact ⟨hdown, news, hnews, (hdecided .allow htold).1⟩

/-- The shutdown has the last word on every request that is in flight when it begins and has not been
answered. -/
def ShutdownPrevails (config : Config) : Prop :=
  ∀ (before after : List Move) (n : Nat) (strand : Strand) (message : Message) (v : Verdict),
    ((Traffic.start config).run before).strands[n]? = some strand →
    strand.task.isInFlight = true →
    .registered n message ∈ ((Traffic.start config).run before).log →
    (∀ kind, .delivered message.id kind ∉ ((Traffic.start config).run before).log) →
    .resolved n v ∈ ((Traffic.start config).run (before ++ .shutDown :: after)).log →
    v = .deny .shuttingDown

/-- It has not: the access is let through under the one policy, and refused for another reason under
the other. -/
theorem not_prevails :
    ¬ ShutdownPrevails .standard ∧
      ¬ ShutdownPrevails { Config.standard with onUnreachable := .deny } := by
  have hfails : ∀ policy, ¬ ShutdownPrevails { Config.standard with onUnreachable := policy } := by
    intro policy hprevails
    have hlog : ((Traffic.start { Config.standard with onUnreachable := policy }).run before).log =
        [.requested 0 commission, .issued 1, .registered 0 (commission.message "src/main.rs" 1),
          .called 0 (.send 3 (commission.message "src/main.rs" 1))] := by cbv
    have hlast : ((Traffic.start { Config.standard with onUnreachable := policy }).run
        (before ++ .shutDown :: after)).log.getLast? =
          some (.resolved 0 (Errand.unreachable policy)) := by cbv
    have hv := hprevails before after 0 _ (commission.message "src/main.rs" 1)
      (Errand.unreachable policy) (by cbv) (by cbv) (by rw [hlog]; simp)
      (fun kind => by rw [hlog]; simp) (List.mem_of_getLast? hlast)
    cases policy <;> cases hv
  exact ⟨hfails .allow, hfails .deny⟩

end LateFailure

end Hydration
