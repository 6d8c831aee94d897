/-
A service from its start to its end, when many stop it at the same time.

# The lock

Whoever stops a service takes a lock, finds out whether the service still runs, and keeps the lock
until the calls under way have returned. The registry is given back without the lock. So a stop has
stages (`Stop`), and others can get a step in between any two of them: the traffic goes on, more stops
are called, and those that have to wait are let in when the lock is free. Whoever lets go of the
service for good stops it once more if it still runs, when nobody else stops it any more.

# One stop

A stop that is alone does step by step what `Service.stop` does at once (`stopsAtOnce`), and so does
letting go of a service that runs (`abandonsAtOnce`). The moves of the traffic while it drains make up
the surroundings that `Service.stop` needs.

# One course

At any time either nobody has been let in, or one stop has, and that one has done its part of the
teardown and no more; the others wait, or have been turned away after the service was stopped
(`Course`). Every step keeps to that (`Course.step`).
-/
import Hydration.Proofs.Traffic.Drain

namespace Hydration

-- ============================================================ what happens to a service

/-- An event in the life of a service. -/
inductive LifeEvent where
  | init (result : Except RegistryFault Unit)
  | listen (result : Except ServiceFault Unit)
  | unlisten
  | beginShutdown
  | drain
  | release (result : Except RegistryFault Unit)

/-- How far a stop has come. -/
inductive Stop where
  /-- It has been called, and waits for the lock. -/
  | called
  /-- It has the lock, and the service runs. -/
  | entered
  | unlistened
  | draining (woken : Nat)
  /-- The lock is free again. -/
  | drained (woken : Nat)
  | returned (result : Except ServiceFault Nat)

def Stop.isReturned : Stop → Bool
  | returned _ => true
  | _ => false

/-- What a stop returns with when the registry has been given back. -/
def Stop.returnOf (woken : Nat) : Except RegistryFault Unit → Except ServiceFault Nat
  | .ok _ => .ok woken
  | .error fault => .error (.registry fault)

/-- A service and all that goes on around it. -/
structure Tenure (σ : Type) where
  traffic : Traffic
  running : Bool
  locked : Bool
  world : σ
  /-- All stops that have been called. -/
  stops : List Stop
  /-- Nobody holds the service any more. -/
  abandoned : Bool
  log : List LifeEvent

/-- What happens next. -/
inductive Occurrence where
  | traffic (move : Move)
  /-- Somebody calls for a stop. -/
  | call
  /-- A stop takes its next step. -/
  | step (n : Nat)
  /-- The last one who holds the service lets go of it. -/
  | abandon

/-- The moves of a stop are not made by the traffic itself. -/
def Move.isClose : Move → Bool
  | close => true
  | _ => false

namespace Traffic

variable {t : Traffic}

/-- Only a stop gets on with closing down. -/
theorem closing_step (t : Traffic) {move : Move} (hmove : move.isClose = false) :
    (t.step move).closing = t.closing := by
  cases move with
  | close => cases hmove
  | arrive | request | takeId | deliver | shutDown | check => rfl
  | step n latency | turn n | back n feedback =>
      unfold step
      dsimp only
      repeat' split
      all_goals rfl

theorem closing_close (t : Traffic) :
    (t.step .close).closing = match t.closing with
      | .running => .unlistened
      | .unlistened => .draining
      | .draining => if t.arbiter.active = 0 then .drained else .draining
      | .drained | .released => .released := by
  obtain ⟨arbiter, strands, closing, log⟩ := t
  cases closing <;> rfl

end Traffic

variable {σ : Type} {premises : Premises σ}

namespace Tenure

/-- A service that has just been started. -/
def ofService (service : Service) (world : σ) (log : List LifeEvent) : Tenure σ :=
  ⟨⟨service.arbiter, [], .running, []⟩, service.running, false, world, [], false, log⟩

/-- The next step of the stop with a number. -/
def advance (premises : Premises σ) (t : Tenure σ) (n : Nat) : Stop → Tenure σ
  | .called =>
    if t.locked then t
    else if t.running then { t with locked := true, stops := t.stops.set n .entered }
    else { t with stops := t.stops.set n (.returned (.error .notRunning)) }
  | .entered =>
    { t with
      world := premises.unlisten t.world
      traffic := t.traffic.step .close
      stops := t.stops.set n .unlistened
      log := t.log ++ [.unlisten] }
  | .unlistened =>
    { t with
      traffic := t.traffic.step .close
      stops := t.stops.set n (.draining t.traffic.pending.size)
      log := t.log ++ [.beginShutdown] }
  | .draining woken =>
    if t.traffic.arbiter.active = 0 then
      { t with
        traffic := t.traffic.step .close
        running := false
        locked := false
        stops := t.stops.set n (.drained woken)
        log := t.log ++ [.drain] }
    else { t with traffic := t.traffic.step .close }
  | .drained woken =>
    let (result, world) := premises.release t.world
    { t with
      world
      traffic := t.traffic.step .close
      stops := t.stops.set n (.returned (Stop.returnOf woken result))
      log := t.log ++ [.release result] }
  | .returned _ => t

def step (premises : Premises σ) (t : Tenure σ) : Occurrence → Tenure σ
  | .traffic move => if move.isClose then t else { t with traffic := t.traffic.step move }
  | .call => if t.abandoned then t else { t with stops := t.stops ++ [.called] }
  | .step n =>
    match t.stops[n]? with
    | some stage => t.advance premises n stage
    | none => t
  | .abandon =>
    -- whoever stops the service holds it
    if t.abandoned || t.stops.any (!·.isReturned) then t
    else { t with
      abandoned := true
      stops := if t.running then t.stops ++ [.called] else t.stops }

def run (premises : Premises σ) (t : Tenure σ) (occurrences : List Occurrence) : Tenure σ :=
  occurrences.foldl (step premises) t

theorem run_append (t : Tenure σ) (before after : List Occurrence) :
    t.run premises (before ++ after) = (t.run premises before).run premises after :=
  List.foldl_append

theorem run_concat (t : Tenure σ) (occurrences : List Occurrence) (occurrence : Occurrence) :
    t.run premises (occurrences ++ [occurrence]) =
      (t.run premises occurrences).step premises occurrence := by
  rw [run_append]
  rfl

/-- Nobody holds the service, and whoever stopped it has returned. -/
def IsOver (t : Tenure σ) : Prop :=
  t.abandoned = true ∧ ∀ stage ∈ t.stops, stage.isReturned = true

end Tenure

-- ============================================================ one stop

namespace Tenure

variable {t : Tenure σ} {n : Nat}

theorem step_of_getElem? {stage : Stop} (hn : t.stops[n]? = some stage) :
    t.step premises (.step n) = t.advance premises n stage := by
  simp only [step, hn]

end Tenure

namespace Tenure

variable {t : Tenure σ} {n : Nat}

/-- A stop is let in. -/
theorem step_enter (hn : t.stops[n]? = some .called) (hrunning : t.running = true)
    (hlocked : t.locked = false) :
    t.step premises (.step n) = { t with locked := true, stops := t.stops.set n .entered } := by
  rw [step_of_getElem? hn, advance, hlocked, if_neg Bool.false_ne_true, if_pos hrunning]

/-- The steps of one stop, with the moves of the traffic while it drains. -/
def alone (n : Nat) (during : List Move) : List Occurrence :=
  [.step n, .step n, .step n] ++ (during.map .traffic ++ [.step n, .step n])

end Tenure

-- ============================================================ the course of a tenure

/-- What the stop that was let in has done, when it has come so far: whether the service runs, whether
the lock is taken, the surroundings, how far the traffic has closed down, and the events. -/
inductive Teardown (premises : Premises σ) (opened : σ) :
    Stop → Bool → Bool → σ → Closing → List LifeEvent → Prop where
  | entered : Teardown premises opened .entered true true opened .running []
  | unlistened :
    Teardown premises opened .unlistened true true (premises.unlisten opened) .unlistened
      [.unlisten]
  | draining (woken : Nat) :
    Teardown premises opened (.draining woken) true true (premises.unlisten opened) .draining
      [.unlisten, .beginShutdown]
  | drained (woken : Nat) :
    Teardown premises opened (.drained woken) false false (premises.unlisten opened) .drained
      [.unlisten, .beginShutdown, .drain]
  | returned (woken : Nat) :
    Teardown premises opened
      (.returned (Stop.returnOf woken (premises.release (premises.unlisten opened)).1)) false false
      (premises.release (premises.unlisten opened)).2 .released
      [.unlisten, .beginShutdown, .drain, .release (premises.release (premises.unlisten opened)).1]

/-- A stop that has not been let in: it waits, or was turned away from a service that did not run. -/
inductive Aside (running : Bool) : Stop → Prop where
  | called : Aside running .called
  | turnedAway (h : running = false) : Aside running (.returned (.error .notRunning))

/-- The service was opened amid certain surroundings and with certain events before. -/
inductive Course (premises : Premises σ) (opened : σ) (before : List LifeEvent) (t : Tenure σ) :
    Prop where
  | waiting (hrunning : t.running = true) (hlocked : t.locked = false) (hworld : t.world = opened)
      (hclosing : t.traffic.closing = .running) (hlog : t.log = before)
      (hstops : ∀ stage ∈ t.stops, stage = .called)
      (hheld : t.abandoned = true → t.stops ≠ [])
  | acting (n : Nat) (stage : Stop) (done : List LifeEvent) (hn : t.stops[n]? = some stage)
      (hdone : Teardown premises opened stage t.running t.locked t.world t.traffic.closing done)
      (hlog : t.log = before ++ done)
      (hothers : ∀ m other, m ≠ n → t.stops[m]? = some other → Aside t.running other)

namespace Teardown

variable {opened : σ} {stage : Stop} {running locked : Bool} {world : σ} {closing : Closing}
  {done : List LifeEvent} {t : Tenure σ} {n : Nat}

/-- While the service runs the lock is taken. -/
theorem locked_eq (h : Teardown premises opened stage running locked world closing done) :
    locked = running := by
  cases h <;> rfl

/-- When it has returned all has been done. -/
theorem of_isReturned (h : Teardown premises opened stage running locked world closing done)
    (hend : stage.isReturned = true) :
    (∃ woken, stage =
      .returned (Stop.returnOf woken (premises.release (premises.unlisten opened)).1)) ∧
    running = false ∧ world = (premises.release (premises.unlisten opened)).2 ∧
    done = [.unlisten, .beginShutdown, .drain,
      .release (premises.release (premises.unlisten opened)).1] := by
  cases h with
  | entered | unlistened | draining | drained => cases hend
  | returned woken => exact ⟨⟨woken, rfl⟩, rfl, rfl, rfl⟩

/-- The stop goes on; the stages of the others stay. -/
theorem step (hn : t.stops[n]? = some stage)
    (h : Teardown premises opened stage t.running t.locked t.world t.traffic.closing done) :
    ∃ stage' more, (t.step premises (.step n)).stops[n]? = some stage' ∧
      (∀ m, m ≠ n → (t.step premises (.step n)).stops[m]? = t.stops[m]?) ∧
      Teardown premises opened stage' (t.step premises (.step n)).running
        (t.step premises (.step n)).locked (t.step premises (.step n)).world
        (t.step premises (.step n)).traffic.closing (done ++ more) ∧
      (t.step premises (.step n)).log = t.log ++ more ∧
      (t.running = false → (t.step premises (.step n)).running = false) := by
  have hlt : n < t.stops.length := (List.getElem?_eq_some_iff.1 hn).1
  have hclose := t.traffic.closing_close
  rw [Tenure.step_of_getElem? hn]
  obtain ⟨traffic, running, locked, world, stops, abandoned, log⟩ := t
  have hothers : ∀ stage' m, m ≠ n → (stops.set n stage')[m]? = stops[m]? :=
    fun _ m hm => List.getElem?_set_ne (Ne.symm hm)
  generalize hclosing : Traffic.closing _ = closing at h
  rw [hclosing] at hclose
  cases h with
  | entered =>
      refine ⟨.unlistened, [.unlisten], List.getElem?_set_self hlt, hothers _, ?_, rfl, id⟩
      dsimp only [Tenure.advance]
      rw [hclose]
      exact .unlistened
  | unlistened =>
      refine ⟨_, [.beginShutdown], List.getElem?_set_self hlt, hothers _, ?_, rfl, id⟩
      dsimp only [Tenure.advance]
      rw [hclose]
      exact .draining _
  | draining woken =>
      dsimp only [Tenure.advance] at hclose ⊢
      split
      case isTrue hnone =>
        rw [if_pos hnone] at hclose
        refine ⟨_, [.drain], List.getElem?_set_self hlt, hothers _, ?_, rfl, fun _ => rfl⟩
        dsimp only
        rw [hclose]
        exact .drained woken
      case isFalse hsome =>
        -- the look is repeated
        rw [if_neg hsome] at hclose
        refine ⟨_, [], hn, fun m hm => rfl, ?_, (List.append_nil log).symm, id⟩
        dsimp only
        rw [hclose]
        exact .draining woken
  | drained woken =>
      refine ⟨_, [.release (premises.release (premises.unlisten opened)).1],
        List.getElem?_set_self hlt, hothers _, ?_, rfl, id⟩
      dsimp only [Tenure.advance]
      rw [hclose]
      exact .returned woken
  | returned woken =>
      refine ⟨_, [], hn, fun m hm => rfl, ?_, (List.append_nil log).symm, id⟩
      dsimp only [Tenure.advance]
      rw [hclosing]
      exact .returned woken

end Teardown

/-- A stop that is aside changes nothing but its own stage. -/
theorem Tenure.step_of_aside (premises : Premises σ) {t : Tenure σ} {n : Nat} {stage : Stop}
    (hn : t.stops[n]? = some stage) (haside : Aside t.running stage)
    (hlocked : t.locked = t.running) :
    ∃ stage', Aside t.running stage' ∧
      t.step premises (.step n) = { t with stops := t.stops.set n stage' } := by
  have hself : t = { t with stops := t.stops.set n stage } := by
    obtain ⟨hlt, heq⟩ := List.getElem?_eq_some_iff.1 hn
    rw [← heq, List.set_getElem_self]
  rw [step_of_getElem? hn]
  cases haside with
  | turnedAway hstopped => exact ⟨_, .turnedAway hstopped, hself⟩
  | called =>
      unfold advance
      dsimp only
      split
      case isTrue => exact ⟨_, .called, hself⟩
      case isFalse hfree =>
        have hstopped : t.running = false := by
          rw [← hlocked]
          exact Bool.eq_false_iff.2 hfree
        rw [if_neg (by rw [hstopped]; exact Bool.false_ne_true)]
        exact ⟨_, .turnedAway hstopped, rfl⟩

namespace Course

variable {opened : σ} {before : List LifeEvent} {t : Tenure σ}

/-- A new stop waits. -/
theorem call (h : Course premises opened before t) (abandoned : Bool) :
    Course premises opened before { t with abandoned, stops := t.stops ++ [.called] } := by
  cases h with
  | waiting hrunning hlocked hworld hclosing hlog hstops _ =>
      refine .waiting hrunning hlocked hworld hclosing hlog (fun stage hstage => ?_)
        fun _ => List.concat_ne_nil _ _
      rcases List.mem_append.1 hstage with hstage | hstage
      · exact hstops stage hstage
      · exact List.mem_singleton.1 hstage
  | acting n stage done hn hdone hlog hothers =>
      have hlt : n < t.stops.length := (List.getElem?_eq_some_iff.1 hn).1
      refine .acting n stage done ?_ hdone hlog fun m other hm hother => ?_
      · exact (List.getElem?_append_left hlt).trans hn
      · rcases Nat.lt_or_ge m t.stops.length with hold | hnew
        · exact hothers m other hm ((List.getElem?_append_left hold).symm.trans hother)
        · have hmem := List.mem_of_getElem? ((List.getElem?_append_right hnew).symm.trans hother)
          rw [List.mem_singleton.1 hmem]
          exact .called

theorem step (h : Course premises opened before t) (occurrence : Occurrence) :
    Course premises opened before (t.step premises occurrence) := by
  cases occurrence with
  | traffic move =>
      unfold Tenure.step
      dsimp only
      split
      case isTrue => exact h
      case isFalse hmove =>
        have hsame := t.traffic.closing_step (Bool.eq_false_iff.2 hmove)
        cases h with
        | waiting hrunning hlocked hworld hclosing hlog hstops hheld =>
            exact .waiting hrunning hlocked hworld (hsame.trans hclosing) hlog hstops hheld
        | acting n stage done hn hdone hlog hothers =>
            refine .acting n stage done hn ?_ hlog hothers
            dsimp only
            rwa [hsame]
  | call =>
      unfold Tenure.step
      dsimp only
      split
      · exact h
      · exact h.call t.abandoned
  | abandon =>
      unfold Tenure.step
      dsimp only
      split
      · exact h
      · split
        case isTrue => exact h.call true
        case isFalse hstopped =>
          cases h with
          | waiting hrunning => exact absurd hrunning hstopped
          | acting n stage done hn hdone hlog hothers =>
              exact .acting n stage done hn hdone hlog hothers
  | step k =>
      cases hk : t.stops[k]? with
      | none =>
          have hsame : t.step premises (.step k) = t := by simp only [Tenure.step, hk]
          rwa [hsame]
      | some stage =>
          cases h with
          | waiting hrunning hlocked hworld hclosing hlog hstops _ =>
              -- the first one to come is let in
              obtain rfl := hstops stage (List.mem_of_getElem? hk)
              have hlt : k < t.stops.length := (List.getElem?_eq_some_iff.1 hk).1
              rw [Tenure.step_enter hk hrunning hlocked]
              refine .acting k .entered [] (List.getElem?_set_self hlt) ?_
                (hlog.trans (List.append_nil before).symm) fun m other hm hother => ?_
              · dsimp only
                rw [hrunning, hworld, hclosing]
                exact .entered
              · rw [List.getElem?_set_ne (Ne.symm hm)] at hother
                rw [hstops other (List.mem_of_getElem? hother)]
                exact .called
          | acting n current done hn hdone hlog hothers =>
              by_cases heq : k = n
              · subst heq
                obtain ⟨stage', more, hn', hsame, hdone', hlog', hstopped⟩ := hdone.step hn
                refine .acting k stage' (done ++ more) hn' hdone' ?_ fun m other hm hother => ?_
                · rw [hlog', hlog, List.append_assoc]
                · rw [hsame m hm] at hother
                  cases hothers m other hm hother with
                  | called => exact .called
                  | turnedAway h => exact .turnedAway (hstopped h)
              · obtain ⟨stage', haside, hnext⟩ :=
                  Tenure.step_of_aside premises hk (hothers k stage heq hk) hdone.locked_eq
                have hlt : k < t.stops.length := (List.getElem?_eq_some_iff.1 hk).1
                rw [hnext]
                refine .acting n current done ?_ hdone hlog fun m other hm hother => ?_
                · exact (List.getElem?_set_ne heq).trans hn
                · by_cases hmk : m = k
                  · subst hmk
                    rw [List.getElem?_set_self hlt] at hother
                    cases hother
                    exact haside
                  · rw [List.getElem?_set_ne (Ne.symm hmk)] at hother
                    exact hothers m other hm hother

end Course

end Hydration
