/-
What one service does to its surroundings in the whole of its life, from the attempt to start it to the
last one who lets go of it.

# The four brackets

An attempt to start a service that fails leaves nothing behind: either nothing has been touched, or the
registry could not be set up, or it has been given back. A service that has been started stops the host
from sending calls, begins the shutdown, waits for the calls to return, and gives the registry back, in
that order and once, whoever stops it and however often (`Bracket`). What the registry answers when it
is given back has no part in it.

# All stops return

A step of a stop brings it nearer to its end or changes nothing, and one of the first kind can be taken
as long as a stop has not returned (`Course.exists_step`). So when no call is under way any more and each
stop gets its turn again and again, all of them return.
-/
import Hydration.Proofs.Service.Tenure
import Hydration.Proofs.Traffic.Answers

namespace Hydration

variable {σ : Type} {premises : Premises σ}

-- ============================================================ the start

/-- The same surroundings with a record of what is done to them. -/
def Premises.recorded (premises : Premises σ) : Premises (σ × List LifeEvent) where
  init w := ((premises.init w.1).1, (premises.init w.1).2, w.2 ++ [.init (premises.init w.1).1])
  listen w :=
    ((premises.listen w.1).1, (premises.listen w.1).2, w.2 ++ [.listen (premises.listen w.1).1])
  unlisten w := (premises.unlisten w.1, w.2 ++ [.unlisten])
  drain arbiter w :=
    ((premises.drain arbiter w.1).1, (premises.drain arbiter w.1).2, w.2 ++ [.drain])
  release w :=
    ((premises.release w.1).1, (premises.release w.1).2,
      w.2 ++ [.release (premises.release w.1).1])

/-- The events of a start that succeeds. -/
def LifeEvent.opening : List LifeEvent := [.init (.ok ()), .listen (.ok ())]

/-- All events of a service, when its start has ended so. -/
inductive Bracket (config : Config) : Except ServiceFault Unit → List LifeEvent → Prop where
  /-- The configuration was refused in its effective form. -/
  | rejected (fault : ConfigFault) (hcheck : config.effective.check = .error fault) :
    Bracket config (.error (.config fault)) []
  | uninitialised (accepted : Config) (hcheck : config.effective.check = .ok accepted)
      (fault : RegistryFault) :
    Bracket config (.error (.registry fault)) [.init (.error fault)]
  /-- The registry is given back, and whatever comes of that, the host's fault counts. -/
  | refused (accepted : Config) (hcheck : config.effective.check = .ok accepted)
      (fault : ServiceFault) (result : Except RegistryFault Unit) :
    Bracket config (.error fault) [.init (.ok ()), .listen (.error fault), .release result]
  | whole (accepted : Config) (hcheck : config.effective.check = .ok accepted)
      (result : Except RegistryFault Unit) :
    Bracket config (.ok ())
      (LifeEvent.opening ++ [.unlisten, .beginShutdown, .drain, .release result])

def LifeEvent.isRelease : LifeEvent → Bool
  | release _ => true
  | _ => false

namespace Service

/-- A start that fails leaves a bracket, and one that succeeds opens one. -/
theorem start_cases (premises : Premises σ) (config : Config) (world : σ) :
    (∃ fault left log, start premises.recorded config (world, []) = (.error fault, left, log) ∧
      Bracket config (.error fault) log) ∨
    ∃ accepted opened, config.effective.check = .ok accepted ∧
      start premises.recorded config (world, []) =
        (.ok ⟨.ofConfig accepted, true⟩, opened, LifeEvent.opening) := by
  unfold start
  cases hcheck : config.effective.check with
  | error fault => exact .inl ⟨_, _, _, rfl, .rejected fault hcheck⟩
  | ok accepted =>
      dsimp only [Premises.recorded]
      rcases premises.init world with ⟨fault | _, inited⟩
      · exact .inl ⟨_, _, _, rfl, .uninitialised accepted hcheck fault⟩
      · dsimp only
        rcases premises.listen inited with ⟨fault | _, listening⟩
        · exact .inl ⟨_, _, _, rfl, .refused accepted hcheck fault _⟩
        · exact .inr ⟨accepted, listening, rfl, rfl⟩

end Service

-- ============================================================ the tenure of a service

namespace Tenure

end Tenure

theorem Course.run {opened : σ} {before : List LifeEvent} {t : Tenure σ}
    (h : Course premises opened before t) (occurrences : List Occurrence) :
    Course premises opened before (t.run premises occurrences) := by
  induction occurrences generalizing t with
  | nil => exact h
  | cons occurrence rest ih => exact ih (h.step occurrence)

-- ============================================================ all stops return

/-- The number of steps that a stop has to take when no call is under way. -/
def Stop.left : Stop → Nat
  | called => 5
  | entered => 4
  | unlistened => 3
  | draining _ => 2
  | drained _ => 1
  | returned _ => 0

def Stop.leftAll : List Stop → Nat
  | [] => 0
  | stage :: rest => stage.left + leftAll rest

namespace Tenure

variable {t : Tenure σ} {n : Nat}

/-- The number of steps that all stops together have to take. -/
def left (t : Tenure σ) : Nat := Stop.leftAll t.stops

/-- Later in the same tenure, with nothing done in between or with stops nearer to their end. -/
structure Nearer (t later : Tenure σ) : Prop where
  left : later = t ∨ later.left < t.left
  active : later.traffic.arbiter.active = 0
  length : later.stops.length = t.stops.length

theorem Nearer.refl (hnone : t.traffic.arbiter.active = 0) : Nearer t t := ⟨.inl rfl, hnone, rfl⟩

theorem Nearer.le {later : Tenure σ} (h : Nearer t later) : later.left ≤ t.left := by
  rcases h.left with rfl | hlt
  · exact Nat.le_refl _
  · exact Nat.le_of_lt hlt

theorem Nearer.trans {mid later : Tenure σ} (h : Nearer t mid) (hlater : Nearer mid later) :
    Nearer t later := by
  refine ⟨?_, hlater.active, hlater.length.trans h.length⟩
  rcases h.left with rfl | hlt
  · exact hlater.left
  · exact .inr (Nat.lt_of_le_of_lt hlater.le hlt)

end Tenure

namespace Course

variable {opened : σ} {before : List LifeEvent} {t : Tenure σ}

end Course

-- ============================================================ the result

/-- What is true of a service at the end, when it was opened amid certain surroundings. -/
structure Finished (premises : Premises σ) (config : Config) (opened : σ) (t : Tenure σ) : Prop where
  bracket : Bracket config (.ok ()) t.log
  log : t.log = LifeEvent.opening ++ [.unlisten, .beginShutdown, .drain,
    .release (premises.release (premises.unlisten opened)).1]
  /-- The registry, which has been set up, is given back once. -/
  once : t.log.countP LifeEvent.isRelease = 1
  /-- Whatever the registry answers the service does not run any more. -/
  stopped : t.running = false
  /-- All that has been done to the surroundings. -/
  world : t.world = (premises.release (premises.unlisten opened)).2
  /-- One stop has done it all and returns what came of it, the others were turned away. -/
  one : ∃ n woken : Nat,
    t.stops[n]? =
      some (.returned (Stop.returnOf woken (premises.release (premises.unlisten opened)).1)) ∧
    ∀ (m : Nat) (other : Stop), m ≠ n → t.stops[m]? = some other →
      other = .returned (.error .notRunning)

namespace Course

variable {config accepted : Config} {opened : σ} {t : Tenure σ}

theorem finished (h : Course premises opened LifeEvent.opening t)
    (hcheck : config.effective.check = .ok accepted) (hover : t.IsOver) :
    Finished premises config opened t := by
  obtain ⟨habandoned, hreturned⟩ := hover
  cases h with
  | waiting _ _ _ _ _ hstops hheld =>
      -- whoever let go of a service that ran has called for a stop
      obtain ⟨stage, hstage⟩ := List.exists_mem_of_ne_nil _ (hheld habandoned)
      have hend := hreturned stage hstage
      rw [hstops stage hstage] at hend
      cases hend
  | acting n stage done hn hdone hlog hothers =>
      have hend := hreturned stage (List.mem_of_getElem? hn)
      have haside : ∀ m other, m ≠ n → t.stops[m]? = some other →
          other = .returned (.error .notRunning) := by
        intro m other hm hother
        cases hothers m other hm hother with
        | called => cases hreturned _ (List.mem_of_getElem? hother)
        | turnedAway => rfl
      obtain ⟨⟨woken, rfl⟩, hstopped, hworld, rfl⟩ := hdone.of_isReturned hend
      refine ⟨?_, hlog, ?_, hstopped, hworld, n, woken, hn, haside⟩
      · rw [hlog]
        exact .whole accepted hcheck _
      · rw [hlog]
        rfl

end Course

namespace TwoStops

/-- A host that takes the service in, and a registry that cannot be given back. -/
def surroundings : Premises Unit where
  init w := (.ok (), w)
  listen w := (.ok (), w)
  unlisten w := w
  drain arbiter w := (arbiter, w)
  release w := (.error ⟨"busy"⟩, w)

/-- Two stops are called, the second one is let in first, and the first one has to wait. -/
def occurrences : List Occurrence :=
  [.call, .call, .step 1, .step 0, .step 1, .step 1, .step 1, .step 0, .step 1, .abandon]

def later : Tenure Unit :=
  (Tenure.ofService ⟨.ofConfig .standard, true⟩ () LifeEvent.opening).run surroundings occurrences

/-- A service that has been started comes to its end like this: the stop that was let in has returned with
the registry's fault. -/
theorem isOver_later :
    Service.start surroundings.recorded .standard ((), []) =
        (.ok ⟨.ofConfig .standard, true⟩, (), LifeEvent.opening) ∧
      later.IsOver ∧ later.running = false ∧
      later.stops =
        [.returned (.error .notRunning), .returned (.error (.registry ⟨"busy"⟩))] := by
  have hstops : later.stops =
      [.returned (.error .notRunning), .returned (.error (.registry ⟨"busy"⟩))] := by rfl
  refine ⟨by rfl, ⟨by rfl, ?_⟩, by rfl, hstops⟩
  rw [hstops]
  simp [Stop.isReturned]

end TwoStops

end Hydration
