/-
Services one after another, and side by side, over one registry and one host.

# What is kept

The host takes in one listener, and a service runs from the moment the host takes it in until a stop
has sent the host back. So at any time no service runs and the host is free, or one service runs and
the host listens to it (`Kept.one`).

# When the registry is given back

A stop gives it back after everybody has gone: the host is free and no service runs. A start that the
host refuses undoes its own steps, and among them is the registry, which it has set up before it asked
the host. The host refuses because it is taken, so that start gives the registry back under a service
that runs (`kept_run`). Two starts in a row are enough (`TwoStarts`).
-/
import Hydration.Proofs.Traffic.Drain
import Hydration.Simulation.Harness

namespace Hydration

variable {σ : Type}

-- ============================================================ what calls leave alone

/-- Nothing that a call asks of the others ends what holds of them. -/
structure Collaborators.Keep (others : Collaborators σ) (holds : σ → Prop) : Prop where
  managed : ∀ node world, holds world → holds (others.managed node world).2
  flags : ∀ node world, holds world → holds (others.flags node world).2
  root : ∀ node world, holds world → holds (others.root node world).2
  send : ∀ root message arbiter world, holds world →
    holds (others.send root message arbiter world).2.2
  meanwhile : ∀ arbiter world, holds world → holds (others.meanwhile arbiter world).2

namespace Collaborators.Keep

variable {others : Collaborators σ} {holds : σ → Prop} {world : σ}

theorem errand (h : others.Keep holds) (hworld : holds world) (arbiter : Arbiter)
    (errand : Errand) : holds (errand.move others arbiter world).2.2 := by
  cases errand with
  | send root message => exact h.send root message arbiter world hworld
  | await id =>
      unfold Errand.move
      dsimp only
      split
      · exact hworld
      · exact h.meanwhile arbiter world hworld
  | number | register | release | done => exact hworld

theorem call (h : others.Keep holds) (hworld : holds world) (access : Access) (arbiter : Arbiter)
    (call : Call) : holds (call.move others access arbiter world).2.2 := by
  cases call with
  | ask inquiry =>
      cases inquiry with
      | askManaged next => exact h.managed access.node world hworld
      | askFlags next => exact h.flags access.node world hworld
      | askRoot next => exact h.root access.node world hworld
      | rule ruling => exact hworld
  | errand e =>
      cases e with
      | done v => exact hworld
      | number root message => exact h.errand hworld arbiter (.number root message)
      | register root message => exact h.errand hworld arbiter (.register root message)
      | send root message => exact h.errand hworld arbiter (.send root message)
      | await id => exact h.errand hworld arbiter (.await id)
      | release id v => exact h.errand hworld arbiter (.release id v)
  | enter | leave | done => exact hworld

theorem moves (h : others.Keep holds) (access : Access) (count : Nat) (hworld : holds world)
    (arbiter : Arbiter) (call : Call) :
    holds (call.moves others access count arbiter world).2.2 := by
  induction count generalizing world arbiter call with
  | zero => exact hworld
  | succ count ih => exact ih (h.call hworld access arbiter call) _ _

end Collaborators.Keep

/-- The host listens to the same one, and nobody has given the registry back in between. -/
structure Stage.Undisturbed (stage stage' : Stage) : Prop where
  listening : stage'.listening = stage.listening
  released : stage'.events.count .registryRelease = stage.events.count .registryRelease

namespace Stage

variable {stage stage' stage'' : Stage}

theorem Undisturbed.refl (stage : Stage) : Undisturbed stage stage := ⟨rfl, rfl⟩

theorem Undisturbed.trans (h : Undisturbed stage stage') (h' : Undisturbed stage' stage'') :
    Undisturbed stage stage'' :=
  ⟨h'.listening.trans h.listening, h'.released.trans h.released⟩

theorem undisturbed_note (stage : Stage) (event : HostEvent) (h : event ≠ .registryRelease) :
    Undisturbed stage (stage.note event) := by
  refine ⟨rfl, ?_⟩
  show (stage.events ++ [event]).count .registryRelease = _
  rw [List.count_append, List.count_singleton, beq_false_of_ne h]
  rfl

theorem keep_undisturbed (stage : Stage) : collaborators.Keep (Undisturbed stage) where
  managed _ _ h := h
  flags _ _ h := ⟨h.listening, h.released⟩
  root _ _ h := ⟨h.listening, h.released⟩
  send _ _ _ _ h := ⟨h.listening, h.released⟩
  meanwhile _ _ h := ⟨h.listening, h.released⟩

theorem undisturbed_resume (arbiter : Arbiter) (stage : Stage) (b : Blocked) :
    Undisturbed stage (resume arbiter stage b).2 := by
  have hcall := (keep_undisturbed stage).moves b.access 12 (.refl stage) arbiter b.call
  unfold resume Call.run
  -- what the call comes to does not matter
  generalize b.call.moves collaborators b.access 12 arbiter stage = outcome at hcall ⊢
  obtain ⟨call, arbiter, later⟩ := outcome
  dsimp only
  split
  · have hnoted := hcall.trans (later.undisturbed_note (.callReturned b.access.pid) nofun)
    exact ⟨hnoted.listening, hnoted.released⟩
  · exact ⟨hcall.listening, hcall.released⟩

theorem undisturbed_resumeAll (arbiter : Arbiter) (stage : Stage) (blocked : List Blocked) :
    Undisturbed stage (resumeAll arbiter stage blocked).2 := by
  induction blocked generalizing arbiter stage with
  | nil => exact .refl stage
  | cons b rest ih => exact (undisturbed_resume arbiter stage b).trans (ih _ _)

/-- The accesses under way go on without a change to the host or the registry. -/
theorem undisturbed_settle (arbiter : Arbiter) (stage : Stage) :
    Undisturbed stage (settle arbiter stage).2 := by
  have hall := undisturbed_resumeAll arbiter { stage with blocked := [] } stage.blocked
  exact ⟨hall.listening, hall.released⟩

end Stage

/-- An access that is decided is no event for the host or the registry, and none for the service. -/
theorem Harness.undisturbed_access {harness after : Harness} {access : Access} {decision : Decision}
    (h : harness.access access = (.decided decision, after)) :
    Stage.Undisturbed harness.stage after.stage ∧
      after.service.running = harness.service.running := by
  unfold Harness.access at h
  dsimp only at h
  split at h
  · cases h
    exact ⟨⟨rfl, rfl⟩, rfl⟩
  · have hcounted : Stage.Undisturbed harness.stage
        { harness.stage with dispatched := harness.stage.dispatched + 1 } := ⟨rfl, rfl⟩
    have hcall := (Stage.keep_undisturbed harness.stage).moves access 12 hcounted
      harness.service.arbiter .enter
    unfold decide Call.run Harness.arbiter at h
    generalize Call.moves Stage.collaborators access 12 harness.service.arbiter
      { harness.stage with dispatched := harness.stage.dispatched + 1 } .enter = outcome at hcall h
    obtain ⟨call, arbiter, later⟩ := outcome
    cases hdecided : call.decision? with
    | none =>
        dsimp only at h
        rw [hdecided] at h
        cases h
    | some made =>
        dsimp only at h
        rw [hdecided] at h
        cases h
        exact ⟨hcall.trans (later.undisturbed_note _ nofun), rfl⟩

-- ============================================================ the moments of giving back

/-- The same surroundings, with a record of how they were whenever the registry was given back. -/
def Premises.attesting (premises : Premises σ) : Premises (σ × List σ) where
  init w := ((premises.init w.1).1, (premises.init w.1).2, w.2)
  listen w := ((premises.listen w.1).1, (premises.listen w.1).2, w.2)
  unlisten w := (premises.unlisten w.1, w.2)
  drain arbiter w :=
    ((premises.drain arbiter w.1).1, (premises.drain arbiter w.1).2, w.2)
  release w := ((premises.release w.1).1, (premises.release w.1).2, w.2 ++ [w.1])

namespace Service

/-- The record has no part in the start. -/
theorem start_attesting (premises : Premises σ) (config : Config) (world : σ) (moments : List σ) :
    start premises config world =
      ((start premises.attesting config (world, moments)).1,
        (start premises.attesting config (world, moments)).2.1) := by
  unfold start
  cases config.effective.check with
  | error fault => rfl
  | ok accepted =>
      dsimp only [Premises.attesting]
      rcases premises.init world with ⟨_ | _, inited⟩
      · rfl
      · dsimp only
        rcases premises.listen inited with ⟨_ | _, listening⟩ <;> rfl

/-- And none in a stop. -/
theorem stop_attesting (premises : Premises σ) (service : Service) (world : σ) (moments : List σ) :
    service.stop premises world =
      ((service.stop premises.attesting (world, moments)).1,
        (service.stop premises.attesting (world, moments)).2.1,
        (service.stop premises.attesting (world, moments)).2.2.1) := by
  unfold stop
  split
  · rfl
  · dsimp only [Premises.attesting]
    rcases premises.release _ with ⟨_ | _, released⟩ <;> rfl

end Service

-- ============================================================ the history

/-- What is done to the services over one registry and one host, one thing after another. -/
inductive Turn where
  | start (config : Config)
  | stop (n : Nat)
  /-- Whoever holds the service lets go of it. -/
  | drop (n : Nat)
  /-- The host reports an access to the service that listens to it. -/
  | access (n : Nat) (access : Access)

/-- The number of services that run; there is none where a start has failed or one has been let go. -/
def Service.runningIn (services : List (Option Service)) : Nat :=
  services.countP fun service => service.any (·.running)

/-- A moment at which the registry is given back. -/
structure Handback where
  turn : Turn
  services : List (Option Service)
  stage : Stage

/-- Nobody is there any more who could need the registry. -/
def Handback.isVacant (handback : Handback) : Bool :=
  !handback.stage.listening && Service.runningIn handback.services == 0

/-- All attempts to start a service so far; the number of one is its position. -/
structure Succession where
  services : List (Option Service)
  stage : Stage
  handbacks : List Handback

namespace Succession

def ofStage (stage : Stage) : Succession := ⟨[], stage, []⟩

def service? (s : Succession) (n : Nat) : Option Service := s.services[n]?.join

/-- The end of a turn in which the registry was given back at some moments. A stop has the service
stopped before it gives the registry back. -/
def conclude (s : Succession) (turn : Turn) (services : List (Option Service))
    (world : Stage × List Stage) : Succession :=
  ⟨services, world.1, s.handbacks ++ world.2.map (⟨turn, services, ·⟩)⟩

def start (s : Succession) (config : Config) : Succession :=
  let (result, world) := Service.start Stage.premises.attesting config (s.stage, [])
  s.conclude (.start config) (s.services ++ [result.toOption]) world

def stop (s : Succession) (n : Nat) (service : Service) : Succession :=
  let (_, service, world) := service.stop Stage.premises.attesting (s.stage, [])
  s.conclude (.stop n) (s.services.set n (some service)) world

def drop (s : Succession) (n : Nat) (service : Service) : Succession :=
  s.conclude (.drop n) (s.services.set n none)
    (service.abandon Stage.premises.attesting (s.stage, []))

/-- An access that would have to wait for the provider is not made, because none is under way when
services come and go. -/
def access (s : Succession) (n : Nat) (service : Service) (access : Access) : Succession :=
  match Harness.access ⟨service, s.stage⟩ access with
  | (.decided _, harness) =>
    { s with services := s.services.set n (some harness.service), stage := harness.stage }
  | (.blocked .., _) => s

def step (s : Succession) : Turn → Succession
  | .start config => s.start config
  | .stop n => ((s.service? n).map (s.stop n)).getD s
  | .drop n => ((s.service? n).map (s.drop n)).getD s
  | .access n access =>
    (((s.service? n).filter (·.running)).map (s.access n · access)).getD s

/-- Starts, stops and drops do to the services and the stage what they do without a record. -/
structure Plain (s : Succession) : Prop where
  start : ∀ config, ((s.start config).services, (s.start config).stage) =
    let (result, stage) := Service.start Stage.premises config s.stage
    (s.services ++ [result.toOption], stage)
  stop : ∀ n service, ((s.stop n service).services, (s.stop n service).stage) =
    let (_, service, stage) := service.stop Stage.premises s.stage
    (s.services.set n (some service), stage)
  drop : ∀ n service, ((s.drop n service).services, (s.drop n service).stage) =
    (s.services.set n none, service.abandon Stage.premises s.stage)

theorem plain (s : Succession) : Plain s where
  start config := by
    rw [Service.start_attesting Stage.premises config s.stage []]
    rfl
  stop n service := by
    rw [Service.stop_attesting Stage.premises service s.stage []]
    rfl
  drop n service := by
    unfold drop Service.abandon
    rw [Service.stop_attesting Stage.premises service s.stage []]
    split <;> rfl

def run (s : Succession) (turns : List Turn) : Succession := turns.foldl step s

theorem run_concat (s : Succession) (turns : List Turn) (turn : Turn) :
    s.run (turns ++ [turn]) = (s.run turns).step turn := by
  rw [run, List.foldl_append]
  rfl

end Succession

-- ============================================================ one turn

theorem Service.runningIn_concat (services : List (Option Service)) (service : Option Service) :
    runningIn (services ++ [service]) =
      runningIn services + (service.any (·.running)).toNat := by
  unfold runningIn
  rw [List.countP_append, List.countP_singleton]
  cases service.any (·.running) <;> rfl

theorem Service.runningIn_set {services : List (Option Service)} {n : Nat} {old : Option Service}
    (hn : services[n]? = some old) (new : Option Service) :
    runningIn (services.set n new) + (old.any (·.running)).toNat =
      runningIn services + (new.any (·.running)).toNat :=
  countP_set_add hn new _

namespace Stage

/-- A start is refused before it has done anything, or after it has set up the registry, or it takes
the host. -/
theorem start_cases (stage : Stage) (config : Config) :
    (∃ fault, config.effective.check = .error fault ∧
      Service.start premises.attesting config (stage, []) = (.error (.config fault), stage, [])) ∨
    (stage.listening = true ∧ ∃ fault,
      Service.start premises.attesting config (stage, []) =
        (.error fault, (stage.note .registryInit).note .registryRelease,
          [stage.note .registryInit])) ∨
    (stage.listening = false ∧ ∃ accepted,
      Service.start premises.attesting config (stage, []) =
        (.ok ⟨.ofConfig accepted, true⟩,
          { stage.note .registryInit with listening := true }.note .listen, [])) := by
  unfold Service.start
  cases config.effective.check with
  | error fault => exact .inl ⟨fault, rfl, rfl⟩
  | ok accepted =>
      dsimp only [Premises.attesting, premises, listen]
      cases hlistening : stage.listening with
      | true =>
          rw [if_pos (show (stage.note .registryInit).listening = true from hlistening)]
          exact .inr (.inl ⟨rfl, _, rfl⟩)
      | false =>
          have hfree : (stage.note .registryInit).listening = false := hlistening
          rw [if_neg (by rw [hfree]; decide)]
          exact .inr (.inr ⟨rfl, accepted, rfl⟩)

/-- A stop that finds the service running sends the host back before it gives the registry back. -/
theorem stop_cases (stage : Stage) (service : Service) :
    (service.running = false ∧ service.stop premises.attesting (stage, []) =
      (.error .notRunning, service, stage, [])) ∨
    (service.running = true ∧ ∃ woken arbiter drained,
      service.stop premises.attesting (stage, []) =
        (.ok woken, ⟨arbiter, false⟩, drained.note .registryRelease, [drained]) ∧
      Undisturbed { stage with listening := false } drained) := by
  unfold Service.stop
  cases service.running with
  | false => exact .inl ⟨rfl, rfl⟩
  | true =>
      have hsent : Undisturbed { stage with listening := false } stage.unlisten := by
        unfold unlisten
        split
        · exact undisturbed_note _ .unlisten nofun
        · exact ⟨by simp_all, rfl⟩
      exact .inr ⟨rfl, _, _, _, rfl, hsent.trans (undisturbed_settle _ _)⟩

end Stage

-- ============================================================ every history

/-- Who gives the registry back, and when: a start under a service to which the host listens, and
whoever stops a service when all have left. -/
def Handback.Explained (handback : Handback) : Prop :=
  match handback.turn with
  | .start _ => handback.stage.listening = true ∧ Service.runningIn handback.services = 1
  | .stop _ | .drop _ => handback.isVacant = true
  | .access .. => False

/-- What is true after every turn. -/
structure Kept (initial : Stage) (s : Succession) : Prop where
  /-- A service runs exactly while the host listens, and never a second one. -/
  one : Service.runningIn s.services = if s.stage.listening then 1 else 0
  /-- No time at which the registry is given back is left out. -/
  released : s.stage.events.count .registryRelease =
    initial.events.count .registryRelease + s.handbacks.length
  explained : ∀ handback ∈ s.handbacks, handback.Explained

theorem Stage.count_note_registryRelease (stage : Stage) :
    (stage.note .registryRelease).events.count .registryRelease =
      stage.events.count .registryRelease + 1 := by
  show (stage.events ++ [HostEvent.registryRelease]).count .registryRelease = _
  rw [List.count_append, List.count_singleton_self]

namespace Kept

variable {initial : Stage} {s : Succession}

theorem conclude (h : Kept initial s) {turn : Turn} {services : List (Option Service)}
    {world : Stage × List Stage}
    (hone : Service.runningIn services = if world.1.listening then 1 else 0)
    (hreleased : world.1.events.count .registryRelease =
      s.stage.events.count .registryRelease + world.2.length)
    (hmoments : ∀ stage ∈ world.2, (Handback.mk turn services stage).Explained) :
    Kept initial (s.conclude turn services world) := by
  refine ⟨hone, ?_, fun handback hmem => ?_⟩
  · show world.1.events.count .registryRelease = _ + (s.handbacks ++ _).length
    rw [hreleased, h.released, List.length_append, List.length_map, Nat.add_assoc]
  · rcases List.mem_append.1 hmem with hearlier | hnew
    · exact h.explained handback hearlier
    · obtain ⟨stage, hstage, rfl⟩ := List.mem_map.1 hnew
      exact hmoments stage hstage

/-- A service that runs is the one to which the host listens. -/
theorem listening_of_running (h : Kept initial s) {n : Nat} {service : Service}
    (hn : s.services[n]? = some (some service)) (hrunning : service.running = true) :
    s.stage.listening = true := by
  have hpos : 0 < Service.runningIn s.services :=
    List.countP_pos_iff.2 ⟨some service, List.mem_of_getElem? hn, hrunning⟩
  rw [h.one] at hpos
  cases hlistening : s.stage.listening with
  | true => rfl
  | false =>
      rw [hlistening] at hpos
      cases hpos

theorem start (h : Kept initial s) (config : Config) : Kept initial (s.start config) := by
  unfold Succession.start
  rcases s.stage.start_cases config with
    ⟨fault, -, hstart⟩ | ⟨hlistening, fault, hstart⟩ | ⟨hfree, accepted, hstart⟩
  · rw [hstart]
    refine h.conclude ?_ rfl fun _ hstage => by cases hstage
    rw [Service.runningIn_concat, h.one]
    rfl
  · rw [hstart]
    have hone : Service.runningIn (s.services ++ [none]) = 1 := by
      rw [Service.runningIn_concat, h.one, hlistening]
      rfl
    refine h.conclude ?_ ?_ fun stage hstage => ?_
    · exact hone.trans (if_pos hlistening).symm
    · rw [Stage.count_note_registryRelease, (s.stage.undisturbed_note .registryInit nofun).released]
      rfl
    · obtain rfl := List.mem_singleton.1 hstage
      exact ⟨hlistening, hone⟩
  · rw [hstart]
    refine h.conclude ?_ ?_ fun _ hstage => by cases hstage
    · rw [Service.runningIn_concat, h.one, hfree]
      rfl
    · rw [(Stage.undisturbed_note _ .listen nofun).released]
      exact (s.stage.undisturbed_note .registryInit nofun).released

/-- A stop of a service that runs, whatever becomes of the service. -/
theorem stopped (h : Kept initial s) {turn : Turn} {n : Nat} {service : Service}
    (hturn : turn = .stop n ∨ turn = .drop n) (hn : s.services[n]? = some (some service))
    (hrunning : service.running = true) {left : Option Service}
    (hleft : left.any (·.running) = false) {drained : Stage}
    (hdrained : Stage.Undisturbed { s.stage with listening := false } drained) :
    Kept initial
      (s.conclude turn (s.services.set n left) (drained.note .registryRelease, [drained])) := by
  have hnone : Service.runningIn (s.services.set n left) = 0 := by
    have hset := Service.runningIn_set hn left
    rw [hleft, h.one, h.listening_of_running hn hrunning] at hset
    simp only [Option.any_some, hrunning, Bool.toNat_true, Bool.toNat_false] at hset
    exact Nat.succ.inj hset
  have hfree : drained.listening = false := hdrained.listening
  refine h.conclude ?_ ?_ fun stage hstage => ?_
  · rw [hnone]
    exact (if_neg (by rw [show (drained.note _).listening = false from hfree]; decide)).symm
  · rw [Stage.count_note_registryRelease, hdrained.released]
    rfl
  · obtain rfl := List.mem_singleton.1 hstage
    have hvacant : (Handback.mk turn (s.services.set n left) stage).isVacant = true := by
      unfold Handback.isVacant
      rw [hnone, hfree]
      rfl
    rcases hturn with rfl | rfl <;> exact hvacant

/-- A service that does not run is put in the place of one that does not run. -/
theorem idle (h : Kept initial s) (turn : Turn) {n : Nat} {service : Service}
    (hn : s.services[n]? = some (some service)) (hidle : service.running = false)
    {left : Option Service} (hleft : left.any (·.running) = false) :
    Kept initial (s.conclude turn (s.services.set n left) (s.stage, [])) := by
  refine h.conclude ?_ rfl fun _ hstage => by cases hstage
  have hset := Service.runningIn_set hn left
  rw [hleft] at hset
  simp only [Option.any_some, hidle, Bool.toNat_false, Nat.add_zero] at hset
  exact hset.trans h.one

theorem stop (h : Kept initial s) {n : Nat} {service : Service}
    (hn : s.services[n]? = some (some service)) : Kept initial (s.stop n service) := by
  unfold Succession.stop
  rcases s.stage.stop_cases service with
    ⟨hidle, hstop⟩ | ⟨hrunning, woken, arbiter, drained, hstop, hdrained⟩
  · rw [hstop]
    exact h.idle _ hn hidle hidle
  · rw [hstop]
    exact h.stopped (.inl rfl) hn hrunning rfl hdrained

theorem drop (h : Kept initial s) {n : Nat} {service : Service}
    (hn : s.services[n]? = some (some service)) : Kept initial (s.drop n service) := by
  unfold Succession.drop Service.abandon
  rcases s.stage.stop_cases service with
    ⟨hidle, -⟩ | ⟨hrunning, woken, arbiter, drained, hstop, hdrained⟩
  · rw [if_neg (by rw [hidle]; decide)]
    exact h.idle _ hn hidle rfl
  · rw [if_pos hrunning, hstop]
    exact h.stopped (.inr rfl) hn hrunning rfl hdrained

theorem access (h : Kept initial s) {n : Nat} {service : Service}
    (hn : s.services[n]? = some (some service)) (access : Access) :
    Kept initial (s.access n service access) := by
  unfold Succession.access
  cases haccess : Harness.access ⟨service, s.stage⟩ access with
  | mk result harness =>
      cases result with
      | blocked _ call => exact h
      | decided decision =>
          obtain ⟨hquiet, hsame⟩ := Harness.undisturbed_access haccess
          have hset := Service.runningIn_set hn (some harness.service)
          simp only [Option.any_some, hsame] at hset
          refine ⟨?_, hquiet.released.trans h.released, h.explained⟩
          rw [Nat.add_right_cancel hset, h.one, hquiet.listening]

theorem step (h : Kept initial s) (turn : Turn) : Kept initial (s.step turn) := by
  have hservice : ∀ {n service}, s.service? n = some service →
      s.services[n]? = some (some service) := fun hn => Option.join_eq_some_iff.1 hn
  cases turn with
  | start config => exact h.start config
  | stop n =>
      unfold Succession.step
      dsimp only
      cases hn : s.service? n with
      | none => exact h
      | some service => exact h.stop (hservice hn)
  | drop n =>
      unfold Succession.step
      dsimp only
      cases hn : s.service? n with
      | none => exact h
      | some service => exact h.drop (hservice hn)
  | access n access =>
      unfold Succession.step
      dsimp only
      cases hn : (s.service? n).filter (·.running) with
      | none => exact h
      | some service => exact h.access (hservice (Option.eq_some_of_filter_eq_some hn)) access

theorem run (h : Kept initial s) (turns : List Turn) : Kept initial (s.run turns) := by
  induction turns generalizing s with
  | nil => exact h
  | cons turn turns ih => exact ih (h.step turn)

end Kept

/-- What a start does to the registry when the host is taken. -/
theorem Succession.handbacks_start {s : Succession} {config accepted : Config}
    (hcheck : config.effective.check = .ok accepted) :
    (s.start config).handbacks = s.handbacks ++
      if s.stage.listening then
        [⟨.start config, s.services ++ [none], s.stage.note .registryInit⟩]
      else [] := by
  unfold start
  rcases s.stage.start_cases config with
    ⟨fault, hrefused, -⟩ | ⟨hlistening, fault, hstart⟩ | ⟨hfree, accepted, hstart⟩
  · rw [hrefused] at hcheck
    cases hcheck
  · rw [hstart, if_pos hlistening]
    rfl
  · rw [hstart, if_neg (by rw [hfree]; decide)]
    rfl

/-- Over any tree and through any history one service runs or none, and the registry is given back to
nobody's harm by everyone but a start that the host refuses. That one gives it back under a service
that runs, and every start does so that is attempted while one runs. -/
theorem Succession.kept_run (tree : Tree) (events : List HostEvent) (turns : List Turn) :
    Kept (.ofTree tree events) ((ofStage (.ofTree tree events)).run turns) ∧
    Plain ((ofStage (.ofTree tree events)).run turns) ∧
    ∀ config accepted, config.effective.check = .ok accepted →
      ∀ n service, ((ofStage (.ofTree tree events)).run turns).service? n = some service →
        service.running = true →
        ∃ handback, handback.isVacant = false ∧
          ((ofStage (.ofTree tree events)).run (turns ++ [.start config])).handbacks =
            ((ofStage (.ofTree tree events)).run turns).handbacks ++ [handback] := by
  have hkept : Kept (.ofTree tree events) ((ofStage (.ofTree tree events)).run turns) :=
    Kept.run ⟨rfl, rfl, fun _ hmem => by cases hmem⟩ turns
  refine ⟨hkept, plain _, fun config accepted hcheck n service hn hrunning => ?_⟩
  have hlistening := hkept.listening_of_running (Option.join_eq_some_iff.1 hn) hrunning
  refine ⟨_, ?_, by rw [run_concat, step, handbacks_start hcheck, if_pos hlistening]⟩
  unfold Handback.isVacant
  rw [show (Stage.note _ _).listening = true from hlistening]
  rfl

namespace TwoStarts

/-- Nobody who needs the registry is there when it is given back. -/
def AlwaysVacant : Prop :=
  ∀ (tree : Tree) (events : List HostEvent) (turns : List Turn),
    ∀ handback ∈ ((Succession.ofStage (.ofTree tree events)).run turns).handbacks,
      handback.isVacant = true

/-- The second of two starts gives it back under the service that the first has started. -/
theorem not_alwaysVacant : ¬ AlwaysVacant := by
  intro halways
  have hone : ((Succession.ofStage (.ofTree .empty [])).run
      [.start .standard, .start .standard]).handbacks.map (·.isVacant) = [false] := by
    decide +kernel
  have hmem : false ∈ ((Succession.ofStage (.ofTree .empty [])).run
      [.start .standard, .start .standard]).handbacks.map (·.isVacant) := by
    rw [hone]
    exact List.mem_singleton_self false
  obtain ⟨handback, hhandback, hfalse⟩ := List.mem_map.1 hmem
  exact Bool.false_ne_true (hfalse.symm.trans (halways .empty [] _ handback hhandback))

end TwoStarts

end Hydration
