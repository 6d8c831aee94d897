/-
Content comes once, and to the object that was asked for.

# Runs

In a run (`Exercise`) accesses are made one after another, roots get and lose their provider, the
provider changes its behaviour, and it hydrates objects of its own accord. No object is marked as a
placeholder on the way. The tree can be any one over which a harness starts, with roots within roots, as
long as the roots have indices of their own and all paths are canonical.

# What one exercise does

Each exercise takes the mark from one object at most (`Tidy.flagsAt_exercise`): a prefetch from the one
it names, and an access from its own one if the provider has answered its request with success. The
provider is asked only for an object with the mark. So the mark of an object and a message that has
hydrated it are one or none together (`Tidy.once`), and no second message is ever sent for it.
-/
import Hydration.Proofs.Content.Visit

namespace Hydration

-- ============================================================ runs

/-- One thing that is done in a run. It is over before the next one begins. -/
inductive Exercise where
  | access (access : Access)
  | setProvider (index : Int) (pid : Option Int)
  | setBehaviour (behaviour : Behaviour)
  | setBehaviourFor (path : String) (behaviour : Behaviour)
  /-- The provider hydrates an object of its own accord. -/
  | hydrate (path : String)

namespace Harness

def exercise (harness : Harness) : Exercise → Harness
  | .access access => (harness.access access).2
  | .setProvider index pid => harness.mapTree (·.setProvider index pid)
  | .setBehaviour behaviour => harness.mapProvider (·.setBehaviour behaviour)
  | .setBehaviourFor path behaviour => harness.mapProvider (·.setBehaviourFor path behaviour)
  | .hydrate path => harness.mapTree (·.hydrate path)

def run (harness : Harness) (exercises : List Exercise) : Harness :=
  exercises.foldl exercise harness

/-- The messages that the provider has answered. -/
def finished (harness : Harness) : List Job := harness.stage.provider.finished

def flagsAt (harness : Harness) (path : String) : Flags := harness.stage.tree.flagsAt path

end Harness

/-- The message has made the provider hydrate a path. -/
def Tree.isHydratedBy (tree : Tree) (path : String) (job : Job) : Bool :=
  job.behaviour.succeeds && tree.targetOf? job = some path

namespace Exercise

/-- The object has a canonical path, and the provider answers every message that it takes. -/
def Proper : Exercise → Prop
  | access a => Path.Canonical a.node.location
  | setBehaviour behaviour | setBehaviourFor _ behaviour => behaviour ≠ .ignore
  | setProvider _ _ | hydrate _ => True

instance (e : Exercise) : Decidable e.Proper :=
  match e with
  | access a => inferInstanceAs (Decidable (Path.Canonical a.node.location))
  | setBehaviour behaviour | setBehaviourFor _ behaviour =>
    inferInstanceAs (Decidable (behaviour ≠ .ignore))
  | setProvider _ _ | hydrate _ => inferInstanceAs (Decidable True)

/-- The exercise brings content to a path: the provider prefetches it, or it is accessed and the
provider answers the request for it with success. -/
def Hydrates (harness : Harness) (path : String) : Exercise → Prop
  | access a => a.node.location = path ∧
    ∃ job, (harness.access a).2.finished = harness.finished ++ [job] ∧
      harness.stage.tree.isHydratedBy path job = true
  | hydrate other => other = path
  | setProvider _ _ | setBehaviour _ | setBehaviourFor _ _ => False

end Exercise

-- ============================================================ roots and targets

namespace Tree

variable {tree other : Tree}

/-- The indices of the roots, and where they are. -/
def places (tree : Tree) : List (Int × String) := tree.roots.map fun root => (root.index, root.path)

/-- The roots are told apart by their indices, and all of them are at canonical paths. -/
structure Surveyed (tree : Tree) : Prop where
  distinct : (tree.places.map Prod.fst).Nodup
  canonical : ∀ place ∈ tree.places, Path.Canonical place.2

theorem surveyed (hdistinct : (tree.roots.map Root.index).Nodup)
    (hroots : ∀ root ∈ tree.roots, Path.Canonical root.path) : tree.Surveyed where
  distinct := by
    unfold places
    rw [List.map_map]
    exact hdistinct
  canonical place hplace := by
    obtain ⟨root, hroot, rfl⟩ := List.mem_map.1 hplace
    exact hroots root hroot

theorem Surveyed.congr (h : tree.Surveyed) (hplaces : other.places = tree.places) : other.Surveyed where
  distinct := hplaces ▸ h.distinct
  canonical := hplaces ▸ h.canonical

/-- Roots that get or lose their provider stay where they are. -/
theorem places_setProvider (index : Int) (pid : Option Int) :
    (tree.setProvider index pid).places = tree.places := by
  have hreplaced : ∀ roots : List Root,
      (replaceProvider index pid roots).map (fun root => (root.index, root.path)) =
        roots.map fun root => (root.index, root.path) := by
    intro roots
    induction roots with
    | nil => rfl
    | cons root rest ih =>
        unfold replaceProvider
        split
        · rfl
        · rw [List.map_cons, List.map_cons, ih]
  exact hreplaced tree.roots

/-- Where a message leads to depends on the places of the roots alone. -/
theorem targetOf?_congr (h : other.places = tree.places) (job : Job) :
    other.targetOf? job = tree.targetOf? job := by
  have htarget : ∀ tree : Tree, tree.targetOf? job =
      (tree.places.find? (·.1 = job.root)).map fun place =>
        Path.absolute place.2 job.message.path := by
    intro tree
    unfold places targetOf? root?
    rw [List.find?_map, Option.map_map]
    rfl
  rw [htarget, htarget, h]

theorem isHydratedBy_congr (h : other.places = tree.places) :
    other.isHydratedBy = tree.isHydratedBy := by
  funext path job
  unfold isHydratedBy
  rw [targetOf?_congr h]

theorem Surveyed.targetOf?_of_asks (h : tree.Surveyed) {access : Access} {root : Root} {job : Job}
    (hasks : Asks tree access root job.message.path) (hroot : job.root = root.index)
    (hnode : Path.Canonical access.node.location) :
    tree.targetOf? job = some access.node.location := by
  refine hasks.targetOf? hroot ?_ (fun other hother => ?_) hnode
  · have hdistinct := h.distinct
    unfold places at hdistinct
    rwa [List.map_map] at hdistinct
  · exact h.canonical (other.index, other.path) (List.mem_map_of_mem hother)

theorem target_of_isHydratedBy {job : Job} {location path : String}
    (h : tree.targetOf? job = some location) (hhydrated : tree.isHydratedBy path job = true) :
    location = path := by
  unfold isHydratedBy at hhydrated
  rw [h] at hhydrated
  simpa using (Bool.and_eq_true_iff.1 hhydrated).2

/-- When a message is done with, its target has its content if the provider has succeeded, and all other
objects are as they were. -/
theorem flagsAt_afterJob {job : Job} {location : String} (h : tree.targetOf? job = some location)
    (path : String) :
    (Standing.afterJob tree job).flagsAt path =
      if tree.isHydratedBy path job then (tree.flagsAt path).hydrated else tree.flagsAt path := by
  unfold Standing.afterJob isHydratedBy
  rw [h]
  cases job.behaviour.succeeds with
  | false => rfl
  | true =>
      rw [if_pos rfl, hydrateTarget_eq h, flagsAt_hydrate]
      by_cases hpath : path = location
      · rw [if_pos hpath, if_pos (by simp [hpath])]
      · rw [if_neg hpath, if_neg (by simpa using Ne.symm hpath)]

theorem places_afterJob (job : Job) : (Standing.afterJob tree job).places = tree.places := by
  unfold Standing.afterJob Provider.hydrateTarget
  split
  · split <;> rfl
  · rfl

end Tree

-- ============================================================ what an access does

/-- What an access has done, as far as content goes. -/
inductive Effect (harness : Harness) (access : Access) (decision : Decision) (after : Harness) :
    Prop where
  /-- No message was accepted, and no object is another. -/
  | silent (hprovider : after.stage.provider = harness.stage.provider)
      (hflags : ∀ path, after.flagsAt path = harness.flagsAt path)
  /-- A message for an object without content was accepted, and nobody but its target was hydrated. -/
  | answered (job : Job) (hsent : after.stage.provider.sent =
        harness.stage.provider.sent ++ [job.message])
      (hfinished : after.finished = harness.finished ++ [job])
      (hempty : (harness.flagsAt access.node.location).isEmpty = true)
      (htarget : harness.stage.tree.targetOf? job = some access.node.location)
      (hflags : ∀ path, after.flagsAt path =
        if harness.stage.tree.isHydratedBy path job then (harness.flagsAt path).hydrated
        else harness.flagsAt path)
      (hdecision : job.behaviour.succeeds = true → decision = .ok .allow)

theorem Stage.Alike.flagsAt {stage other : Stage} (h : stage.Alike other) (path : String) :
    other.tree.flagsAt path = stage.tree.flagsAt path := by
  obtain ⟨lookups, reads, htree⟩ := h.tree
  rw [htree]
  rfl

theorem Stage.Alike.places {stage other : Stage} (h : stage.Alike other) :
    other.tree.places = stage.tree.places := by
  obtain ⟨lookups, reads, htree⟩ := h.tree
  rw [htree]
  rfl

theorem Visit.places {harness after : Harness} {access : Access} {decision : Decision}
    (h : Visit harness access decision after) : after.stage.tree.places = harness.stage.tree.places := by
  cases h with
  | unasked _ hstage => exact hstage.places
  | refused _ _ _ hstage => exact hstage.places
  | served _ job _ _ hstage => exact hstage.places.trans (Tree.places_afterJob job)

theorem Visit.effect {harness after : Harness} {access : Access} {decision : Decision}
    (h : Visit harness access decision after) (hsurveyed : harness.stage.tree.Surveyed)
    (hnode : Path.Canonical access.node.location) : Effect harness access decision after := by
  cases h with
  | unasked _ hstage => exact .silent hstage.provider hstage.flagsAt
  | refused _ _ _ hstage => exact .silent hstage.provider hstage.flagsAt
  | served root job hasks hroot hstage hdecision =>
      have htarget := hsurveyed.targetOf?_of_asks hasks hroot hnode
      refine .answered job ?_ ?_ hasks.empty htarget (fun path => ?_) hdecision
      · rw [hstage.provider]
        rfl
      · unfold Harness.finished
        rw [hstage.provider]
        rfl
      · exact (hstage.flagsAt path).trans (Tree.flagsAt_afterJob htarget path)

/-- Of an object that has its content nobody asks the provider for it. -/
theorem Visit.unasked_of_full {harness after : Harness} {access : Access} {decision : Decision}
    (h : Visit harness access decision after)
    (hfull : (harness.flagsAt access.node.location).isEmpty = false) :
    after.stage.provider = harness.stage.provider ∧
      after.arbiter.pending = harness.arbiter.pending := by
  have hnobody : ∀ {root : Root} {path : String}, ¬Asks harness.stage.tree access root path := by
    intro root path hasks
    rw [show (harness.flagsAt access.node.location).isEmpty = true from hasks.empty] at hfull
    cases hfull
  cases h with
  | unasked hpending hstage => exact ⟨hstage.provider, hpending⟩
  | refused _ _ hasks _ => exact absurd hasks hnobody
  | served _ _ hasks _ _ _ => exact absurd hasks hnobody

-- ============================================================ tidy harnesses

/-- A harness at rest with canonical paths, at which no object has been hydrated twice, and none that has
been hydrated is marked as a placeholder. -/
structure Tidy (harness : Harness) : Prop where
  ready : harness.Ready
  surveyed : harness.stage.tree.Surveyed
  accepted : harness.stage.provider.sent = harness.finished.map Job.message
  once : ∀ path, harness.finished.countP (harness.stage.tree.isHydratedBy path) +
    (harness.flagsAt path).isEmpty.toNat ≤ 1

namespace Tidy

variable {harness after : Harness}

/-- Nothing was accepted, and no object is marked that was not. -/
theorem of_silent (h : Tidy harness) (hready : after.Ready)
    (hplaces : after.stage.tree.places = harness.stage.tree.places)
    (hsent : after.stage.provider.sent = harness.stage.provider.sent)
    (hfinished : after.finished = harness.finished)
    (hflags : ∀ path, (after.flagsAt path).isEmpty.toNat ≤ (harness.flagsAt path).isEmpty.toNat) :
    Tidy after := by
  refine ⟨hready, h.surveyed.congr hplaces, ?_, fun path => ?_⟩
  · rw [hsent, hfinished]
    exact h.accepted
  · rw [Tree.isHydratedBy_congr hplaces, hfinished]
    exact Nat.le_trans (Nat.add_le_add_left (hflags path) _) (h.once path)

theorem access (h : Tidy harness) (access : Access) (hnode : Path.Canonical access.node.location) :
    Tidy (harness.access access).2 := by
  obtain ⟨decision, after, hend, hvisit, hready⟩ := h.ready.ends access
  rw [hend]
  cases hvisit.effect h.surveyed hnode with
  | silent hprovider hflags =>
      refine h.of_silent hready hvisit.places (congrArg Provider.sent hprovider)
        (congrArg Provider.finished hprovider) fun path => ?_
      rw [hflags]
  | answered job hsent hfinished hempty htarget hflags hdecision =>
      refine ⟨hready, h.surveyed.congr hvisit.places, ?_, fun path => ?_⟩
      · rw [hsent, hfinished, List.map_append, h.accepted]
        rfl
      · have hbefore := h.once path
        show List.countP _ after.finished + _ ≤ 1
        rw [Tree.isHydratedBy_congr hvisit.places, hfinished, List.countP_append,
          List.countP_singleton, hflags]
        cases hhydrated : harness.stage.tree.isHydratedBy path job with
        | false => exact hbefore
        | true =>
            -- the object that was asked for was marked, so it had not been hydrated
            have hpath := Tree.target_of_isHydratedBy htarget hhydrated
            rw [← hpath, hempty] at hbefore
            rw [if_pos rfl, if_pos rfl, Flags.isEmpty_hydrated, ← hpath]
            exact hbefore

theorem exercise (h : Tidy harness) {e : Exercise} (he : e.Proper) :
    Tidy (harness.exercise e) := by
  have hready := h.ready
  cases e with
  | access access => exact h.access access he
  | setProvider index pid =>
      refine h.of_silent ⟨hready.table, hready.listening, hready.stopped, hready.queue, hready.hand,
        hready.general, hready.byPath⟩ (Tree.places_setProvider index pid) rfl rfl fun path => ?_
      exact Nat.le_refl _
  | setBehaviour behaviour =>
      refine h.of_silent ⟨hready.table, hready.listening, hready.stopped, hready.queue, hready.hand,
        he, hready.byPath⟩ rfl rfl rfl fun path => ?_
      exact Nat.le_refl _
  | setBehaviourFor path behaviour =>
      refine h.of_silent ⟨hready.table, hready.listening, hready.stopped, hready.queue, hready.hand,
        hready.general, fun entry hentry => ?_⟩ rfl rfl rfl fun path => ?_
      · rcases List.mem_cons.1 hentry with rfl | hold
        · exact he
        · exact hready.byPath entry hold
      · exact Nat.le_refl _
  | hydrate path =>
      refine h.of_silent ⟨hready.table, hready.listening, hready.stopped, hready.queue, hready.hand,
        hready.general, hready.byPath⟩ rfl rfl rfl fun other => ?_
      show ((harness.stage.tree.hydrate path).flagsAt other).isEmpty.toNat ≤ _
      rw [Tree.flagsAt_hydrate]
      split
      · rw [Flags.isEmpty_hydrated]
        exact Nat.zero_le _
      · exact Nat.le_refl _

theorem run (h : Tidy harness) {exercises : List Exercise} (hproper : ∀ e ∈ exercises, e.Proper) :
    Tidy (harness.run exercises) := by
  induction exercises generalizing harness with
  | nil => exact h
  | cons e rest ih =>
      exact ih (h.exercise (hproper e (List.mem_cons_self ..)))
        fun other hother => hproper other (List.mem_cons_of_mem _ hother)

/-- An exercise takes the mark from those to which it brings content, and from nobody else. -/
theorem flagsAt_exercise (h : Tidy harness) {e : Exercise} (he : e.Proper) (path : String) :
    (e.Hydrates harness path →
        (harness.exercise e).flagsAt path = (harness.flagsAt path).hydrated) ∧
      (¬e.Hydrates harness path → (harness.exercise e).flagsAt path = harness.flagsAt path) := by
  cases e with
  | setProvider | setBehaviour | setBehaviourFor => exact ⟨False.elim, fun _ => rfl⟩
  | hydrate other =>
      have hflags := Tree.flagsAt_hydrate harness.stage.tree other path
      refine ⟨fun hpath => ?_, fun hpath => ?_⟩
      · exact hflags.trans (if_pos (Eq.symm hpath))
      · exact hflags.trans (if_neg fun heq => hpath heq.symm)
  | access access =>
      obtain ⟨decision, after, hend, hvisit, -⟩ := h.ready.ends access
      unfold Exercise.Hydrates Harness.exercise
      dsimp only
      rw [hend]
      cases hvisit.effect h.surveyed he with
      | silent hprovider hflags =>
          refine ⟨fun ⟨_, job, hfinished, _⟩ => ?_, fun _ => hflags path⟩
          have hlength := congrArg List.length hfinished
          rw [show after.finished = harness.finished from congrArg Provider.finished hprovider,
            List.length_append] at hlength
          simp at hlength
      | answered job hsent hfinished hempty htarget hflags hdecision =>
          refine ⟨fun ⟨_, other, hother, hhydrated⟩ => ?_, fun hnot => ?_⟩
          · rw [hfinished] at hother
            obtain rfl := List.singleton_inj.1 (List.append_cancel_left hother)
            exact (hflags path).trans (if_pos hhydrated)
          · refine (hflags path).trans (if_neg fun hhydrated => hnot ⟨?_, job, hfinished, hhydrated⟩)
            exact Tree.target_of_isHydratedBy htarget hhydrated

/-- Content that is there stays. -/
theorem full_run (h : Tidy harness) {exercises : List Exercise}
    (hproper : ∀ e ∈ exercises, e.Proper) {path : String}
    (hfull : (harness.flagsAt path).isEmpty = false) :
    ((harness.run exercises).flagsAt path).isEmpty = false := by
  induction exercises generalizing harness with
  | nil => exact hfull
  | cons e rest ih =>
      have he := hproper e (List.mem_cons_self ..)
      obtain ⟨hhydrates, hkept⟩ := h.flagsAt_exercise he path
      refine ih (h.exercise he) (fun other hother => hproper other (List.mem_cons_of_mem _ hother)) ?_
      by_cases hcase : e.Hydrates harness path
      · rw [hhydrates hcase, Flags.isEmpty_hydrated]
      · rw [hkept hcase, hfull]

/-- What was hydrated on request has its content. -/
theorem full_of_hydrated (h : Tidy harness) {path : String} {job : Job}
    (hjob : job ∈ harness.finished) (hhydrated : harness.stage.tree.isHydratedBy path job = true) :
    (harness.flagsAt path).isEmpty = false := by
  have hsome : 0 < harness.finished.countP (harness.stage.tree.isHydratedBy path) :=
    List.countP_pos_iff.2 ⟨job, hjob, hhydrated⟩
  have honce := h.once path
  cases hempty : (harness.flagsAt path).isEmpty with
  | false => rfl
  | true =>
      rw [hempty, Bool.toNat_true] at honce
      omega

end Tidy

theorem Tidy.start {config : Config} {tree : Tree} {events : List HostEvent} {harness : Harness}
    (hstart : Harness.start config (.ofTree tree events) = .ok harness)
    (hsurveyed : tree.Surveyed) : Tidy harness := by
  unfold Harness.start Service.start at hstart
  cases hcheck : config.effective.check with
  | error fault =>
      rw [hcheck] at hstart
      cases hstart
  | ok checked =>
      rw [hcheck] at hstart
      obtain rfl := Except.ok.inj hstart
      refine ⟨⟨⟨1, rfl⟩, rfl, rfl, rfl, rfl, nofun, nofun⟩, hsurveyed, rfl, fun path => ?_⟩
      exact (Nat.zero_add _).trans_le (Bool.toNat_le _)

-- ============================================================ the result

/-- What is true of a harness that a run has come to, and stays true however the run goes on. -/
structure Exact (harness : Harness) : Prop where
  /-- Every access ends, and one message at most is accepted on its way, for the object itself. If the
  provider succeeds the access is let through, and the object has its content by then. -/
  served : ∀ access, Path.Canonical access.node.location → ∃ decision after jobs,
    harness.access access = (.decided decision, after) ∧
    after.finished = harness.finished ++ jobs ∧ jobs.length ≤ 1 ∧
    ∀ job ∈ jobs, harness.stage.tree.targetOf? job = some access.node.location ∧
      (job.behaviour.succeeds = true →
        decision = .ok .allow ∧ (after.flagsAt access.node.location).isEmpty = false)
  /-- Flags change only where content comes to, and only by the loss of the mark. -/
  kept : ∀ e : Exercise, e.Proper → ∀ path,
    (e.Hydrates harness path →
      (harness.exercise e).flagsAt path = (harness.flagsAt path).hydrated) ∧
    (¬e.Hydrates harness path → (harness.exercise e).flagsAt path = harness.flagsAt path)
  /-- Every message that was accepted has been answered. -/
  accepted : harness.stage.provider.sent = harness.finished.map Job.message
  /-- No object is hydrated on request twice. -/
  once : ∀ path, harness.finished.countP (harness.stage.tree.isHydratedBy path) ≤ 1
  /-- After that no access to the object sends anything, or even takes an id for it. -/
  closed : ∀ path, ∀ job ∈ harness.finished, harness.stage.tree.isHydratedBy path job = true →
    ∀ later, (∀ e ∈ later, e.Proper) → ∀ access, access.node.location = path →
      ((harness.run later).access access).2.stage.provider = (harness.run later).stage.provider ∧
      ((harness.run later).access access).2.arbiter.pending = (harness.run later).arbiter.pending

theorem Tidy.exact {harness : Harness} (h : Tidy harness) : Exact harness where
  served access hnode := by
    obtain ⟨decision, after, hend, hvisit, -⟩ := h.ready.ends access
    cases hvisit.effect h.surveyed hnode with
    | silent hprovider hflags =>
        exact ⟨decision, after, [], hend, (congrArg Provider.finished hprovider).trans
          (List.append_nil _).symm, Nat.zero_le _, fun _ hjob => absurd hjob List.not_mem_nil⟩
    | answered job hsent hfinished hempty htarget hflags hdecision =>
        refine ⟨decision, after, [job], hend, hfinished, Nat.le_refl _, fun other hother => ?_⟩
        obtain rfl := List.mem_singleton.1 hother
        refine ⟨htarget, fun hsucceeds => ⟨hdecision hsucceeds, ?_⟩⟩
        have hhydrated : harness.stage.tree.isHydratedBy access.node.location other = true := by
          unfold Tree.isHydratedBy
          rw [hsucceeds, htarget]
          simp
        rw [hflags, if_pos hhydrated, Flags.isEmpty_hydrated]
  kept _ he path := h.flagsAt_exercise he path
  accepted := h.accepted
  once path := Nat.le_trans (Nat.le_add_right _ _) (h.once path)
  closed path job hjob hhydrated later hlater access hpath := by
    obtain ⟨decision, after, hend, hvisit, -⟩ := (h.run hlater).ready.ends access
    rw [hend]
    exact hvisit.unasked_of_full (hpath ▸ h.full_run hlater (h.full_of_hydrated hjob hhydrated))

/-- Content comes once, to the object that was asked for, and nothing else changes any flags: over every
tree whose roots have indices of their own and whose paths are canonical, in every run of accesses. -/
theorem exact_run {config : Config} {tree : Tree} {events : List HostEvent} {harness : Harness}
    (hstart : Harness.start config (.ofTree tree events) = .ok harness)
    (hdistinct : (tree.roots.map Root.index).Nodup)
    (hroots : ∀ root ∈ tree.roots, Path.Canonical root.path) {exercises : List Exercise}
    (hproper : ∀ e ∈ exercises, e.Proper) : Exact (harness.run exercises) :=
  ((Tidy.start hstart (Tree.surveyed hdistinct hroots)).run hproper).exact

namespace NestedRoots

/-- A repository below the root of all paths, and an empty file in each of the two. -/
def tree : Tree :=
  ((((Tree.empty.addRoot ⟨0, "/", some 5⟩).addRoot ⟨1, "/repo", some 6⟩).addPlaceholder "/file"
    true).addPlaceholder "/repo/file" true)

def reading (path : String) : Access :=
  ⟨7, "reader", .ofLocation path .regular true, .ofRights [.readData]⟩

/-- Both are read, the one in the repository first in vain; then both are read again. -/
def exercises : List Exercise :=
  [.setBehaviourFor "file" .fail, .access (reading "/repo/file"), .setProvider 0 none,
    .access (reading "/file"), .setProvider 0 (some 8), .setBehaviourFor "file" .succeed,
    .access (reading "/repo/file"), .access (reading "/file"), .access (reading "/repo/file"),
    .access (reading "/file")]

def harness : Harness where
  service := ⟨.ofConfig .standard, true⟩
  stage := { Stage.ofTree tree [.registryInit, .listen] with listening := true }

/-- Three messages were accepted, one of them in vain. -/
theorem exact_of_both :
    Harness.start .standard (.ofTree tree []) = .ok harness ∧
      (tree.roots.map Root.index).Nodup ∧ (∀ root ∈ tree.roots, Path.Canonical root.path) ∧
      (∀ e ∈ exercises, e.Proper) ∧ Exact (harness.run exercises) ∧
      (harness.run exercises).finished.map Job.behaviour = [.fail, .succeed, .succeed] := by
  have hstart : Harness.start .standard (.ofTree tree []) = .ok harness := rfl
  have hdistinct : (tree.roots.map Root.index).Nodup := by decide
  have hroots : ∀ root ∈ tree.roots, Path.Canonical root.path := by decide
  have hproper : ∀ e ∈ exercises, e.Proper := by decide
  exact ⟨hstart, hdistinct, hroots, hproper, exact_run hstart hdistinct hroots hproper,
    by decide +kernel⟩

end NestedRoots

end Hydration
