/-
Whole rehearsals: whatever is done, in whatever order and by whom, the service over the tree decides as
the expectation predicts, and nothing is found.

# What is kept

`InStep` holds between any two operations of a rehearsal: the tree and the expectation mirror each
other, and the arbiter and its provider stand idle, set up as the expectation counts on it. Every
operation but one keeps it. The one is to let the provider ignore messages; then an access never comes
back, and there is nothing to compare.
-/
import Hydration.Proofs.Agreement.Decisions
import Hydration.Proofs.Config.Checked

namespace Hydration

-- ============================================================ random operations

theorem Operation.drawBehaviour_ne_ignore (stream : RandomStream) :
    (drawBehaviour stream).1 ≠ .ignore := by
  show (behaviours[(stream.below behaviours.length).1]?).getD .succeed ≠ .ignore
  cases hdrawn : behaviours[(stream.below behaviours.length).1]? with
  | none => decide
  | some behaviour =>
      have hmem := List.mem_of_getElem? hdrawn
      revert hmem
      unfold behaviours
      simp only [List.mem_cons, List.not_mem_nil, or_false]
      rintro (rfl | rfl | rfl) <;> decide

theorem Operation.draw_ne_ignore (stream : RandomStream) :
    (draw stream).1 ≠ .setBehaviour .ignore := by
  unfold draw
  dsimp only
  split
  · exact nofun
  · split
    · intro h
      exact drawBehaviour_ne_ignore _ (Operation.setBehaviour.inj h)
    · split <;> exact nofun

-- ============================================================ between two operations

/-- What holds between two operations. -/
structure InStep (scene : Scene) (r : Rehearsal) : Prop where
  told : r.scene = scene
  mirrors : Mirrors scene r.tree r.expectation
  standing : ∃ around : Around, around.Matches r.expectation ∧ around.listening = true ∧
    around.behaviour ≠ .ignore ∧ Standing around 0 [] [] r.tree r.harness.arbiter r.harness.stage
  violations : r.violations = []

/-- Over a tree every configuration starts that is not refused. -/
theorem Harness.start_eq (config : Config) (tree : Tree) :
    Harness.start config (.ofTree tree []) =
      match config.effective.check with
      | .error fault => .error (.config fault)
      | .ok checked => .ok ⟨⟨.ofConfig checked, true⟩,
          { Stage.ofTree tree [.registryInit, .listen] with listening := true }⟩ := by
  unfold start Service.start
  cases config.effective.check <;> rfl

/-- A rehearsal begins in step. -/
theorem InStep.ofScene {scene : Scene} {isEmpty : String → Bool} {config : Config} {provider : Int}
    {stream : RandomStream} {r : Rehearsal} (hscene : scene.WellFormed isEmpty provider)
    (hnames : config.HasPlainNames)
    (hstart : Rehearsal.ofScene scene isEmpty config provider stream = .ok r) : InStep scene r := by
  unfold Rehearsal.ofScene at hstart
  rw [Harness.start_eq, hnames.effective_eq] at hstart
  cases hcheck : config.check with
  | error fault =>
      rw [hcheck] at hstart
      cases hstart
  | ok checked =>
      rw [hcheck, Config.check_ok hcheck] at hstart
      obtain rfl := Except.ok.inj hstart
      obtain ⟨nodes, empty, hexpectation⟩ := Scene.expectation_eq scene isEmpty config provider
      refine ⟨rfl, hscene.mirrors config, ⟨⟨.ofConfig config, config.onUnreachable, .succeed, true⟩,
        ⟨?_, ?_, ?_⟩, rfl, nofun, ?_⟩, rfl⟩
      · intro name
        rw [hexpectation]
        exact Crawlers.contains_ofList config.crawlers name
      · rw [hexpectation]
      · rw [hexpectation]
      · exact ⟨rfl, rfl, rfl, rfl, rfl, rfl, rfl, rfl, rfl, rfl, rfl, rfl⟩

namespace InStep

variable {scene : Scene} {r : Rehearsal} {isEmpty : String → Bool} {provider : Int}

/-- An access to an object of the scene is decided as predicted, and the two sides go on alike. -/
theorem access_decided (h : InStep scene r) (hscene : scene.WellFormed isEmpty provider)
    {p : Placement} (hp : p ∈ scene.placements) (caller : Caller) (action : Action) :
    ∃ decision harness,
      r.harness.access (caller.access p.node action) = (.decided decision, harness) ∧
      Rehearsal.agrees (r.expectation.predict p.path caller.pid caller.process action) decision =
        true ∧
      InStep scene { r with
        harness
        expectation := r.expectation.commit p.path caller.pid caller.process action
          (r.expectation.predict p.path caller.pid caller.process action) } := by
  obtain ⟨around, haround, hlistening, hignore, hstanding⟩ := h.standing
  obtain ⟨harness, lookups, reads, haccess, hafter⟩ :=
    Harness.access_eq hstanding hlistening hignore (caller.access p.node action)
  obtain ⟨hagrees, hmirrors⟩ := h.mirrors.fulfils hscene haround hp
    (rfl : (caller.access p.node action).node = p.node)
  refine ⟨_, harness, haccess, hagrees, h.told, ?_, ⟨around, haround.commit .., hlistening, hignore, ?_⟩,
    h.violations⟩
  · show Mirrors scene harness.stage.tree _
    rw [hafter.tree]
    exact hmirrors.counted lookups reads
  · show Standing around 0 [] [] harness.stage.tree harness.arbiter harness.stage
    rw [hafter.tree]
    exact hafter

theorem compareContent_eq (h : InStep scene r) (path : String) : r.compareContent path = r := by
  unfold Rehearsal.compareContent Rehearsal.findIf
  rw [h.mirrors.content path]
  simp

/-- The trace and the number of the step are only for those who read them. -/
theorem note (h : InStep scene r) (entry : TraceEntry) : InStep scene (r.note entry) :=
  ⟨h.told, h.mirrors, h.standing, h.violations⟩

/-- Between operations nothing is in flight. -/
theorem checkQuiet_eq (h : InStep scene r) : r.checkQuiet = r := by
  obtain ⟨around, -, -, -, hstanding⟩ := h.standing
  have hpending : r.harness.arbiter.pending.isEmpty = true := by
    unfold Pending.isEmpty
    rw [hstanding.entries]
    rfl
  unfold Rehearsal.checkQuiet Rehearsal.findIf
  dsimp only
  rw [hpending, hstanding.active]
  rfl

theorem access (h : InStep scene r) (hscene : scene.WellFormed isEmpty provider) (path : String)
    (caller : Caller) (action : Action) : InStep scene (r.access path caller action) := by
  obtain rfl := h.told
  unfold Rehearsal.access
  cases hplacement : r.scene.placement? path with
  | none => exact h
  | some p =>
      have hp : p ∈ r.scene.placements := List.mem_of_find?_eq_some hplacement
      have hpath : p.path = path := by simpa using List.find?_some hplacement
      subst hpath
      obtain ⟨decision, harness, haccess, hagrees, hafter⟩ := h.access_decided hscene hp caller action
      dsimp only
      rw [haccess]
      show InStep r.scene (Rehearsal.conclude { r with harness } p.path caller action decision)
      have hconclude : Rehearsal.conclude { r with harness } p.path caller action decision =
          Rehearsal.note { r with
            harness
            expectation := r.expectation.commit p.path caller.pid caller.process action
              (r.expectation.predict p.path caller.pid caller.process action) }
            (.access p.path caller action decision) := by
        rw [← (hafter.note (.access p.path caller action decision)).compareContent_eq p.path]
        unfold Rehearsal.conclude Rehearsal.findIf
        dsimp only
        rw [if_neg (by rw [hagrees]; decide)]
        rfl
      rw [hconclude]
      exact hafter.note _

/-- Every operation keeps in step, but one. -/
theorem carryOut (h : InStep scene r) (hscene : scene.WellFormed isEmpty provider)
    {operation : Operation} (hignore : operation ≠ .setBehaviour .ignore) :
    InStep scene (r.carryOut operation) := by
  obtain ⟨around, haround, hlistening, hattentive, hstanding⟩ := h.standing
  cases operation with
  | access path caller action => exact h.access hscene path caller action
  | setOnline online =>
      obtain rfl := h.told
      have hafter : InStep r.scene ((r.mapTree (·.setProvider r.scene.root.index
          (if online then some r.expectation.provider else none))).mapExpectation
            (·.setOnline online)) :=
        ⟨rfl, h.mirrors.setOnline online, ⟨around, ⟨haround.crawlers, haround.policy, haround.behaviour⟩,
          hlistening, hattentive, hstanding.withTree _⟩, h.violations⟩
      exact hafter.note _
  | setBehaviour behaviour =>
      have hattentive' : behaviour ≠ .ignore := fun h => hignore (h ▸ rfl)
      have hstanding' : Standing { around with behaviour } 0 [] [] r.tree r.harness.arbiter
          (r.harness.mapProvider (·.setBehaviour behaviour)).stage :=
        ⟨hstanding.crawlers, hstanding.policy, hstanding.active, hstanding.entries, hstanding.up, rfl,
          hstanding.byPath, hstanding.stopped, hstanding.queue, hstanding.hand, rfl,
          hstanding.listening⟩
      have hafter : InStep scene (Rehearsal.mapExpectation
          { r with harness := r.harness.mapProvider (·.setBehaviour behaviour) }
            (·.setBehaviour behaviour)) :=
        ⟨h.told, h.mirrors.setBehaviour behaviour, ⟨{ around with behaviour },
          ⟨haround.crawlers, haround.policy, rfl⟩, hlistening, hattentive', hstanding'⟩, h.violations⟩
      exact hafter.note _
  | prefetch path =>
      have hafter : InStep scene ((r.mapTree (·.hydrate path)).mapExpectation (·.hydrate path)) :=
        ⟨h.told, h.mirrors.hydrate path, ⟨around,
          ⟨haround.crawlers, haround.policy, haround.behaviour⟩, hlistening, hattentive,
          hstanding.withTree _⟩, h.violations⟩
      exact hafter.note _

theorem perform (h : InStep scene r) (hscene : scene.WellFormed isEmpty provider)
    {operation : Operation} (hignore : operation ≠ .setBehaviour .ignore) :
    InStep scene (r.perform operation) := by
  have hafter := h.carryOut hscene hignore
  unfold Rehearsal.perform
  dsimp only
  rw [hafter.checkQuiet_eq]
  exact ⟨hafter.told, hafter.mirrors, hafter.standing, hafter.violations⟩

theorem performAll (h : InStep scene r) (hscene : scene.WellFormed isEmpty provider)
    {operations : List Operation}
    (hignore : ∀ operation ∈ operations, operation ≠ .setBehaviour .ignore) :
    InStep scene (r.performAll operations) := by
  induction operations generalizing r with
  | nil => exact h
  | cons operation operations ih =>
      exact ih (h.perform hscene (hignore operation (List.mem_cons_self ..)))
        fun other hother => hignore other (List.mem_cons_of_mem _ hother)

/-- Operations drawn at random are among those that keep in step. -/
theorem run (h : InStep scene r) (hscene : scene.WellFormed isEmpty provider) (count : Nat) :
    InStep scene (Rehearsal.run count r) := by
  induction count generalizing r with
  | zero => exact h
  | succ count ih =>
      have hattentive := Operation.draw_ne_ignore r.stream
      unfold Rehearsal.run
      -- which operation was drawn does not matter any more
      generalize Operation.draw r.stream = drawn at hattentive ⊢
      obtain ⟨operation, stream⟩ := drawn
      have hdrawn : InStep scene { r with stream } :=
        ⟨h.told, h.mirrors, h.standing, h.violations⟩
      exact ih (hdrawn.perform hscene hattentive)

end InStep

-- ============================================================ the repository

/-- Only what lies in a root is drawn to be without content. -/
theorem Scene.mem_drawEmpty {root : Root} {path : String} {placements : List Placement}
    {stream : RandomStream} (h : path ∈ (drawEmpty root placements stream).1) :
    ∃ p ∈ placements, p.path = path ∧ p.blueprint.inRoot = true := by
  induction placements generalizing stream with
  | nil => cases h
  | cons p placements ih =>
      have hlater : ∀ {stream}, path ∈ (drawEmpty root placements stream).1 →
          ∃ q ∈ p :: placements, q.path = path ∧ q.blueprint.inRoot = true := by
        intro stream hmem
        obtain ⟨q, hq, hhere⟩ := ih hmem
        exact ⟨q, List.mem_cons_of_mem _ hq, hhere⟩
      unfold drawEmpty at h
      by_cases hdrawn : (p.blueprint.inRoot && p.path != root.path) = true
      · rw [if_pos hdrawn] at h
        dsimp only at h
        split at h
        · rcases List.mem_cons.1 h with rfl | hmem
          · exact ⟨p, List.mem_cons_self .., rfl, (Bool.and_eq_true_iff.1 hdrawn).1⟩
          · exact hlater hmem
        · exact hlater h
      · rw [if_neg hdrawn] at h
        exact hlater h

namespace Repository

theorem wellFormed {isEmpty : String → Bool}
    (hempty : ∀ p ∈ placements, p.blueprint.inRoot = false → isEmpty p.path = false) :
    scene.WellFormed isEmpty providerPid where
  distinct := by decide +kernel
  canonical := by decide +kernel
  root := by decide +kernel
  connected := rfl
  unmanaged := by decide +kernel
  within := by decide +kernel
  outside := by
    have hroot : ∀ p ∈ scene.placements, p.blueprint.inRoot = false → p.path ≠ scene.root.path := by
      decide +kernel
    exact fun p hp houtside => ⟨hroot p hp houtside, hempty p hp houtside⟩

theorem wellFormed_drawEmpty (stream : RandomStream) :
    scene.WellFormed (Scene.drawEmpty scene.root scene.placements stream).1.contains
      providerPid := by
  have hdistinct : (placements.map Placement.path).Nodup := by decide +kernel
  refine wellFormed fun p hp houtside => ?_
  rw [← Bool.not_eq_true, List.contains_iff_mem]
  intro hempty
  obtain ⟨q, hq, hsame, hinside⟩ := Scene.mem_drawEmpty hempty
  rw [List.inj_on_of_nodup_map hdistinct hq hp hsame, houtside] at hinside
  cases hinside

theorem hasPlainNames (onUnreachable : UnreachablePolicy) :
    Config.HasPlainNames { Harness.fastConfig with onUnreachable } := by
  cases onUnreachable <;> decide +kernel

end Repository

/-- A rehearsal of any scene can begin with the names that the repository has. -/
theorem Rehearsal.exists_ofScene (scene : Scene) (isEmpty : String → Bool) (provider : Int)
    (stream : RandomStream) (onUnreachable : UnreachablePolicy) :
    ∃ r, ofScene scene isEmpty { Harness.fastConfig with onUnreachable } provider stream = .ok r := by
  have hfaults : Config.faults { Harness.fastConfig with onUnreachable } = [] := by
    cases onUnreachable <;> decide +kernel
  have hcheck : Config.check { Harness.fastConfig with onUnreachable } =
      .ok { Harness.fastConfig with onUnreachable } := by
    unfold Config.check
    rw [hfaults]
  unfold ofScene
  rw [Harness.start_eq, (Repository.hasPlainNames onUnreachable).effective_eq, hcheck]
  exact ⟨_, rfl⟩

/-- A rehearsal in the repository begins in step, whatever the seed. -/
theorem InStep.ofSeed (seed : UInt64) (onUnreachable : UnreachablePolicy) :
    ∃ r, Rehearsal.ofSeed seed onUnreachable = .ok r ∧ InStep Repository.scene r := by
  unfold Rehearsal.ofSeed
  dsimp only
  obtain ⟨r, hr⟩ := Rehearsal.exists_ofScene Repository.scene
    (Scene.drawEmpty Repository.scene.root Repository.scene.placements (.ofSeed seed)).1.contains
    Repository.providerPid
    (Scene.drawEmpty Repository.scene.root Repository.scene.placements (.ofSeed seed)).2 onUnreachable
  exact ⟨r, hr, .ofScene (Repository.wellFormed_drawEmpty (.ofSeed seed))
    (Repository.hasPlainNames onUnreachable) hr⟩

-- ============================================================ agreement

/-- What can be seen of the agreement of both sides between two operations: nothing was found so far,
the same paths are without content, nothing is in flight, and every access to an object would be decided
as it is predicted, whoever makes it and whatever it asks for. -/
structure InAgreement (r : Rehearsal) : Prop where
  violations : r.violations = []
  content : ∀ path, r.expectation.isEmpty path = (r.tree.flagsAt path).isEmpty
  requests : r.harness.arbiter.pending.isEmpty = true
  calls : r.harness.arbiter.active = 0
  accesses : ∀ p ∈ r.scene.placements, ∀ (caller : Caller) (action : Action), ∃ decision harness,
    r.harness.access (caller.access p.node action) = (.decided decision, harness) ∧
      Rehearsal.agrees (r.expectation.predict p.path caller.pid caller.process action) decision = true

theorem InStep.inAgreement {scene : Scene} {r : Rehearsal} {isEmpty : String → Bool} {provider : Int}
    (h : InStep scene r) (hscene : scene.WellFormed isEmpty provider) : InAgreement r := by
  obtain ⟨around, -, -, -, hstanding⟩ := h.standing
  refine ⟨h.violations, h.mirrors.content, ?_, hstanding.active, ?_⟩
  · unfold Pending.isEmpty
    rw [hstanding.entries]
    rfl
  · rw [h.told]
    intro p hp caller action
    obtain ⟨decision, harness, haccess, hagrees, -⟩ := h.access_decided hscene hp caller action
    exact ⟨decision, harness, haccess, hagrees⟩

/-- The random rehearsals of every seed find nothing. -/
theorem run_inAgreement (seed : UInt64) (onUnreachable : UnreachablePolicy) (count : Nat) :
    ∃ r, Rehearsal.ofSeed seed onUnreachable = .ok r ∧ InAgreement (Rehearsal.run count r) := by
  obtain ⟨r, hr, h⟩ := InStep.ofSeed seed onUnreachable
  have hscene := Repository.wellFormed_drawEmpty (.ofSeed seed)
  exact ⟨r, hr, (h.run hscene count).inAgreement hscene⟩

/-- Whatever is done in a rehearsal of a well-formed scene, save that the provider falls silent, the
service over the tree and the expectation agree to its end. The repository with the objects that a seed
makes empty is such a scene. -/
theorem performAll_inAgreement {operations : List Operation}
    (hignore : ∀ operation ∈ operations, operation ≠ .setBehaviour .ignore) :
    (∀ (scene : Scene) (isEmpty : String → Bool) (config : Config) (provider : Int)
        (stream : RandomStream) (r : Rehearsal),
      scene.WellFormed isEmpty provider → config.HasPlainNames →
        Rehearsal.ofScene scene isEmpty config provider stream = .ok r →
          InAgreement (r.performAll operations)) ∧
      ∀ (seed : UInt64) (onUnreachable : UnreachablePolicy),
        ∃ r, Rehearsal.ofSeed seed onUnreachable = .ok r ∧
          InAgreement (r.performAll operations) := by
  constructor
  · intro scene isEmpty config provider stream r hscene hnames hstart
    exact ((InStep.ofScene hscene hnames hstart).performAll hscene hignore).inAgreement hscene
  · intro seed onUnreachable
    obtain ⟨r, hr, h⟩ := InStep.ofSeed seed onUnreachable
    have hscene := Repository.wellFormed_drawEmpty (.ofSeed seed)
    exact ⟨r, hr, (h.performAll hscene hignore).inAgreement hscene⟩

namespace Repository

/-- A file is read while the provider fails, then while it succeeds, and once more without it. -/
def threeReads : List Operation :=
  let read := .access "/repo/src/main.rs" ⟨100, "cat"⟩ (.ofRights [.readData])
  [.setBehaviour .fail, read, .setBehaviour .succeed, read, .setOnline false, read]

/-- Three reads agree, and only the second of them changes anything. -/
theorem threeReads_inAgreement :
    ∃ r, Rehearsal.ofScene scene (· == "/repo/src/main.rs") Harness.fastConfig providerPid
        (.ofSeed 0) = .ok r ∧
      InAgreement (r.performAll threeReads) ∧
      ((r.performAll (threeReads.take 2)).tree.flagsAt "/repo/src/main.rs").isEmpty = true ∧
      ((r.performAll (threeReads.take 4)).tree.flagsAt "/repo/src/main.rs").isEmpty = false := by
  obtain ⟨r, hr⟩ : ∃ r, Rehearsal.ofScene scene (· == "/repo/src/main.rs") Harness.fastConfig
      providerPid (.ofSeed 0) = .ok r :=
    Rehearsal.exists_ofScene scene _ providerPid (.ofSeed 0) .allow
  have hattentive : ∀ operation ∈ threeReads, operation ≠ .setBehaviour .ignore := by
    decide +kernel
  have hagreement := (performAll_inAgreement hattentive).1 scene (· == "/repo/src/main.rs")
    Harness.fastConfig providerPid (.ofSeed 0) r (wellFormed (by decide +kernel)) (hasPlainNames .allow)
    hr
  have hcontent : (Rehearsal.ofScene scene (· == "/repo/src/main.rs") Harness.fastConfig providerPid
      (.ofSeed 0)).toOption.map (fun r =>
        (((r.performAll (threeReads.take 2)).tree.flagsAt "/repo/src/main.rs").isEmpty,
          ((r.performAll (threeReads.take 4)).tree.flagsAt "/repo/src/main.rs").isEmpty)) =
      some (true, false) := by
    decide +kernel
  rw [hr] at hcontent
  obtain ⟨hbefore, hafter⟩ := Prod.mk.inj (Option.some.inj hcontent)
  exact ⟨r, hr, hagreement, hbefore, hafter⟩

end Repository

end Hydration
