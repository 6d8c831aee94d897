/-
One access to a harness at which nobody is at work.

# Three ways

Such an access always ends, and goes one of three ways (`Visit`): the provider is not asked; it is asked
and refuses the message; or it takes the message, and answers it before the access goes on. Afterwards
nobody is at work again, so accesses follow one another (`Harness.Ready`).

# The target

The provider is asked only for an object whose flags show it as empty (`Asks`). The message has the
path of the object relative to its root, and goes with the index of the root. When no two roots have the
same index this leads back to the root; and when the paths are canonical the two make the path of
the object again (`Asks.targetOf?`), whichever of the roots around it was the innermost.
-/
import Hydration.Proofs.Agreement.Decisions

namespace Hydration

-- ============================================================ roots

namespace Tree

variable {tree : Tree} {root : Root}

theorem mem_of_longest {roots : List Root} {best : Option Root}
    (h : roots.foldl longer best = some root) : root ∈ roots ∨ best = some root := by
  induction roots generalizing best with
  | nil => exact .inr h
  | cons first rest ih =>
      rcases ih h with hrest | hlonger
      · exact .inl (List.mem_cons_of_mem _ hrest)
      · unfold longer at hlonger
        split at hlonger
        · exact .inl (List.mem_cons.2 (.inl (Option.some.inj hlonger).symm))
        · split at hlonger
          · exact .inr hlonger
          · exact .inl (List.mem_cons.2 (.inl (Option.some.inj hlonger).symm))

/-- The innermost root around a location is a root around it. -/
theorem of_rootOf? {node : Node} (h : tree.rootOf? node = some root) :
    root ∈ tree.roots ∧ Path.isWithin node.location root.path = true := by
  unfold rootOf? innermost at h
  split at h
  · cases h
  · rcases mem_of_longest h with hmem | hnone
    · exact List.mem_filter.1 hmem
    · cases hnone

/-- A root is found under its index, unless another one has the same. -/
theorem root?_of_mem (hdistinct : (tree.roots.map Root.index).Nodup) (h : root ∈ tree.roots) :
    tree.root? root.index = some root := by
  unfold root?
  cases hfound : tree.roots.find? (·.index = root.index) with
  | none =>
      have hother := List.find?_eq_none.1 hfound root h
      simp at hother
  | some found =>
      have hindex : found.index = root.index := by simpa using List.find?_some hfound
      rw [List.inj_on_of_nodup_map hdistinct (List.mem_of_find?_eq_some hfound) h hindex]

/-- The path of what a message is to hydrate. -/
def targetOf? (tree : Tree) (job : Job) : Option String :=
  (tree.root? job.root).map fun root => Path.absolute root.path job.message.path

theorem hydrateTarget_eq {job : Job} {path : String} (h : tree.targetOf? job = some path) :
    Provider.hydrateTarget tree job = tree.hydrate path := by
  unfold targetOf? at h
  unfold Provider.hydrateTarget
  cases hroot : tree.root? job.root with
  | none =>
      rw [hroot] at h
      cases h
  | some root =>
      rw [hroot] at h
      cases h
      rfl

end Tree

/-- The worker is done with the job that was in its hand. -/
theorem Provider.answer_of_hand {provider : Provider} {job : Job} (h : provider.hand = some job)
    (tree : Tree) (arbiter : Arbiter) :
    provider.answer tree arbiter =
      ({ provider with hand := none, finished := provider.finished ++ [job] },
        Standing.afterJob tree job,
        match job.behaviour.answer? with
        | some kind => (arbiter.deliver job.message.id kind).2
        | none => arbiter) := by
  unfold answer Standing.afterJob
  rw [h]
  dsimp only
  cases job.behaviour.answer? <;> rfl

-- ============================================================ asking for content

/-- An access asks the provider of a root for content, under a path relative to the root. -/
structure Asks (tree : Tree) (access : Access) (root : Root) (path : String) : Prop where
  empty : (tree.flagsAt access.node.location).isEmpty = true
  innermost : tree.rootOf? access.node = some root
  target : Errand.target root access.node = .ok path

namespace Inquiry

variable {crawlers : Crawlers} {access : Access} {tree : Tree} {root found : Root} {kind : MessageKind}

theorem of_ofRoot_hydrate {flags : Flags} (h : ofRoot access flags root = .hydrate found kind) :
    flags.isEmpty = true ∧ root = found := by
  unfold ofRoot at h
  split at h
  · cases h
  · split at h
    · cases h
    · split at h
      · cases h
      · split at h
        · rename_i hempty _ _ _
          injection h with hroot _
          exact ⟨by simpa using hempty, hroot⟩
        · cases h

/-- Content is asked for only when the flags show that there is none. -/
theorem of_ruling_hydrate
    (h : (ofAccess crawlers access).ruling tree access.node = .hydrate root kind) :
    (tree.flagsAt access.node.location).isEmpty = true ∧ tree.rootOf? access.node = some root := by
  rw [ruling_ofAccess] at h
  unfold Tree.flagsOf at h
  split at h
  · cases h
  · split at h
    · cases h
    · rename_i flags hflags
      split at hflags
      · cases hflags
      · obtain rfl := Except.ok.inj hflags
        rw [ruling_ofFlags] at h
        split at h
        · cases h
        · split at h
          · cases h
          · split at h
            · cases h
            · rename_i found hfound
              obtain ⟨hempty, rfl⟩ := of_ofRoot_hydrate h
              exact ⟨hempty, hfound⟩

end Inquiry

/-- What the provider is asked for is the object that was accessed. -/
theorem Asks.targetOf? {tree : Tree} {access : Access} {root : Root} {job : Job}
    (h : Asks tree access root job.message.path) (hroot : job.root = root.index)
    (hdistinct : (tree.roots.map Root.index).Nodup)
    (hroots : ∀ root ∈ tree.roots, Path.Canonical root.path)
    (hnode : Path.Canonical access.node.location) :
    tree.targetOf? job = some access.node.location := by
  obtain ⟨hmem, hwithin⟩ := Tree.of_rootOf? h.innermost
  obtain ⟨rel, hrelative, habsolute⟩ := hnode.absolute_relative (hroots root hmem) hwithin
  have htarget := h.target
  unfold Errand.target at htarget
  cases hpath : access.node.path with
  | error fault =>
      rw [hpath] at htarget
      cases htarget
  | ok path =>
      have hlocation : access.node.location = path := by
        unfold Node.location
        rw [hpath]
      rw [hpath] at htarget
      rw [hlocation, show Path.relative path root.path = _ from htarget] at hrelative
      obtain rfl := Except.ok.inj hrelative
      unfold Tree.targetOf?
      rw [hroot, Tree.root?_of_mem hdistinct hmem]
      exact congrArg some habsolute

-- ============================================================ a harness at rest

/-- Two stages that differ only in what counts and notes accesses. -/
structure Stage.Alike (stage other : Stage) : Prop where
  provider : other.provider = stage.provider
  listening : other.listening = stage.listening
  tree : ∃ lookups reads, other.tree = stage.tree.counted lookups reads

namespace Stage.Alike

variable {stage other third : Stage}

theorem trans (h : stage.Alike other) (h' : other.Alike third) : stage.Alike third := by
  obtain ⟨lookups, reads, htree⟩ := h.tree
  obtain ⟨lookups', reads', htree'⟩ := h'.tree
  refine ⟨h'.provider.trans h.provider, h'.listening.trans h.listening, lookups', reads', ?_⟩
  rw [htree', htree]
  rfl

theorem served (h : stage.Alike other) (job : Job) : (stage.served job).Alike (other.served job) := by
  obtain ⟨lookups, reads, htree⟩ := h.tree
  refine ⟨?_, h.listening, lookups, reads, ?_⟩
  · unfold Stage.served
    rw [h.provider]
  · unfold Stage.served
    rw [htree]
    exact Standing.afterJob_counted ..

end Stage.Alike

namespace Harness

variable {harness after : Harness}

/-- Nobody is at work, the host listens, and the provider leaves no message without an answer. -/
structure Ready (harness : Harness) : Prop where
  table : ∃ next, harness.arbiter.pending = ⟨[], false, next⟩
  listening : harness.stage.listening = true
  stopped : harness.stage.provider.stopped = false
  queue : harness.stage.provider.queue = []
  hand : harness.stage.provider.hand = none
  general : harness.stage.provider.general ≠ .ignore
  byPath : ∀ entry ∈ harness.stage.provider.byPath, entry.2 ≠ .ignore

theorem Ready.behaviourFor_ne_ignore (h : harness.Ready) (path : String) :
    harness.stage.provider.behaviourFor path ≠ .ignore := by
  unfold Provider.behaviourFor
  cases hlookup : harness.stage.provider.byPath.lookup path with
  | none => exact h.general
  | some behaviour =>
      obtain ⟨before, rest, hentries, -⟩ := List.lookup_eq_some_iff.1 hlookup
      refine h.byPath (path, behaviour) ?_
      rw [hentries]
      exact List.mem_append_right _ (List.mem_cons_self ..)

/-- The provider has only come to more messages. -/
theorem Ready.next (h : harness.Ready) {next : UInt64}
    (htable : after.arbiter.pending = ⟨[], false, next⟩)
    (hlistening : after.stage.listening = harness.stage.listening) {sent : List Message}
    {finished : List Job}
    (hprovider : after.stage.provider = { harness.stage.provider with sent, finished }) :
    after.Ready := by
  refine ⟨⟨next, htable⟩, hlistening.trans h.listening, ?_, ?_, ?_, ?_, ?_⟩
  all_goals rw [hprovider]
  exacts [h.stopped, h.queue, h.hand, h.general, h.byPath]

/-- An access that has come as far as its ruling, in a state in which hardly anything has changed. What
is left is to carry the ruling out. -/
structure Ruled (harness : Harness) (access : Access) (arbiter : Arbiter) (stage : Stage) : Prop where
  pending : arbiter.pending = harness.arbiter.pending
  alike : harness.stage.Alike stage
  ends : ∀ {decision : Decision} {arbiter' : Arbiter} {stage' : Stage},
    (Call.ofRuling access ((Inquiry.ofAccess harness.arbiter.crawlers access).ruling
        harness.stage.tree access.node)).moves Stage.collaborators access 7 arbiter stage =
      (.done decision, arbiter', stage') →
    ∃ after, harness.access access = (.decided decision, after) ∧
      after.arbiter = arbiter' ∧ stage'.Alike after.stage

/-- Every access comes that far. -/
theorem exists_ruled (hlistening : harness.stage.listening = true) (access : Access) :
    ∃ arbiter stage, harness.Ruled access arbiter stage := by
  obtain ⟨f, lookups, reads, hrun⟩ := Call.run_enter access harness.arbiter
    { harness.stage with dispatched := harness.stage.dispatched + 1 }
  refine ⟨Arbiter.count { harness.arbiter with active := harness.arbiter.active + 1 } f,
    { harness.stage with
      dispatched := harness.stage.dispatched + 1, tree := harness.stage.tree.counted lookups reads },
    rfl, ⟨rfl, rfl, lookups, reads, rfl⟩, fun {_ _ stage'} hrule => ?_⟩
  exact ⟨_, access_of_run hlistening (hrun hrule), rfl, rfl, rfl, stage'.tree.lookups,
    stage'.tree.reads, rfl⟩

end Harness

-- ============================================================ one access

/-- The ways an access can go. -/
inductive Visit (harness : Harness) (access : Access) (decision : Decision) (after : Harness) :
    Prop where
  /-- The provider is not asked, and no id is given out. -/
  | unasked (hpending : after.arbiter.pending = harness.arbiter.pending)
      (hstage : harness.stage.Alike after.stage)
  /-- The message is refused. -/
  | refused (root : Root) (path : String) (hasks : Asks harness.stage.tree access root path)
      (hstage : harness.stage.Alike after.stage)
  /-- The provider takes the message, and is done with it. -/
  | served (root : Root) (job : Job) (hasks : Asks harness.stage.tree access root job.message.path)
      (hroot : job.root = root.index) (hstage : (harness.stage.served job).Alike after.stage)
      (hdecision : job.behaviour.succeeds = true → decision = .ok .allow)

/-- Whoever neither ignores nor refuses a message answers it, and success makes the verdict. -/
theorem Behaviour.exists_answer {behaviour : Behaviour} (hignore : behaviour ≠ .ignore)
    (hreject : behaviour ≠ .reject) :
    ∃ kind outcome, behaviour.answer? = some kind ∧ kind.outcome? = some outcome ∧
      (behaviour.succeeds = true → Errand.verdictOf (.answered outcome) = .allow) := by
  cases behaviour with
  | succeed | succeedAfter => exact ⟨.success, .success, rfl, rfl, fun _ => rfl⟩
  | fail => exact ⟨.failure, .failure, rfl, rfl, nofun⟩
  | ignore => exact absurd rfl hignore
  | reject => exact absurd rfl hreject

namespace Harness

variable {harness : Harness} {access : Access} {arbiter : Arbiter} {stage : Stage}

/-- An access ends, has gone one of the ways, and leaves the harness at rest. -/
def Ends (harness : Harness) (access : Access) : Prop :=
  ∃ decision after, harness.access access = (.decided decision, after) ∧
    Visit harness access decision after ∧ after.Ready

/-- A ruling is carried out without the provider. -/
theorem Ruled.ends_unasked (hruled : harness.Ruled access arbiter stage) (h : harness.Ready)
    {decision : Decision} {arbiter' : Arbiter}
    (hmoves : (Call.ofRuling access ((Inquiry.ofAccess harness.arbiter.crawlers access).ruling
        harness.stage.tree access.node)).moves Stage.collaborators access 7 arbiter stage =
      (.done decision, arbiter', stage))
    (hkept : arbiter'.pending = arbiter.pending) : harness.Ends access := by
  obtain ⟨next, hpending⟩ := h.table
  obtain ⟨after, hend, rfl, hlast⟩ := hruled.ends hmoves
  have hunchanged := hkept.trans hruled.pending
  have hstage := hruled.alike.trans hlast
  exact ⟨decision, after, hend, .unasked hunchanged hstage,
    h.next (hunchanged.trans hpending) hstage.listening hstage.provider⟩

/-- The provider is asked. -/
theorem Ruled.ends_asked (hruled : harness.Ruled access arbiter stage) (h : harness.Ready)
    {root : Root} {message : Message} (hasks : Asks harness.stage.tree access root message.path)
    (hruling : Call.ofRuling access ((Inquiry.ofAccess harness.arbiter.crawlers access).ruling
      harness.stage.tree access.node) = .errand (.number root.index message)) :
    harness.Ends access := by
  obtain ⟨next, hpending⟩ := h.table
  have hidle := hruled.pending.trans hpending
  have hends := @hruled.ends
  have hignore := h.behaviourFor_ne_ignore message.path
  have hstopped := h.stopped
  have hqueue := h.queue
  have hhand := h.hand
  rw [← hruled.alike.provider] at hignore hstopped hqueue hhand
  rw [hruling] at hends
  by_cases hreject : stage.provider.behaviourFor message.path = .reject
  · obtain ⟨metrics, hmoves⟩ := Call.moves_number_refused hidle message hreject access root.index
    obtain ⟨after, hend, harbiter, hlast⟩ := hends hmoves
    have hstage := hruled.alike.trans hlast
    exact ⟨_, after, hend, .refused root message.path hasks hstage,
      h.next (congrArg Arbiter.pending harbiter) hstage.listening hstage.provider⟩
  · obtain ⟨kind, outcome, hanswer, houtcome, hverdict⟩ := Behaviour.exists_answer hignore hreject
    obtain ⟨metrics, hmoves⟩ := Call.moves_number_served hidle hstopped hqueue hhand message hreject
      hanswer houtcome access root.index
    obtain ⟨after, hend, harbiter, hlast⟩ := hends hmoves
    have hstage := (hruled.alike.served _).trans hlast
    exact ⟨_, after, hend,
      .served root _ hasks rfl hstage fun hsucceeds => congrArg Except.ok (hverdict hsucceeds),
      h.next (congrArg Arbiter.pending harbiter) hstage.listening hstage.provider⟩

/-- Every access to a harness at rest ends. -/
theorem Ready.ends (h : harness.Ready) (access : Access) : harness.Ends access := by
  obtain ⟨arbiter, stage, hruled⟩ := exists_ruled h.listening access
  have hunasked := @Ruled.ends_unasked harness access arbiter stage hruled h
  have hleaves : ∀ decision, (Call.leave decision).moves Stage.collaborators access 7 arbiter stage =
      (.done decision, Call.countDecision arbiter decision, stage) := fun _ => rfl
  cases hruling : (Inquiry.ofAccess harness.arbiter.crawlers access).ruling harness.stage.tree
      access.node with
  | verdict v =>
      rw [hruling] at hunasked
      exact hunasked (hleaves (.ok v)) rfl
  | outside =>
      rw [hruling] at hunasked
      exact hunasked (hleaves (.ok .allow)) rfl
  | unreadable source =>
      rw [hruling] at hunasked
      exact hunasked (hleaves (.error (Call.violation access source))) rfl
  | hydrate root kind =>
      obtain ⟨hempty, hinnermost⟩ := Inquiry.of_ruling_hydrate hruling
      have hcarried : Call.ofRuling access (.hydrate root kind) =
          .errand (Errand.start root kind access.node access.pid access.process) := rfl
      unfold Errand.start at hcarried
      cases htarget : Errand.target root access.node with
      | error fault =>
          rw [htarget] at hcarried
          rw [hruling, hcarried] at hunasked
          exact hunasked (hleaves (.ok (.deny .pathUnresolved))) rfl
      | ok path =>
          rw [htarget] at hcarried
          rw [← hruling] at hcarried
          exact hruled.ends_asked h ⟨hempty, hinnermost, htarget⟩ hcarried

end Harness

end Hydration
