/-
One scene told twice: what a tree and an expectation that were told of the same scene have in common,
and keep in common whatever happens to both.

# The link

`Mirrors` is the link between the two: of every object of the scene the tree says by its flags, its
lists and its mounts what the expectation knows from the blueprint, and of every path at all both say
alike whether it is without content. `Scene.WellFormed` is what a scene has to be like for this, and
`Scene.WellFormed.mirrors` says that telling such a scene to both sides makes the link.

# What it survives

Hydrating a path on both sides, connecting the provider and taking it away, another behaviour, and
whatever the tree counts.
-/
import Hydration.Proofs.Agreement.Paths
import Hydration.Proofs.Agreement.Rules
import Hydration.Simulation.Scene
import Mathlib.Data.List.Nodup

namespace Hydration

-- ============================================================ flag words of a tree

namespace Tree

theorem lookup_cons_eq {α : Type} (path other : String) (entry : α)
    (rest : List (String × α)) :
    ((path, entry) :: rest).lookup other =
      if other = path then some entry else rest.lookup other := by
  rw [List.lookup_cons]
  by_cases h : other = path
  · rw [if_pos h, beq_iff_eq.2 h]
  · rw [if_neg h, beq_eq_false_iff_ne.2 h]

theorem lookup_filter_ne {α : Type} {path other : String} (hother : other ≠ path)
    (entries : List (String × α)) :
    (entries.filter (·.1 != path)).lookup other = entries.lookup other := by
  induction entries with
  | nil => rfl
  | cons entry rest ih =>
      obtain ⟨key, value⟩ := entry
      rw [lookup_cons_eq]
      by_cases heq : key = path
      · rw [List.filter_cons_of_neg (by simpa using heq), ih, if_neg (heq ▸ hother)]
      · rw [List.filter_cons_of_pos (by simpa using heq), lookup_cons_eq, ih]

/-- Only the recorded path has another word. -/
theorem flagsAt_setFlags (tree : Tree) (path : String) (flags : Flags) (other : String) :
    (tree.setFlags path flags).flagsAt other =
      if other = path then flags else tree.flagsAt other := by
  unfold flagsAt setFlags
  rw [lookup_cons_eq]
  by_cases heq : other = path
  · rw [if_pos heq, if_pos heq]
    rfl
  · rw [if_neg heq, if_neg heq, lookup_filter_ne heq]

/-- Only the hydrated path loses its mark. -/
theorem flagsAt_hydrate (tree : Tree) (path other : String) :
    (tree.hydrate path).flagsAt other =
      if other = path then (tree.flagsAt other).hydrated else tree.flagsAt other := by
  have hlookup : (tree.hydrate path).flags.lookup other =
      if other = path then (tree.flags.lookup other).map Flags.hydrated
      else tree.flags.lookup other := by
    unfold hydrate
    induction tree.flags with
    | nil => simp
    | cons entry rest ih =>
        obtain ⟨key, value⟩ := entry
        rw [List.map_cons, lookup_cons_eq]
        by_cases hkey : key = path
        · rw [if_pos hkey, lookup_cons_eq, ih, hkey]
          by_cases hother : other = path <;> simp [hother]
        · rw [if_neg hkey, lookup_cons_eq, ih]
          by_cases hother : other = key
          · have hne : other ≠ path := hother ▸ hkey
            simp [hother, hkey]
          · simp [hother]
  unfold flagsAt
  rw [hlookup]
  by_cases heq : other = path
  · rw [if_pos heq, if_pos heq]
    cases tree.flags.lookup other with
    | none => decide
    | some flags => rfl
  · rw [if_neg heq, if_neg heq]

end Tree

-- ============================================================ what is told of a scene

/-- What is said of anything after a list was told is what was said before and what the items of the
list say. -/
theorem foldl_said {σ α : Type} {tell : σ → α → σ} (said : σ → Bool) {adds : α → Bool}
    (h : ∀ s item, said (tell s item) = (said s || adds item)) (items : List α) (s : σ) :
    said (items.foldl tell s) = (said s || items.any adds) := by
  induction items generalizing s with
  | nil => simp
  | cons item items ih => rw [List.foldl_cons, ih, h, List.any_cons, Bool.or_assoc]

namespace Placement

@[simp] theorem node_location (p : Placement) : p.node.location = p.path := by
  unfold node Node.ofLocation Node.location
  cases p.blueprint.resolvable <;> rfl

@[simp] theorem node_kind (p : Placement) : p.node.kind = p.blueprint.kind := rfl

variable (p : Placement) (isEmpty : Bool) (tree : Tree)

theorem place_roots : (p.place isEmpty tree).roots = tree.roots := by
  unfold place
  dsimp only
  split <;> split <;> split <;> rfl

theorem place_unmanaged : (p.place isEmpty tree).unmanaged = tree.unmanaged := by
  unfold place
  dsimp only
  split <;> split <;> split <;> rfl

theorem place_flagsAt (path : String) :
    (p.place isEmpty tree).flagsAt path =
      if path = p.path ∧ p.blueprint.inRoot = true then .inside isEmpty else tree.flagsAt path := by
  have hflags : (p.place isEmpty tree).flagsAt path =
      (if p.blueprint.inRoot then tree.addPlaceholder p.path isEmpty else tree).flagsAt path := by
    unfold place
    dsimp only
    split <;> split <;> split <;> rfl
  rw [hflags]
  by_cases hroot : p.blueprint.inRoot = true
  · rw [if_pos hroot, Tree.addPlaceholder, Tree.flagsAt_setFlags]
    simp [hroot]
  · rw [if_neg hroot, if_neg fun h => hroot h.2]

theorem place_failing (path : String) :
    (p.place isEmpty tree).failing.contains path =
      (tree.failing.contains path || (path == p.path && p.blueprint.unreadable)) := by
  have hfailing : (p.place isEmpty tree).failing =
      if p.blueprint.unreadable then p.path :: tree.failing else tree.failing := by
    unfold place
    dsimp only
    split <;> split <;> split <;> rfl
  rw [hfailing]
  cases p.blueprint.unreadable with
  | false => simp
  | true => rw [if_pos rfl, List.contains_cons, Bool.and_true, Bool.or_comm]

theorem place_orphaned (path : String) :
    (p.place isEmpty tree).orphaned.contains path =
      (tree.orphaned.contains path || (path == p.path && p.blueprint.orphaned)) := by
  have horphaned : (p.place isEmpty tree).orphaned =
      if p.blueprint.orphaned then p.path :: tree.orphaned else tree.orphaned := by
    unfold place
    dsimp only
    split <;> split <;> split <;> rfl
  rw [horphaned]
  cases p.blueprint.orphaned with
  | false => simp
  | true => rw [if_pos rfl, List.contains_cons, Bool.and_true, Bool.or_comm]

theorem announce_isEmpty (e : Expectation) (path : String) :
    (p.announce isEmpty e).isEmpty path = (e.isEmpty path || (path == p.path && isEmpty)) := by
  unfold announce Expectation.addNode Expectation.isEmpty
  cases isEmpty with
  | false => simp
  | true =>
      show (p.path :: e.empty).contains path = _
      rw [List.contains_cons, Bool.and_true, Bool.or_comm]

end Placement

namespace Scene

theorem foldl_addUnmanaged (mounts : List String) (tree : Tree) :
    mounts.foldl Tree.addUnmanaged tree = { tree with unmanaged := tree.unmanaged ++ mounts } := by
  induction mounts generalizing tree with
  | nil => simp
  | cons mount mounts ih => simp [ih, Tree.addUnmanaged]

theorem ground_eq (scene : Scene) :
    scene.ground = ⟨[scene.root], [(scene.root.path, .inside false)], scene.unmanaged, [], [], 0, 0⟩ := by
  unfold ground
  rw [foldl_addUnmanaged]
  rfl

variable (scene : Scene) (isEmpty : String → Bool)

theorem tree_roots : (scene.tree isEmpty).roots = [scene.root] := by
  unfold tree
  refine List.foldlRecOn _ _ (motive := fun tree : Tree => tree.roots = [scene.root]) ?_ ?_
  · rw [ground_eq]
  · intro tree htree p _
    rw [p.place_roots, htree]

theorem tree_unmanaged : (scene.tree isEmpty).unmanaged = scene.unmanaged := by
  unfold tree
  refine List.foldlRecOn _ _ (motive := fun tree : Tree => tree.unmanaged = scene.unmanaged) ?_ ?_
  · rw [ground_eq]
  · intro tree htree p _
    rw [p.place_unmanaged, htree]

/-- The word of a path in a root is given by its emptiness, whichever placement told of it last. -/
theorem tree_flagsAt (path : String) :
    (scene.tree isEmpty).flagsAt path =
      if ∃ p ∈ scene.placements, path = p.path ∧ p.blueprint.inRoot = true then
        .inside (isEmpty path)
      else if path = scene.root.path then .inside false else .clear := by
  have hfold : ∀ (placements : List Placement) (tree : Tree),
      (placements.foldl (fun tree p => p.place (isEmpty p.path) tree) tree).flagsAt path =
        if ∃ p ∈ placements, path = p.path ∧ p.blueprint.inRoot = true then
          .inside (isEmpty path)
        else tree.flagsAt path := by
    intro placements
    induction placements with
    | nil => simp
    | cons p placements ih =>
        intro tree
        rw [List.foldl_cons, ih, p.place_flagsAt]
        by_cases hlater : ∃ q ∈ placements, path = q.path ∧ q.blueprint.inRoot = true
        · obtain ⟨q, hq, hhere⟩ := hlater
          rw [if_pos ⟨q, hq, hhere⟩, if_pos ⟨q, List.mem_cons_of_mem _ hq, hhere⟩]
        · by_cases hhere : path = p.path ∧ p.blueprint.inRoot = true
          · rw [if_neg hlater, if_pos hhere, if_pos ⟨p, List.mem_cons_self .., hhere⟩, hhere.1]
          · rw [if_neg hlater, if_neg hhere, if_neg]
            rintro ⟨q, hq, hplace⟩
            rcases List.mem_cons.1 hq with rfl | hq
            · exact hhere hplace
            · exact hlater ⟨q, hq, hplace⟩
  unfold tree
  rw [hfold, ground_eq]
  unfold Tree.flagsAt
  rw [Tree.lookup_cons_eq]
  split
  · rfl
  · split <;> rfl

theorem tree_failing (path : String) :
    (scene.tree isEmpty).failing.contains path =
      scene.placements.any fun p => path == p.path && p.blueprint.unreadable := by
  refine (foldl_said (fun tree : Tree => tree.failing.contains path)
    (fun tree p => p.place_failing (isEmpty p.path) tree path) _ _).trans ?_
  rw [ground_eq]
  rfl

theorem tree_orphaned (path : String) :
    (scene.tree isEmpty).orphaned.contains path =
      scene.placements.any fun p => path == p.path && p.blueprint.orphaned := by
  refine (foldl_said (fun tree : Tree => tree.orphaned.contains path)
    (fun tree p => p.place_orphaned (isEmpty p.path) tree path) _ _).trans ?_
  rw [ground_eq]
  rfl

variable (config : Config) (provider : Int)

theorem expectation_isEmpty (path : String) :
    (scene.expectation isEmpty config provider).isEmpty path =
      scene.placements.any fun p => path == p.path && isEmpty p.path := by
  exact foldl_said (fun e : Expectation => e.isEmpty path)
    (fun e p => p.announce_isEmpty (isEmpty p.path) e path) _ _

theorem expectation_eq :
    ∃ nodes empty, scene.expectation isEmpty config provider =
      ⟨nodes, empty, config.crawlers, provider, true, .succeed, config.onUnreachable⟩ := by
  unfold expectation
  refine List.foldlRecOn _ _ (motive := fun e : Expectation => ∃ nodes empty, e =
    ⟨nodes, empty, config.crawlers, provider, true, .succeed, config.onUnreachable⟩) ?_ ?_
  · exact ⟨[], [], rfl⟩
  · rintro _ ⟨nodes, empty, rfl⟩ p _
    exact ⟨_, _, rfl⟩

variable {scene isEmpty config provider}

/-- Where every path is told of once, the object at a path is the one that was told of. -/
theorem expectation_node? (hdistinct : (scene.placements.map Placement.path).Nodup)
    {p : Placement} (hp : p ∈ scene.placements) :
    (scene.expectation isEmpty config provider).node? p.path = some p.blueprint := by
  have hfold : ∀ (placements : List Placement) (e : Expectation),
      (placements.map Placement.path).Nodup →
      (p ∈ placements ∨ e.node? p.path = some p.blueprint ∧ p.path ∉ placements.map Placement.path) →
      (placements.foldl (fun e p => p.announce (isEmpty p.path) e) e).node? p.path =
        some p.blueprint := by
    intro placements
    induction placements with
    | nil =>
        rintro e - (hp | ⟨hknown, -⟩)
        · cases hp
        · exact hknown
    | cons q placements ih =>
        intro e hnodup htold
        rw [List.map_cons, List.nodup_cons] at hnodup
        rw [List.foldl_cons]
        have hannounce : (q.announce (isEmpty q.path) e).node? p.path =
            if p.path = q.path then some q.blueprint else e.node? p.path :=
          Tree.lookup_cons_eq ..
        refine ih _ hnodup.2 ?_
        rcases htold with hp | ⟨hknown, hnew⟩
        · rcases List.mem_cons.1 hp with rfl | hp
          · exact .inr ⟨hannounce.trans (if_pos rfl), hnodup.1⟩
          · exact .inl hp
        · rw [List.map_cons, List.mem_cons, not_or] at hnew
          exact .inr ⟨(hannounce.trans (if_neg hnew.1)).trans hknown, hnew.2⟩
  exact hfold _ _ hdistinct (.inl hp)

/-- So what the placements at its path say is what it says itself. -/
theorem any_at_path (hdistinct : (scene.placements.map Placement.path).Nodup)
    {p : Placement} (hp : p ∈ scene.placements) (f : Placement → Bool) :
    (scene.placements.any fun q => p.path == q.path && f q) = f p := by
  rw [Bool.eq_iff_iff, List.any_eq_true]
  constructor
  · rintro ⟨q, hq, hhere⟩
    rw [Bool.and_eq_true, beq_iff_eq] at hhere
    have hsame : p = q := List.inj_on_of_nodup_map hdistinct hp hq hhere.1
    rw [hsame]
    exact hhere.2
  · intro h
    exact ⟨p, hp, by simpa using h⟩

-- ============================================================ well-formed scenes

/-- A scene that can be told: every path once and in canonical form, and of every object what the tree
can say of it too. `isEmpty` says which objects are without content, and `provider` is the process that
has the root. -/
structure WellFormed (scene : Scene) (isEmpty : String → Bool) (provider : Int) : Prop where
  distinct : (scene.placements.map Placement.path).Nodup
  canonical : ∀ p ∈ scene.placements, Path.Canonical p.path
  root : Path.Canonical scene.root.path
  connected : scene.root.provider = some provider
  /-- Objects are unmanaged by their mounts. -/
  unmanaged : ∀ p ∈ scene.placements,
    p.blueprint.unmanaged = scene.unmanaged.any fun mount => Path.isWithin p.path mount
  /-- An object in a root for which a root is found is within the one root that there is. -/
  within : ∀ p ∈ scene.placements, p.blueprint.inRoot = true → p.blueprint.unmanaged = false →
    p.blueprint.orphaned = false → Path.isWithin p.path scene.root.path = true
  /-- Nothing outside of a root has flags. -/
  outside : ∀ p ∈ scene.placements, p.blueprint.inRoot = false →
    p.path ≠ scene.root.path ∧ isEmpty p.path = false

end Scene

-- ============================================================ the link

/-- The root as it should be found: with its provider when that is online. -/
def Scene.rootFor (scene : Scene) (e : Expectation) : Root :=
  { scene.root with provider := if e.online then some e.provider else none }

/-- A tree and an expectation know the same of a scene. -/
structure Mirrors (scene : Scene) (tree : Tree) (e : Expectation) : Prop where
  roots : tree.roots = [scene.rootFor e]
  content : ∀ path, e.isEmpty path = (tree.flagsAt path).isEmpty
  nodes : ∀ p ∈ scene.placements, e.node? p.path = some p.blueprint
  managed : ∀ p ∈ scene.placements, tree.isManaged p.node = !p.blueprint.unmanaged
  failing : ∀ p ∈ scene.placements, tree.failing.contains p.path = p.blueprint.unreadable
  orphaned : ∀ p ∈ scene.placements, tree.orphaned.contains p.path = p.blueprint.orphaned
  inRoot : ∀ p ∈ scene.placements, (tree.flagsAt p.path).isInRoot = p.blueprint.inRoot

/-- A well-formed scene is told alike to both. -/
theorem Scene.WellFormed.mirrors {scene : Scene} {isEmpty : String → Bool} {provider : Int}
    (h : scene.WellFormed isEmpty provider) (config : Config) :
    Mirrors scene (scene.tree isEmpty) (scene.expectation isEmpty config provider) := by
  obtain ⟨nodes, empty, hexpectation⟩ := expectation_eq scene isEmpty config provider
  refine ⟨?_, ?_, fun p hp => expectation_node? h.distinct hp, ?_, ?_, ?_, ?_⟩
  · rw [tree_roots, hexpectation]
    show _ = [{ scene.root with provider := some provider }]
    rw [← h.connected]
  · intro path
    rw [expectation_isEmpty, tree_flagsAt]
    by_cases hhere : ∃ p ∈ scene.placements, path = p.path ∧ p.blueprint.inRoot = true
    · rw [if_pos hhere, Flags.isEmpty_inside]
      obtain ⟨p, hp, rfl, -⟩ := hhere
      exact any_at_path h.distinct hp fun q => isEmpty q.path
    · have hclear : (if path = scene.root.path then Flags.inside false else .clear).isEmpty =
          false := by
        split <;> decide
      rw [if_neg hhere, hclear, List.any_eq_false]
      intro p hp hempty
      rw [Bool.and_eq_true, beq_iff_eq] at hempty
      -- an object without content lies in a root
      cases hroot : p.blueprint.inRoot with
      | true => exact hhere ⟨p, hp, hempty.1, hroot⟩
      | false =>
          rw [(h.outside p hp hroot).2] at hempty
          cases hempty.2
  · intro p hp
    unfold Tree.isManaged
    rw [tree_unmanaged, p.node_location, h.unmanaged p hp]
  · intro p hp
    rw [tree_failing, any_at_path h.distinct hp fun q => q.blueprint.unreadable]
  · intro p hp
    rw [tree_orphaned, any_at_path h.distinct hp fun q => q.blueprint.orphaned]
  · intro p hp
    rw [tree_flagsAt]
    cases hroot : p.blueprint.inRoot with
    | true => rw [if_pos ⟨p, hp, rfl, hroot⟩, Flags.isInRoot_inside]
    | false =>
        rw [if_neg, if_neg (h.outside p hp hroot).1, Flags.isInRoot_clear]
        rintro ⟨q, hq, hsame, hinside⟩
        rw [List.inj_on_of_nodup_map h.distinct hp hq hsame, hinside] at hroot
        cases hroot

namespace Mirrors

variable {scene : Scene} {tree : Tree} {e : Expectation}

/-- What is hydrated on both sides is hydrated alike. -/
theorem hydrate (h : Mirrors scene tree e) (path : String) :
    Mirrors scene (tree.hydrate path) (e.hydrate path) := by
  refine ⟨h.roots, ?_, h.nodes, h.managed, h.failing, h.orphaned, ?_⟩
  · intro other
    rw [Tree.flagsAt_hydrate]
    have hremoved : (e.hydrate path).isEmpty other = (e.isEmpty other && other != path) := by
      unfold Expectation.hydrate Expectation.isEmpty
      rw [Bool.eq_iff_iff]
      simp
    rw [hremoved, h.content]
    by_cases heq : other = path
    · rw [if_pos heq, Flags.isEmpty_hydrated, heq]
      simp
    · rw [if_neg heq]
      simp [heq]
  · intro p hp
    rw [Tree.flagsAt_hydrate]
    split
    · rw [Flags.isInRoot_hydrated, h.inRoot p hp]
    · exact h.inRoot p hp

/-- The provider leaves or comes back. -/
theorem setOnline (h : Mirrors scene tree e) (online : Bool) :
    Mirrors scene (tree.setProvider scene.root.index (if online then some e.provider else none))
      (e.setOnline online) := by
  refine ⟨?_, h.content, h.nodes, h.managed, h.failing, h.orphaned, h.inRoot⟩
  unfold Tree.setProvider
  rw [h.roots]
  exact if_pos rfl

/-- What a tree counts is not looked at. -/
theorem counted (h : Mirrors scene tree e) (lookups reads : Nat) :
    Mirrors scene { tree with lookups, reads } e :=
  ⟨h.roots, h.content, h.nodes, h.managed, h.failing, h.orphaned, h.inRoot⟩

theorem setBehaviour (h : Mirrors scene tree e) (behaviour : Behaviour) :
    Mirrors scene tree (e.setBehaviour behaviour) :=
  ⟨h.roots, h.content, h.nodes, h.managed, h.failing, h.orphaned, h.inRoot⟩

end Mirrors

end Hydration
