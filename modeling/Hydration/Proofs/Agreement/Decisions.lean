/-
One access, decided twice. The arbiter asks the tree for what it needs and stops at the first answer
that settles the matter; the expectation has everything before it and goes through one list of
conditions. From a tree and an expectation that mirror each other both come to the same end, and leave
the two as mirrors again.

# Order of the conditions

The conditions of the two do not stand in the same order, and the expectation looks at some of them
twice, once for the verdict and once for what it remembers. `Mirrors.ruling_eq` brings the rules of the
arbiter into the order of the expectation; from there on the two are compared condition by condition.
-/
import Hydration.Proofs.Agreement.Calls
import Hydration.Proofs.Agreement.Scenes
import Hydration.Simulation.Rehearsal

namespace Hydration

-- ============================================================ the rules, asked of a tree

namespace Inquiry

variable {crawlers : Crawlers} {access : Access} {tree : Tree} {node : Node}

theorem ruling_ofFlags (flags : Flags) :
    (ofFlags crawlers access flags).ruling tree node =
      if flags.isInRoot = false then .outside
      else if (flags.isEmpty && crawlers.contains access.process) = true then
        .verdict (.deny .crawler)
      else
        match tree.rootOf? node with
        | none => .verdict .allow
        | some root => ofRoot access flags root := by
  unfold ofFlags
  cases flags.isInRoot with
  | false => rfl
  | true =>
      by_cases hcrawler : (flags.isEmpty && crawlers.contains access.process) = true
      · rw [if_pos hcrawler, if_pos hcrawler]
        rfl
      · rw [if_neg hcrawler, if_neg hcrawler]
        show ruling tree node (match tree.rootOf? node with
          | none => .rule (.verdict .allow)
          | some root => .rule (ofRoot access flags root)) = _
        cases tree.rootOf? node <;> rfl

theorem ruling_ofAccess :
    (ofAccess crawlers access).ruling tree node =
      if (!tree.isManaged node || Expectation.isPassed access.node.kind) = true then
        .verdict .allow
      else
        match tree.flagsOf node with
        | .error source => .unreadable source
        | .ok flags => (ofFlags crawlers access flags).ruling tree node := by
  rw [ofAccess, ruling]
  cases tree.isManaged node with
  | false => rfl
  | true =>
      show (ofKind crawlers access).ruling tree node = _
      unfold ofKind
      by_cases hpassed : Expectation.isPassed access.node.kind = true
      · rw [if_pos (access.node.kind.ignore_iff.2 hpassed), if_pos (by simpa using hpassed)]
        rfl
      · rw [if_neg (mt access.node.kind.ignore_iff.1 hpassed), if_neg (by simpa using hpassed)]
        show ruling tree node (match tree.flagsOf node with
          | .error source => .rule (.unreadable source)
          | .ok flags => ofFlags crawlers access flags) = _
        cases tree.flagsOf node <;> rfl

/-- Below the root as it should be found the rules come down to three ends. -/
theorem ofRoot_eq (scene : Scene) (e : Expectation) (access : Access) (flags : Flags) :
    ∃ kind, ofRoot access flags (scene.rootFor e) =
      if (!e.online) = true then
        .verdict (Expectation.offline access.node.kind flags.isEmpty access.action)
      else if (decide (access.pid = e.provider) || !flags.isEmpty ||
          !Expectation.needsContent access.node.kind access.action) = true then .verdict .allow
      else .hydrate (scene.rootFor e) kind := by
  have hneeds := Policy.hydration?_isSome access.node.kind access.action
  unfold ofRoot
  rw [Policy.offline_eq, ← hneeds]
  unfold Scene.rootFor Root.isOnline Root.isProvider
  cases e.online with
  | false => exact ⟨.hydrateFile, rfl⟩
  | true =>
      cases hrequest : Policy.hydration? access.node.kind access.action with
      | none =>
          refine ⟨.hydrateFile, ?_⟩
          simp
      | some kind =>
          refine ⟨kind, ?_⟩
          cases flags.isEmpty <;> simp [eq_comm]

end Inquiry

-- ============================================================ answers of a mirror

namespace Mirrors

variable {scene : Scene} {tree : Tree} {e : Expectation} {p : Placement}

theorem flagsOf (h : Mirrors scene tree e) (hp : p ∈ scene.placements) :
    tree.flagsOf p.node =
      if p.blueprint.unreadable = true then .error (.io ("flag word unreadable for " ++ p.path))
      else .ok (tree.flagsAt p.path) := by
  unfold Tree.flagsOf
  rw [p.node_location, h.failing p hp]

/-- Of an object within the one root this root is found, unless none is. -/
theorem rootOf? (h : Mirrors scene tree e) (hp : p ∈ scene.placements)
    (hwithin : p.blueprint.orphaned = false → Path.isWithin p.path scene.root.path = true) :
    tree.rootOf? p.node = if p.blueprint.orphaned = true then none else some (scene.rootFor e) := by
  unfold Tree.rootOf?
  rw [p.node_location, h.orphaned p hp]
  cases horphaned : p.blueprint.orphaned with
  | true => rfl
  | false =>
      have hinside : Path.isWithin p.path (scene.rootFor e).path = true := hwithin horphaned
      unfold Tree.innermost
      simp [h.roots, hinside, Tree.longer]

variable {isEmpty : String → Bool} {provider : Int} {access : Access}

/-- The rules of the arbiter in the order of the expectation. -/
theorem ruling_eq (h : Mirrors scene tree e) (hscene : scene.WellFormed isEmpty provider)
    (hp : p ∈ scene.placements) (hnode : access.node = p.node) (crawlers : Crawlers) :
    (Inquiry.ofAccess crawlers access).ruling tree access.node =
      if (p.blueprint.unmanaged || Expectation.isPassed p.blueprint.kind) = true then
        .verdict .allow
      else if p.blueprint.unreadable = true then
        .unreadable (.io ("flag word unreadable for " ++ p.path))
      else if p.blueprint.inRoot = false then .outside
      else if (e.isEmpty p.path && crawlers.contains access.process) = true then
        .verdict (.deny .crawler)
      else if p.blueprint.orphaned = true then .verdict .allow
      else Inquiry.ofRoot access (tree.flagsAt p.path) (scene.rootFor e) := by
  rw [Inquiry.ruling_ofAccess, hnode, h.managed p hp, p.node_kind, Bool.not_not, h.flagsOf hp]
  by_cases hpassed : (p.blueprint.unmanaged || Expectation.isPassed p.blueprint.kind) = true
  · rw [if_pos hpassed, if_pos hpassed]
  · rw [if_neg hpassed, if_neg hpassed]
    by_cases hunreadable : p.blueprint.unreadable = true
    · rw [if_pos hunreadable, if_pos hunreadable]
    · rw [if_neg hunreadable, if_neg hunreadable]
      dsimp only
      rw [Inquiry.ruling_ofFlags, h.inRoot p hp, h.content]
      by_cases hroot : p.blueprint.inRoot = false
      · rw [if_pos hroot, if_pos hroot]
      · have hmanaged : p.blueprint.unmanaged = false := by
          cases hunmanaged : p.blueprint.unmanaged with
          | false => rfl
          | true => exact absurd (by rw [hunmanaged]; rfl) hpassed
        rw [if_neg hroot, if_neg hroot, h.rootOf? hp fun horphaned =>
          hscene.within p hp (by simpa using hroot) hmanaged horphaned]
        by_cases hcrawler : ((tree.flagsAt p.path).isEmpty && crawlers.contains access.process) = true
        · rw [if_pos hcrawler, if_pos hcrawler]
        · rw [if_neg hcrawler, if_neg hcrawler]
          cases p.blueprint.orphaned <;> rfl

end Mirrors

-- ============================================================ what is remembered

namespace Expectation

theorem asksProvider_iff {node : Blueprint} {action : Action} :
    asksProvider node action = true ↔
      node.inRoot = true ∧ node.orphaned = false ∧ node.unmanaged = false ∧
        node.resolvable = true ∧ needsContent node.kind action = true ∧
        isPassed node.kind = false := by
  unfold asksProvider
  simp [and_assoc]

theorem answered_of_succeeds {e : Expectation} (h : e.behaviour.succeeds = true) :
    e.answered = .allow := by
  unfold answered
  cases hbehaviour : e.behaviour with
  | succeed | succeedAfter => rfl
  | _ =>
      rw [hbehaviour] at h
      cases h

/-- When the expectation remembers that an access hydrated its object. -/
theorem commit_eq {e : Expectation} {path : String} {node : Blueprint}
    (hbook : e.node? path = some node) (pid : Int) (process : String) (action : Action)
    (expected : Expected) :
    e.commit path pid process action expected =
      if expected = .verdict .allow ∧ e.online = true ∧ pid ≠ e.provider ∧ e.isEmpty path = true ∧
          e.crawlers.contains process = false ∧ e.behaviour.succeeds = true ∧
          asksProvider node action = true then e.hydrate path
      else e := by
  unfold commit
  rw [hbook]
  simp [and_assoc]

theorem commit_of_not_allowed {e : Expectation} {path : String} {pid : Int} {process : String}
    {action : Action} {expected : Expected} (h : expected ≠ .verdict .allow) :
    e.commit path pid process action expected = e := by
  unfold commit
  simp [h]

theorem commit_of_not_asked {e : Expectation} {path : String} {node : Blueprint} {pid : Int}
    {process : String} {action : Action} {expected : Expected} (hbook : e.node? path = some node)
    (h : ¬(node.inRoot = true ∧ node.orphaned = false ∧ node.unmanaged = false ∧
      node.resolvable = true ∧ needsContent node.kind action = true ∧ isPassed node.kind = false)) :
    e.commit path pid process action expected = e := by
  rw [commit_eq hbook, if_neg]
  rintro ⟨-, -, -, -, -, -, hasks⟩
  exact h (asksProvider_iff.1 hasks)

end Expectation

-- ============================================================ the two ends

/-- The arbiter and its provider are set up as the expectation counts on it. -/
structure Around.Matches (around : Around) (e : Expectation) : Prop where
  crawlers : ∀ name, around.crawlers.contains name = e.crawlers.contains name
  policy : around.policy = e.policy
  behaviour : around.behaviour = e.behaviour

theorem Around.Matches.commit {around : Around} {e : Expectation} (h : around.Matches e)
    (path : String) (pid : Int) (process : String) (action : Action) (expected : Expected) :
    around.Matches (e.commit path pid process action expected) := by
  unfold Expectation.commit
  dsimp only
  split <;> exact ⟨h.crawlers, h.policy, h.behaviour⟩

theorem Around.Matches.answered_eq {around : Around} {e : Expectation} (h : around.Matches e) :
    around.answered = e.answered := by
  unfold Around.answered Expectation.answered
  rw [h.behaviour, h.policy]
  cases e.behaviour with
  | reject => cases e.policy <;> rfl
  | _ => rfl

/-- An access came to an end as expected: the decision agrees, and afterwards the tree and the
expectation mirror each other. -/
def Fulfils (scene : Scene) (expected : Expected) (e : Expectation)
    (conclusion : Decision × Tree) : Prop :=
  Rehearsal.agrees expected conclusion.1 = true ∧ Mirrors scene conclusion.2 e

namespace Mirrors

variable {scene : Scene} {tree : Tree} {e : Expectation} {p : Placement} {around : Around}
  {isEmpty : String → Bool} {provider : Int} {access : Access}

/-- Asking the provider ends as the expectation says. Only here a tree is changed, and by this it has
to be the accessed object that is hydrated. -/
theorem fulfils_hydrate (h : Mirrors scene tree e) (haround : around.Matches e)
    (hpath : Path.Canonical p.path) (hroot : Path.Canonical scene.root.path)
    (hwithin : Path.isWithin p.path scene.root.path = true) (hnode : access.node = p.node)
    (hresolvable : p.blueprint.resolvable = true) (kind : MessageKind) :
    Fulfils scene (.verdict e.answered) (if e.behaviour.succeeds then e.hydrate p.path else e)
      ((Ruling.hydrate (scene.rootFor e) kind).conclusion around tree access) := by
  obtain ⟨rel, hrelative, habsolute⟩ := hpath.absolute_relative hroot hwithin
  have htarget : Errand.target (scene.rootFor e) access.node = .ok rel := by
    unfold Errand.target
    rw [hnode]
    unfold Placement.node Node.ofLocation
    rw [hresolvable]
    exact hrelative
  have hafter : Standing.afterJob tree
      ⟨(scene.rootFor e).index, ⟨0, kind, access.pid, access.process, rel⟩, around.behaviour⟩ =
        if e.behaviour.succeeds then tree.hydrate p.path else tree := by
    have hfound : tree.root? (scene.rootFor e).index = some (scene.rootFor e) := by
      unfold Tree.root?
      rw [h.roots]
      exact List.find?_cons_of_pos (decide_eq_true rfl)
    unfold Standing.afterJob Provider.hydrateTarget
    rw [haround.behaviour, hfound]
    dsimp only
    rw [show (scene.rootFor e).path = scene.root.path from rfl, habsolute]
  simp only [Ruling.conclusion, htarget]
  refine ⟨decide_eq_true haround.answered_eq.symm, ?_⟩
  dsimp only
  rw [hafter]
  split
  · exact h.hydrate p.path
  · exact h

/-- For an object without a path nobody is asked. -/
theorem fulfils_unresolvable (h : Mirrors scene tree e) (hnode : access.node = p.node)
    (hunresolvable : p.blueprint.resolvable = false) (kind : MessageKind) :
    Fulfils scene (.verdict (.deny .pathUnresolved)) e
      ((Ruling.hydrate (scene.rootFor e) kind).conclusion around tree access) := by
  have htarget : Errand.target (scene.rootFor e) access.node = .error (.unresolvable p.path) := by
    unfold Errand.target
    rw [hnode]
    unfold Placement.node Node.ofLocation
    rw [hunresolvable]
    rfl
  simp only [Ruling.conclusion, htarget]
  exact ⟨rfl, h⟩

/-- Nothing happened, and nothing is remembered. -/
theorem fulfils_kept (h : Mirrors scene tree e) {expected : Expected} {decision : Decision}
    {e' : Expectation} (hagrees : Rehearsal.agrees expected decision = true) (hkept : e' = e) :
    Fulfils scene expected e' (decision, tree) :=
  ⟨hagrees, hkept ▸ h⟩

/-- So it ends below a root that was found. -/
theorem fulfils_found (h : Mirrors scene tree e) (hscene : scene.WellFormed isEmpty provider)
    (haround : around.Matches e) (hp : p ∈ scene.placements) (hnode : access.node = p.node)
    (hmanaged : p.blueprint.unmanaged = false)
    (hgoverned : Expectation.isPassed p.blueprint.kind = false)
    (hroot : p.blueprint.inRoot = true) (horphaned : p.blueprint.orphaned = false)
    (hcrawler : (e.isEmpty p.path && e.crawlers.contains access.process) = false)
    {expected : Expected}
    (hexpected : (if (!e.online) = true then
        .verdict (Expectation.offline p.blueprint.kind (e.isEmpty p.path) access.action)
      else if (decide (access.pid = e.provider) || !e.isEmpty p.path ||
          !Expectation.needsContent p.blueprint.kind access.action) = true then .verdict .allow
      else if (!p.blueprint.resolvable) = true then .verdict (.deny .pathUnresolved)
      else .verdict e.answered) = expected) :
    Fulfils scene expected (e.commit p.path access.pid access.process access.action expected)
      ((Inquiry.ofRoot access (tree.flagsAt p.path) (scene.rootFor e)).conclusion around tree
        access) := by
  have hbook := h.nodes p hp
  obtain ⟨kind, hofRoot⟩ := Inquiry.ofRoot_eq scene e access (tree.flagsAt p.path)
  rw [hofRoot, ← h.content, hnode, p.node_kind]
  by_cases hoffline : (!e.online) = true
  · rw [if_pos hoffline] at hexpected ⊢
    subst hexpected
    refine h.fulfils_kept (decide_eq_true rfl) ?_
    rw [Expectation.commit_eq hbook, if_neg]
    rintro ⟨-, honline, -⟩
    rw [honline] at hoffline
    cases hoffline
  rw [if_neg hoffline] at hexpected ⊢
  by_cases hcontent : (decide (access.pid = e.provider) || !e.isEmpty p.path ||
      !Expectation.needsContent p.blueprint.kind access.action) = true
  · rw [if_pos hcontent] at hexpected ⊢
    subst hexpected
    refine h.fulfils_kept rfl ?_
    rw [Expectation.commit_eq hbook, if_neg]
    rintro ⟨-, -, hother, hempty, -, -, hasks⟩
    obtain ⟨-, -, -, -, hneeds, -⟩ := Expectation.asksProvider_iff.1 hasks
    simp [hother, hempty, hneeds] at hcontent
  rw [if_neg hcontent] at hexpected ⊢
  by_cases hresolvable : (!p.blueprint.resolvable) = true
  · rw [if_pos hresolvable] at hexpected
    subst hexpected
    rw [Expectation.commit_of_not_allowed (by decide)]
    exact h.fulfils_unresolvable hnode (by simpa using hresolvable) kind
  rw [if_neg hresolvable] at hexpected
  subst hexpected
  simp only [Bool.not_eq_true, Bool.or_eq_false_iff, Bool.not_eq_false',
    decide_eq_false_iff_not] at hoffline hcontent hresolvable
  obtain ⟨⟨hother, hempty⟩, hneeds⟩ := hcontent
  -- the provider was asked; the object was hydrated exactly if it succeeds
  have hcommit : e.commit p.path access.pid access.process access.action (.verdict e.answered) =
      if e.behaviour.succeeds then e.hydrate p.path else e := by
    rw [Expectation.commit_eq hbook]
    by_cases hsucceeds : e.behaviour.succeeds = true
    · rw [if_pos hsucceeds, if_pos]
      refine ⟨?_, hoffline, hother, hempty, ?_, hsucceeds, ?_⟩
      · rw [Expectation.answered_of_succeeds hsucceeds]
      · rwa [hempty, Bool.true_and] at hcrawler
      · exact Expectation.asksProvider_iff.2
          ⟨hroot, horphaned, hmanaged, hresolvable, hneeds, hgoverned⟩
    · rw [if_neg hsucceeds, if_neg fun h => hsucceeds h.2.2.2.2.2.1]
  rw [hcommit]
  exact h.fulfils_hydrate haround (hscene.canonical p hp) hscene.root
    (hscene.within p hp hroot hmanaged horphaned) hnode hresolvable kind

/-- An access to an object of the scene ends as the expectation predicts, whoever makes it and whatever
it asks for. -/
theorem fulfils (h : Mirrors scene tree e) (hscene : scene.WellFormed isEmpty provider)
    (haround : around.Matches e) (hp : p ∈ scene.placements) (hnode : access.node = p.node) :
    Fulfils scene (e.predict p.path access.pid access.process access.action)
      (e.commit p.path access.pid access.process access.action
        (e.predict p.path access.pid access.process access.action))
      (((Inquiry.ofAccess around.crawlers access).ruling tree access.node).conclusion around tree
        access) := by
  have hbook := h.nodes p hp
  rw [h.ruling_eq hscene hp hnode around.crawlers, haround.crawlers]
  generalize hexpected : e.predict p.path access.pid access.process access.action = expected
  unfold Expectation.predict at hexpected
  rw [hbook] at hexpected
  dsimp only at hexpected
  by_cases hpassed : (p.blueprint.unmanaged || Expectation.isPassed p.blueprint.kind) = true
  · rw [if_pos hpassed] at hexpected ⊢
    subst hexpected
    refine h.fulfils_kept rfl (Expectation.commit_of_not_asked hbook ?_)
    rintro ⟨-, -, hmanaged, -, -, hgoverned⟩
    rw [hmanaged, hgoverned] at hpassed
    cases hpassed
  rw [if_neg hpassed] at hexpected ⊢
  by_cases hunreadable : p.blueprint.unreadable = true
  · rw [if_pos hunreadable] at hexpected ⊢
    subst hexpected
    exact h.fulfils_kept rfl (Expectation.commit_of_not_allowed (by decide))
  rw [if_neg hunreadable] at hexpected ⊢
  by_cases hroot : p.blueprint.inRoot = false
  · rw [if_pos (by rw [hroot]; rfl)] at hexpected
    rw [if_pos hroot]
    subst hexpected
    refine h.fulfils_kept rfl (Expectation.commit_of_not_asked hbook ?_)
    rintro ⟨hinside, -⟩
    rw [hinside] at hroot
    cases hroot
  rw [Bool.not_eq_false] at hroot
  rw [if_neg (by simp [hroot])] at hexpected ⊢
  by_cases hcrawler : (e.isEmpty p.path && e.crawlers.contains access.process) = true
  · rw [if_pos hcrawler] at hexpected ⊢
    subst hexpected
    exact h.fulfils_kept rfl (Expectation.commit_of_not_allowed (by decide))
  rw [if_neg hcrawler] at hexpected ⊢
  by_cases horphaned : p.blueprint.orphaned = true
  · rw [if_pos horphaned] at hexpected ⊢
    subst hexpected
    refine h.fulfils_kept rfl (Expectation.commit_of_not_asked hbook ?_)
    rintro ⟨-, hfound, -⟩
    rw [hfound] at horphaned
    cases horphaned
  rw [if_neg horphaned] at hexpected ⊢
  rw [Bool.not_eq_true, Bool.or_eq_false_iff] at hpassed
  exact h.fulfils_found hscene haround hp hnode hpassed.1 hpassed.2 hroot (by simpa using horphaned)
    (by simpa using hcrawler) hexpected

end Mirrors

end Hydration
