/-
The root around an object, in a tree that anybody may have changed in any order.

# Two tests

A tree looks for a root around a location (`Path.isWithin`), and a request takes the path of the object
apart at its root (`Path.relative`). The two tests are written independently and accept the same pairs
(`Path.Around`), so a root that is found never leaves an object without a path below it.

# The last of the longest

A tree goes through its roots once and keeps the best so far. `LastLongest` says what comes of that: the
roots before are no longer, those behind are shorter. It unfolds along a list (`lastLongest_cons`), and
so does `Governs`, which says the same of the changes that were made to the tree; so each change is
dealt with once.

# Providers

The provider of a root is replaced under its index. Where no two roots share one, a root has the provider
that it was added with, or the last that was set for its index since (`Tree.roots_edited`).
-/
import Hydration.Proofs.Agreement.Paths
import Hydration.Proofs.Decision.Clauses
import Hydration.Simulation.Tree

namespace Hydration

-- ============================================================ two tests

namespace Path

/-- The path of a root stands around a location: the location starts with it, and either nothing follows,
or a separator does, or the root itself ends in one. -/
def Around (root location : String) : Prop :=
  ∃ rest, location.toList = root.toList ++ rest ∧
    (rest = [] ∨ rest.head? = some '/' ∨ root.toList.getLast? = some '/')

theorem isWithin_iff {location root : String} : isWithin location root = true ↔ Around root location := by
  unfold isWithin Around
  cases hstrip : Text.stripStart? root.toList location.toList with
  | none =>
      constructor
      · nofun
      · rintro ⟨rest, happend, -⟩
        rw [Text.stripStart?_eq_some_iff.2 happend] at hstrip
        cases hstrip
  | some rest =>
      have happend := Text.stripStart?_eq_some_iff.1 hstrip
      have honly : ∀ other, location.toList = root.toList ++ other ↔ other = rest := by
        intro other
        rw [happend, List.append_cancel_left_eq, eq_comm]
      simp only [honly, exists_eq_left]
      cases rest with
      | nil => simp
      | cons c rest => simp [endsInSeparator]

/-- A path can be taken apart at exactly those roots that stand around it. -/
theorem relative_ok_iff {path root : String} :
    (∃ rel, relative path root = .ok rel) ↔ Around root path := by
  rw [← isWithin_iff]
  unfold relative relativeChars? isWithin
  cases Text.stripStart? root.toList path.toList with
  | none => simp
  | some rest =>
      cases rest with
      | nil => simp
      | cons c rest =>
          by_cases hc : c = '/'
          · simp [hc]
          · cases endsInSeparator root.toList <;> simp [hc]

end Path

-- ============================================================ the last of the longest

namespace Root

/-- The length by which roots are compared. -/
def length (root : Root) : Nat := root.path.utf8ByteSize

end Root

/-- A root of a list that is no shorter than those before it, and longer than those behind it. -/
def LastLongest (roots : List Root) (root : Root) : Prop :=
  ∃ before after, roots = before ++ root :: after ∧ (∀ other ∈ before, other.length ≤ root.length) ∧
    ∀ other ∈ after, other.length < root.length

theorem not_lastLongest_nil (root : Root) : ¬ LastLongest [] root := by
  rintro ⟨before, after, h, -⟩
  cases before <;> cases h

theorem lastLongest_cons {first root : Root} {rest : List Root} :
    LastLongest (first :: rest) root ↔
      (root = first ∧ ∀ other ∈ rest, other.length < first.length) ∨
        (LastLongest rest root ∧ first.length ≤ root.length) := by
  constructor
  · rintro ⟨before, after, h, hbefore, hafter⟩
    cases before with
    | nil =>
        cases h
        exact .inl ⟨rfl, hafter⟩
    | cons head before =>
        cases h
        obtain ⟨hhead, hbefore⟩ := List.forall_mem_cons.1 hbefore
        exact .inr ⟨⟨before, after, rfl, hbefore, hafter⟩, hhead⟩
  · rintro (⟨rfl, hrest⟩ | ⟨⟨before, after, rfl, hbefore, hafter⟩, hfirst⟩)
    · exact ⟨[], rest, rfl, List.forall_mem_nil _, hrest⟩
    · exact ⟨first :: before, after, rfl, List.forall_mem_cons.2 ⟨hfirst, hbefore⟩, hafter⟩

namespace Tree

theorem foldl_longer_some {roots : List Root} {best root : Root} :
    roots.foldl longer (some best) = some root ↔ LastLongest (best :: roots) root := by
  induction roots generalizing best with
  | nil =>
      rw [lastLongest_cons]
      simp [not_lastLongest_nil, eq_comm]
  | cons first rest ih =>
      rw [List.foldl_cons]
      simp only [lastLongest_cons, List.forall_mem_cons]
      by_cases hshorter : first.length < best.length
      · have hkept : longer (some best) first = some best := if_pos hshorter
        rw [hkept, ih, lastLongest_cons]
        constructor
        · rintro (⟨rfl, hrest⟩ | ⟨hlast, hle⟩)
          · exact .inl ⟨rfl, hshorter, hrest⟩
          · exact .inr ⟨.inr ⟨hlast, by omega⟩, hle⟩
        · rintro (⟨rfl, -, hrest⟩ | ⟨⟨rfl, -⟩ | ⟨hlast, -⟩, hle⟩)
          · exact .inl ⟨rfl, hrest⟩
          · omega
          · exact .inr ⟨hlast, hle⟩
      · have htaken : longer (some best) first = some first := if_neg hshorter
        rw [htaken, ih, lastLongest_cons]
        constructor
        · rintro (⟨rfl, hrest⟩ | ⟨hlast, hle⟩)
          · exact .inr ⟨.inl ⟨rfl, hrest⟩, by omega⟩
          · exact .inr ⟨.inr ⟨hlast, hle⟩, by omega⟩
        · rintro (⟨-, hlonger, -⟩ | ⟨hlast, -⟩)
          · omega
          · exact hlast

theorem foldl_longer {roots : List Root} {root : Root} :
    roots.foldl longer none = some root ↔ LastLongest roots root := by
  cases roots with
  | nil => simp [not_lastLongest_nil]
  | cons first rest => exact foldl_longer_some

theorem isSome_longer (best : Option Root) (root : Root) : (longer best root).isSome = true := by
  unfold longer
  split
  · rfl
  · split <;> rfl

theorem isSome_foldl_longer {roots : List Root} {best : Option Root} (h : best.isSome = true) :
    (roots.foldl longer best).isSome = true := by
  induction roots generalizing best with
  | nil => exact h
  | cons first rest ih => exact ih (isSome_longer best first)

theorem foldl_longer_eq_none {roots : List Root} : roots.foldl longer none = none ↔ roots = [] := by
  cases roots with
  | nil => simp
  | cons first rest =>
      have hsome : (rest.foldl longer (longer none first)).isSome = true :=
        isSome_foldl_longer (isSome_longer none first)
      simpa [Option.isSome_iff_ne_none] using hsome

end Tree

-- ============================================================ changes to a tree

/-- One change to a tree. -/
inductive Edit where
  | addRoot (root : Root)
  | setProvider (index : Int) (provider : Option Int)
  | orphan (path : String)
  | setFlags (path : String) (flags : Flags)
  | addPlaceholder (path : String) (isEmpty : Bool)
  | hydrate (path : String)
  | addUnmanaged (mount : String)
  | failAt (path : String)

namespace Edit

/-- The root that it adds. -/
def root? : Edit → Option Root
  | addRoot root => some root
  | _ => none

theorem root?_eq_some_iff {edit : Edit} {root : Root} : edit.root? = some root ↔ edit = addRoot root := by
  cases edit with
  | addRoot other => rw [root?, Option.some.injEq, addRoot.injEq]
  | setProvider | orphan | setFlags | addPlaceholder | hydrate | addUnmanaged | failAt =>
      exact iff_of_false nofun nofun

/-- The provider of a root with an index, if it was that before. -/
def providerOf (index : Int) (provider : Option Int) : Edit → Option Int
  | setProvider other next => if other = index then next else provider
  | _ => provider

end Edit

namespace Tree

def edit (tree : Tree) : Edit → Tree
  | .addRoot root => tree.addRoot root
  | .setProvider index provider => tree.setProvider index provider
  | .orphan path => tree.orphan path
  | .setFlags path flags => tree.setFlags path flags
  | .addPlaceholder path isEmpty => tree.addPlaceholder path isEmpty
  | .hydrate path => tree.hydrate path
  | .addUnmanaged mount => tree.addUnmanaged mount
  | .failAt path => tree.failAt path

/-- A new tree after some changes. -/
def edited (edits : List Edit) : Tree := edits.foldl edit empty

end Tree

/-- The provider of a root with an index after some changes. -/
def providerSince (index : Int) (provider : Option Int) (edits : List Edit) : Option Int :=
  edits.foldl (Edit.providerOf index) provider

/-- The root as it is after some changes. -/
def Root.since (root : Root) (edits : List Edit) : Root :=
  { root with provider := providerSince root.index root.provider edits }

namespace Root

@[simp] theorem since_nil (root : Root) : root.since [] = root := rfl

@[simp] theorem index_since (root : Root) (edits : List Edit) : (root.since edits).index = root.index :=
  rfl

@[simp] theorem path_since (root : Root) (edits : List Edit) : (root.since edits).path = root.path := rfl

@[simp] theorem length_since (root : Root) (edits : List Edit) :
    (root.since edits).length = root.length := rfl

theorem since_setProvider_self (root : Root) (provider : Option Int) :
    root.since [.setProvider root.index provider] = { root with provider } := by
  simp [since, providerSince, Edit.providerOf]

theorem since_setProvider_of_ne {root : Root} {index : Int} {provider : Option Int}
    (h : index ≠ root.index) : root.since [.setProvider index provider] = root := by
  simp [since, providerSince, Edit.providerOf, h]

end Root

/-- The roots that some changes add, each as it is after all of them. -/
def standing : List Edit → List Root
  | [] => []
  | edit :: later => (edit.root?.map (·.since later)).toList ++ standing later

/-- The root around a location after some changes: no root that was added before it and stands around the
location is longer, and every one that was added later is shorter. -/
def Governs (edits : List Edit) (location : String) (root : Root) : Prop :=
  ∃ before given later, edits = before ++ .addRoot given :: later ∧ root = given.since later ∧
    Path.Around given.path location ∧
    (∀ other, .addRoot other ∈ before → Path.Around other.path location →
      other.length ≤ given.length) ∧
    ∀ other, .addRoot other ∈ later → Path.Around other.path location →
      other.length < given.length

-- ============================================================ the roots of a tree

namespace Tree

variable {tree : Tree}

/-- Where no two roots share an index, the provider of one of them at most is replaced. -/
theorem replaceProvider_eq_map {index : Int} {provider : Option Int} {roots : List Root}
    (h : (roots.map Root.index).Nodup) :
    replaceProvider index provider roots = roots.map (·.since [.setProvider index provider]) := by
  induction roots with
  | nil => rfl
  | cons first rest ih =>
      obtain ⟨hfirst, hrest⟩ := List.nodup_cons.1 h
      unfold replaceProvider
      rw [List.map_cons]
      by_cases hindex : first.index = index
      · subst hindex
        have hothers : rest.map (·.since [.setProvider first.index provider]) = rest := by
          refine (List.map_congr_left fun other hother => ?_).trans (List.map_id rest)
          have hne : first.index ≠ other.index := fun heq =>
            hfirst (heq ▸ List.mem_map_of_mem hother)
          exact Root.since_setProvider_of_ne hne
        rw [if_pos rfl, hothers, Root.since_setProvider_self]
      · rw [if_neg hindex, ih hrest, Root.since_setProvider_of_ne (Ne.symm hindex)]

/-- A change to a tree leaves it the roots that it has, and adds one at most. -/
theorem roots_edit (edit : Edit) (h : (tree.roots.map Root.index).Nodup) :
    (tree.edit edit).roots = tree.roots.map (·.since [edit]) ++ edit.root?.toList := by
  cases edit with
  | setProvider index provider =>
      exact (replaceProvider_eq_map h).trans (List.append_nil _).symm
  | addRoot root => exact congrArg (· ++ [root]) (List.map_id tree.roots).symm
  | orphan | setFlags | addPlaceholder | hydrate | addUnmanaged | failAt =>
      exact ((List.append_nil _).trans (List.map_id tree.roots)).symm

theorem roots_foldl_edit {edits : List Edit}
    (h : ((tree.roots ++ edits.filterMap Edit.root?).map Root.index).Nodup) :
    (edits.foldl edit tree).roots = tree.roots.map (·.since edits) ++ standing edits := by
  induction edits generalizing tree with
  | nil => simp [standing, Root.since_nil]
  | cons first later ih =>
      have hadded : (first :: later).filterMap Edit.root? =
          first.root?.toList ++ later.filterMap Edit.root? := by
        rw [List.filterMap_cons]
        cases first.root? <;> rfl
      have hroots : (tree.edit first).roots = tree.roots.map (·.since [first]) ++ first.root?.toList := by
        rw [List.map_append] at h
        exact roots_edit first (List.nodup_append.1 h).1
      have hdistinct : (((tree.edit first).roots ++ later.filterMap Edit.root?).map Root.index).Nodup := by
        rw [hadded, ← List.append_assoc] at h
        rw [hroots]
        simpa [Function.comp_def] using h
      rw [List.foldl_cons, ih hdistinct, hroots, standing, List.map_append, List.append_assoc,
        List.map_map]
      congr 2
      cases first.root? <;> rfl

/-- The roots of a tree are those that were added to it, each with the provider that it has since. -/
theorem roots_edited {edits : List Edit}
    (h : ((edits.filterMap Edit.root?).map Root.index).Nodup) :
    (edited edits).roots = standing edits :=
  roots_foldl_edit h

theorem mem_orphaned_edit {edit : Edit} {location : String} :
    location ∈ (tree.edit edit).orphaned ↔ location ∈ tree.orphaned ∨ .orphan location = edit := by
  cases edit with
  | orphan path =>
      show location ∈ path :: tree.orphaned ↔ _
      rw [List.mem_cons, Edit.orphan.injEq, or_comm]
  | addRoot | setProvider | setFlags | addPlaceholder | hydrate | addUnmanaged | failAt =>
      exact (or_iff_left nofun).symm

theorem mem_orphaned_foldl_edit {edits : List Edit} {location : String} :
    location ∈ (edits.foldl edit tree).orphaned ↔
      location ∈ tree.orphaned ∨ .orphan location ∈ edits := by
  induction edits generalizing tree with
  | nil => simp
  | cons first later ih => rw [List.foldl_cons, ih, mem_orphaned_edit, List.mem_cons, or_assoc]

theorem contains_orphaned_edited {edits : List Edit} {location : String} :
    (edited edits).orphaned.contains location = true ↔ .orphan location ∈ edits := by
  rw [List.contains_iff_mem]
  exact mem_orphaned_foldl_edit.trans (or_iff_right List.not_mem_nil)

end Tree

-- ============================================================ the root around a location

section

variable {edits later : List Edit} {location : String} {root : Root}

/-- The roots that stand are those that were added, each as it is since. -/
theorem mem_standing_iff : root ∈ standing edits ↔
    ∃ before given later, edits = before ++ .addRoot given :: later ∧ root = given.since later := by
  induction edits with
  | nil => simp [standing]
  | cons first rest ih =>
      rw [standing, List.mem_append, ih, Option.mem_toList, Option.map_eq_some_iff]
      simp only [Edit.root?_eq_some_iff]
      constructor
      · rintro (⟨given, rfl, rfl⟩ | ⟨before, given, later, rfl, rfl⟩)
        · exact ⟨[], given, rest, rfl, rfl⟩
        · exact ⟨first :: before, given, later, rfl, rfl⟩
      · rintro ⟨before, given, later, heq, rfl⟩
        cases before with
        | nil =>
            cases heq
            exact .inl ⟨given, rfl, rfl⟩
        | cons head before =>
            cases heq
            exact .inr ⟨before, given, later, rfl, rfl⟩

/-- What holds of the paths of all roots that were added holds of those that stand, and the other way
round. -/
theorem forall_standing_iff (holds : String → Prop) :
    (∀ root ∈ standing edits, holds root.path) ↔ ∀ given, .addRoot given ∈ edits → holds given.path := by
  constructor
  · intro h given hgiven
    obtain ⟨before, later, heq⟩ := List.append_of_mem hgiven
    exact h (given.since later) (mem_standing_iff.2 ⟨before, given, later, heq, rfl⟩)
  · intro h root hroot
    obtain ⟨before, given, later, rfl, rfl⟩ := mem_standing_iff.1 hroot
    exact h given (List.mem_append_right _ (List.mem_cons_self ..))

theorem not_governs_nil : ¬ Governs [] location root := by
  rintro ⟨before, given, later, h, -⟩
  cases before <;> cases h

/-- A change is followed by others: it may have added the root around a location, or else it has added
none that is longer. -/
theorem governs_cons {first : Edit} : Governs (first :: later) location root ↔
    (∃ given, first = .addRoot given ∧ root = given.since later ∧ Path.Around given.path location ∧
      ∀ other, .addRoot other ∈ later → Path.Around other.path location →
        other.length < given.length) ∨
    (Governs later location root ∧
      ∀ given, first = .addRoot given → Path.Around given.path location →
        given.length ≤ root.length) := by
  constructor
  · rintro ⟨before, given, after, heq, rfl, haround, hbefore, hafter⟩
    cases before with
    | nil =>
        cases heq
        exact .inl ⟨given, rfl, rfl, haround, hafter⟩
    | cons head before =>
        cases heq
        refine .inr ⟨⟨before, given, after, rfl, rfl, haround, fun other hother =>
          hbefore other (List.mem_cons_of_mem _ hother), hafter⟩, ?_⟩
        rintro other rfl
        exact hbefore other (List.mem_cons_self ..)
  · rintro (⟨given, rfl, rfl, haround, hafter⟩ |
      ⟨⟨before, given, after, rfl, rfl, haround, hbefore, hafter⟩, hfirst⟩)
    · exact ⟨[], given, later, rfl, rfl, haround, fun _ h => absurd h List.not_mem_nil, hafter⟩
    · refine ⟨first :: before, given, after, rfl, rfl, haround, fun other hother => ?_, hafter⟩
      rcases List.mem_cons.1 hother with heq | hother
      · exact hfirst other heq.symm
      · exact hbefore other hother

theorem governs_iff_lastLongest : Governs edits location root ↔
    LastLongest ((standing edits).filter fun root => Path.isWithin location root.path) root := by
  induction edits with
  | nil => exact iff_of_false not_governs_nil (not_lastLongest_nil root)
  | cons first later ih =>
      rw [governs_cons, ih, standing]
      cases hadded : first.root? with
      | none =>
          have hnone : ∀ given, first ≠ .addRoot given := by
            rintro given rfl
            cases hadded
          simp [hnone]
      | some given =>
          obtain rfl := Edit.root?_eq_some_iff.1 hadded
          have hshorter : (∀ other ∈ (standing later).filter fun root =>
              Path.isWithin location root.path, other.length < given.length) ↔
              ∀ other, .addRoot other ∈ later → Path.Around other.path location →
                other.length < given.length := by
            simp only [List.mem_filter, Path.isWithin_iff, and_imp]
            exact forall_standing_iff fun path =>
              Path.Around path location → path.utf8ByteSize < given.length
          rw [Option.map_some, Option.toList_some, List.singleton_append]
          simp only [Edit.addRoot.injEq, exists_eq_left', forall_eq']
          by_cases haround : Path.isWithin location given.path = true
          · rw [List.filter_cons, Root.path_since, if_pos haround, lastLongest_cons, Root.length_since,
              hshorter]
            have haround := Path.isWithin_iff.1 haround
            simp only [haround, true_and, true_implies]
          · rw [List.filter_cons, Root.path_since, if_neg haround]
            have haround := mt Path.isWithin_iff.2 haround
            simp only [haround, false_and, and_false, false_or, false_implies, and_true]

/-- A tree finds the root that governs a location, if the location is not orphaned. -/
theorem Tree.rootOf?_edited_iff {node : Node}
    (h : ((edits.filterMap Edit.root?).map Root.index).Nodup) :
    (edited edits).rootOf? node = some root ↔
      .orphan node.location ∉ edits ∧ Governs edits node.location root := by
  unfold rootOf? innermost
  rw [roots_edited h, governs_iff_lastLongest, ← contains_orphaned_edited]
  by_cases horphan : (edited edits).orphaned.contains node.location = true
  · rw [if_pos horphan]
    exact iff_of_false nofun fun hfound => hfound.1 horphan
  · rw [if_neg horphan, foldl_longer]
    exact (and_iff_right horphan).symm

theorem Tree.rootOf?_edited_eq_none_iff {node : Node}
    (h : ((edits.filterMap Edit.root?).map Root.index).Nodup) :
    (edited edits).rootOf? node = none ↔
      .orphan node.location ∈ edits ∨
        ∀ given, .addRoot given ∈ edits → ¬ Path.Around given.path node.location := by
  have hnobody : (∀ root ∈ standing edits, ¬ Path.isWithin node.location root.path = true) ↔
      ∀ given, .addRoot given ∈ edits → ¬ Path.Around given.path node.location := by
    simp only [Path.isWithin_iff]
    exact forall_standing_iff fun path => ¬ Path.Around path node.location
  unfold rootOf? innermost
  rw [roots_edited h, ← contains_orphaned_edited, ← hnobody, ← List.filter_eq_nil_iff,
    ← foldl_longer_eq_none]
  by_cases horphan : (edited edits).orphaned.contains node.location = true
  · rw [if_pos horphan]
    exact iff_of_true rfl (.inl horphan)
  · rw [if_neg horphan]
    exact (or_iff_right horphan).symm

end

-- ============================================================ calls over a tree

section

variable {τ : Type}

/-- A tree that answers the questions of an arbiter, beside any channel. -/
def Tree.collaborators
    (send : Int → Message → Arbiter → Tree × τ → Except SendFault Unit × Arbiter × Tree × τ)
    (meanwhile : Arbiter → Tree × τ → Arbiter × Tree × τ) : Collaborators (Tree × τ) where
  managed node world := (world.1.isManaged node, world)
  flags node world :=
    let (flags, tree) := world.1.readFlags node
    (flags, tree, world.2)
  root node world :=
    let (root, tree) := world.1.findRoot node
    (root, tree, world.2)
  send := send
  meanwhile := meanwhile

variable {send : Int → Message → Arbiter → Tree × τ → Except SendFault Unit × Arbiter × Tree × τ}
  {meanwhile : Arbiter → Tree × τ → Arbiter × Tree × τ} {access : Access} {arbiter arbiter' : Arbiter}

/-- A call over a tree is not resolved only where the object has no path below the root that was found
for it. -/
theorem Tree.target_of_unresolved {tree : Tree} {rest : τ} {world' : Tree × τ}
    (h : Call.Returns (Tree.collaborators send meanwhile) access .enter arbiter (tree, rest)
      (.ok (.deny .pathUnresolved)) arbiter' world') :
    ∃ root fault, tree.rootOf? access.node = some root ∧
      Errand.target root access.node = .error fault := by
  obtain ⟨calls, hrecorded⟩ := (Call.returns_recorded_iff []).1 h
  obtain ⟨questions, judgement, metrics, hjudgement, hends⟩ :=
    Call.returns_iff_ends (Tree.collaborators send meanwhile) access arbiter (tree, rest)
  have hresolved := Situation.resolved_of_judgement? hjudgement
  have hended := (hends _ _ _).1 hrecorded
  cases judgement with
  | decided d => exact absurd hended.1.symm hresolved
  | commissioned c =>
      obtain ⟨v, between, hreturns, hverdict, -⟩ := hended
      cases hverdict
      obtain ⟨fault, htarget⟩ := Commission.target_of_unresolved hreturns
      obtain ⟨hroot, hnode⟩ := hresolved
      exact ⟨c.root, fault, hroot, hnode ▸ htarget⟩

end

-- ============================================================ the result

/-- What a tree that was changed in some ways answers about the objects at a location. -/
structure FindsInnermost (edits : List Edit) (location : String) (kind : NodeKind) (resolvable : Bool) :
    Prop where
  none_iff : ((Tree.edited edits).findRoot (.ofLocation location kind resolvable)).1 = none ↔
    .orphan location ∈ edits ∨
      ∀ given, .addRoot given ∈ edits → ¬ Path.Around given.path location
  some_iff : ∀ root, ((Tree.edited edits).findRoot (.ofLocation location kind resolvable)).1 = some root ↔
    .orphan location ∉ edits ∧ Governs edits location root
  /-- A root that is found for an object with a path has a path for it. -/
  relative : ∀ root, ((Tree.edited edits).findRoot (.ofLocation location kind resolvable)).1 = some root →
    resolvable = true → ∃ rel, Path.relative location root.path = .ok rel
  /-- So only objects without a path are not resolved, whatever the channel does. -/
  unresolved : ∀ (τ : Type)
    (send : Int → Message → Arbiter → Tree × τ → Except SendFault Unit × Arbiter × Tree × τ)
    (meanwhile : Arbiter → Tree × τ → Arbiter × Tree × τ) (access : Access)
    (arbiter arbiter' : Arbiter) (rest : τ) (world' : Tree × τ),
    access.node = .ofLocation location kind resolvable →
    Call.Returns (Tree.collaborators send meanwhile) access .enter arbiter (Tree.edited edits, rest)
      (.ok (.deny .pathUnresolved)) arbiter' world' →
    resolvable = false

/-- The root around a location can be taken off it. -/
theorem Governs.relative_ok {edits : List Edit} {location : String} {root : Root}
    (h : Governs edits location root) : ∃ rel, Path.relative location root.path = .ok rel := by
  obtain ⟨before, given, later, rfl, rfl, haround, -⟩ := h
  exact Path.relative_ok_iff.2 haround

theorem location_ofLocation (location : String) (kind : NodeKind) (resolvable : Bool) :
    (Node.ofLocation location kind resolvable).location = location := by
  cases resolvable <;> rfl

/-- After any changes to a tree in which no two roots share an index, the root that is found for an object
is the innermost around it, and the object has a path below that root. -/
theorem finds_innermost (edits : List Edit) (location : String) (kind : NodeKind) (resolvable : Bool)
    (h : ((edits.filterMap Edit.root?).map Root.index).Nodup) :
    FindsInnermost edits location kind resolvable := by
  have hlocation := location_ofLocation location kind resolvable
  have hsome : ∀ root, (Tree.edited edits).rootOf? (.ofLocation location kind resolvable) = some root ↔
      .orphan location ∉ edits ∧ Governs edits location root := by
    intro root
    rw [Tree.rootOf?_edited_iff h, hlocation]
  refine ⟨?_, hsome, fun root hroot hresolvable => ?_, ?_⟩
  · show (Tree.edited edits).rootOf? _ = none ↔ _
    rw [Tree.rootOf?_edited_eq_none_iff h, hlocation]
  · exact ((hsome root).1 hroot).2.relative_ok
  · intro τ send meanwhile access arbiter arbiter' rest world' hnode hreturns
    obtain ⟨root, fault, hroot, hfault⟩ := Tree.target_of_unresolved hreturns
    rw [hnode] at hroot hfault
    obtain ⟨-, hgoverns⟩ := (hsome root).1 hroot
    cases resolvable with
    | false => rfl
    | true =>
        obtain ⟨rel, hrel⟩ := hgoverns.relative_ok
        cases hrel.symm.trans hfault

namespace RootInRoot

/-- A root inside another one, and a sibling whose name goes on where the outer one ends. -/
def edits : List Edit :=
  [.addRoot ⟨1, "/repo", some 5⟩, .addRoot ⟨2, "/repo/sub", none⟩, .addRoot ⟨3, "/repo2", some 6⟩,
    .setProvider 2 (some 7), .orphan "/repo/lost"]

/-- The inner root governs what is inside it, with the provider that it has got since. -/
theorem finds_inner :
    ((edits.filterMap Edit.root?).map Root.index).Nodup ∧
      FindsInnermost edits "/repo/sub/file" .regular true ∧
      ((Tree.edited edits).findRoot (.ofLocation "/repo/sub/file" .regular true)).1 =
        some ⟨2, "/repo/sub", some 7⟩ := by
  have hdistinct : ((edits.filterMap Edit.root?).map Root.index).Nodup := by decide
  exact ⟨hdistinct, finds_innermost edits _ _ _ hdistinct, by decide⟩

end RootInRoot

end Hydration
