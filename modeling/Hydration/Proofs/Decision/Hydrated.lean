/-
One access to an object, as a placeholder and with its content.

# Two runs

The others are the same in both runs, and so is everything about the access; only the mark of a
placeholder is set in the flag word, or not (`Collaborators.marking`). The provider may do as it likes
in the run in which it is asked.

# One comparison

The clauses are gone through once for both (`Situation.compared`). The object with its content is let
through, unless its flags cannot be read, or it is written to below an offline root; and there the mark
does not help. The matrix is not monotone in the rights that are asked for, so the rights are the same in
both runs and no others are looked at.
-/
import Hydration.Proofs.Decision.Clauses

namespace Hydration

-- ============================================================ the mark

/-- The same word with the mark of a placeholder, or without it. -/
def Flags.withMark (mark : Bool) (flags : Flags) : Flags :=
  if mark then ⟨flags.bits ||| Bits.single emptyBit⟩ else flags.hydrated

@[simp] theorem Flags.isEmpty_withMark (mark : Bool) (flags : Flags) :
    (flags.withMark mark).isEmpty = mark := by
  cases mark with
  | false => exact flags.isEmpty_hydrated
  | true =>
      show Bits.isSet (flags.bits ||| Bits.single emptyBit) emptyBit = true
      rw [Bits.isSet_or, Bits.isSet_single (by decide)]
      simp

@[simp] theorem Flags.isInRoot_withMark (mark : Bool) (flags : Flags) :
    (flags.withMark mark).isInRoot = flags.isInRoot := by
  cases mark with
  | false => exact flags.isInRoot_hydrated
  | true =>
      show Bits.isSet (flags.bits ||| Bits.single emptyBit) inRootBit = _
      rw [Bits.isSet_or, Bits.isSet_single (by decide)]
      simp [isInRoot, emptyBit, inRootBit]

variable {σ : Type}

/-- The same collaborators, with the mark set or taken away in every flag word. -/
def Collaborators.marking (mark : Bool) (others : Collaborators σ) : Collaborators σ :=
  { others with
    flags := fun node world =>
      let (flags, next) := others.flags node world
      (flags.map (Flags.withMark mark), next) }

namespace Situation

def marking (mark : Bool) (s : Situation) : Situation :=
  { s with answers := { s.answers with flags := s.answers.flags.map (Flags.withMark mark) } }

section

variable (mark : Bool) (s : Situation)

@[simp] theorem access_marking : (s.marking mark).access = s.access := rfl

@[simp] theorem isCrawler_marking : (s.marking mark).isCrawler = s.isCrawler := rfl

@[simp] theorem root_marking : (s.marking mark).answers.root = s.answers.root := rfl

end

theorem of_marking (mark : Bool) (others : Collaborators σ) (crawlers : Crawlers) (access : Access)
    (world : σ) :
    of (others.marking mark) crawlers access world = (of others crawlers access world).marking mark :=
  rfl

-- ============================================================ what the policy says

/-- What the policy says of an object with and without the mark. -/
inductive Compared (s : Situation) : Prop where
  | allowed (questions : List Question)
    (hydrated : (s.marking false).judgement? = some (questions, .decided (.ok .allow)))
  | unreadable (violation : IntegrityViolation)
    (both : ∀ mark, (s.marking mark).judgement? =
      some ([.managed, .flags], .decided (.error violation)))
  | offlineWrite (root : Root) (hroot : s.answers.root = some root) (hoffline : root.provider = none)
    (hwrites : s.access.action.bits &&& Clause.writeMask ≠ 0)
    (hacts : s.access.action.bits &&& Clause.queryBit = 0)
    (hydrated : (s.marking false).judgement? =
      some ([.managed, .flags, .root], .decided (.ok (.deny .offlineWrite))))
    (placeholder : ∃ questions reason, (s.marking true).judgement? =
      some (questions, .decided (.ok (.deny reason))))

open Clause

section

variable {s : Situation} {flags : Flags} (hflags : s.answers.flags = .ok flags)

include hflags

theorem word_marking (mark : Bool) : (s.marking mark).word = (flags.withMark mark).bits := by
  simp [word, marking, hflags, Except.map]

/-- The mark is the only difference that the clauses see. -/
theorem emptyMark_marking (mark : Bool) :
    (s.marking mark).word &&& emptyMark = 0 ↔ mark = false := by
  have hempty := (flags.withMark mark).isEmpty_eq
  rw [Flags.isEmpty_withMark, ← word_marking hflags] at hempty
  rw [← bne_eq_false_iff_eq, ← hempty]

theorem insideMark_marking (mark : Bool) :
    (s.marking mark).word &&& insideMark = 0 ↔ flags.isInRoot = false := by
  have hinside := (flags.withMark mark).isInRoot_eq
  rw [Flags.isInRoot_withMark, ← word_marking hflags] at hinside
  rw [← bne_eq_false_iff_eq, ← hinside]

/-- Below an offline root the object with its content is open to all but writers, and to writers it is
closed with the mark, too. -/
theorem compared_of_offline {root : Root} (hroot : s.answers.root = some root)
    (hoffline : root.provider = none)
    (hinside : ∀ mark, (s.marking mark).judgement? =
      first? [crawler, rootless, offline, provider, full, undemanding, hydration] (s.marking mark)) :
    s.Compared := by
  have hrooted : ∀ mark, ¬(mark = true ∧ s.isCrawler = true) → (s.marking mark).judgement? =
      some ([.managed, .flags, .root], .decided (.ok (matrix mark s.access.node.kind
        s.access.action.bits))) := by
    intro mark hcrawler
    have hmark : ((s.marking mark).word &&& emptyMark != 0) = mark := by
      rw [Bool.eq_iff_iff, bne_iff_ne, Ne, emptyMark_marking hflags, Bool.not_eq_false]
    rw [hinside, first?_of_none (by simpa [crawler, emptyMark_marking hflags] using hcrawler),
      first?_of_none (by simp [rootless, hroot])]
    exact first?_of_some (by simp only [offline, root_marking, access_marking, hroot, hmark,
      Option.any_some, hoffline, decide_true, if_true])
  by_cases hwrites : s.access.action.bits &&& queryBit = 0 ∧ s.access.action.bits &&& writeMask ≠ 0
  · have hmatrix : ∀ mark, matrix mark s.access.node.kind s.access.action.bits = .deny .offlineWrite :=
      fun mark => if_pos hwrites
    refine .offlineWrite root hroot hoffline hwrites.2 hwrites.1 ?_ ?_
    · rw [hrooted false (by simp), hmatrix]
    · by_cases hcrawler : s.isCrawler = true
      · refine ⟨[.managed, .flags], .crawler, ?_⟩
        rw [hinside]
        exact first?_of_some (by simp [crawler, emptyMark_marking hflags, hcrawler])
      · exact ⟨_, .offlineWrite, (hrooted true (by simp [hcrawler])).trans (by rw [hmatrix])⟩
  · have hmatrix : matrix false s.access.node.kind s.access.action.bits = .allow := by
      simp [matrix, hwrites]
    exact .allowed _ ((hrooted false (by simp)).trans (by rw [hmatrix]))

/-- No crawler is turned away from an object with its content, and below an online root nobody is. -/
theorem compared_of_inside
    (hinside : ∀ mark, (s.marking mark).judgement? =
      first? [crawler, rootless, offline, provider, full, undemanding, hydration] (s.marking mark)) :
    s.Compared := by
  have hcrawler : (s.marking false).judgement? =
      first? [rootless, offline, provider, full, undemanding, hydration] (s.marking false) := by
    rw [hinside, first?_of_none]
    simp [crawler, emptyMark_marking hflags]
  cases hroot : s.answers.root with
  | none => exact .allowed _ (hcrawler.trans (first?_of_some (if_pos hroot)))
  | some root =>
      by_cases hoffline : root.provider = none
      · exact compared_of_offline hflags hroot hoffline hinside
      have honline : (s.marking false).judgement? =
          first? [provider, full, undemanding, hydration] (s.marking false) := by
        rw [hcrawler, first?_of_none (by simp [rootless, hroot]), first?_of_none]
        simp [offline, hroot, hoffline]
      by_cases hself : root.provider = some s.access.pid
      · exact .allowed _ (honline.trans (first?_of_some (if_pos (by simp [hroot, hself]))))
      · refine .allowed [.managed, .flags, .root] (honline.trans ?_)
        rw [first?_of_none (by simp [provider, hroot, hself])]
        exact first?_of_some (if_pos ((emptyMark_marking hflags false).2 rfl))

end

theorem compared (s : Situation) : s.Compared := by
  by_cases hmanaged : s.answers.isManaged = true
  case neg => exact .allowed _ (first?_of_some (if_neg hmanaged))
  by_cases hkind : s.access.node.kind ∈ [.none, .block, .character, .socket, .fifo, .bad]
  case pos => exact .allowed _ ((first?_of_none (if_pos hmanaged)).trans (first?_of_some (if_pos hkind)))
  have hgoverned : ∀ mark, (s.marking mark).judgement? = first? [unreadable, outside, crawler, rootless,
      offline, provider, full, undemanding, hydration] (s.marking mark) := fun mark =>
    (first?_of_none (if_pos hmanaged)).trans (first?_of_none (if_neg hkind))
  cases hflags : s.answers.flags with
  | error source =>
      refine .unreadable ⟨s.access.node.displayPath, source⟩ fun mark => ?_
      rw [hgoverned]
      exact first?_of_some (by simp [unreadable, marking, hflags, Except.map])
  | ok flags =>
      have hread : ∀ mark, (s.marking mark).judgement? = first? [outside, crawler, rootless, offline,
          provider, full, undemanding, hydration] (s.marking mark) := by
        intro mark
        rw [hgoverned, first?_of_none]
        simp [unreadable, marking, hflags, Except.map]
      by_cases hin : flags.isInRoot = false
      case pos =>
        refine .allowed _ ((hread false).trans (first?_of_some ?_))
        exact if_pos ((insideMark_marking hflags false).2 hin)
      have hinside : ∀ mark, (s.marking mark).judgement? = first? [crawler, rootless, offline, provider,
          full, undemanding, hydration] (s.marking mark) := by
        intro mark
        rw [hread, first?_of_none]
        exact if_neg (mt (insideMark_marking hflags mark).1 hin)
      exact compared_of_inside hflags hinside

end Situation

-- ============================================================ the result

/-- An access to a placeholder comes back with a decision. -/
def PlaceholderReturns (others : Collaborators σ) (access : Access) (arbiter : Arbiter) (world : σ)
    (decision : Decision) : Prop :=
  ∃ arbiter' after, Call.Returns (others.marking true).recorded access .enter arbiter (world, []) decision
    arbiter' after

/-- How the access to an object with its content ends, and what that has to do with the access to the
placeholder. -/
structure Unrevoked (others : Collaborators σ) (access : Access) (arbiter : Arbiter) (world : σ)
    (decision : Decision) (questions : List Question) : Prop where
  /-- It comes back in one way, and nobody but those who answer questions is called. -/
  returns : ∃ metrics, ∀ final arbiter' after,
    Call.Returns (others.marking false).recorded access .enter arbiter (world, []) final arbiter' after ↔
      final = decision ∧ arbiter' = { arbiter with metrics } ∧
        after = ((others.marking false).afterAll access.node world questions,
          questions.map .question)
  allowed : PlaceholderReturns others access arbiter world (.ok .allow) → decision = .ok .allow
  denied : ∀ reason, decision = .ok (.deny reason) →
    .root ∈ questions ∧
      (∃ root, (others.answers access.node world).root = some root ∧ root.provider = none) ∧
      access.action.bits &&& Clause.writeMask ≠ 0 ∧ access.action.bits &&& Clause.queryBit = 0 ∧
      ∃ reason', PlaceholderReturns others access arbiter world (.ok (.deny reason'))

/-- Whatever the object was open to as a placeholder it is open to with its content. -/
theorem hydration_never_revokes (others : Collaborators σ) (access : Access) (arbiter : Arbiter)
    (world : σ) : ∃ decision questions, Unrevoked others access arbiter world decision questions := by
  obtain ⟨questions, judgement, metrics, hfirst, hends⟩ :=
    Call.returns_iff_ends (others.marking false) access arbiter world
  obtain ⟨asked, marked, left, hmarked, hplaceholder⟩ :=
    Call.returns_iff_ends (others.marking true) access arbiter world
  rw [Situation.of_marking] at hfirst hmarked
  cases (Situation.of others arbiter.crawlers access world).compared with
  | allowed _ hydrated =>
      cases hydrated.symm.trans hfirst
      exact ⟨.ok .allow, questions, ⟨metrics, hends⟩, fun _ => rfl, nofun⟩
  | unreadable violation both =>
      cases (both false).symm.trans hfirst
      cases (both true).symm.trans hmarked
      refine ⟨.error violation, _, ⟨metrics, hends⟩, ?_, nofun⟩
      rintro ⟨arbiter', after, hreturns⟩
      exact ((hplaceholder _ _ _).1 hreturns).1.symm
  | offlineWrite root hroot hoffline hwrites hacts hydrated placeholder =>
      obtain ⟨_, reason, placeholder⟩ := placeholder
      cases hydrated.symm.trans hfirst
      cases placeholder.symm.trans hmarked
      refine ⟨.ok (.deny .offlineWrite), _, ⟨metrics, hends⟩, ?_, fun _ _ => ⟨?_, ⟨root, hroot, hoffline⟩,
        hwrites, hacts, reason, _, _, (hplaceholder _ _ _).2 ⟨rfl, rfl, rfl⟩⟩⟩
      · rintro ⟨arbiter', after, hreturns⟩
        cases ((hplaceholder _ _ _).1 hreturns).1
      · exact List.mem_cons_of_mem _ (List.mem_cons_of_mem _ (List.mem_singleton_self _))

end Hydration
