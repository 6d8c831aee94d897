/-
The two rule books compared: the one of the arbiter, written as lists of rights that are looked for one
by one, and the one of the expectation, written as words that an access is met with.

# Words as sets

A word is zero when no bit of it is set, so meeting a word is having one of its bits set
(`Bits.and_ofPositions_ne_zero`). With this the sets of rights are compared as closed words
(`Policy.ofRights_eq`), and whatever is said of an access holds for all its 2^32 forms at once.
-/
import Hydration.Crawlers
import Hydration.Policy
import Hydration.Simulation.Expectation

namespace Hydration

namespace Bits

theorem isSet_eq_getLsbD (word : UInt32) (position : Nat) :
    isSet word position = word.toBitVec.getLsbD position := rfl

@[simp] theorem isSet_zero (position : Nat) : isSet 0 position = false := by
  simp [isSet_eq_getLsbD]

@[simp] theorem isSet_or (a b : UInt32) (position : Nat) :
    isSet (a ||| b) position = (isSet a position || isSet b position) := by
  simp [isSet_eq_getLsbD]

@[simp] theorem isSet_and (a b : UInt32) (position : Nat) :
    isSet (a &&& b) position = (isSet a position && isSet b position) := by
  simp [isSet_eq_getLsbD]

theorem isSet_not (a : UInt32) {position : Nat} (h : position < 32) :
    isSet (~~~a) position = !isSet a position := by
  simp [isSet_eq_getLsbD, h]

theorem isSet_single {position other : Nat} (h : position < 32) :
    isSet (single position) other = decide (position = other) := by
  unfold isSet single
  rw [Nat.one_shiftLeft, UInt32.toNat_ofNat_of_lt' (Nat.pow_lt_pow_right (by omega) h),
    Nat.testBit_two_pow]

/-- A word with no bit set is zero. -/
theorem eq_zero_iff (word : UInt32) : word = 0 ↔ ∀ position, isSet word position = false := by
  constructor
  · rintro rfl position
    exact isSet_zero position
  · intro h
    apply UInt32.toBitVec_inj.1
    refine BitVec.eq_of_getLsbD_eq fun position _ => ?_
    rw [← isSet_eq_getLsbD, ← isSet_eq_getLsbD, h position, isSet_zero]

/-- Meeting a single bit is having it set. -/
theorem and_single_ne_zero (word : UInt32) {position : Nat} (h : position < 32) :
    (word &&& single position != 0) = isSet word position := by
  rw [Bool.eq_iff_iff, bne_iff_ne, ne_eq, eq_zero_iff]
  constructor
  · intro hmeets
    by_cases hset : isSet word position = true
    · exact hset
    · refine absurd (fun other => ?_) hmeets
      rw [isSet_and, isSet_single h]
      by_cases heq : position = other
      · subst heq
        simp [hset]
      · simp [heq]
  · intro hset hnone
    have hbit := hnone position
    rw [isSet_and, hset, isSet_single h, decide_eq_true rfl] at hbit
    cases hbit

theorem and_or_ne_zero (word a b : UInt32) :
    (word &&& (a ||| b) != 0) = ((word &&& a != 0) || (word &&& b != 0)) := by
  have hdistrib : word &&& (a ||| b) = 0 ↔ word &&& a = 0 ∧ word &&& b = 0 := by
    rw [eq_zero_iff, eq_zero_iff, eq_zero_iff, ← forall_and]
    refine forall_congr' fun position => ?_
    rw [isSet_and, isSet_and, isSet_and, isSet_or, Bool.and_or_distrib_left, Bool.or_eq_false_iff]
  rw [Bool.eq_iff_iff]
  simp only [bne_iff_ne, ne_eq, Bool.or_eq_true, hdistrib, Classical.not_and_iff_not_or_not]

/-- Meeting a set of bits is having one of them set. -/
theorem and_ofPositions_ne_zero (word : UInt32) {positions : List Nat}
    (h : ∀ position ∈ positions, position < 32) :
    (word &&& ofPositions positions != 0) = positions.any (isSet word) := by
  induction positions with
  | nil => simp [ofPositions]
  | cons position rest ih =>
      show (word &&& (single position ||| ofPositions rest) != 0) = _
      rw [and_or_ne_zero, and_single_ne_zero word (h position (List.mem_cons_self ..)),
        ih fun other hother => h other (List.mem_cons_of_mem _ hother)]
      rfl

end Bits

-- ============================================================ rights

namespace Action

/-- Looking for rights one by one is meeting the word of them all. -/
theorem asksAny_eq_meets (action : Action) (rights : List Right) :
    action.asksAny rights = action.meets (ofRights rights) := by
  have hbits : ∀ position ∈ rights.map Right.bit, position < 32 := by
    intro position hposition
    obtain ⟨right, -, rfl⟩ := List.mem_map.1 hposition
    cases right <;> decide
  unfold meets ofRights
  rw [Bits.and_ofPositions_ne_zero _ hbits, List.any_map]
  rfl

theorem asks_eq_meets (action : Action) (right : Right) :
    action.asks right = action.meets (ofRights [right]) := by
  rw [← asksAny_eq_meets]
  simp [asksAny]

end Action

-- ============================================================ the two rule books

/-- The sets of rights are those of the expectation, bit by bit. -/
theorem Policy.ofRights_eq :
    Action.ofRights [.access] = ⟨0x80000000⟩ ∧
      Action.ofRights Policy.writeRights = ⟨Expectation.writeBits⟩ ∧
      Action.ofRights Policy.placeholderRights = ⟨Expectation.permittedBits⟩ ∧
      Action.ofRights Policy.placeholderDirectoryRights = ⟨Expectation.walkingBits⟩ ∧
      Action.ofRights Policy.listingRights = ⟨Expectation.listingBits⟩ ∧
      Action.ofRights Policy.contentRights = ⟨Expectation.contentBits⟩ := by
  decide

/-- Nobody decides about the same kinds. -/
theorem NodeKind.ignore_iff (kind : NodeKind) :
    kind.disposition = .ignore ↔ Expectation.isPassed kind = true := by
  cases kind with
  | unknown code => simp [disposition, Expectation.isPassed]
  | _ => decide

theorem Policy.offline_eq (flags : Flags) (kind : NodeKind) (action : Action) :
    Policy.offline flags kind action = Expectation.offline kind flags.isEmpty action := by
  obtain ⟨hquestion, hwrite, hpermitted, hwalking, -, -⟩ := ofRights_eq
  unfold Policy.offline Expectation.offline
  rw [Action.asks_eq_meets, Action.asksAny_eq_meets, Action.asksAny_eq_meets,
    Action.asksAny_eq_meets, hquestion, hwrite, hpermitted, hwalking]
  rfl

/-- The provider is asked when the access needs content. -/
theorem Policy.hydration?_isSome (kind : NodeKind) (action : Action) :
    (Policy.hydration? kind action).isSome = Expectation.needsContent kind action := by
  obtain ⟨-, -, -, -, hlisting, hcontent⟩ := ofRights_eq
  unfold Policy.hydration? Expectation.needsContent NodeKind.isDirectory
  rw [Action.asksAny_eq_meets, Action.asksAny_eq_meets, hlisting, hcontent]
  by_cases hkind : kind = .directory
  · rw [if_pos (decide_eq_true hkind), if_pos hkind]
    split <;> simp_all
  · rw [if_neg (by simpa using hkind), if_neg hkind]
    split <;> simp_all

-- ============================================================ crawlers

theorem Crawlers.contains_insert (name other : String) (crawlers : Crawlers) :
    (crawlers.insert name).contains other = (other == name || crawlers.contains other) := by
  unfold insert contains
  by_cases h : name ∈ crawlers.names
  · rw [dif_pos h, Bool.eq_iff_iff]
    simp only [List.contains_iff_mem, Bool.or_eq_true, beq_iff_eq]
    exact ⟨.inr, fun hmem => hmem.elim (fun heq => heq ▸ h) id⟩
  · rw [dif_neg h]
    exact List.contains_cons ..

theorem Crawlers.contains_ofList (names : List String) (name : String) :
    (Crawlers.ofList names).contains name = names.contains name := by
  induction names with
  | nil => rfl
  | cons first names ih =>
      show ((Crawlers.ofList names).insert first).contains name = _
      rw [contains_insert, ih, List.contains_cons]

-- ============================================================ flag words

namespace Flags

@[simp] theorem isInRoot_clear : clear.isInRoot = false := by decide

@[simp] theorem isEmpty_inside (empty : Bool) : (inside empty).isEmpty = empty := by
  cases empty <;> decide

@[simp] theorem isInRoot_inside (empty : Bool) : (inside empty).isInRoot = true := by
  cases empty <;> decide

@[simp] theorem isEmpty_hydrated (flags : Flags) : flags.hydrated.isEmpty = false := by
  unfold isEmpty hydrated
  rw [Bits.isSet_and, Bits.isSet_not _ (by decide), Bits.isSet_single (by decide)]
  simp

/-- Nothing but the mark of a placeholder is taken away. -/
@[simp] theorem hydrated_hydrated (flags : Flags) : flags.hydrated.hydrated = flags.hydrated := by
  unfold hydrated
  rw [UInt32.and_assoc, UInt32.and_self]

@[simp] theorem isInRoot_hydrated (flags : Flags) :
    flags.hydrated.isInRoot = flags.isInRoot := by
  unfold isInRoot hydrated
  rw [Bits.isSet_and, Bits.isSet_not _ (by decide), Bits.isSet_single (by decide)]
  simp [emptyBit, inRootBit]

end Flags

end Hydration
