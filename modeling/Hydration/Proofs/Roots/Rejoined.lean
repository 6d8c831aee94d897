/-
A path taken apart at its root by the arbiter, and put together again by the provider.

# Two readings of a separator

Taking apart strips at most one separator (`Path.relative`), putting together drops all of them at the end of
the root and writes one (`Path.absolute`). So nothing is lost between the two exactly when one separator
stood there, and nothing is asked of the texts: a root may be empty, be all separators or end in several.

# The separators at the end

A root is some front that does not end in a separator, and so many separators (`exists_front`). Put together,
the path has one of them; it had all of them, and one more if its rest began with one. Both texts have the
same front and the same end, so their lengths decide (`append_separators_inj`).
-/
import Hydration.Proofs.Content.Visit
import Hydration.Proofs.Roots.Names

namespace Hydration

namespace Path

-- ============================================================ separators at the end

/-- So many separators. -/
def separators (count : Nat) : List Char := List.replicate count '/'

/-- A text ends in so many separators, and what is in front of them in none. -/
theorem exists_front (cs : List Char) :
    ∃ front count, cs = front ++ separators count ∧ front.getLast? ≠ some '/' := by
  obtain ⟨back, hback, hall, hhead⟩ := Text.exists_cut (· = '/') cs.reverse
  refine ⟨(cs.reverse.dropWhile (· = '/')).reverse, back.length, ?_, ?_⟩
  · have hseparators : back = separators back.length :=
      List.eq_replicate_iff.2 ⟨rfl, fun c hc => of_decide_eq_true (hall c hc)⟩
    have hreverse : separators back.length = back.reverse := by
      rw [hseparators]
      simp [separators]
    rw [hreverse, ← List.reverse_append, ← hback, List.reverse_reverse]
  · intro hlast
    rw [List.getLast?_reverse] at hlast
    have hnot := hhead '/' hlast
    simp at hnot

variable {front : List Char} {count : Nat}

theorem dropTrailingSeparators_append (hfront : front.getLast? ≠ some '/') (count : Nat) :
    dropTrailingSeparators (front ++ separators count) = front := by
  have hall : ∀ c ∈ separators count, decide (c = '/') = true := by
    intro c hc
    exact decide_eq_true (List.eq_of_mem_replicate hc)
  have hhead : ∀ c, front.reverse.head? = some c → decide (c = '/') = false := by
    intro c hc
    rw [List.head?_reverse] at hc
    apply decide_eq_false
    intro hseparator
    exact hfront (hseparator ▸ hc)
  have hcut := (Text.cut_iff.2 ⟨rfl, hall, hhead⟩).2
  unfold dropTrailingSeparators
  rw [List.reverse_append, show (separators count).reverse = separators count by simp [separators],
    hcut, List.reverse_reverse]

theorem getLast?_append_separators (hfront : front.getLast? ≠ some '/') (count : Nat) :
    (front ++ separators count).getLast? = some '/' ↔ 0 < count := by
  cases count with
  | zero => simpa [separators] using hfront
  | succ count => simp [separators, List.getLast?_replicate]

theorem suffix_append_separators (hfront : front.getLast? ≠ some '/') (count : Nat) :
    ['/', '/'] <:+ front ++ separators count ↔ 1 < count := by
  constructor
  · intro h
    obtain ⟨before, hbefore⟩ := h
    by_contra hfew
    rcases Nat.le_one_iff_eq_zero_or_eq_one.1 (Nat.not_lt.1 hfew) with rfl | rfl
    · apply hfront
      rw [show front = before ++ ['/', '/'] by simpa [separators] using hbefore.symm]
      simp
    · -- the first of the two separators is in front of the last one
      have hcut : before ++ ['/'] ++ ['/'] = front ++ ['/'] := by
        simpa [separators] using hbefore
      apply hfront
      rw [← List.append_cancel_right hcut]
      simp
  · intro h
    obtain ⟨more, rfl⟩ := Nat.exists_eq_add_of_le' h
    refine ⟨front ++ separators more, ?_⟩
    rw [List.append_assoc]
    congr 1
    exact (List.replicate_add more 2 '/').symm

/-- Between the same texts there is room for only one number of separators. -/
theorem append_separators_inj {other : Nat} {rest : List Char} :
    front ++ separators count ++ rest = front ++ separators other ++ rest ↔ count = other := by
  constructor
  · intro h
    have hlength := congrArg List.length h
    simp only [List.length_append, separators, List.length_replicate] at hlength
    omega
  · intro h
    rw [h]

-- ============================================================ apart and together

variable {path root rel : String} {rest : List Char}

/-- The three ways in which a path stands behind its root. -/
inductive Behind (root : List Char) : List Char → List Char → Prop where
  | itself : Behind root [] []
  | separated (rel : List Char) : Behind root ('/' :: rel) rel
  | ended (c : Char) (rel : List Char) (hc : c ≠ '/') (hroot : root.getLast? = some '/') :
    Behind root (c :: rel) (c :: rel)

theorem behind_of_relative (h : relative path root = .ok rel)
    (happend : path.toList = root.toList ++ rest) : Behind root.toList rest rel.toList := by
  cases rest with
  | nil =>
      rw [List.append_nil, String.toList_inj] at happend
      rw [happend, relative_self] at h
      cases h
      exact .itself
  | cons c rest =>
      by_cases hc : c = '/'
      · rw [hc] at happend ⊢
        rw [relative_of_separator happend] at h
        cases h
        rw [String.toList_ofList]
        exact .separated rest
      · obtain ⟨other, hother, haround⟩ := relative_ok_iff.1 ⟨rel, h⟩
        obtain rfl := List.append_cancel_left (happend.symm.trans hother)
        have hroot : root.toList.getLast? = some '/' := by
          rcases haround with hnil | hhead | hroot
          · cases hnil
          · exact absurd (Option.some.inj hhead) hc
          · exact hroot
        rw [relative_of_ended happend hc hroot] at h
        cases h
        rw [String.toList_ofList]
        exact .ended c rest hc hroot

/-- Put together, root and rest have one separator between them. -/
theorem toList_absolute (hroot : root.toList = front ++ separators count)
    (hfront : front.getLast? ≠ some '/') (hrel : rel.toList ≠ []) :
    (absolute root rel).toList = front ++ separators 1 ++ rel.toList := by
  unfold absolute
  rw [if_neg (by simpa using hrel), hroot, dropTrailingSeparators_append hfront, String.toList_ofList,
    List.append_assoc]
  rfl

theorem absolute_of_empty (hrel : rel.toList = []) : absolute root rel = root := by
  unfold absolute
  rw [if_pos (by simpa using hrel)]

/-- The path is made again exactly if one separator stood between root and rest. -/
theorem absolute_eq_iff (h : relative path root = .ok rel)
    (happend : path.toList = root.toList ++ rest) :
    absolute root rel = path ↔
      rest ≠ ['/'] ∧ ¬ (root.toList.getLast? = some '/' ∧ rest.head? = some '/') ∧
        ¬ (['/', '/'] <:+ root.toList ∧ rest ≠ []) := by
  obtain ⟨front, count, hroot, hfront⟩ := exists_front root.toList
  have hlast := getLast?_append_separators hfront count
  have htwo := suffix_append_separators hfront count
  rw [hroot, hlast, htwo, ← String.toList_inj, happend, hroot]
  have hbehind := behind_of_relative h happend
  generalize hrelChars : rel.toList = relChars at hbehind
  cases hbehind with
  | itself =>
      rw [absolute_of_empty hrelChars, hroot]
      simp
  | separated =>
      by_cases hnil : relChars = []
      · rw [absolute_of_empty (hrelChars.trans hnil), hroot, hnil]
        simp
      · rw [toList_absolute hroot hfront (hrelChars ▸ hnil), hrelChars]
        have hmore : front ++ separators count ++ '/' :: relChars =
            front ++ separators (count + 1) ++ relChars := by
          simp [separators, List.replicate_succ']
        rw [hmore, append_separators_inj]
        simp only [ne_eq, List.cons.injEq, hnil, and_false, not_false_eq_true, List.head?_cons,
          and_true, reduceCtorEq, true_and]
        omega
  | ended c rest hc hended =>
      rw [toList_absolute hroot hfront (by simp [hrelChars]), hrelChars, append_separators_inj]
      rw [hroot, hlast] at hended
      simp only [ne_eq, List.cons.injEq, hc, false_and, not_false_eq_true, List.head?_cons,
        Option.some.injEq, and_false, reduceCtorEq, and_true, true_and]
      omega

end Path

-- ============================================================ the result

/-- What becomes of a path that is taken apart at a root, with so much of it behind the root, and put
together again by the provider. -/
structure Rejoined (path root rel : String) (rest : List Char) : Prop where
  /-- Without a relative path the root itself is meant. -/
  itself : rel = "" → Path.absolute root rel = root
  /-- Otherwise the separators at the end of the root, however many, give way to one. -/
  joined : rel ≠ "" → ∃ front count,
    root.toList = front ++ Path.separators count ∧ front.getLast? ≠ some '/' ∧
      (Path.absolute root rel).toList = front ++ '/' :: rel.toList
  same_iff : Path.absolute root rel = path ↔
    rest ≠ ['/'] ∧ ¬ (root.toList.getLast? = some '/' ∧ rest.head? = some '/') ∧
      ¬ (['/', '/'] <:+ root.toList ∧ rest ≠ [])
  /-- What the worker hydrates is the path that was put together, and nothing else: so this is the path
  that was taken apart, or else that one is left as it is. -/
  hydrated : ∀ (provider : Provider) (tree : Tree) (arbiter : Arbiter) (job : Job) (found : Root),
    provider.hand = some job → job.behaviour.succeeds = true → job.message.path = rel →
    tree.root? job.root = some found → found.path = root →
    (∀ other, (provider.answer tree arbiter).2.1.flagsAt other =
      if other = Path.absolute root rel then (tree.flagsAt other).hydrated else tree.flagsAt other) ∧
    (Path.absolute root rel = path →
      ((provider.answer tree arbiter).2.1.flagsAt path).isEmpty = false) ∧
    (Path.absolute root rel ≠ path →
      (provider.answer tree arbiter).2.1.flagsAt path = tree.flagsAt path)

/-- The provider hydrates the very path that was accessed exactly if one separator stood between the root and
what is relative to it, or nothing is; and otherwise it leaves that path as it is. -/
theorem rejoined {path root rel : String} (h : Path.relative path root = .ok rel) :
    ∃ rest, path.toList = root.toList ++ rest ∧ Rejoined path root rel rest := by
  obtain ⟨rest, happend, -⟩ := Path.relative_ok_iff.1 ⟨rel, h⟩
  refine ⟨rest, happend, ?_, ?_, Path.absolute_eq_iff h happend, ?_⟩
  · intro hrel
    apply Path.absolute_of_empty
    rw [hrel]
    rfl
  · intro hrel
    obtain ⟨front, count, hroot, hfront⟩ := Path.exists_front root.toList
    refine ⟨front, count, hroot, hfront, ?_⟩
    rw [Path.toList_absolute hroot hfront (mt String.toList_eq_nil_iff.1 hrel), List.append_assoc]
    rfl
  · intro provider tree arbiter job found hhand hsucceeds hpath hfound hroot
    have htarget : tree.targetOf? job = some (Path.absolute root rel) := by
      unfold Tree.targetOf?
      rw [hfound, ← hroot, ← hpath]
      rfl
    have hflags : ∀ other, (provider.answer tree arbiter).2.1.flagsAt other =
        if other = Path.absolute root rel then (tree.flagsAt other).hydrated
        else tree.flagsAt other := by
      intro other
      rw [Provider.answer_of_hand hhand]
      show (Standing.afterJob tree job).flagsAt other = _
      rw [Standing.afterJob, if_pos hsucceeds, Tree.hydrateTarget_eq htarget, Tree.flagsAt_hydrate]
    refine ⟨hflags, ?_, ?_⟩
    · intro hsame
      rw [hflags, if_pos hsame.symm]
      exact Flags.isEmpty_hydrated _
    · intro hother
      rw [hflags, if_neg (Ne.symm hother)]

namespace DoubledSeparators

/-- Of a root that is written with two separators at the end, a path below is not found again. -/
theorem rejoined_elsewhere :
    Path.relative "/repo//a.txt" "/repo//" = .ok "a.txt" ∧
      ∃ rest, "/repo//a.txt".toList = "/repo//".toList ++ rest ∧
        Rejoined "/repo//a.txt" "/repo//" "a.txt" rest := by
  have h : Path.relative "/repo//a.txt" "/repo//" = .ok "a.txt" := by decide
  exact ⟨h, rejoined h⟩

end DoubledSeparators

end Hydration
