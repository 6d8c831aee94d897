/-
Canonical paths, and what they are good for: a path that is taken apart at its root and put together
again is the same path. So the provider, which gets the path relative to the root, hydrates the object
that was accessed.

Without this a separator could be lost or gained on the way: relative to `/repo/` the path `/repo//a`
is `/a`, and `/repo/` is the empty path.
-/
import Hydration.Root
import Hydration.Proofs.Text.Cut
import Mathlib.Data.List.Infix

namespace Hydration

namespace Path

/-- An absolute path without empty components, which ends in a separator only if it is the separator. -/
structure Canonical (path : String) : Prop where
  rooted : path.toList.head? = some '/'
  single : ¬['/', '/'] <:+: path.toList
  ended : path.toList.getLast? = some '/' → path.toList = ['/']

theorem canonical_iff (path : String) :
    Canonical path ↔ path.toList.head? = some '/' ∧ ¬['/', '/'] <:+: path.toList ∧
      (path.toList.getLast? = some '/' → path.toList = ['/']) :=
  ⟨fun h => ⟨h.rooted, h.single, h.ended⟩, fun ⟨rooted, single, ended⟩ => ⟨rooted, single, ended⟩⟩

instance (path : String) : Decidable (Canonical path) := decidable_of_iff _ (canonical_iff path).symm

theorem dropTrailingSeparators_of_getLast? {cs : List Char} (h : cs.getLast? ≠ some '/') :
    dropTrailingSeparators cs = cs := by
  unfold dropTrailingSeparators
  rcases List.eq_nil_or_concat cs with rfl | ⟨front, last, rfl⟩
  · rfl
  · rw [List.concat_eq_append] at h ⊢
    have hlast : last ≠ '/' := by simpa using h
    rw [List.reverse_append, List.reverse_singleton, List.singleton_append,
      List.dropWhile_cons_of_neg (by simpa using hlast)]
    simp

/-- Behind a canonical root comes a separator and then something, unless the root is the separator. -/
theorem Canonical.behind_root {path root : String} (hpath : Canonical path)
    (hroot : Canonical root) {c : Char} {rest : List Char}
    (happend : path.toList = root.toList ++ c :: rest) :
    (root.toList.getLast? = some '/' → root.toList = ['/'] ∧ c ≠ '/') ∧
      (c = '/' → rest ≠ []) := by
  refine ⟨fun hlast => ?_, ?_⟩
  · have hseparator := hroot.ended hlast
    refine ⟨hseparator, ?_⟩
    rintro rfl
    exact hpath.single ⟨[], rest, by rw [happend, hseparator]; rfl⟩
  · rintro rfl rfl
    have hpathEnd : path.toList.getLast? = some '/' := by
      rw [happend]
      simp
    have hlone := hpath.ended hpathEnd
    rw [happend] at hlone
    have hempty : root.toList = [] := by
      cases hchars : root.toList with
      | nil => rfl
      | cons first others => simp [hchars] at hlone
    have hrooted := hroot.rooted
    rw [hempty] at hrooted
    cases hrooted

/-- Of a canonical path within a canonical root nothing is lost: the path relative to the root leads
back to it. -/
theorem Canonical.absolute_relative {path root : String} (hpath : Canonical path)
    (hroot : Canonical root) (hwithin : isWithin path root = true) :
    ∃ rel, relative path root = .ok rel ∧ absolute root rel = path := by
  unfold isWithin at hwithin
  unfold relative relativeChars? absolute
  cases hstrip : Text.stripStart? root.toList path.toList with
  | none =>
      rw [hstrip] at hwithin
      cases hwithin
  | some rest =>
      have happend := Text.stripStart?_eq_some_iff.1 hstrip
      rw [hstrip] at hwithin
      cases rest with
      | nil =>
          rw [List.append_nil] at happend
          exact ⟨"", rfl, (String.toList_inj.1 happend).symm⟩
      | cons c rest =>
          obtain ⟨hseparator, hmore⟩ := hpath.behind_root hroot happend
          by_cases hc : c = '/'
          · subst hc
            have hlast : root.toList.getLast? ≠ some '/' := fun h => (hseparator h).2 rfl
            refine ⟨String.ofList rest, rfl, ?_⟩
            rw [if_neg (by simpa using hmore rfl), dropTrailingSeparators_of_getLast? hlast,
              String.toList_ofList, ← happend, String.ofList_toList]
          · -- only the root of all paths ends in a separator
            have hends : endsInSeparator root.toList = true := by
              simpa [hc] using hwithin
            have hlast : root.toList.getLast? = some '/' := of_decide_eq_true hends
            obtain ⟨hlone, -⟩ := hseparator hlast
            refine ⟨String.ofList (c :: rest), ?_, ?_⟩
            · simp [hc, hends]
            · rw [if_neg (by simp), hlone, String.toList_ofList]
              rw [hlone] at happend
              rw [show dropTrailingSeparators ['/'] ++ '/' :: c :: rest = ['/'] ++ c :: rest from rfl,
                ← happend, String.ofList_toList]

end Path

end Hydration
