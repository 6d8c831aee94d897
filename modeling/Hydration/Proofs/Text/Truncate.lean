/-
A text cut to a number of bytes without a character being split.

What is kept is a beginning of the text and fits, and every other beginning that fits is one of what is kept
(`LongestStart`). So the cut is the longest beginning there is; it falls short of the limit by less than the
four bytes of the largest character, and there is nothing left to be cut from it.
-/
import Hydration.Text.Cut
import Mathlib.Data.List.Infix

namespace Hydration.Text

variable {limit : Nat} {c : Char} {cs : List Char}

theorem size_cons (c : Char) (cs : List Char) :
    (String.ofList (c :: cs)).utf8ByteSize = c.utf8Size + (String.ofList cs).utf8ByteSize := by
  rw [String.ofList_cons, String.utf8ByteSize_append, String.utf8ByteSize_singleton]

-- ============================================================ one character after another

theorem takeBytes_of_fits (h : c.utf8Size ≤ limit) :
    takeBytes limit (c :: cs) = c :: takeBytes (limit - c.utf8Size) cs := if_pos h

theorem takeBytes_of_not_fits (h : ¬ c.utf8Size ≤ limit) : takeBytes limit (c :: cs) = [] := if_neg h

theorem beginning_takeBytes (limit : Nat) (cs : List Char) : takeBytes limit cs <+: cs := by
  induction cs generalizing limit with
  | nil => exact List.prefix_refl []
  | cons c cs ih =>
      by_cases h : c.utf8Size ≤ limit
      · rw [takeBytes_of_fits h]
        exact List.cons_prefix_cons.2 ⟨rfl, ih _⟩
      · rw [takeBytes_of_not_fits h]
        exact List.nil_prefix

theorem size_takeBytes_le (limit : Nat) (cs : List Char) :
    (String.ofList (takeBytes limit cs)).utf8ByteSize ≤ limit := by
  induction cs generalizing limit with
  | nil => exact Nat.zero_le limit
  | cons c cs ih =>
      by_cases h : c.utf8Size ≤ limit
      · have hrest := ih (limit - c.utf8Size)
        rw [takeBytes_of_fits h, size_cons]
        omega
      · rw [takeBytes_of_not_fits h]
        exact Nat.zero_le limit

/-- Every beginning that fits is a beginning of what is kept. -/
theorem prefix_takeBytes {start : List Char} (hstart : start <+: cs)
    (hfits : (String.ofList start).utf8ByteSize ≤ limit) : start <+: takeBytes limit cs := by
  induction cs generalizing limit start with
  | nil => exact hstart
  | cons c cs ih =>
      cases start with
      | nil => exact List.nil_prefix
      | cons d rest =>
          obtain ⟨rfl, hrest⟩ := List.cons_prefix_cons.1 hstart
          rw [size_cons] at hfits
          have hfirst : d.utf8Size ≤ limit := by omega
          rw [takeBytes_of_fits hfirst]
          exact List.cons_prefix_cons.2 ⟨rfl, ih hrest (by omega)⟩

/-- Where something is left out, it is for less than the room of one character. -/
theorem lt_size_takeBytes (h : limit < (String.ofList cs).utf8ByteSize) :
    limit < (String.ofList (takeBytes limit cs)).utf8ByteSize + 4 := by
  induction cs generalizing limit with
  | nil => exact absurd h (Nat.not_lt_zero limit)
  | cons c cs ih =>
      rw [size_cons] at h
      by_cases hfirst : c.utf8Size ≤ limit
      · have hrest := @ih (limit - c.utf8Size) (by omega)
        rw [takeBytes_of_fits hfirst, size_cons]
        omega
      · rw [takeBytes_of_not_fits hfirst]
        have hlarge := c.utf8Size_le_four
        omega

-- ============================================================ the cut

/-- The longest beginning of a text that takes at most so many bytes. -/
structure LongestStart (limit : Nat) (s start : String) : Prop where
  beginning : start.toList <+: s.toList
  fits : start.utf8ByteSize ≤ limit
  longest : ∀ other : String, other.toList <+: s.toList → other.utf8ByteSize ≤ limit →
    other.toList <+: start.toList
  /-- A text that fits is kept whole, and of any other nearly as much as fits. -/
  whole : s.utf8ByteSize ≤ limit → start = s
  nearly : limit < s.utf8ByteSize → limit < start.utf8ByteSize + 4
  again : truncate limit start = start

theorem truncate_of_fits {s : String} (h : s.utf8ByteSize ≤ limit) : truncate limit s = s := by
  have hall : s.toList <+: takeBytes limit s.toList :=
    prefix_takeBytes (List.prefix_refl s.toList) (by rwa [String.ofList_toList])
  unfold truncate
  rw [(beginning_takeBytes limit s.toList).eq_of_length_le hall.length_le, String.ofList_toList]

theorem longestStart_truncate (limit : Nat) (s : String) : LongestStart limit s (truncate limit s) where
  beginning := by
    unfold truncate
    rw [String.toList_ofList]
    exact beginning_takeBytes limit s.toList
  fits := size_takeBytes_le limit s.toList
  longest := by
    intro other hother hfits
    unfold truncate
    rw [String.toList_ofList]
    exact prefix_takeBytes hother (by rwa [String.ofList_toList])
  whole := truncate_of_fits
  nearly := by
    intro h
    exact lt_size_takeBytes (by rwa [String.ofList_toList])
  again := truncate_of_fits (size_takeBytes_le limit s.toList)

/-- A text comes out of a cut exactly if it fits. -/
theorem exists_truncate_eq_iff {s : String} : (∃ t, truncate limit t = s) ↔ s.utf8ByteSize ≤ limit := by
  constructor
  · intro h
    obtain ⟨t, rfl⟩ := h
    exact (longestStart_truncate limit t).fits
  · intro h
    exact ⟨s, truncate_of_fits h⟩

end Hydration.Text
