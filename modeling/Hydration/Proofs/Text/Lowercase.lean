/-
What writing a text in small letters can and cannot change.

# One character

A character is mapped in one of three ways (`Lowering`): within ASCII as everybody knows it, beyond it not at all,
or from one letter to another. The tables of letters keep clear of the blanks and lead back to ASCII only for the
sign of the kelvin, which becomes a `k` (`tidy_of_mem`). So blanks, digits and signs come from
themselves alone (`Caseless`), and other small letters of ASCII only from letters of ASCII
(`lowerChar_eq_iff`).

# A whole text

Only two letters depend on what is around them or become more than one. A text without their small forms
has them not, and is written in small letters one character at a time (`lowerFrom_eq_iff`).
-/
import Hydration.Text.Lowercase
import Hydration.Text.Cut

namespace Hydration.Text

-- ============================================================ the table

/-- No blank lies in this range of characters beyond ASCII. -/
def ClearOfBlanks (first last : Nat) : Prop :=
  0xA0 < first ∧ (last < 0x1680 ∨ 0x1680 < first) ∧ (last < 0x2000 ∨ 0x205F < first) ∧
    (last < 0x3000 ∨ 0x3000 < first)

instance (first last : Nat) : Decidable (ClearOfBlanks first last) :=
  inferInstanceAs (Decidable (_ ∧ _))

/-- A run of capitals from letters to letters. -/
structure CapitalRun.Tidy (r : CapitalRun) : Prop where
  capitals : ClearOfBlanks r.first r.last
  smalls : ClearOfBlanks r.small (r.small + (r.last - r.first)) ∨ r.small = 0x6B ∧ r.first = r.last
  isChars : r.small + (r.last - r.first) < 0xD800 ∨
    0xDFFF < r.small ∧ r.small + (r.last - r.first) < 0x110000

theorem CapitalRun.tidy_iff (r : CapitalRun) :
    r.Tidy ↔ ClearOfBlanks r.first r.last ∧
      (ClearOfBlanks r.small (r.small + (r.last - r.first)) ∨ r.small = 0x6B ∧ r.first = r.last) ∧
      (r.small + (r.last - r.first) < 0xD800 ∨
        0xDFFF < r.small ∧ r.small + (r.last - r.first) < 0x110000) :=
  ⟨fun h => ⟨h.capitals, h.smalls, h.isChars⟩, fun ⟨capitals, smalls, isChars⟩ => ⟨capitals, smalls, isChars⟩⟩

instance (r : CapitalRun) : Decidable r.Tidy := decidable_of_iff _ r.tidy_iff.symm

theorem tidy_of_mem : ∀ r ∈ capitalRuns, r.Tidy := by
  decide +kernel

theorem isBlank_of_clear {first last : Nat} {c : Char} (h : ClearOfBlanks first last)
    (hfirst : first ≤ c.toNat) (hlast : c.toNat ≤ last) : isBlank c = false := by
  obtain ⟨h1, h2, h3, h4⟩ := h
  simp only [isBlank, Bool.or_eq_false_iff, Bool.and_eq_false_iff, decide_eq_false_iff_not, beq_eq_false_iff_ne]
  omega

-- ============================================================ one character

/-- What holds of all characters of ASCII can be tried. -/
theorem ascii_induction {P : Char → Prop} (h : ∀ n : Fin 128, P (Char.ofNat n)) {c : Char}
    (hc : c.toNat < 128) : P c := by
  have hchar := h ⟨c.toNat, hc⟩
  rwa [Char.ofNat_toNat] at hchar

theorem toLower_of_beyond {c : Char} (h : 128 ≤ c.toNat) : c.toLower = c := by
  unfold Char.toLower
  rw [dif_neg]
  rintro ⟨-, hle⟩
  have hle : c.toNat ≤ 90 := UInt32.le_iff_toNat_le.1 hle
  omega

theorem isBlank_toLower {c : Char} (h : c.toNat < 128) : isBlank c.toLower = isBlank c :=
  ascii_induction (P := fun c => isBlank c.toLower = isBlank c) (by decide) h

theorem CapitalRun.Tidy.small {r : CapitalRun} (h : r.Tidy) {offset : Nat} (hle : offset ≤ r.last - r.first) :
    isBlank (Char.ofNat (r.small + offset)) = false ∧
      (Char.ofNat (r.small + offset) = 'k' ∨ 128 ≤ (Char.ofNat (r.small + offset)).toNat) := by
  have hvalid : (r.small + offset).isValidChar := by
    rcases h.isChars with hlow | ⟨hlow, hhigh⟩
    · exact .inl (by omega)
    · exact .inr ⟨by omega, by omega⟩
  have hnat : (Char.ofNat (r.small + offset)).toNat = r.small + offset := by
    rw [Char.ofNat, dif_pos hvalid]
    rfl
  rcases h.smalls with hclear | ⟨hkelvin, hsingle⟩
  · have hbeyond : 0xA0 < r.small := hclear.1
    exact ⟨isBlank_of_clear hclear (by omega) (by omega), .inr (by omega)⟩
  · have hk : Char.ofNat (r.small + offset) = 'k' := by
      rw [hkelvin, show offset = 0 by omega]
    rw [hk]
    exact ⟨by decide, .inl rfl⟩

/-- The ways in which a character is written small. -/
inductive Lowering (c : Char) : Char → Prop
  | ascii : c.toNat < 128 → Lowering c c.toLower
  | same : 128 ≤ c.toNat → Lowering c c
  | letter {d : Char} : 128 ≤ c.toNat → isBlank c = false → isBlank d = false →
      d = 'k' ∨ 128 ≤ d.toNat → Lowering c d

theorem lowering_lowerChar (c : Char) : Lowering c (lowerChar c) := by
  unfold lowerChar
  split
  · next h => exact .ascii h
  · next h =>
      have hbeyond : 128 ≤ c.toNat := Nat.le_of_not_lt h
      split
      · next n hn =>
          obtain ⟨r, hmem, hsmall⟩ := List.exists_of_findSome?_eq_some hn
          have htidy := tidy_of_mem r hmem
          unfold CapitalRun.small? at hsmall
          split at hsmall
          · next hrange =>
              obtain ⟨hfirst, hlast, -⟩ := hrange
              cases hsmall
              obtain ⟨hblank, htarget⟩ := htidy.small (show c.toNat - r.first ≤ r.last - r.first by omega)
              exact .letter hbeyond (isBlank_of_clear htidy.capitals hfirst hlast) hblank htarget
          · cases hsmall
      · exact .same hbeyond

theorem isBlank_lowerChar (c : Char) : isBlank (lowerChar c) = isBlank c := by
  generalize hd : lowerChar c = d
  have h := lowering_lowerChar c
  rw [hd] at h
  cases h with
  | ascii hascii => exact isBlank_toLower hascii
  | same => rfl
  | letter _ hc hblank => rw [hc, hblank]

/-- The small letters of ASCII come from ASCII, but for the sign of the kelvin. -/
theorem lowerChar_eq_iff {c d : Char} (hd : d.toNat < 128) (hk : d ≠ 'k') :
    lowerChar c = d ↔ c.toLower = d := by
  constructor
  · rintro rfl
    generalize hd' : lowerChar c = d at *
    have h := lowering_lowerChar c
    rw [hd'] at h
    cases h with
    | ascii => rfl
    | same hbeyond => exact toLower_of_beyond hbeyond
    | letter _ _ _ htarget =>
        rcases htarget with rfl | hbeyond
        · exact absurd rfl hk
        · omega
  · rintro rfl
    have hascii : c.toNat < 128 := by
      rcases Nat.lt_or_ge c.toNat 128 with hascii | hbeyond
      · exact hascii
      · rwa [toLower_of_beyond hbeyond] at hd
    rw [lowerChar, if_pos hascii]

/-- A character that no other one is written small as. -/
def Caseless (d : Char) : Prop := ∀ c, lowerChar c = d ↔ c = d

theorem caseless_of_not_alpha {d : Char} (hd : d.toNat < 128) (halpha : d.isAlpha = false) : Caseless d := by
  intro c
  have hk : d ≠ 'k' := by
    rintro rfl
    cases halpha
  rw [lowerChar_eq_iff hd hk]
  rcases Nat.lt_or_ge c.toNat 128 with hascii | hbeyond
  · have hkeeps : (c.toLower.isAlpha = false → c.toLower = c) ∧ (c.isAlpha = false → c.toLower = c) :=
      ascii_induction (P := fun c => (c.toLower.isAlpha = false → c.toLower = c) ∧
        (c.isAlpha = false → c.toLower = c)) (by decide) hascii
    constructor
    · rintro rfl
      exact (hkeeps.1 halpha).symm
    · rintro rfl
      exact hkeeps.2 halpha
  · rw [toLower_of_beyond hbeyond]

theorem caseless_of_digit {d : Char} (h : '0' ≤ d ∧ d ≤ '9') : Caseless d := by
  have hlow : 48 ≤ d.toNat := UInt32.le_iff_toNat_le.1 (Char.le_def.1 h.1)
  have hhigh : d.toNat ≤ 57 := UInt32.le_iff_toNat_le.1 (Char.le_def.1 h.2)
  have hdigit : ∀ n : Fin 128, 48 ≤ n.val ∧ n.val ≤ 57 → (Char.ofNat n).isAlpha = false := by decide
  have halpha := hdigit ⟨d.toNat, by omega⟩ ⟨hlow, hhigh⟩
  rw [Char.ofNat_toNat] at halpha
  exact caseless_of_not_alpha (by omega) halpha

theorem lowerChar_of_isBlank {c : Char} (h : isBlank c = true) : lowerChar c = c := by
  generalize hd : lowerChar c = d
  have hlowering := lowering_lowerChar c
  rw [hd] at hlowering
  cases hlowering with
  | ascii hascii =>
      exact ascii_induction (P := fun c => isBlank c = true → c.toLower = c) (by decide) hascii h
  | same => rfl
  | letter _ hc => cases h.symm.trans hc

theorem caseless_of_isBlank {d : Char} (hd : isBlank d = true) : Caseless d := by
  intro c
  constructor
  · rintro rfl
    rw [isBlank_lowerChar] at hd
    exact (lowerChar_of_isBlank hd).symm
  · rintro rfl
    exact lowerChar_of_isBlank hd

theorem caseless_plus : Caseless '+' := caseless_of_not_alpha (by decide) (by decide)

/-- Two ways to map characters give a text from the same ones if they do so for each of its characters. -/
theorem map_eq_iff_map_eq {f g : Char → Char} {cs ds : List Char}
    (h : ∀ d ∈ ds, ∀ c, f c = d ↔ g c = d) : cs.map f = ds ↔ cs.map g = ds := by
  induction ds generalizing cs with
  | nil => rw [List.map_eq_nil_iff, List.map_eq_nil_iff]
  | cons d ds ih =>
      obtain ⟨hd, hds⟩ := List.forall_mem_cons.1 h
      cases cs with
      | nil => exact Iff.rfl
      | cons c cs => rw [List.map_cons, List.map_cons, List.cons.injEq, List.cons.injEq, hd c, ih hds]

/-- Characters that no others are written small as stand where they are in the small text. -/
theorem map_lowerChar_eq_iff {cs ds : List Char} (h : ∀ d ∈ ds, Caseless d) :
    cs.map lowerChar = ds ↔ cs = ds := by
  rw [map_eq_iff_map_eq (g := id) h, List.map_id]

-- ============================================================ a whole text

/-- The two capitals that are not written small on their own. -/
def IsApart (c : Char) : Prop := c = 'Σ' ∨ c = 'İ'

theorem lowerFrom_eq_map {before cs : List Char} (h : ∀ c ∈ cs, ¬ IsApart c) :
    lowerFrom before cs = cs.map lowerChar := by
  induction cs generalizing before with
  | nil => rfl
  | cons c cs ih =>
      obtain ⟨hc, hcs⟩ := List.forall_mem_cons.1 h
      obtain ⟨hsigma, hdotted⟩ := not_or.1 hc
      rw [lowerFrom, if_neg hsigma, if_neg hdotted, ih hcs]
      rfl

/-- Blanks, and characters of ASCII but for the `i`, which a dotted capital leaves behind. -/
def Ordinary (d : Char) : Prop := isBlank d = true ∨ d.toNat < 128 ∧ d ≠ 'i'

instance (d : Char) : Decidable (Ordinary d) := inferInstanceAs (Decidable (_ ∨ _))

theorem not_ordinary_lowerSigma (before after : List Char) : ¬ Ordinary (lowerSigma before after) := by
  unfold lowerSigma
  split <;> decide

theorem not_isApart_of_lowerFrom {before cs : List Char} (h : ∀ d ∈ lowerFrom before cs, Ordinary d) :
    ∀ c ∈ cs, ¬ IsApart c := by
  induction cs generalizing before with
  | nil => exact fun _ hc => absurd hc List.not_mem_nil
  | cons c cs ih =>
      rw [lowerFrom] at h
      have hfirst := fun d hd => h d (List.mem_append_left _ hd)
      have hrest := fun d hd => h d (List.mem_append_right _ hd)
      refine List.forall_mem_cons.2 ⟨?_, ih hrest⟩
      rintro (rfl | rfl)
      · rw [if_pos rfl] at hfirst
        exact not_ordinary_lowerSigma _ _ (hfirst _ (List.mem_singleton_self _))
      · rw [if_neg (by decide), if_pos rfl] at hfirst
        exact absurd (hfirst 'i' (List.mem_cons_self ..)) (by decide)

/-- An ordinary text is the small form of what it comes from one character at a time. -/
theorem lowerFrom_eq_iff {before cs ds : List Char} (h : ∀ d ∈ ds, Ordinary d) :
    lowerFrom before cs = ds ↔ cs.map lowerChar = ds := by
  constructor
  · rintro rfl
    exact (lowerFrom_eq_map (not_isApart_of_lowerFrom h)).symm
  · rintro rfl
    apply lowerFrom_eq_map
    intro c hc happart
    have hordinary := h _ (List.mem_map_of_mem hc)
    rcases happart with rfl | rfl
    · exact absurd hordinary (by decide +kernel)
    · exact absurd hordinary (by decide +kernel)

end Hydration.Text
