/-
Whole numbers in text. What a number looks like is said without the reader (`Numeral`): decimal digits, at
least one, and at most one plus sign before them; leading zeros count for nothing. The reader accepts these and
no others, and refuses what reaches its limit (`natBelow?_iff`), so the number of a text is unique.
-/
import Hydration.Text.Numeral
import Hydration.Proofs.Text.Lowercase
import Hydration.Proofs.Text.Cut

namespace Hydration.Text

-- ============================================================ digits

theorem digitValue?_iff {c : Char} {n : Nat} :
    digitValue? 10 c = some n ↔ ('0' ≤ c ∧ c ≤ '9') ∧ n = c.toNat - '0'.toNat := by
  unfold digitValue?
  dsimp only
  by_cases hdigit : '0' ≤ c ∧ c ≤ '9'
  · have hle : c.toNat ≤ 57 := UInt32.le_iff_toNat_le.1 (Char.le_def.1 hdigit.2)
    have hlt : c.toNat - '0'.toNat < 10 := by
      show c.toNat - 48 < 10
      omega
    rw [if_pos hdigit, if_pos hlt, Option.some.injEq, eq_comm]
    exact (and_iff_right hdigit).symm
  · rw [if_neg hdigit]
    have hlarge : ¬ (if 'a' ≤ c ∧ c ≤ 'z' then c.toNat - 'a'.toNat + 10
        else if 'A' ≤ c ∧ c ≤ 'Z' then c.toNat - 'A'.toNat + 10 else 10) < 10 := by
      split
      · omega
      · split <;> omega
    rw [if_neg hlarge]
    exact iff_of_false nofun fun h => hdigit h.1

theorem digitsValue?_iff {cs : List Char} {value n : Nat} :
    digitsValue? 10 value cs = some n ↔
      (∀ c ∈ cs, '0' ≤ c ∧ c ≤ '9') ∧ n = Nat.ofDigitChars 10 cs value := by
  induction cs generalizing value with
  | nil => simp [digitsValue?, eq_comm]
  | cons c cs ih =>
      rw [digitsValue?, List.forall_mem_cons, Nat.ofDigitChars_cons]
      cases hc : digitValue? 10 c with
      | none =>
          have hnot : ¬ ('0' ≤ c ∧ c ≤ '9') := by
            intro hdigit
            cases hc.symm.trans (digitValue?_iff.2 ⟨hdigit, rfl⟩)
          simp [hnot]
      | some digit =>
          obtain ⟨hdigit, rfl⟩ := digitValue?_iff.1 hc
          simp only [ih, hdigit, true_and, and_self, Nat.mul_comm value 10]

-- ============================================================ numbers

/-- A whole number as people write it. -/
inductive Numeral : List Char → Nat → Prop
  | plain {digits : List Char} : digits ≠ [] → (∀ c ∈ digits, '0' ≤ c ∧ c ≤ '9') →
      Numeral digits (Nat.ofDigitChars 10 digits 0)
  | plus {digits : List Char} : digits ≠ [] → (∀ c ∈ digits, '0' ≤ c ∧ c ≤ '9') →
      Numeral ('+' :: digits) (Nat.ofDigitChars 10 digits 0)

theorem natOfDigits?_iff {digits : List Char} {n : Nat} :
    natOfDigits? 10 digits = some n ↔
      digits ≠ [] ∧ (∀ c ∈ digits, '0' ≤ c ∧ c ≤ '9') ∧ n = Nat.ofDigitChars 10 digits 0 := by
  unfold natOfDigits?
  cases digits with
  | nil => simp
  | cons c cs =>
      rw [List.isEmpty_cons, if_neg Bool.false_ne_true, digitsValue?_iff]
      simp

/-- What is left of a text without a plus sign in front. -/
def unsigned : List Char → List Char
  | '+' :: rest => rest
  | cs => cs

theorem unsigned_of_ne {c : Char} (h : c ≠ '+') (cs : List Char) : unsigned (c :: cs) = c :: cs := by
  unfold unsigned
  split
  · next heq => exact absurd (List.cons.inj heq).1 h
  · rfl

theorem numeral_iff {cs : List Char} {n : Nat} :
    Numeral cs n ↔ natOfDigits? 10 (unsigned cs) = some n := by
  rw [natOfDigits?_iff]
  constructor
  · rintro (⟨hne, hdigits⟩ | ⟨hne, hdigits⟩)
    · obtain ⟨c, rest, rfl⟩ := List.exists_cons_of_ne_nil hne
      have hplus : c ≠ '+' := by
        rintro rfl
        exact absurd (hdigits _ (List.mem_cons_self ..)) (by decide)
      rw [unsigned_of_ne hplus]
      exact ⟨hne, hdigits, rfl⟩
    · exact ⟨hne, hdigits, rfl⟩
  · rintro ⟨hne, hdigits, rfl⟩
    cases cs with
    | nil => exact absurd rfl hne
    | cons c rest =>
        by_cases hplus : c = '+'
        · subst hplus
          exact .plus hne hdigits
        · rw [unsigned_of_ne hplus] at hne hdigits ⊢
          exact .plain hne hdigits

theorem natBelow?_eq (limit : Nat) (cs : List Char) :
    natBelow? limit cs = (natOfDigits? 10 (unsigned cs)).filter (· < limit) := by
  cases cs with
  | nil => rfl
  | cons c rest =>
      by_cases hplus : c = '+'
      · subst hplus
        cases hvalue : natOfDigits? 10 rest with
        | none => simp [natBelow?, unsigned, hvalue]
        | some n => simp [natBelow?, unsigned, hvalue, Option.filter]
      · rw [unsigned_of_ne hplus]
        cases hvalue : natOfDigits? 10 (c :: rest) with
        | none => simp [natBelow?, hplus, hvalue]
        | some n => simp [natBelow?, hplus, hvalue, Option.filter]

/-- A number is read from a text exactly if the text is one and the number stays below the limit. -/
theorem natBelow?_iff {limit n : Nat} {cs : List Char} :
    natBelow? limit cs = some n ↔ Numeral cs n ∧ n < limit := by
  rw [natBelow?_eq, Option.filter_eq_some_iff, numeral_iff, decide_eq_true_eq]

/-- A text denotes one number at most. -/
theorem Numeral.unique {cs : List Char} {n m : Nat} (hn : Numeral cs n) (hm : Numeral cs m) : n = m := by
  rw [numeral_iff] at hn hm
  exact Option.some.inj (hn.symm.trans hm)

theorem numeral_decimal (n : Nat) : Numeral (decimal n).toList n := by
  have hdigits : ∀ c ∈ Nat.toDigits 10 n, '0' ≤ c ∧ c ≤ '9' := by
    intro c hc
    have hdigit := Nat.isDigit_of_mem_toDigits (by decide) (by decide) hc
    simpa [Char.isDigit, Char.le_def] using hdigit
  have hnumeral := Numeral.plain Nat.toDigits_ne_nil hdigits
  rwa [Nat.ofDigitChars_ten_toDigits, ← String.toList_ofList (l := Nat.toDigits 10 n)] at hnumeral

-- ============================================================ characters of numbers

theorem Numeral.ne_nil {cs : List Char} {n : Nat} (h : Numeral cs n) : cs ≠ [] := by
  cases h with
  | plain hne => exact hne
  | plus => exact List.cons_ne_nil _ _

theorem Numeral.mem {cs : List Char} {n : Nat} (h : Numeral cs n) :
    ∀ c ∈ cs, c = '+' ∨ '0' ≤ c ∧ c ≤ '9' := by
  intro c hc
  cases h with
  | plain _ hdigits => exact .inr (hdigits c hc)
  | plus _ hdigits =>
      rcases List.mem_cons.1 hc with hc | hc
      · exact .inl hc
      · exact .inr (hdigits c hc)

theorem Numeral.toNat_mem {cs : List Char} {n : Nat} (h : Numeral cs n) :
    ∀ c ∈ cs, 43 ≤ c.toNat ∧ c.toNat ≤ 57 := by
  intro c hc
  rcases h.mem c hc with rfl | ⟨hlow, hhigh⟩
  · decide
  · have hlow : 48 ≤ c.toNat := UInt32.le_iff_toNat_le.1 (Char.le_def.1 hlow)
    exact ⟨by omega, UInt32.le_iff_toNat_le.1 (Char.le_def.1 hhigh)⟩

theorem Numeral.not_blank {cs : List Char} {n : Nat} (h : Numeral cs n) :
    ∀ c ∈ cs, isBlank c = false := by
  intro c hc
  have hrange := h.toNat_mem c hc
  simp only [isBlank, Bool.or_eq_false_iff, Bool.and_eq_false_iff, decide_eq_false_iff_not,
    beq_eq_false_iff_ne]
  omega

theorem Numeral.caseless {cs : List Char} {n : Nat} (h : Numeral cs n) : ∀ c ∈ cs, Caseless c := by
  intro c hc
  rcases h.mem c hc with rfl | hdigit
  · exact caseless_plus
  · exact caseless_of_digit hdigit

end Hydration.Text
