/-
Texts cut in two, said by what the two parts are: where a run of characters ends (`cut_iff`), behind a given
beginning, before a given end, and without the blanks around them (`trimChars_eq_iff`). What a reader cuts
off is then put together again by `++` alone, and no proof about a reader looks at how it walks.
-/
import Hydration.Text.Cut
import Mathlib.Data.List.TakeWhile

namespace Hydration.Text

-- ============================================================ runs

/-- A text is cut where its first run ends: before only characters of the run, behind no further one. -/
theorem cut_iff {p : Char → Bool} {cs front rest : List Char} :
    cs.takeWhile p = front ∧ cs.dropWhile p = rest ↔
      cs = front ++ rest ∧ (∀ c ∈ front, p c = true) ∧ ∀ c, rest.head? = some c → p c = false := by
  constructor
  · rintro ⟨rfl, rfl⟩
    refine ⟨List.takeWhile_append_dropWhile.symm, ?_, ?_⟩
    · exact List.all_eq_true.1 (List.all_takeWhile ..)
    · intro c hc
      have hnot := List.head?_dropWhile_not p cs
      rw [hc] at hnot
      exact hnot
  · rintro ⟨rfl, hfront, hrest⟩
    rw [List.takeWhile_append_of_pos hfront, List.dropWhile_append_of_pos hfront]
    cases rest with
    | nil => simp
    | cons c rest => simp [hrest c rfl]

theorem exists_cut (p : Char → Bool) (cs : List Char) :
    ∃ front, cs = front ++ cs.dropWhile p ∧ (∀ c ∈ front, p c = true) ∧
      ∀ c, (cs.dropWhile p).head? = some c → p c = false :=
  ⟨cs.takeWhile p, cut_iff.1 ⟨rfl, rfl⟩⟩

-- ============================================================ beginnings and ends

theorem stripStart?_eq_some_iff {start text rest : List Char} :
    stripStart? start text = some rest ↔ text = start ++ rest := by
  induction start generalizing text with
  | nil => simp [stripStart?, eq_comm]
  | cons c start ih =>
      cases text with
      | nil => simp [stripStart?]
      | cons d text =>
          unfold stripStart?
          by_cases h : c = d
          · rw [if_pos h, ih, h]
            simp
          · rw [if_neg h]
            simp [Ne.symm h]

theorem stripEnd?_eq_some_iff {ending text front : List Char} :
    stripEnd? ending text = some front ↔ text = front ++ ending := by
  unfold stripEnd?
  rw [Option.map_eq_some_iff]
  constructor
  · rintro ⟨rest, hrest, rfl⟩
    rw [stripStart?_eq_some_iff] at hrest
    simpa using congrArg List.reverse hrest
  · rintro rfl
    refine ⟨front.reverse, ?_, List.reverse_reverse front⟩
    rw [stripStart?_eq_some_iff, List.reverse_append]

-- ============================================================ blanks around a text

/-- Nothing but blanks. -/
def Blanks (cs : List Char) : Prop := ∀ c ∈ cs, isBlank c = true

theorem blanks_nil : Blanks [] := fun _ h => absurd h List.not_mem_nil

theorem Blanks.append {cs ds : List Char} (hcs : Blanks cs) (hds : Blanks ds) : Blanks (cs ++ ds) := by
  intro c hc
  rcases List.mem_append.1 hc with hc | hc
  · exact hcs c hc
  · exact hds c hc

theorem Blanks.reverse {cs : List Char} (h : Blanks cs) : Blanks cs.reverse := by
  intro c hc
  exact h c (List.mem_reverse.1 hc)

/-- A text without a blank at either end. -/
structure Tight (cs : List Char) : Prop where
  head : ∀ c, cs.head? = some c → isBlank c = false
  last : ∀ c, cs.getLast? = some c → isBlank c = false

theorem Tight.reverse {cs : List Char} (h : Tight cs) : Tight cs.reverse := by
  constructor
  · intro c hc
    exact h.last c (by rwa [List.head?_reverse] at hc)
  · intro c hc
    exact h.head c (by rwa [List.getLast?_reverse] at hc)

/-- Dropping the blanks in front stops at the core, or, where there is none, passes everything. -/
theorem dropWhile_blanks {before core after : List Char} (hbefore : Blanks before) (hafter : Blanks after)
    (hcore : ∀ c, core.head? = some c → isBlank c = false) :
    ∃ behind, (before ++ core ++ after).dropWhile isBlank = core ++ behind ∧ Blanks behind := by
  cases core with
  | nil =>
      refine ⟨[], ?_, blanks_nil⟩
      rw [List.append_nil, List.append_nil]
      exact List.dropWhile_eq_nil_iff.2 (hbefore.append hafter)
  | cons c core =>
      refine ⟨after, ?_, hafter⟩
      rw [List.append_assoc, List.dropWhile_append_of_pos hbefore]
      exact List.dropWhile_cons_of_neg (by simp [hcore c rfl])

/-- Trimming takes away blanks at both ends, and all that there are. -/
theorem trimChars_eq_iff {cs core : List Char} :
    trimChars cs = core ↔
      ∃ before after, cs = before ++ core ++ after ∧ Blanks before ∧ Blanks after ∧ Tight core := by
  unfold trimChars
  constructor
  · rintro rfl
    obtain ⟨before, hfront, hbefore, hhead⟩ := exists_cut isBlank cs
    obtain ⟨after, hback, hafter, hlast⟩ := exists_cut isBlank (cs.dropWhile isBlank).reverse
    have hrest : cs.dropWhile isBlank =
        ((cs.dropWhile isBlank).reverse.dropWhile isBlank).reverse ++ after.reverse := by
      rw [← List.reverse_append, ← hback, List.reverse_reverse]
    refine ⟨before, after.reverse, ?_, hbefore, Blanks.reverse hafter, ?_, ?_⟩
    · rw [List.append_assoc, ← hrest]
      exact hfront
    · intro c hc
      apply hhead
      rw [hrest, List.head?_append, hc, Option.some_or]
    · intro c hc
      rw [List.getLast?_reverse] at hc
      exact hlast c hc
  · rintro ⟨before, after, rfl, hbefore, hafter, htight⟩
    obtain ⟨behind, hdrop, hbehind⟩ := dropWhile_blanks hbefore hafter htight.head
    rw [hdrop, List.reverse_append]
    have hback : (behind.reverse ++ core.reverse).dropWhile isBlank = core.reverse :=
      (cut_iff.2 ⟨rfl, hbehind.reverse, htight.reverse.head⟩).2
    rw [hback, List.reverse_reverse]

theorem tight_trim (s : String) : Tight (trim s).toList := by
  obtain ⟨_, _, -, -, -, htight⟩ := trimChars_eq_iff.1 (Eq.refl (trimChars s.toList))
  unfold trim
  rw [String.toList_ofList]
  exact htight

/-- There is nothing to be taken away from a text without blanks around it. -/
theorem trim_of_tight {s : String} (h : Tight s.toList) : trim s = s := by
  have hchars : trimChars s.toList = s.toList :=
    trimChars_eq_iff.2 ⟨[], [], by simp, blanks_nil, blanks_nil, h⟩
  unfold trim
  rw [hchars, String.ofList_toList]

theorem trim_trim (s : String) : trim (trim s) = trim s := trim_of_tight (tight_trim s)

/-- Nothing is left exactly of a blank text. -/
theorem trim_eq_empty_iff {s : String} : trim s = "" ↔ isAllBlank s = true := by
  have hempty : trim s = "" ↔ trimChars s.toList = [] := by
    unfold trim
    rw [← String.toList_inj, String.toList_ofList]
    rfl
  have hblanks : isAllBlank s = true ↔ Blanks s.toList := List.all_eq_true
  rw [hempty, hblanks, trimChars_eq_iff]
  constructor
  · intro h
    obtain ⟨before, after, hs, hbefore, hafter, -⟩ := h
    rw [hs, List.append_nil]
    exact hbefore.append hafter
  · intro h
    exact ⟨s.toList, [], by simp, h, blanks_nil, nofun, nofun⟩

end Hydration.Text
