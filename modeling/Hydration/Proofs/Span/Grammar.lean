/-
Which texts are spans.

# The grammar

A span is written as a number and a unit, with blanks around them and between them, the unit in letters of any
size (`Span.Written`). This is said of the text as it stands: nothing is trimmed or written small first. That
reading does both changes nothing, since no other letters become those of a unit (`written_iff`).

# What the reader says

The unit is the one at the end of the text, where an `s` behind an `m` belongs to it (`splitUnit?_eq_some_iff`). So a
text has one number and one unit at most, and of four answers exactly one is given: the span, or
which of the three conditions fails first.
-/
import Hydration.Span.Text
import Hydration.Proofs.Text.Numeral
import Mathlib.Data.List.Basic

namespace Hydration

open Text (Blanks Tight Numeral)

-- ============================================================ units

namespace TimeUnit

/-- How many nanoseconds one of the unit has. -/
def nanos : TimeUnit → Nat
  | millisecond => nanosPerMilli
  | second => nanosPerSecond
  | minute => 60 * nanosPerSecond
  | hour => 3600 * nanosPerSecond

/-- So many of the unit can be read: the number is a word, and for minutes and hours so are the seconds. -/
def Fits (n : Nat) : TimeUnit → Prop
  | millisecond | second => n < Text.wordLimit
  | minute => n < Text.wordLimit ∧ n * 60 < Text.wordLimit
  | hour => n < Text.wordLimit ∧ n * 3600 < Text.wordLimit

theorem mem_suffix {unit : TimeUnit} {c : Char} (h : c ∈ unit.suffix.toList) : c = 'm' ∨ c = 's' ∨ c = 'h' := by
  cases unit with
  | millisecond =>
      simp [suffix] at h
      rcases h with rfl | rfl
      · exact .inl rfl
      · exact .inr (.inl rfl)
  | second | minute | hour =>
      simp [suffix] at h
      simp [h]

end TimeUnit

namespace Span

/-- A text that says so many of a unit. -/
def Written (s : String) (n : Nat) (unit : TimeUnit) : Prop :=
  ∃ before number gap letters after, s.toList = before ++ (number ++ gap ++ letters) ++ after ∧
    Blanks before ∧ Numeral number n ∧ Blanks gap ∧
      letters.map Char.toLower = unit.suffix.toList ∧ Blanks after

/-- A text whose last character is that of a unit. -/
def EndsInUnit (text : String) : Prop := ∃ c ∈ ['m', 's', 'h'], text.toList.getLast? = some c

-- ============================================================ the unit at the end

theorem stripEnd?_of_last_ne {ending text : List Char} {c : Char} (hending : ending.getLast? = some c)
    (h : text.getLast? ≠ some c) : Text.stripEnd? ending text = none := by
  rw [Option.eq_none_iff_forall_ne_some]
  intro front hfront
  apply h
  rw [Text.stripEnd?_eq_some_iff.1 hfront, List.getLast?_append, hending, Option.some_or]

theorem last_of_suffix (number : List Char) (unit : TimeUnit) :
    (number ++ unit.suffix.toList).getLast? =
      some (match unit with
        | .millisecond | .second => 's'
        | .minute => 'm'
        | .hour => 'h') := by
  cases unit <;> simp [TimeUnit.suffix]

/-- The text before a unit and the unit are found again; seconds only where no `m` stands before them. -/
theorem splitUnit?_of_append (number : List Char) (unit : TimeUnit)
    (h : unit = .second → number.getLast? ≠ some 'm') :
    splitUnit? (number ++ unit.suffix.toList) = some (number, unit) := by
  have hunit : Text.stripEnd? unit.suffix.toList (number ++ unit.suffix.toList) = some number :=
    Text.stripEnd?_eq_some_iff.2 rfl
  have hlast := last_of_suffix number unit
  have hother : ∀ other c, other.suffix.toList.getLast? = some c →
      (number ++ unit.suffix.toList).getLast? ≠ some c →
        Text.stripEnd? (TimeUnit.suffix other).toList (number ++ unit.suffix.toList) = none := by
    intro other c hc hne
    exact stripEnd?_of_last_ne hc hne
  cases unit with
  | millisecond =>
      simp only [splitUnit?, TimeUnit.all, List.findSome?_cons, hunit, Option.map_some]
  | second =>
      have hmilli : Text.stripEnd? TimeUnit.millisecond.suffix.toList
          (number ++ TimeUnit.second.suffix.toList) = none := by
        rw [Option.eq_none_iff_forall_ne_some]
        intro front hfront
        apply h rfl
        have happend : number ++ ['s'] = (front ++ ['m']) ++ ['s'] := by
          rw [List.append_assoc]
          exact Text.stripEnd?_eq_some_iff.1 hfront
        rw [List.append_cancel_right happend]
        simp
      simp only [splitUnit?, TimeUnit.all, List.findSome?_cons, hmilli, hunit, Option.map_some,
        Option.map_none]
  | minute =>
      have hmilli := hother .millisecond 's' rfl (by simp [hlast])
      have hsecond := hother .second 's' rfl (by simp [hlast])
      simp only [splitUnit?, TimeUnit.all, List.findSome?_cons, hmilli, hsecond, hunit, Option.map_some,
        Option.map_none]
  | hour =>
      have hmilli := hother .millisecond 's' rfl (by simp [hlast])
      have hsecond := hother .second 's' rfl (by simp [hlast])
      have hminute := hother .minute 'm' rfl (by simp [hlast])
      simp only [splitUnit?, TimeUnit.all, List.findSome?_cons, hmilli, hsecond, hminute, hunit,
        Option.map_some, Option.map_none]

theorem splitUnit?_eq_some_iff {text number : List Char} {unit : TimeUnit} :
    splitUnit? text = some (number, unit) ↔
      text = number ++ unit.suffix.toList ∧ (unit = .second → number.getLast? ≠ some 'm') := by
  constructor
  · intro h
    obtain ⟨other, -, hother⟩ := List.exists_of_findSome?_eq_some h
    obtain ⟨front, hstrip, hsame⟩ := Option.map_eq_some_iff.1 hother
    cases hsame
    have htext := Text.stripEnd?_eq_some_iff.1 hstrip
    refine ⟨htext, ?_⟩
    intro hsecond hm
    -- an `m` in front would have been taken for milliseconds before
    subst hsecond
    obtain ⟨front, hfront⟩ := List.getLast?_eq_some_iff.1 hm
    have hmilli : splitUnit? (front ++ TimeUnit.millisecond.suffix.toList) = some (front, .millisecond) :=
      splitUnit?_of_append front .millisecond nofun
    have hsame : text = front ++ TimeUnit.millisecond.suffix.toList := by
      rw [htext, hfront, List.append_assoc]
      rfl
    rw [← hsame, h] at hmilli
    cases hmilli
  · rintro ⟨rfl, h⟩
    exact splitUnit?_of_append number unit h

example : splitUnit? "5mms".toList = some ("5m".toList, .millisecond) := by decide

theorem exists_splitUnit? {text : String} (h : EndsInUnit text) :
    ∃ found, splitUnit? text.toList = some found := by
  obtain ⟨c, hc, hlast⟩ := h
  obtain ⟨front, hfront⟩ := List.getLast?_eq_some_iff.1 hlast
  rw [hfront]
  simp only [List.mem_cons, List.not_mem_nil, or_false] at hc
  rcases hc with rfl | rfl | rfl
  · exact ⟨_, splitUnit?_of_append front .minute nofun⟩
  · by_cases hm : front.getLast? = some 'm'
    · obtain ⟨number, hnumber⟩ := List.getLast?_eq_some_iff.1 hm
      rw [hnumber, List.append_assoc]
      exact ⟨_, splitUnit?_of_append number .millisecond nofun⟩
    · exact ⟨_, splitUnit?_of_append front .second fun _ => hm⟩
  · exact ⟨_, splitUnit?_of_append front .hour nofun⟩

theorem splitUnit?_eq_none_iff {text : String} : splitUnit? text.toList = none ↔ ¬ EndsInUnit text := by
  constructor
  · intro hnone hends
    obtain ⟨found, hfound⟩ := exists_splitUnit? hends
    cases hnone.symm.trans hfound
  · intro hnot
    cases hsplit : splitUnit? text.toList with
    | none => rfl
    | some found =>
        obtain ⟨number, unit⟩ := found
        obtain ⟨htext, -⟩ := splitUnit?_eq_some_iff.1 hsplit
        exfalso
        apply hnot
        refine ⟨_, ?_, htext ▸ last_of_suffix number unit⟩
        cases unit <;> simp

-- ============================================================ the text that is read

/-- The text in which the reader looks for a number and a unit. -/
def plain (s : String) : String := Text.lowercase (Text.trim s)

theorem toList_plain (s : String) : (plain s).toList = Text.lowerFrom [] (Text.trimChars s.toList) := by
  simp [plain, Text.lowercase, Text.trim]

theorem lowerChar_suffix_iff {letters : List Char} {unit : TimeUnit} :
    letters.map Text.lowerChar = unit.suffix.toList ↔ letters.map Char.toLower = unit.suffix.toList := by
  apply Text.map_eq_iff_map_eq
  intro d hd c
  rcases TimeUnit.mem_suffix hd with rfl | rfl | rfl
  · exact Text.lowerChar_eq_iff (by decide) (by decide)
  · exact Text.lowerChar_eq_iff (by decide) (by decide)
  · exact Text.lowerChar_eq_iff (by decide) (by decide)

theorem ordinary_suffix (unit : TimeUnit) : ∀ d ∈ unit.suffix.toList, Text.Ordinary d := by
  intro d hd
  rcases TimeUnit.mem_suffix hd with rfl | rfl | rfl <;> decide

theorem ordinary_of_written {number gap : List Char} {n : Nat} {unit : TimeUnit} (hnumber : Numeral number n)
    (hgap : Blanks gap) : ∀ d ∈ number ++ gap ++ unit.suffix.toList, Text.Ordinary d := by
  intro d hd
  rcases List.mem_append.1 hd with hd | hd
  · rcases List.mem_append.1 hd with hd | hd
    · have hrange := hnumber.toNat_mem d hd
      refine .inr ⟨by omega, ?_⟩
      intro hi
      subst hi
      revert hrange
      decide
    · exact .inl (hgap d hd)
  · exact ordinary_suffix unit d hd

theorem tight_number {number : List Char} {n : Nat} (h : Numeral number n) : Tight number := by
  constructor
  · intro c hc
    exact h.not_blank c (List.mem_of_head? hc)
  · intro c hc
    exact h.not_blank c (List.mem_of_getLast? hc)

theorem not_blank_letters {letters : List Char} {unit : TimeUnit}
    (h : letters.map Text.lowerChar = unit.suffix.toList) : ∀ c ∈ letters, Text.isBlank c = false := by
  have hsuffix : ∀ d ∈ unit.suffix.toList, Text.isBlank d = false := by
    intro d hd
    rcases TimeUnit.mem_suffix hd with rfl | rfl | rfl <;> decide
  intro c hc
  rw [← Text.isBlank_lowerChar]
  apply hsuffix
  rw [← h]
  exact List.mem_map_of_mem hc

theorem tight_written {number gap letters : List Char} {n : Nat} {unit : TimeUnit}
    (hnumber : Numeral number n) (hletters : letters.map Text.lowerChar = unit.suffix.toList) :
    Tight (number ++ gap ++ letters) := by
  constructor
  · intro c hc
    obtain ⟨first, rest, hcons⟩ := List.exists_cons_of_ne_nil hnumber.ne_nil
    apply hnumber.not_blank
    rw [hcons] at hc ⊢
    simp at hc
    simp [hc]
  · intro c hc
    have hne : letters ≠ [] := by
      intro hnil
      rw [hnil] at hletters
      revert hletters
      cases unit <;> decide
    apply not_blank_letters hletters
    rw [List.getLast?_append_of_ne_nil _ hne] at hc
    exact List.mem_of_getLast? hc

theorem lowerFrom_written {number gap letters : List Char} {n : Nat} {unit : TimeUnit}
    (hnumber : Numeral number n) (hgap : Blanks gap)
    (hletters : letters.map Text.lowerChar = unit.suffix.toList) :
    Text.lowerFrom [] (number ++ gap ++ letters) = number ++ gap ++ unit.suffix.toList := by
  rw [Text.lowerFrom_eq_iff (ordinary_of_written hnumber hgap), List.map_append, List.map_append,
    (Text.map_lowerChar_eq_iff hnumber.caseless).2 rfl,
    (Text.map_lowerChar_eq_iff fun c hc => Text.caseless_of_isBlank (hgap c hc)).2 rfl, hletters]

theorem last_ne_m {number gap : List Char} {n : Nat} (hnumber : Numeral number n) (hgap : Blanks gap) :
    (number ++ gap).getLast? ≠ some 'm' := by
  intro hm
  rcases List.mem_append.1 (List.mem_of_getLast? hm) with hm | hm
  · exact absurd (hnumber.toNat_mem _ hm) (by decide)
  · exact absurd (hgap _ hm) (by decide)

/-- A text is a span in the grammar exactly if it is one once it is trimmed and in small letters. -/
theorem written_iff {s : String} {n : Nat} {unit : TimeUnit} :
    Written s n unit ↔
      ∃ number, splitUnit? (plain s).toList = some (number, unit) ∧ Numeral (Text.trimChars number) n := by
  constructor
  · rintro ⟨before, number, gap, letters, after, hs, hbefore, hnumber, hgap, hletters, hafter⟩
    have hlower := lowerChar_suffix_iff.2 hletters
    have htrim : Text.trimChars s.toList = number ++ gap ++ letters :=
      Text.trimChars_eq_iff.2 ⟨before, after, hs, hbefore, hafter, tight_written hnumber hlower⟩
    have hplain : (plain s).toList = number ++ gap ++ unit.suffix.toList := by
      rw [toList_plain, htrim, lowerFrom_written hnumber hgap hlower]
    refine ⟨number ++ gap, splitUnit?_eq_some_iff.2 ⟨hplain, fun _ => last_ne_m hnumber hgap⟩, ?_⟩
    have hnumberOnly : Text.trimChars (number ++ gap) = number :=
      Text.trimChars_eq_iff.2 ⟨[], gap, rfl, Text.blanks_nil, hgap, tight_number hnumber⟩
    rwa [hnumberOnly]
  · rintro ⟨text, hsplit, hnumber⟩
    obtain ⟨hplain, -⟩ := splitUnit?_eq_some_iff.1 hsplit
    obtain ⟨front, gap, hcut, hfront, hgap, -⟩ := Text.trimChars_eq_iff.1 (Eq.refl (Text.trimChars text))
    obtain ⟨before, after, hs, hbefore, hafter, -⟩ :=
      Text.trimChars_eq_iff.1 (Eq.refl (Text.trimChars s.toList))
    generalize Text.trimChars text = number at hnumber hcut
    -- the trimmed text comes from the small one character by character
    have hordinary : ∀ d ∈ front ++ (number ++ gap ++ unit.suffix.toList), Text.Ordinary d := by
      intro d hd
      rcases List.mem_append.1 hd with hd | hd
      · exact .inl (hfront d hd)
      · exact ordinary_of_written hnumber hgap d hd
    rw [toList_plain, hcut, List.append_assoc front, List.append_assoc front] at hplain
    have hmap := (Text.lowerFrom_eq_iff hordinary).1 hplain
    obtain ⟨front', rest, htrim, hfront', hrest⟩ := List.map_eq_append_iff.1 hmap
    obtain ⟨rest, letters, rfl, hrest, hletters⟩ := List.map_eq_append_iff.1 hrest
    obtain ⟨number', gap', rfl, hnumber', hgap'⟩ := List.map_eq_append_iff.1 hrest
    have hcaseless : ∀ {cs}, Blanks cs → ∀ c ∈ cs, Text.Caseless c :=
      fun h c hc => Text.caseless_of_isBlank (h c hc)
    obtain rfl := (Text.map_lowerChar_eq_iff (hcaseless hfront)).1 hfront'
    obtain rfl := (Text.map_lowerChar_eq_iff hnumber.caseless).1 hnumber'
    obtain rfl := (Text.map_lowerChar_eq_iff (hcaseless hgap)).1 hgap'
    refine ⟨before ++ front', number', gap', letters, after, ?_, hbefore.append hfront, hnumber, hgap,
      lowerChar_suffix_iff.1 hletters, hafter⟩
    rw [hs, htrim, List.append_assoc before front']

/-- A text says one number and one unit at most. -/
theorem Written.unique {s : String} {n m : Nat} {unit other : TimeUnit} (hn : Written s n unit)
    (hm : Written s m other) : n = m ∧ unit = other := by
  obtain ⟨number, hnumber, hnumeral⟩ := written_iff.1 hn
  obtain ⟨text, htext, hother⟩ := written_iff.1 hm
  cases hnumber.symm.trans htext
  exact ⟨hnumeral.unique hother, rfl⟩

theorem endsInUnit_of_splitUnit? {text : String} {found : List Char × TimeUnit}
    (h : splitUnit? text.toList = some found) : EndsInUnit text := by
  by_contra hnot
  cases h.symm.trans (splitUnit?_eq_none_iff.2 hnot)

theorem Written.endsInUnit {s : String} {n : Nat} {unit : TimeUnit} (h : Written s n unit) :
    EndsInUnit (plain s) := by
  obtain ⟨number, hsplit, -⟩ := written_iff.1 h
  exact endsInUnit_of_splitUnit? hsplit

/-- No number of one word is written where the reader finds none. -/
theorem not_written_of_natBelow? {s : String} {number : List Char} {unit : TimeUnit}
    (hsplit : splitUnit? (plain s).toList = some (number, unit))
    (hnumber : Text.natBelow? Text.wordLimit (Text.trimChars number) = none) :
    ¬ ∃ n unit, Written s n unit ∧ n < Text.wordLimit := by
  rintro ⟨n, other, hwritten, hn⟩
  obtain ⟨text, htext, hnumeral⟩ := written_iff.1 hwritten
  cases hsplit.symm.trans htext
  cases hnumber.symm.trans (Text.natBelow?_iff.2 ⟨hnumeral, hn⟩)

-- ============================================================ the answers

/-- The answers to a text that is to be read as a span. -/
inductive Reading (s : String) : Except SpanFault Span → Prop
  | span {n : Nat} {unit : TimeUnit} {d : Span} : Written s n unit → unit.Fits n →
      d.nanos = n * unit.nanos → Reading s (.ok d)
  /-- The number is fine, and only counted in seconds it is too large. -/
  | range {n : Nat} {unit : TimeUnit} : Written s n unit → n < Text.wordLimit → ¬ unit.Fits n →
      Reading s (.error (.range (plain s)))
  /-- A unit stands at the end, and no number of one word before it. -/
  | number : EndsInUnit (plain s) → (¬ ∃ n unit, Written s n unit ∧ n < Text.wordLimit) →
      Reading s (.error (.number (plain s)))
  | unit : ¬ EndsInUnit (plain s) → Reading s (.error (.unit (plain s)))

theorem eq_of_nanos {d e : Span} (h : d.nanos = e.nanos) : d = e := by
  cases d
  cases e
  cases h
  rfl

theorem fits_lt {n : Nat} {unit : TimeUnit} (h : unit.Fits n) : n < Text.wordLimit := by
  cases unit with
  | millisecond | second => exact h
  | minute | hour => exact h.1

theorem nanos_eq_mul (unit : TimeUnit) : unit.nanos = unit.millis * nanosPerMilli := by
  cases unit <;> rfl

theorem nanos_eq (n : Nat) (unit : TimeUnit) : n * unit.millis * nanosPerMilli = n * unit.nanos := by
  rw [nanos_eq_mul, Nat.mul_assoc]

theorem fits_iff {n : Nat} {unit : TimeUnit} (hn : n < Text.wordLimit) :
    n * unit.nanos < Text.wordLimit * nanosPerSecond ↔ unit.Fits n := by
  cases unit <;>
    simp only [TimeUnit.Fits, TimeUnit.nanos, nanosPerMilli, nanosPerSecond, Text.wordLimit] at hn ⊢ <;>
    omega

theorem ofNanos?_eq_none_iff {nanos : Nat} :
    ofNanos? nanos = none ↔ ¬ nanos < Text.wordLimit * nanosPerSecond := by
  unfold ofNanos?
  split
  · next h => exact iff_of_false nofun (not_not.2 h)
  · next h => exact iff_of_true rfl h

theorem nanos_of_ofNanos? {nanos : Nat} {d : Span} (h : ofNanos? nanos = some d) : d.nanos = nanos := by
  unfold ofNanos? at h
  split at h
  · cases h
    rfl
  · cases h

/-- The reader gives one of the answers. -/
theorem reading_parse (s : String) : Reading s (parse s) := by
  generalize hanswer : parse s = answer
  unfold parse at hanswer
  -- a factor of a million must be out of the way before the matches are reduced
  conv at hanswer in _ * _ * _ => rw [nanos_eq]
  rw [show Text.lowercase (Text.trim s) = plain s from rfl] at hanswer
  cases hsplit : splitUnit? (plain s).toList with
  | none =>
      simp only [hsplit] at hanswer
      subst hanswer
      exact .unit (splitUnit?_eq_none_iff.1 hsplit)
  | some found =>
      obtain ⟨number, unit⟩ := found
      cases hnumber : Text.natBelow? Text.wordLimit (Text.trimChars number) with
      | none =>
          simp only [hsplit, hnumber] at hanswer
          subst hanswer
          exact .number (endsInUnit_of_splitUnit? hsplit) (not_written_of_natBelow? hsplit hnumber)
      | some n =>
          obtain ⟨hnumeral, hn⟩ := Text.natBelow?_iff.1 hnumber
          have hwritten : Written s n unit := written_iff.2 ⟨number, hsplit, hnumeral⟩
          cases hd : ofNanos? (n * unit.nanos) with
          | none =>
              simp only [hsplit, hnumber, hd] at hanswer
              subst hanswer
              rw [ofNanos?_eq_none_iff, fits_iff hn] at hd
              exact .range hwritten hn hd
          | some d =>
              simp only [hsplit, hnumber, hd] at hanswer
              subst hanswer
              have hnanos := nanos_of_ofNanos? hd
              have hfits : unit.Fits n := (fits_iff hn).1 (hnanos ▸ d.nanos_lt)
              exact .span hwritten hfits hnanos

/-- No two answers are given to one text. -/
theorem Reading.unique {s : String} {answer other : Except SpanFault Span} (h : Reading s answer)
    (h' : Reading s other) : answer = other := by
  cases h with
  | span hwritten hfits hnanos =>
      cases h' with
      | span hwritten' hfits' hnanos' =>
          obtain ⟨rfl, rfl⟩ := hwritten.unique hwritten'
          exact congrArg Except.ok (eq_of_nanos (hnanos.trans hnanos'.symm))
      | range hwritten' hn hnot =>
          obtain ⟨rfl, rfl⟩ := hwritten.unique hwritten'
          exact absurd hfits hnot
      | number hends hnone => exact absurd ⟨_, _, hwritten, fits_lt hfits⟩ hnone
      | unit hnot => exact absurd hwritten.endsInUnit hnot
  | range hwritten hn hnot =>
      cases h' with
      | span hwritten' hfits hnanos =>
          obtain ⟨rfl, rfl⟩ := hwritten.unique hwritten'
          exact absurd hfits hnot
      | range => rfl
      | number hends hnone => exact absurd ⟨_, _, hwritten, hn⟩ hnone
      | unit hnot => exact absurd hwritten.endsInUnit hnot
  | number hends hnone =>
      cases h' with
      | span hwritten hfits hnanos => exact absurd ⟨_, _, hwritten, fits_lt hfits⟩ hnone
      | range hwritten hn hnot => exact absurd ⟨_, _, hwritten, hn⟩ hnone
      | number => rfl
      | unit hnot => exact absurd hends hnot
  | unit hnot =>
      cases h' with
      | span hwritten hfits hnanos => exact absurd hwritten.endsInUnit hnot
      | range hwritten hn hnot' => exact absurd hwritten.endsInUnit hnot
      | number hends => exact absurd hends hnot
      | unit => rfl

/-- A text is read as exactly what the grammar says of it, and refused for the reason that the grammar gives. -/
theorem parse_iff_reading (s : String) (answer : Except SpanFault Span) :
    parse s = answer ↔ Reading s answer := by
  constructor
  · intro h
    rw [← h]
    exact reading_parse s
  · intro h
    exact (reading_parse s).unique h

end Span

end Hydration
