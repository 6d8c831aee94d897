/-
What a written span is when it is read again.

# What is written

A span is cut to whole milliseconds (`cut`), and what is left of it is written as so many of the largest unit
that divides it (`Shows`). As each text has one number and one unit, two spans are written alike exactly if
nothing but less than a millisecond tells them apart.

# What comes back

The reader counts in words. Whole seconds always come back, since those of a span fit a word, and so the number
of minutes or hours and its seconds do. Milliseconds come back as long as there is a word for them. A span that
was read is one or the other, and already cut, so it is always reproduced.
-/
import Hydration.Proofs.Span.Grammar
import Mathlib.Algebra.Group.Nat.Defs

namespace Hydration.Span

-- ============================================================ what is written

/-- The span without what is less than a millisecond. -/
def cut (d : Span) : Span :=
  ⟨d.millis * nanosPerMilli, Nat.lt_of_le_of_lt (Nat.div_mul_le_self ..) d.nanos_lt⟩

/-- The span is exactly so many of this unit, and of no larger unit a whole multiple; no time at all is so many
milliseconds. -/
structure Shows (d : Span) (n : Nat) (unit : TimeUnit) : Prop where
  exact : n * unit.nanos = d.nanos
  largest : d.nanos ≠ 0 → ∀ other : TimeUnit, other.nanos ∣ d.nanos → other.nanos ≤ unit.nanos
  zero : d.nanos = 0 → unit = .millisecond

theorem millis_cut (d : Span) : d.cut.millis = d.millis :=
  Nat.mul_div_cancel _ (by decide)

theorem describe_cut (d : Span) : describe d.cut = describe d := by
  unfold describe
  rw [millis_cut]

theorem nanos_dvd_cut {d : Span} {unit : TimeUnit} : unit.nanos ∣ d.cut.nanos ↔ unit.millis ∣ d.millis := by
  rw [nanos_eq_mul]
  exact Nat.mul_dvd_mul_iff_right (by decide)

theorem unitFor_dvd (millis : Nat) : (unitFor millis).millis ∣ millis := by
  unfold unitFor
  split
  · exact Nat.one_dvd millis
  · split
    · next h => exact Nat.dvd_of_mod_eq_zero h
    · split
      · next h => exact Nat.dvd_of_mod_eq_zero h
      · split
        · next h => exact Nat.dvd_of_mod_eq_zero h
        · exact Nat.one_dvd millis

theorem unitFor_largest {millis : Nat} (h : millis ≠ 0) {other : TimeUnit} (hdvd : other.millis ∣ millis) :
    other.millis ≤ (unitFor millis).millis := by
  have hmod := Nat.mod_eq_zero_of_dvd hdvd
  unfold unitFor
  rw [if_neg h]
  split
  · cases other <;> decide
  · next hhour =>
      split
      · cases other with
        | hour => exact absurd hmod hhour
        | millisecond | second | minute => decide
      · next hminute =>
          split
          · cases other with
            | hour => exact absurd hmod hhour
            | minute => exact absurd hmod hminute
            | millisecond | second => decide
          · next hsecond =>
              cases other with
              | hour => exact absurd hmod hhour
              | minute => exact absurd hmod hminute
              | second => exact absurd hmod hsecond
              | millisecond => decide

/-- A cut span is written as what it is. -/
theorem shows_describe (d : Span) : Shows d.cut (d.millis / (unitFor d.millis).millis) (unitFor d.millis) := by
  constructor
  · rw [← nanos_eq, Nat.div_mul_cancel (unitFor_dvd d.millis)]
    rfl
  · intro hne other hother
    have hmillis : d.millis ≠ 0 := by
      intro hzero
      apply hne
      show d.millis * nanosPerMilli = 0
      rw [hzero, Nat.zero_mul]
    rw [nanos_eq_mul, nanos_eq_mul]
    exact Nat.mul_le_mul_right _ (unitFor_largest hmillis (nanos_dvd_cut.1 hother))
  · intro hzero
    have hmillis : d.millis = 0 := (Nat.mul_eq_zero.1 hzero).resolve_right (by decide)
    rw [hmillis]
    rfl

example : describe (ofMillis 5_400_000) = "90m" := by decide

theorem written_describe (d : Span) :
    Written (describe d) (d.millis / (unitFor d.millis).millis) (unitFor d.millis) := by
  refine ⟨[], (Text.decimal (d.millis / (unitFor d.millis).millis)).toList, [],
    (unitFor d.millis).suffix.toList, [], ?_, Text.blanks_nil, Text.numeral_decimal _, Text.blanks_nil, ?_,
    Text.blanks_nil⟩
  · simp [describe]
  · cases unitFor d.millis <;> decide

/-- Spans are written alike exactly if they are the same once they are cut. -/
theorem describe_eq_iff {d e : Span} : describe d = describe e ↔ d.cut = e.cut := by
  constructor
  · intro h
    have hd := written_describe d
    rw [h] at hd
    obtain ⟨hn, hunit⟩ := hd.unique (written_describe e)
    apply eq_of_nanos
    rw [← (shows_describe d).exact, ← (shows_describe e).exact, hn, hunit]
  · intro h
    rw [← describe_cut d, h, describe_cut]

-- ============================================================ what comes back

/-- Whole seconds, or not too many milliseconds for a word. -/
def Readable (d : Span) : Prop := nanosPerSecond ∣ d.nanos ∨ d.millis < Text.wordLimit

theorem millis_of_exact {d : Span} {n : Nat} (h : n * TimeUnit.millisecond.nanos = d.nanos) : d.millis = n := by
  unfold millis
  rw [← h]
  exact Nat.mul_div_cancel _ (by decide)

theorem second_dvd {unit : TimeUnit} (h : unit ≠ .millisecond) (n : Nat) : nanosPerSecond ∣ n * unit.nanos := by
  apply Nat.dvd_mul_left_of_dvd
  cases unit with
  | millisecond => exact absurd rfl h
  | second | minute | hour => decide

theorem fits_of_ne {n : Nat} {unit : TimeUnit} (h : unit ≠ .millisecond)
    (hlt : n * unit.nanos < Text.wordLimit * nanosPerSecond) : unit.Fits n := by
  have hle : nanosPerSecond ≤ unit.nanos := by
    cases unit with
    | millisecond => exact absurd rfl h
    | second | minute | hour => decide
  have hn : n < Text.wordLimit :=
    Nat.lt_of_mul_lt_mul_right (Nat.lt_of_le_of_lt (Nat.mul_le_mul_left n hle) hlt)
  exact (fits_iff hn).1 hlt

/-- Only milliseconds can be too many to be read. -/
theorem Shows.fits_iff {d : Span} {n : Nat} {unit : TimeUnit} (h : Shows d n unit) :
    unit.Fits n ↔ Readable d := by
  have hexact := h.exact
  by_cases hunit : unit = .millisecond
  · subst hunit
    show n < Text.wordLimit ↔ Readable d
    rw [← millis_of_exact hexact]
    constructor
    · exact .inr
    · rintro (hsecond | hword)
      · by_cases hzero : d.nanos = 0
        · rw [millis, hzero]
          decide
        · exact absurd (h.largest hzero .second hsecond) (by decide)
      · exact hword
  · refine iff_of_true (fits_of_ne hunit ?_) (.inl ?_)
    · rw [hexact]
      exact d.nanos_lt
    · rw [← hexact]
      exact second_dvd hunit n

/-- What is written of a span that is readable once cut is read as just that. -/
theorem parse_describe {d : Span} (h : Readable d.cut) : parse (describe d) = .ok d.cut := by
  have hshows := shows_describe d
  exact (reading_parse _).unique (.span (written_describe d) (hshows.fits_iff.2 h) hshows.exact.symm)

theorem parse_describe_of_not_readable {d : Span} (h : ¬ Readable d.cut) :
    parse (describe d) = .error (.number (plain (describe d))) := by
  have hshows := shows_describe d
  have hwritten := written_describe d
  apply (reading_parse _).unique
  apply Reading.number hwritten.endsInUnit
  rintro ⟨n, unit, hother, hn⟩
  obtain ⟨rfl, rfl⟩ := hother.unique hwritten
  apply h
  rw [← hshows.fits_iff, ← fits_iff hn, hshows.exact]
  exact d.cut.nanos_lt

/-- What was read is a whole number of milliseconds, and readable again. -/
theorem Reading.cut_eq {s : String} {d : Span} (h : Reading s (.ok d)) : d.cut = d ∧ Readable d := by
  cases h with
  | @span n unit _ hwritten hfits hnanos =>
      have hcut : d.cut = d := by
        apply eq_of_nanos
        apply Nat.div_mul_cancel
        rw [hnanos, nanos_eq_mul, ← Nat.mul_assoc]
        exact Nat.dvd_mul_left ..
      refine ⟨hcut, ?_⟩
      by_cases hunit : unit = .millisecond
      · subst hunit
        rw [Readable, millis_of_exact hnanos.symm]
        exact .inr hfits
      · rw [Readable, hnanos]
        exact .inl (second_dvd hunit n)

/-- What becomes of a span that is written and read again. -/
structure RoundTrip (d : Span) : Prop where
  /-- The text says how many of the largest unit that divides it the cut span is; this can be read if the span
  can. -/
  text : ∃ n unit, describe d = Text.decimal n ++ unit.suffix ∧ Shows d.cut n unit ∧
    (Readable d.cut → unit.Fits n)
  zero : d.cut = Span.zero → describe d = "0ms"
  /-- The number that is divided by the units fits two words. -/
  millis_lt : d.millis < 2 ^ 128
  back : Readable d.cut → parse (describe d) = .ok d.cut
  lost : ¬ Readable d.cut → parse (describe d) = .error (.number (plain (describe d)))
  again : ∀ s, parse s = .ok d → parse (describe d) = .ok d
  alike : ∀ e, describe d = describe e ↔ d.cut = e.cut

theorem round_trip (d : Span) : RoundTrip d where
  text := ⟨_, _, rfl, shows_describe d, (shows_describe d).fits_iff.2⟩
  zero := by
    intro h
    have hnanos : d.millis * nanosPerMilli = 0 := congrArg nanos h
    have hmillis : d.millis = 0 := (Nat.mul_eq_zero.1 hnanos).resolve_right (by decide)
    unfold describe
    rw [hmillis]
    decide
  millis_lt := by
    have hlt := d.nanos_lt
    simp only [Text.wordLimit, nanosPerSecond] at hlt
    simp only [millis, nanosPerMilli]
    omega
  back := parse_describe
  lost := parse_describe_of_not_readable
  again := by
    intro s h
    have hreading := reading_parse s
    rw [h] at hreading
    obtain ⟨hcut, hreadable⟩ := hreading.cut_eq
    rw [parse_describe (hcut.symm ▸ hreadable), hcut]
  alike := fun _ => describe_eq_iff

end Hydration.Span
