/-
What the statistics of an arbiter say about its latencies.

# The window

A latency is put behind the others, and the oldest one makes room for it once there are as many as the
window holds. So the window always shows an end of what was recorded (`Window.latest`), and this is kept by
each recording and therefore by all of them (`Metrics.recordAll_start`).

# The two numbers

The average is one division, whether it is made in nanoseconds or by hand in seconds and what is left of
them (`Span.longhand`). The 99th percentile is a place in the sorted window. Everything in front of a
place in a sorted list is at most what stands there, and everything behind it at least (`Ranked`), so the
place alone tells how many latencies are on either side. Sorting brings any order of the same latencies into
one list, and a sum does not depend on it either.
-/
import Hydration.Metrics.Basic
import Hydration.Proofs.Span.Grammar
import Mathlib.Algebra.Group.Action.Defs
import Mathlib.Algebra.Order.BigOperators.Group.List
import Mathlib.Algebra.Order.Ring.Nat
import Mathlib.Data.List.Sort
import Mathlib.Tactic.Ring

namespace Hydration

-- ============================================================ the window

/-- The window that the latest of some latencies have left. -/
def Window.latest (capacity : Nat) (spans : List Span) : Window :=
  ⟨capacity, spans.drop (spans.length - capacity)⟩

theorem Window.suffix_latest (capacity : Nat) (spans : List Span) :
    (latest capacity spans).samples <:+ spans := List.drop_suffix ..

theorem Window.length_latest (capacity : Nat) (spans : List Span) :
    (latest capacity spans).samples.length = min spans.length capacity := by
  unfold latest
  rw [List.length_drop]
  omega

theorem Window.record_latest {capacity : Nat} (hroom : 0 < capacity) (spans : List Span)
    (latency : Span) :
    (latest capacity spans).record latency = .ok (latest capacity (spans ++ [latency])) := by
  unfold record latest
  dsimp only
  rw [List.length_drop, List.length_append, List.length_singleton]
  by_cases hfew : spans.length < capacity
  · rw [if_pos (by omega), Nat.sub_eq_zero_of_le (Nat.le_of_lt hfew), Nat.sub_eq_zero_of_le hfew]
    rfl
  · rw [if_neg (by omega)]
    have hlt : spans.length - capacity < spans.length := by omega
    rw [List.drop_eq_getElem_cons hlt]
    dsimp only
    rw [← List.drop_append_of_le_length (by omega),
      show spans.length + 1 - capacity = spans.length - capacity + 1 by omega]

namespace Metrics

/-- The metrics after some latencies have been recorded, one after another. -/
def recordAll (metrics : Metrics) (latencies : List Span) : Except WindowFault Metrics :=
  latencies.foldlM recordLatency metrics

theorem recordAll_latest (counters : Counters) (earlier latencies : List Span) :
    recordAll ⟨counters, .latest windowSize earlier⟩ latencies =
      .ok ⟨counters, .latest windowSize (earlier ++ latencies)⟩ := by
  induction latencies generalizing earlier with
  | nil =>
      rw [List.append_nil]
      rfl
  | cons latency later ih =>
      have hrecord : recordLatency ⟨counters, .latest windowSize earlier⟩ latency =
          .ok ⟨counters, .latest windowSize (earlier ++ [latency])⟩ := by
        unfold recordLatency
        rw [Window.record_latest (by decide)]
      have hlater := ih (earlier ++ [latency])
      rw [List.append_assoc, List.singleton_append] at hlater
      unfold recordAll at hlater ⊢
      rw [List.foldlM_cons, hrecord]
      exact hlater

theorem recordAll_start (latencies : List Span) :
    start.recordAll latencies = .ok ⟨.zero, .latest windowSize latencies⟩ :=
  recordAll_latest .zero [] latencies

end Metrics

-- ============================================================ the average

namespace Span

/-- How many nanoseconds some spans have together. -/
def total (spans : List Span) : Nat := (spans.map nanos).sum

theorem sum?_eq (spans : List Span) : sum? spans = ofNanos? (total spans) := by
  unfold sum? total
  rw [List.sum_eq_foldl, List.foldl_map]

/-- Division by hand: the seconds are divided, and what is left of them is counted in nanoseconds together
with the nanoseconds there are, and then divided. -/
structure Longhand (total : Nat) (count : Nat) (quotient : Span) : Prop where
  seconds : quotient.seconds = total / nanosPerSecond / count
  subsecond : quotient.subsecond =
    (total / nanosPerSecond % count * nanosPerSecond + total % nanosPerSecond) / count

/-- Both parts of the quotient come out of the division by hand. -/
theorem longhand {total count : Nat} (hcount : 0 < count) {quotient : Span}
    (h : quotient.nanos = total / count) : Longhand total count quotient := by
  have hbefore : 0 < nanosPerSecond := by decide
  -- the total, with the seconds that can be shared out in front
  have hsplit : total = count * (nanosPerSecond * (total / nanosPerSecond / count)) +
      (total / nanosPerSecond % count * nanosPerSecond + total % nanosPerSecond) := by
    calc total
        = nanosPerSecond * (total / nanosPerSecond) + total % nanosPerSecond :=
          (Nat.div_add_mod total nanosPerSecond).symm
      _ = nanosPerSecond * (count * (total / nanosPerSecond / count) +
            total / nanosPerSecond % count) + total % nanosPerSecond := by
          rw [Nat.div_add_mod (total / nanosPerSecond) count]
      _ = _ := by ring
  have hquotient : quotient.nanos = nanosPerSecond * (total / nanosPerSecond / count) +
      (total / nanosPerSecond % count * nanosPerSecond + total % nanosPerSecond) / count := by
    rw [h]
    conv_lhs => rw [hsplit]
    exact Nat.mul_add_div hcount _ _
  have hrest : (total / nanosPerSecond % count * nanosPerSecond + total % nanosPerSecond) / count <
      nanosPerSecond := by
    have hleft : total / nanosPerSecond % count + 1 ≤ count := Nat.mod_lt _ hcount
    have hnanos : total % nanosPerSecond < nanosPerSecond := Nat.mod_lt _ hbefore
    have hscaled := Nat.mul_le_mul_right nanosPerSecond hleft
    rw [Nat.div_lt_iff_lt_mul hcount, Nat.mul_comm nanosPerSecond count]
    rw [Nat.add_mul, Nat.one_mul] at hscaled
    omega
  constructor
  · unfold seconds
    rw [hquotient, Nat.mul_add_div hbefore, Nat.div_eq_of_lt hrest, Nat.add_zero]
  · unfold subsecond
    rw [hquotient, Nat.mul_add_mod, Nat.mod_eq_of_lt hrest]

end Span

/-- The average of some latencies: their sum divided by their number, and rounded down. It lies between the
shortest and the longest. -/
structure Average (samples : List Span) (average : Span) : Prop where
  floor : average.nanos = Span.total samples / samples.length
  byHand : Span.Longhand (Span.total samples) samples.length average
  atLeast : ∀ low, (∀ sample ∈ samples, low ≤ sample.nanos) → low ≤ average.nanos
  atMost : ∀ high, (∀ sample ∈ samples, sample.nanos ≤ high) → average.nanos ≤ high

theorem average_of_floor {samples : List Span} (hsome : samples ≠ []) {average : Span}
    (h : average.nanos = Span.total samples / samples.length) : Average samples average := by
  have hcount : 0 < samples.length := List.length_pos_iff.2 hsome
  refine ⟨h, Span.longhand hcount h, ?_, ?_⟩
  · intro low hlow
    have hsum : samples.length * low ≤ Span.total samples := by
      have hle := List.card_nsmul_le_sum (samples.map Span.nanos) low (List.forall_mem_map.2 hlow)
      rwa [List.length_map, smul_eq_mul] at hle
    rw [h, Nat.le_div_iff_mul_le hcount, Nat.mul_comm]
    exact hsum
  · intro high hhigh
    have hsum : Span.total samples ≤ samples.length * high := by
      have hle := List.sum_le_card_nsmul (samples.map Span.nanos) high (List.forall_mem_map.2 hhigh)
      rwa [List.length_map, smul_eq_mul] at hle
    rw [h]
    exact Nat.div_le_of_le_mul hsum

namespace Window

variable {window : Window}

/-- There is no average of nothing, and otherwise one if the sum is a span. -/
theorem average_of_empty (h : window.samples = []) : window.average = .ok none := by
  unfold average
  rw [if_pos (by simp [h])]

theorem average_of_fits (hsome : window.samples ≠ [])
    (hfits : Span.total window.samples < Text.wordLimit * nanosPerSecond) :
    ∃ average, window.average = .ok (some average) ∧ Average window.samples average := by
  have hsum : Span.sum? window.samples = some ⟨Span.total window.samples, hfits⟩ := by
    rw [Span.sum?_eq, Span.ofNanos?, dif_pos hfits]
  refine ⟨⟨Span.total window.samples / window.samples.length,
    div_lt_of_span ⟨Span.total window.samples, hfits⟩ window.samples.length⟩, ?_,
    average_of_floor hsome rfl⟩
  unfold average
  rw [if_neg (by simpa using hsome), hsum]

theorem average_of_overflow (hsome : window.samples ≠ [])
    (hlimit : Text.wordLimit * nanosPerSecond ≤ Span.total window.samples) :
    window.average = .error .overflow := by
  have hsum : Span.sum? window.samples = none := by
    rw [Span.sum?_eq, Span.ofNanos?, dif_neg (Nat.not_lt.2 hlimit)]
  unfold average
  rw [if_neg (by simpa using hsome), hsum]

/-- The order of the latencies has no part in their average. -/
theorem average_congr {other : Window} (h : other.samples.Perm window.samples) :
    other.average = window.average := by
  have htotal : Span.total other.samples = Span.total window.samples := (h.map Span.nanos).sum_eq
  have hsum : Span.sum? other.samples = Span.sum? window.samples := by
    rw [Span.sum?_eq, Span.sum?_eq, htotal]
  unfold average
  simp only [h.isEmpty_eq, hsum, h.length_eq]

end Window

-- ============================================================ the 99th percentile

/-- So many latencies are at most the given one, and so many at least. -/
structure Ranked (samples : List Span) (span : Span) (below above : Nat) : Prop where
  mem : span ∈ samples
  below : below ≤ samples.countP fun sample => sample.nanos ≤ span.nanos
  above : above ≤ samples.countP fun sample => span.nanos ≤ sample.nanos

/-- A place in a sorted list ranks what stands there. -/
theorem ranked_of_sorted {sorted : List Span}
    (h : sorted.Pairwise fun a b => a.nanos ≤ b.nanos) {place : Nat} (hplace : place < sorted.length) :
    Ranked sorted sorted[place] (place + 1) (sorted.length - place) := by
  have horder : ∀ i j, (hj : j < sorted.length) → (hij : i ≤ j) →
      sorted[i].nanos ≤ sorted[j].nanos := by
    intro i j hj hij
    rcases Nat.eq_or_lt_of_le hij with rfl | hlt
    · exact Nat.le_refl _
    · exact List.pairwise_iff_getElem.1 h i j _ hj hlt
  refine ⟨List.getElem_mem hplace, ?_, ?_⟩
  · -- everything up to the place
    have hall : (sorted.take (place + 1)).countP (fun sample => sample.nanos ≤ sorted[place].nanos) =
        (sorted.take (place + 1)).length := by
      refine List.countP_eq_length.2 ?_
      intro sample hsample
      obtain ⟨i, hi, rfl⟩ := List.mem_iff_getElem.1 hsample
      rw [List.length_take] at hi
      rw [List.getElem_take, decide_eq_true_eq]
      exact horder i place hplace (by omega)
    have hle := (List.take_sublist (place + 1) sorted).countP_le
      (p := fun sample => sample.nanos ≤ sorted[place].nanos)
    rw [hall, List.length_take] at hle
    omega
  · have hall : (sorted.drop place).countP (fun sample => sorted[place].nanos ≤ sample.nanos) =
        (sorted.drop place).length := by
      refine List.countP_eq_length.2 ?_
      intro sample hsample
      obtain ⟨i, hi, rfl⟩ := List.mem_iff_getElem.1 hsample
      rw [List.length_drop] at hi
      rw [List.getElem_drop, decide_eq_true_eq]
      exact horder place (place + i) (by omega) (by omega)
    have hle := (List.drop_sublist place sorted).countP_le
      (p := fun sample => sorted[place].nanos ≤ sample.nanos)
    rwa [hall, List.length_drop] at hle

namespace Window

variable {window other : Window}

theorem sorted_perm (window : Window) : window.sorted.Perm window.samples := List.mergeSort_perm ..

theorem pairwise_sorted (window : Window) :
    window.sorted.Pairwise fun a b => a.nanos ≤ b.nanos := by
  have htrans : ∀ a b c : Span, decide (a.nanos ≤ b.nanos) = true → decide (b.nanos ≤ c.nanos) = true →
      decide (a.nanos ≤ c.nanos) = true := by
    intro a b c
    simp only [decide_eq_true_eq]
    exact Nat.le_trans
  have htotal : ∀ a b : Span, (decide (a.nanos ≤ b.nanos) || decide (b.nanos ≤ a.nanos)) = true := by
    intro a b
    simp only [Bool.or_eq_true, decide_eq_true_eq]
    exact Nat.le_total ..
  exact (List.pairwise_mergeSort htrans htotal window.samples).imp of_decide_eq_true

/-- Latencies of the same length are the same, so there is one way to sort them. -/
theorem sorted_congr (h : other.samples.Perm window.samples) : other.sorted = window.sorted := by
  have hperm : other.sorted.Perm window.sorted :=
    (other.sorted_perm.trans h).trans window.sorted_perm.symm
  refine hperm.eq_of_pairwise ?_ other.pairwise_sorted window.pairwise_sorted
  intro a b _ _ hab hba
  exact Span.eq_of_nanos (Nat.le_antisymm hab hba)

theorem percentile_congr (h : other.samples.Perm window.samples) :
    other.percentile = window.percentile := by
  unfold percentile
  rw [sorted_congr h, h.length_eq]

theorem percentileIndex_lt {count : Nat} (h : 0 < count) : percentileIndex count < count := by
  unfold percentileIndex
  omega

theorem percentile_of_empty (h : window.samples = []) : window.percentile = none := by
  have hsorted : window.sorted = [] := (h ▸ window.sorted_perm).eq_nil
  unfold percentile
  rw [hsorted, List.getElem?_nil]

/-- More than 99 in a hundred latencies are at most the given one, and at least one in a hundred is at least as
long. -/
structure IsPercentile (samples : List Span) (span : Span) : Prop where
  mem : span ∈ samples
  most : 99 * samples.length < 100 * samples.countP fun sample => sample.nanos ≤ span.nanos
  rest : samples.length ≤ 100 * samples.countP fun sample => span.nanos ≤ sample.nanos

theorem percentile_of_some (hsome : window.samples ≠ []) :
    ∃ percentile, window.percentile = some percentile ∧ IsPercentile window.samples percentile := by
  have hcount : 0 < window.samples.length := List.length_pos_iff.2 hsome
  have hlength : window.sorted.length = window.samples.length := window.sorted_perm.length_eq
  have hplace : percentileIndex window.samples.length < window.sorted.length := by
    rw [hlength]
    exact percentileIndex_lt hcount
  have hranked := ranked_of_sorted window.pairwise_sorted hplace
  have hbelow := hranked.below
  have habove := hranked.above
  rw [window.sorted_perm.countP_eq] at hbelow habove
  rw [hlength] at habove
  have hindex : percentileIndex window.samples.length =
      min (window.samples.length * 99 / 100) (window.samples.length - 1) := rfl
  refine ⟨_, List.getElem?_eq_getElem hplace, window.sorted_perm.mem_iff.1 hranked.mem, ?_, ?_⟩
  · omega
  · omega

end Window

-- ============================================================ the result

/-- What is told of a window in which some latencies are left. -/
structure Snapshot.Tells (snapshot : Snapshot) (samples : List Span) : Prop where
  average_none_iff : snapshot.average = none ↔ samples = []
  percentile_none_iff : snapshot.percentile = none ↔ samples = []
  average : ∀ span, snapshot.average = some span → Average samples span
  percentile : ∀ span, snapshot.percentile = some span → Window.IsPercentile samples span

theorem Metrics.snapshot_of_fits {metrics : Metrics}
    (hfits : Span.total metrics.latencies.samples < Text.wordLimit * nanosPerSecond) :
    ∃ snapshot, metrics.snapshot = .ok snapshot ∧ snapshot.Tells metrics.latencies.samples := by
  unfold snapshot
  by_cases hsome : metrics.latencies.samples = []
  · rw [Window.average_of_empty hsome, Window.percentile_of_empty hsome]
    exact ⟨_, rfl, iff_of_true rfl hsome, iff_of_true rfl hsome, nofun, nofun⟩
  · obtain ⟨average, haverage, hmean⟩ := Window.average_of_fits hsome hfits
    obtain ⟨percentile, hpercentile, hrank⟩ := Window.percentile_of_some hsome
    rw [haverage, hpercentile]
    refine ⟨_, rfl, iff_of_false nofun hsome, iff_of_false nofun hsome, ?_, ?_⟩
    · intro span hspan
      obtain rfl := Option.some.inj hspan
      exact hmean
    · intro span hspan
      obtain rfl := Option.some.inj hspan
      exact hrank

theorem Metrics.snapshot_of_overflow {metrics : Metrics}
    (hlimit : Text.wordLimit * nanosPerSecond ≤ Span.total metrics.latencies.samples) :
    metrics.snapshot = .error .overflow := by
  have hsome : metrics.latencies.samples ≠ [] := by
    intro hempty
    rw [hempty] at hlimit
    exact absurd hlimit (by decide)
  unfold snapshot
  rw [Window.average_of_overflow hsome hlimit]

/-- What can be said about metrics that have recorded some latencies. -/
structure Metrics.Reflects (metrics : Metrics) (latencies : List Span) : Prop where
  /-- The window shows the last latencies, in the order in which they came. -/
  suffix : metrics.latencies.samples <:+ latencies
  length : metrics.latencies.samples.length = min latencies.length 1000
  /-- There are numbers as soon as there are latencies. -/
  empty_iff : metrics.latencies.samples = [] ↔ latencies = []
  shown : Span.total metrics.latencies.samples < Text.wordLimit * nanosPerSecond →
    ∃ snapshot, metrics.snapshot = .ok snapshot ∧ snapshot.Tells metrics.latencies.samples
  /-- Only a sum that is no span keeps them from being told. -/
  overflow : Text.wordLimit * nanosPerSecond ≤ Span.total metrics.latencies.samples →
    metrics.snapshot = .error .overflow
  /-- They are the same for any order of the latencies in the window. -/
  shuffled : ∀ samples : List Span, samples.Perm metrics.latencies.samples →
    snapshot { metrics with latencies := { metrics.latencies with samples } } = metrics.snapshot

/-- Any latencies can be recorded, and the metrics reflect them. -/
theorem Metrics.latencies_reflected (latencies : List Span) :
    ∃ metrics, start.recordAll latencies = .ok metrics ∧ metrics.Reflects latencies := by
  have hlength : (Window.latest windowSize latencies).samples.length = min latencies.length 1000 :=
    Window.length_latest ..
  refine ⟨_, recordAll_start latencies, Window.suffix_latest .., hlength, ?_, snapshot_of_fits,
    snapshot_of_overflow, ?_⟩
  · dsimp only
    rw [← List.length_eq_zero_iff, ← List.length_eq_zero_iff, hlength]
    omega
  · intro samples hperm
    unfold snapshot
    dsimp only
    rw [Window.average_congr hperm, Window.percentile_congr hperm]

end Hydration
