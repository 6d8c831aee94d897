/-
Metrics in use: counting, recording latencies and looking, in any order and for any length of time.

# What can go wrong

Counters go round at the end of their words and never fail. Two things can: a latency for which the window
has no room, and a look at latencies that are no span together. The second is ruled out where all the
latencies that were ever recorded are a span, since the window shows an end of them
(`Span.total_le_of_suffix`).

# Room

A window with room stays one: it gives up its oldest latency for each new one, so every use is followed by
the next (`Metrics.use_eq`, `Metrics.useAll_eq`). Metrics can also be made without any room, and then they
serve as long as no latency comes (`Metrics.uses_endured`).
-/
import Hydration.Proofs.Metrics.Latencies

namespace Hydration

namespace Metrics

-- ============================================================ uses

/-- One use of the metrics. -/
inductive Use where
  | verdict (v : Verdict)
  | fastPath
  | request
  | transportFailure
  | integrityViolation
  | latency (span : Span)
  | look
deriving DecidableEq

namespace Use

/-- What a use does to the counters. -/
def count : Use → Counters → Counters
  | verdict v, c => c.countVerdict v
  | fastPath, c => c.countFastPath
  | request, c => c.countRequest
  | transportFailure, c => c.countTransportFailure
  | integrityViolation, c => c.countIntegrityViolation
  | latency _, c | look, c => c

def latency? : Use → Option Span
  | latency span => some span
  | _ => none

end Use

/-- The latencies that come up among some uses. -/
def latenciesOf (uses : List Use) : List Span := uses.filterMap Use.latency?

/-- The counters after some uses. -/
def counted (counters : Counters) (uses : List Use) : Counters :=
  uses.foldl (fun c use => use.count c) counters

/-- The metrics after one use. A look leaves them as they are. -/
def use (metrics : Metrics) : Use → Except WindowFault Metrics
  | .verdict v => .ok (metrics.countVerdict v)
  | .fastPath => .ok (metrics.count (·.countFastPath))
  | .request => .ok (metrics.count (·.countRequest))
  | .transportFailure => .ok (metrics.count (·.countTransportFailure))
  | .integrityViolation => .ok (metrics.count (·.countIntegrityViolation))
  | .latency span => metrics.recordLatency span
  | .look =>
    match metrics.snapshot with
    | .ok _ => .ok metrics
    | .error fault => .error fault

/-- The metrics after some uses, unless one of them fails. -/
def useAll (metrics : Metrics) (uses : List Use) : Except WindowFault Metrics :=
  uses.foldlM use metrics

theorem useAll_cons {metrics next : Metrics} {first : Use} (h : metrics.use first = .ok next)
    (later : List Use) : metrics.useAll (first :: later) = next.useAll later := by
  unfold useAll
  rw [List.foldlM_cons, h]
  rfl

theorem useAll_cons_error {metrics : Metrics} {first : Use} {fault : WindowFault}
    (h : metrics.use first = .error fault) (later : List Use) :
    metrics.useAll (first :: later) = .error fault := by
  unfold useAll
  rw [List.foldlM_cons, h]
  rfl

theorem latenciesOf_cons (first : Use) (later : List Use) :
    latenciesOf (first :: later) = first.latency?.toList ++ latenciesOf later := by
  unfold latenciesOf
  cases h : first.latency? with
  | none => rw [List.filterMap_cons_none h]; rfl
  | some span => rw [List.filterMap_cons_some h]; rfl

end Metrics

-- ============================================================ sums of latencies

namespace Span

theorem total_append (spans others : List Span) :
    total (spans ++ others) = total spans + total others := by
  unfold total
  rw [List.map_append, List.sum_append]

/-- The last ones among some latencies are together no longer than all of them. -/
theorem total_le_of_suffix {samples spans : List Span} (h : samples <:+ spans) :
    total samples ≤ total spans := by
  obtain ⟨before, rfl⟩ := h
  rw [total_append]
  exact Nat.le_add_left ..

end Span

theorem Window.latest_nil (capacity : Nat) : latest capacity [] = empty capacity := by
  unfold latest
  rw [List.drop_nil]
  rfl

namespace Metrics

variable {capacity : Nat}

-- ============================================================ with room

/-- A use of metrics that show the latest latencies: the counters count it, and a latency is the latest
one from then on. -/
theorem use_eq {use : Use} (hroom : 0 < capacity ∨ use.latency? = none) (counters : Counters)
    (earlier : List Span) (hfits : Span.total earlier < Text.wordLimit * nanosPerSecond) :
    Metrics.use ⟨counters, .latest capacity earlier⟩ use =
      .ok ⟨use.count counters, .latest capacity (earlier ++ use.latency?.toList)⟩ := by
  cases use with
  | latency span =>
      have hcapacity : 0 < capacity := hroom.resolve_right nofun
      unfold Metrics.use recordLatency
      simp only [Window.record_latest hcapacity]
      rfl
  | look =>
      have hshown : Span.total (Metrics.mk counters (.latest capacity earlier)).latencies.samples <
          Text.wordLimit * nanosPerSecond :=
        Nat.lt_of_le_of_lt (Span.total_le_of_suffix (Window.suffix_latest ..)) hfits
      obtain ⟨shown, hsnapshot, -⟩ := snapshot_of_fits hshown
      unfold Metrics.use
      simp only [hsnapshot]
      show _ = Except.ok (Metrics.mk counters (.latest capacity (earlier ++ [])))
      rw [List.append_nil]
  | verdict v =>
      show _ = Except.ok (Metrics.mk _ (.latest capacity (earlier ++ [])))
      rw [List.append_nil]
      rfl
  | fastPath | request | transportFailure | integrityViolation =>
      show _ = Except.ok (Metrics.mk _ (.latest capacity (earlier ++ [])))
      rw [List.append_nil]
      rfl

theorem useAll_eq {uses : List Use} (hroom : 0 < capacity ∨ latenciesOf uses = [])
    (counters : Counters) (earlier : List Span)
    (hfits : Span.total (earlier ++ latenciesOf uses) < Text.wordLimit * nanosPerSecond) :
    useAll ⟨counters, .latest capacity earlier⟩ uses =
      .ok ⟨counted counters uses, .latest capacity (earlier ++ latenciesOf uses)⟩ := by
  induction uses generalizing counters earlier with
  | nil =>
      show _ = Except.ok (Metrics.mk counters (.latest capacity (earlier ++ [])))
      rw [List.append_nil]
      rfl
  | cons first later ih =>
      rw [latenciesOf_cons] at hroom hfits ⊢
      have hfirst : 0 < capacity ∨ first.latency? = none := by
        apply hroom.imp_right
        intro hnone
        simpa using (List.append_eq_nil_iff.1 hnone).1
      have hlater : 0 < capacity ∨ latenciesOf later = [] := by
        apply hroom.imp_right
        intro hnone
        exact (List.append_eq_nil_iff.1 hnone).2
      have hearlier : Span.total earlier < Text.wordLimit * nanosPerSecond := by
        rw [Span.total_append] at hfits
        omega
      rw [← List.append_assoc] at hfits ⊢
      rw [useAll_cons (use_eq hfirst counters earlier hearlier)]
      exact ih hlater (first.count counters) (earlier ++ first.latency?.toList) hfits

-- ============================================================ without room

/-- Metrics without room serve until the first latency comes. -/
theorem useAll_of_no_room (counters : Counters) {uses : List Use} (h : latenciesOf uses ≠ []) :
    useAll ⟨counters, .empty 0⟩ uses = .error .noRoom := by
  induction uses generalizing counters with
  | nil => exact absurd rfl h
  | cons first later ih =>
      cases hlatency : first.latency? with
      | some span =>
          have hfirst : first = .latency span := by
            cases first <;> cases hlatency
            rfl
          apply useAll_cons_error
          rw [hfirst]
          rfl
      | none =>
          have hstep : Metrics.use ⟨counters, .empty 0⟩ first =
              .ok ⟨first.count counters, .empty 0⟩ := by
            have hroom : 0 < 0 ∨ first.latency? = none := .inr hlatency
            have heq := use_eq hroom counters [] (by decide)
            rwa [hlatency, Option.toList_none, List.append_nil, Window.latest_nil] at heq
          rw [useAll_cons hstep]
          apply ih
          rwa [latenciesOf_cons, hlatency] at h

-- ============================================================ new metrics

/-- What the uses of new metrics come to, with a window of any size. -/
theorem useAll_empty (capacity : Nat) {uses : List Use}
    (hfits : Span.total (latenciesOf uses) < Text.wordLimit * nanosPerSecond) :
    useAll ⟨.zero, .empty capacity⟩ uses =
      if 0 < capacity ∨ latenciesOf uses = [] then
        .ok ⟨counted .zero uses, .latest capacity (latenciesOf uses)⟩
      else .error .noRoom := by
  split
  · next hroom =>
    have hrun := useAll_eq hroom .zero [] hfits
    rwa [Window.latest_nil] at hrun
  · next hnot =>
    obtain ⟨hnone, hlatency⟩ := not_or.1 hnot
    rw [Nat.eq_zero_of_not_pos hnone]
    exact useAll_of_no_room .zero hlatency

theorem counters_of_snapshot {metrics : Metrics} {shown : Snapshot}
    (h : metrics.snapshot = .ok shown) : shown.counters = metrics.counters := by
  unfold snapshot at h
  split at h
  · cases h
    rfl
  · cases h

/-- There are latencies to be told of exactly when some were recorded. -/
theorem samples_latest_eq_nil_iff {spans : List Span} (hroom : 0 < capacity ∨ spans = []) :
    (Window.latest capacity spans).samples = [] ↔ spans = [] := by
  rw [← List.length_eq_zero_iff] at hroom
  rw [← List.length_eq_zero_iff, ← List.length_eq_zero_iff, Window.length_latest]
  omega

-- ============================================================ the result

/-- All metrics that can be made. -/
def made : List Metrics := [start, bare]

/-- What uses of some new metrics come to. -/
structure Endures (metrics : Metrics) (uses : List Use) : Prop where
  /-- They go on to the end, unless there is a latency and no room for it. -/
  ok_iff : (∃ after, metrics.useAll uses = .ok after) ↔
    0 < metrics.latencies.capacity ∨ latenciesOf uses = []
  fault : ∀ fault, metrics.useAll uses = .error fault → fault = .noRoom
  /-- Everything was counted, and the last latencies are kept. -/
  after : ∀ after, metrics.useAll uses = .ok after →
    after.counters = counted .zero uses ∧
      after.latencies = .latest metrics.latencies.capacity (latenciesOf uses)
  /-- Whoever looks sees what was counted so far, and both numbers as soon as there is a latency. -/
  looks : ∀ before later, uses = before ++ .look :: later →
    ∀ after, metrics.useAll before = .ok after →
      ∃ shown, after.snapshot = .ok shown ∧ shown.counters = counted .zero before ∧
        (shown.average = none ↔ latenciesOf before = []) ∧
        (shown.percentile = none ↔ latenciesOf before = [])

/-- As long as all latencies together are a span, new metrics serve but for a latency without room, and a
look shows both numbers as soon as one was recorded. -/
theorem uses_endured {metrics : Metrics} (hmade : metrics ∈ made) (uses : List Use)
    (hfits : Span.total (latenciesOf uses) < Text.wordLimit * nanosPerSecond) :
    Endures metrics uses := by
  obtain ⟨capacity, rfl⟩ : ∃ capacity, metrics = ⟨.zero, .empty capacity⟩ := by
    rcases List.mem_pair.1 hmade with h | h
    · exact ⟨windowSize, h⟩
    · exact ⟨0, h⟩
  have hrun := useAll_empty capacity hfits
  refine ⟨?_, ?_, ?_, ?_⟩
  · rw [hrun]
    show _ ↔ 0 < capacity ∨ latenciesOf uses = []
    split
    · next hroom => exact iff_of_true ⟨_, rfl⟩ hroom
    · next hnot => exact iff_of_false (fun ⟨_, h⟩ => nomatch h) hnot
  · intro fault hfault
    rw [hrun] at hfault
    split at hfault
    · cases hfault
    · cases hfault
      rfl
  · intro after hafter
    rw [hrun] at hafter
    split at hafter
    · cases hafter
      exact ⟨rfl, rfl⟩
    · cases hafter
  · intro before later huses after hafter
    have hbefore : Span.total (latenciesOf before) < Text.wordLimit * nanosPerSecond := by
      rw [huses, latenciesOf, List.filterMap_append, Span.total_append] at hfits
      exact Nat.lt_of_le_of_lt (Nat.le_add_right ..) hfits
    rw [useAll_empty capacity hbefore] at hafter
    split at hafter
    · next hroom =>
      cases hafter
      have hkept := samples_latest_eq_nil_iff hroom
      have hshown : Span.total (Metrics.mk (counted .zero before)
          (.latest capacity (latenciesOf before))).latencies.samples < Text.wordLimit * nanosPerSecond :=
        Nat.lt_of_le_of_lt (Span.total_le_of_suffix (Window.suffix_latest ..)) hbefore
      obtain ⟨shown, hlook, htells⟩ := snapshot_of_fits hshown
      exact ⟨shown, hlook, counters_of_snapshot hlook, htells.average_none_iff.trans hkept,
        htells.percentile_none_iff.trans hkept⟩
    · cases hafter

namespace EarlyLook

/-- Somebody looks before there is a latency, and again behind one. -/
def uses : List Use := [.look, .request, .latency (.ofMillis 20), .verdict .allow, .look]

/-- New metrics endure it, with a window and without. -/
theorem endured_by_both :
    (start ∈ made ∧ bare ∈ made) ∧ Span.total (latenciesOf uses) < Text.wordLimit * nanosPerSecond ∧
      Endures start uses ∧ Endures bare uses := by
  have hstart : start ∈ made := List.mem_cons_self
  have hbare : bare ∈ made := List.mem_cons_of_mem _ (List.mem_singleton_self _)
  have hfits : Span.total (latenciesOf uses) < Text.wordLimit * nanosPerSecond := by decide
  exact ⟨⟨hstart, hbare⟩, hfits, uses_endured hstart uses hfits, uses_endured hbare uses hfits⟩

end EarlyLook

namespace NoWindow

/-- However metrics were made, no use of them fails as long as all latencies together are a span. -/
def NeverFails : Prop :=
  ∀ metrics ∈ made, ∀ uses : List Use,
    Span.total (latenciesOf uses) < Text.wordLimit * nanosPerSecond →
      ∃ after, metrics.useAll uses = .ok after

/-- The first latency fails where there is no room for any. -/
theorem not_neverFails : ¬ NeverFails := by
  intro h
  have hbare : bare ∈ made := List.mem_cons_of_mem _ (List.mem_singleton_self _)
  obtain ⟨after, hafter⟩ := h bare hbare [.latency (.ofMillis 5)] (by decide)
  have hfails : bare.useAll [.latency (.ofMillis 5)] = .error .noRoom := rfl
  rw [hfails] at hafter
  cases hafter

end NoWindow

end Metrics

end Hydration
