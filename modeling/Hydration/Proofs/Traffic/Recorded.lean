/-
The latencies of requests, and what the metrics keep of them.

# One for each wait

A latency comes with the move that ends a wait (`Traffic.latency?`), and is recorded in that move: a step of
an errand records one exactly when the log tells that its look has shown something (`Notes`). No other move
touches the latencies.

# The window

So there are as many latencies on the way as waits have ended, and the window shows the latest of them
(`Traffic.Recorded`). Every move keeps to that, in whatever order the moves come (`Traffic.recorded_run`).
-/
import Hydration.Proofs.Metrics.Latencies
import Hydration.Proofs.Traffic.Accounts

namespace Hydration

-- ============================================================ the latencies on the way

namespace Traffic

/-- The latency that a move comes with, if it ends a wait. -/
def latency? (t : Traffic) : Move → Option Span
  | .step n latency =>
    if t.strands[n]?.any fun strand => (strand.task.incidents n t.arbiter).any Incident.isWake then
      some latency
    else none
  | _ => none

/-- The latencies of the waits that end on the way, in their order. -/
def latencies (t : Traffic) : List Move → List Span
  | [] => []
  | move :: moves => (t.latency? move).toList ++ (t.step move).latencies moves

/-- The window shows the latest of these latencies, and there is one for each wait of which the log tells
that it has ended. -/
structure Recorded (t : Traffic) (spans : List Span) : Prop where
  window : t.arbiter.metrics.latencies = .latest Metrics.windowSize spans
  wakes : spans.length = t.log.countP Incident.isWake

namespace Recorded

variable {t next : Traffic} {spans : List Span} {incidents : List Incident}

theorem quiet (h : t.Recorded spans) (hlog : next.log = t.log ++ incidents)
    (hnone : incidents.any Incident.isWake = false)
    (hsame : next.arbiter.metrics.latencies = t.arbiter.metrics.latencies) : next.Recorded spans where
  window := hsame.trans h.window
  wakes := by
    have hzero : incidents.countP Incident.isWake = 0 :=
      List.countP_eq_zero.2 (List.any_eq_false.1 hnone)
    rw [hlog, List.countP_append, hzero]
    exact h.wakes

theorem wake (h : t.Recorded spans) {n : Nat} {outcome : WaitOutcome} {latency : Span}
    (hlog : next.log = t.log ++ [.looked n (some outcome)])
    (hnoted : next.arbiter = t.arbiter.recordLatency latency) :
    next.Recorded (spans ++ [latency]) where
  window := by
    rw [hnoted, Arbiter.recordLatency_metrics]
    unfold Metrics.noteLatency Metrics.recordLatency
    rw [h.window, Window.record_latest (by decide)]
  wakes := by
    rw [hlog, List.countP_append, List.length_append, h.wakes]
    rfl

end Recorded

end Traffic

-- ============================================================ one step

/-- A latency is recorded in the step of which the log tells that a wait has ended. -/
inductive Notes (latency : Span) (n : Nat) (before after : Arbiter) (incidents : List Incident) : Prop where
  | quiet (hnone : incidents.any Incident.isWake = false)
      (hsame : after.metrics.latencies = before.metrics.latencies)
  | wake (outcome : WaitOutcome) (hlooked : incidents = [.looked n (some outcome)])
      (hnoted : after = before.recordLatency latency)

theorem Commission.not_isWake (n : Nat) (c : Commission) :
    (c.incidents n).any Incident.isWake = false := by
  unfold incidents
  split <;> rfl

theorem Errand.notes_step (n : Nat) (latency : Span) (arbiter : Arbiter) (e : Errand) :
    Notes latency n arbiter (e.step latency arbiter).1 (e.incidents n arbiter) := by
  cases e with
  | await id =>
      unfold step incidents
      dsimp only
      cases arbiter.pending.outcome? id with
      | none => exact .quiet rfl rfl
      | some outcome => exact .wake outcome rfl rfl
  | register root message =>
      unfold step incidents
      dsimp only
      cases arbiter.pending.register message with
      | ok pending => exact .quiet rfl rfl
      | error fault => exact .quiet rfl rfl
  | number | send | release | done => exact .quiet rfl rfl

theorem Task.notes_step (n : Nat) (latency : Span) (arbiter : Arbiter) (task : Task) :
    Notes latency n arbiter (task.step latency arbiter).1 (task.incidents n arbiter) := by
  cases task with
  | errand e => exact e.notes_step n latency arbiter
  | call access c =>
      cases c with
      | enter | done => exact .quiet rfl rfl
      | leave decision => exact .quiet rfl (by cases decision <;> rfl)
      | ask inquiry =>
          cases inquiry with
          | askManaged | askFlags | askRoot => exact .quiet rfl rfl
          | rule ruling =>
              cases ruling with
              | verdict | outside | unreadable => exact .quiet rfl rfl
              | hydrate root kind => exact .quiet (Commission.not_isWake n _) rfl
      | errand e =>
          have hnotes := e.notes_step n latency arbiter
          cases e with
          | done v => exact .quiet rfl rfl
          | _ => exact hnotes

theorem Errand.latencies_returned (arbiter : Arbiter) (result : Except SendFault Unit) (e : Errand) :
    (e.returned arbiter result).1.metrics.latencies = arbiter.metrics.latencies := by
  cases e with
  | send root message => cases result <;> rfl
  | number | register | await | release | done => rfl

theorem Task.latencies_hear (arbiter : Arbiter) (feedback : Feedback) (task : Task) :
    (task.hear arbiter feedback).1.metrics.latencies = arbiter.metrics.latencies := by
  unfold hear
  split
  case h_4 result access c =>
    cases c with
    | errand e => exact e.latencies_returned arbiter result
    | enter | ask | leave | done => rfl
  case h_5 result e => exact e.latencies_returned arbiter result
  all_goals rfl

-- ============================================================ every run

namespace Traffic

variable {t : Traffic} {spans : List Span}

/-- Each move records the latency that it comes with, if it ends a wait. -/
theorem Recorded.step (h : t.Recorded spans) (move : Move) :
    (t.step move).Recorded (spans ++ (t.latency? move).toList) := by
  -- the moves that end no wait
  have hquiet : ∀ {next : Traffic} {incidents : List Incident}, next.log = t.log ++ incidents →
      incidents.any Incident.isWake = false →
      next.arbiter.metrics.latencies = t.arbiter.metrics.latencies → next.Recorded (spans ++ []) := by
    intro next incidents hlog hnone hsame
    rw [List.append_nil]
    exact h.quiet hlog hnone hsame
  have hidle : t.Recorded (spans ++ []) := hquiet (List.append_nil _).symm rfl rfl
  cases move with
  | arrive => exact hquiet (List.append_nil _).symm rfl rfl
  | request c => exact hquiet rfl (c.not_isWake _) rfl
  | takeId | deliver | shutDown | check => exact hquiet rfl rfl rfl
  | close =>
      show t.close.Recorded (spans ++ [])
      unfold close
      cases t.closing with
      | running | unlistened | draining | drained => exact hquiet rfl rfl rfl
      | released => exact hidle
  | turn n =>
      show (t.step (.turn n)).Recorded (spans ++ [])
      unfold Traffic.step
      dsimp only
      split
      · split
        · exact hquiet rfl rfl rfl
        · exact hidle
      · exact hidle
  | back n feedback =>
      show (t.step (.back n feedback)).Recorded (spans ++ [])
      unfold Traffic.step
      dsimp only
      split
      · split
        · exact hquiet rfl rfl (Task.latencies_hear ..)
        · exact hidle
      · exact hidle
  | step n latency =>
      unfold Traffic.step latency?
      dsimp only
      cases t.strands[n]? with
      | none => exact hidle
      | some strand =>
          rw [Option.any_some]
          rcases strand.task.notes_step n latency t.arbiter with
            ⟨hnone, hsame⟩ | ⟨outcome, hlooked, hnoted⟩
          · rw [hnone]
            exact hquiet rfl hnone hsame
          · rw [hlooked]
            exact h.wake (congrArg (t.log ++ ·) hlooked) hnoted

theorem Recorded.run (h : t.Recorded spans) (moves : List Move) :
    (t.run moves).Recorded (spans ++ t.latencies moves) := by
  induction moves generalizing t spans with
  | nil =>
      unfold latencies
      rw [List.append_nil]
      exact h
  | cons move moves ih =>
      unfold latencies
      rw [← List.append_assoc]
      exact ih (h.step move)

/-- At any time the metrics have the latest latencies of the waits that have ended. -/
theorem recorded_run (config : Config) (moves : List Move) :
    ((start config).run moves).Recorded ((start config).latencies moves) := by
  have hstart : (start config).Recorded [] := ⟨rfl, rfl⟩
  exact hstart.run moves

end Traffic

end Hydration
