/-
Answers and the shutdown, compared with what the log tells of them: what a look at the table can show
is what has been delivered since the registration, and whether a shutdown has begun.

# Slots

The entry of a request that is held changes only by answers to its id (`Outside.Step.find?_eq`); no
step of another strand touches it, for that strand can neither let it go nor register its id again
(`Strand.Step.find?_of_held`). So the slot shows the first answer that came in.
-/
import Hydration.Proofs.Traffic.Log
import Hydration.Proofs.Traffic.Ownership

namespace Hydration

-- ============================================================ answers in the log

/-- The outcome that an incident brings to the request with an id. -/
def Incident.answerTo? (id : UInt64) : Incident → Option Outcome
  | delivered other kind => if other = id then kind.outcome? else none
  | _ => none

/-- The first outcome that is brought to the request with an id. -/
def firstAnswerIn (id : UInt64) (log : List Incident) : Option Outcome :=
  log.findSome? (Incident.answerTo? id)

theorem firstAnswerIn_append (id : UInt64) (before after : List Incident) :
    firstAnswerIn id (before ++ after) = (firstAnswerIn id before).or (firstAnswerIn id after) :=
  List.findSome?_append

/-- The steps of strands bring no answers. -/
theorem Strand.Step.firstAnswerIn {policy : UnreachablePolicy} {n : Nat} {table table' : Pending}
    {active active' : Nat} {strand strand' : Strand} {incidents : List Incident}
    (h : Step policy n table active strand table' active' strand' incidents) (id : UInt64) :
    firstAnswerIn id incidents = none := by
  refine List.findSome?_eq_none_iff.2 fun i hi => ?_
  rcases h.strand?_of_mem hi with ⟨other, rfl⟩ | hsome
  · rfl
  · cases i <;> first | rfl | cases hsome

theorem Commission.firstAnswerIn (c : Commission) (n : Nat) (id : UInt64) :
    firstAnswerIn id (c.incidents n) = none := by
  refine List.findSome?_eq_none_iff.2 fun i hi => ?_
  have hsome := strand?_of_mem hi
  cases i <;> first | rfl | cases hsome

-- ============================================================ slots

/-- What comes from outside writes the slots, by the answers that the log tells of. -/
theorem Outside.Step.find?_eq {active : Nat} {table table' : Pending}
    {closing closing' : Closing} {incidents : List Incident}
    (h : Step active table closing table' closing' incidents) (id : UInt64) :
    table'.find? id = (table.find? id).map (Entry.hear (firstAnswerIn id incidents)) := by
  cases h with
  | deliver _ other kind =>
      have hanswer : firstAnswerIn id [.delivered other kind] =
          if other = id then kind.outcome? else none := by
        simp only [firstAnswerIn, List.findSome?_cons, Incident.answerTo?, List.findSome?_nil]
        split <;> simp_all
      rw [Pending.find?_deliver, hanswer]
      by_cases heq : other = id
      · rw [if_pos heq.symm, if_pos heq, heq]
      · rw [if_neg (Ne.symm heq), if_neg heq, Entry.map_hear_none]
  | idle | issue | shutDown | check | unlisten | drain | look | release =>
      exact (Entry.map_hear_none _).symm

/-- The step of one strand leaves alone what another one holds. -/
theorem Strand.Step.find?_of_held {t : Traffic} (howned : Owned t) {policy : UnreachablePolicy}
    {k n : Nat} {table' : Pending} {active active' : Nat} {before after : Strand}
    {incidents : List Incident} (hk : t.strands[k]? = some before)
    (hstep : Step policy k t.pending active before table' active' after incidents)
    (hother : n ≠ k) {id : UInt64} (hheld : t.held? n = some id) :
    table'.find? id = t.pending.find? id := by
  rcases hstep.held_cases with ⟨message, hreg, -, -⟩ | ⟨dropped, rfl, hdropped, -⟩ |
    ⟨hentries, -⟩
  · -- an id that is in the table is not registered
    have hfree := (Pending.register_ok_iff.1 hreg).2.1
    have hin := howned.contains_of_held hheld
    rw [Pending.find?_register hreg, if_neg]
    rintro rfl
    rw [hin] at hfree
    cases hfree
  · -- an id that is let go was held by the strand that moves
    rw [Pending.find?_drop, if_neg]
    rintro rfl
    exact hother (howned.holder_unique hheld (Option.bind_eq_some_iff.2 ⟨before, hk, hdropped⟩))
  · unfold Pending.find?
    rw [hentries]

-- ============================================================ the shutdown

theorem Strand.Step.shuttingDown {policy : UnreachablePolicy} {n : Nat}
    {table table' : Pending} {active active' : Nat} {strand strand' : Strand}
    {incidents : List Incident}
    (h : Step policy n table active strand table' active' strand' incidents) :
    table'.shuttingDown = table.shuttingDown ∧ .shutDown ∉ incidents := by
  refine ⟨?_, fun hmem => ?_⟩
  · cases h with
    | register _ _ _ _ _ _ _ hnext =>
        rw [Pending.shuttingDown_register hnext, (Pending.register_ok_iff.1 hnext).1]
    | _ => rfl
  · rcases h.strand?_of_mem hmem with ⟨id, hid⟩ | hsome
    · cases hid
    · cases hsome

/-- The flag of the table is up when the log tells of a shutdown. -/
def Flagged (t : Traffic) : Prop := t.pending.shuttingDown = true ↔ .shutDown ∈ t.log

theorem Flagged.step {t next : Traffic} (h : Flagged t) {move : Move}
    (hstep : t.Step move next) : Flagged next := by
  unfold Flagged at h ⊢
  cases hstep with
  | strand n before after incidents hn hstep hstrands hclosing hlog =>
      obtain ⟨hsame, hno⟩ := hstep.shuttingDown
      rw [hsame, hlog, h, List.mem_append]
      simp [hno]
  | arrive access hpending hactive hstrands hclosing hlog =>
      rw [hpending, hlog]
      exact h
  | request c hmove hpending hactive hstrands hclosing hlog =>
      have hno : .shutDown ∉ c.incidents t.strands.length := fun hmem => by
        cases Commission.strand?_of_mem hmem
      rw [hpending, hlog, h, List.mem_append]
      simp [hno]
  | outside incidents hstep hactive hstrands hlog =>
      rw [hlog, List.mem_append, ← h]
      generalize t.closing = closing, next.closing = closing', t.pending = table,
        next.pending = table' at hstep
      cases hstep <;> simp

end Hydration
