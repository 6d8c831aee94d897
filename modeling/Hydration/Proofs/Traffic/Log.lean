/-
What the log of a traffic tells of a strand, compared with how far the strand is.

# Marks

Some things a strand takes on by a step of its own and never loses: that it has entered, that it has
returned. `Mark` says so of a test on strands and a test on incidents, and `Mark.log_any` is what
follows for every state: the log holds such an incident exactly when the strand shows the mark. With
the two marks the log alone tells which calls are between their entry and their return.

# Nothing after the return

No rule moves a call that has returned, so the log tells nothing of it any more (`log_pairwise`).
-/
import Hydration.Proofs.Traffic.Steps

namespace Hydration

-- ============================================================ whose incident

/-- The strand that an incident is of. -/
def Incident.strand? : Incident → Option Nat
  | entered n _ | requested n _ | registered n _ | refused n _ _ | called n _ | returned n _
  | looked n _ | resolved n _ | left n _ => some n
  | issued _ | delivered _ _ | shutDown | checked _ | unlistened | released => none

def Incident.isRegistration : Incident → Bool
  | registered .. => true
  | _ => false

theorem Commission.strand?_of_mem {n : Nat} {c : Commission} {i : Incident}
    (h : i ∈ c.incidents n) : i.strand? = some n := by
  unfold incidents at h
  split at h
  · rcases List.mem_cons.1 h with rfl | h
    · rfl
    · rw [List.mem_singleton.1 h]
      rfl
  · rw [List.mem_singleton.1 h]
    rfl

/-- The log tells nothing of other strands when one moves; an id is issued to nobody by name. -/
theorem Strand.Step.strand?_of_mem {policy : UnreachablePolicy} {n : Nat}
    {table table' : Pending} {active active' : Nat} {strand strand' : Strand}
    {incidents : List Incident}
    (h : Step policy n table active strand table' active' strand' incidents) {i : Incident}
    (hi : i ∈ incidents) : (∃ id, i = .issued id) ∨ i.strand? = some n := by
  cases h with
  | commission _ access ruling out c => exact .inr (Commission.strand?_of_mem hi)
  | number => exact .inl ⟨_, List.mem_singleton.1 hi⟩
  | rule | finish => cases hi
  | refuse =>
      rcases List.mem_cons.1 hi with rfl | hi
      · exact .inr rfl
      · rw [List.mem_singleton.1 hi]
        exact .inr rfl
  | enter | turn | answered | register | sent | unsent | wait | wake | release | leave =>
      rw [List.mem_singleton.1 hi]
      exact .inr rfl

theorem Outside.Step.strand?_of_mem {active : Nat} {table table' : Pending}
    {closing closing' : Closing} {incidents : List Incident}
    (h : Step active table closing table' closing' incidents) {i : Incident} (hi : i ∈ incidents) :
    i.strand? = none := by
  cases h with
  | idle => cases hi
  | issue | deliver | shutDown | check | unlisten | drain | look | release =>
      rw [List.mem_singleton.1 hi]
      rfl

/-- What is told of no strand, and is no id, comes from outside. -/
theorem Traffic.Step.outside_of_mem {t next : Traffic} {move : Move} (hstep : t.Step move next)
    {news : List Incident} (hnews : next.log = t.log ++ news) {i : Incident} (hi : i ∈ news)
    (hnobody : i.strand? = none) (hno : ∀ id, i ≠ .issued id) :
    Outside.Step t.arbiter.active t.pending t.closing next.pending next.closing news := by
  cases hstep with
  | strand n before after incidents hn hstep hstrands hclosing hlog =>
      rw [hlog] at hnews
      rw [← List.append_cancel_left hnews] at hi
      rcases hstep.strand?_of_mem hi with ⟨id, hid⟩ | hsome
      · exact absurd hid (hno id)
      · rw [hnobody] at hsome
        cases hsome
  | arrive access hpending hactive hstrands hclosing hlog =>
      rw [hlog] at hnews
      rw [List.self_eq_append_right.1 hnews] at hi
      cases hi
  | request c hmove hpending hactive hstrands hclosing hlog =>
      rw [hlog] at hnews
      rw [← List.append_cancel_left hnews] at hi
      rw [Commission.strand?_of_mem hi] at hnobody
      cases hnobody
  | outside incidents hstep hactive hstrands hlog =>
      rw [hlog] at hnews
      rw [← List.append_cancel_left hnews]
      exact hstep

/-- What stands in the log was told by one of the moves; what stands before it was there when the move
was made, or was told by the same move. -/
theorem Traffic.exists_move (config : Config) (moves : List Move) {before after : List Incident}
    {i : Incident} (h : ((start config).run moves).log = before ++ i :: after) :
    ∃ early move late prior post, moves = early ++ move :: late ∧
      before = ((start config).run early).log ++ prior ∧
      (((start config).run early).step move).log =
        ((start config).run early).log ++ (prior ++ i :: post) := by
  induction moves using List.reverseRecOn generalizing after with
  | nil => simp [run, start] at h
  | append_singleton moves move ih =>
      rw [run_concat] at h
      obtain ⟨news, hnews⟩ := (step_step ((start config).run moves) move).log_grows
      rw [hnews] at h
      rcases List.append_eq_append_iff.1 h with ⟨prior, hbefore, hnew⟩ | ⟨rest, hlog, hrest⟩
      · exact ⟨moves, move, [], prior, after, rfl, hbefore, by rw [hnews, hnew]⟩
      · cases rest with
        | nil =>
            refine ⟨moves, move, [], [], after, rfl, ?_, ?_⟩
            · rw [hlog, List.append_nil, List.append_nil]
            · rw [hnews, hrest]
              rfl
        | cons first rest =>
            injection hrest with hfirst hrest
            subst hfirst
            obtain ⟨early, m, late, prior, post, rfl, hbefore, hpost⟩ := ih hlog
            exact ⟨early, m, late ++ [move], prior, post, by simp, hbefore, hpost⟩

-- ============================================================ marks

/-- A test on strands that only a strand's own incidents turn on, and nothing turns off. -/
structure Mark (shows : Strand → Bool) (leaves : Nat → Incident → Bool) : Prop where
  own : ∀ {n : Nat} {i : Incident}, leaves n i = true → i.strand? = some n
  step : ∀ {policy : UnreachablePolicy} {n : Nat} {table table' : Pending}
    {active active' : Nat} {strand strand' : Strand} {incidents : List Incident},
    Strand.Step policy n table active strand table' active' strand' incidents →
      shows strand' = (shows strand || incidents.any (leaves n))
  arrive : ∀ access, shows ⟨.call access .enter, false⟩ = false
  request : ∀ (c : Commission) (n : Nat),
    shows ⟨.errand c.errand, false⟩ = (c.incidents n).any (leaves n)

namespace Mark

variable {shows : Strand → Bool} {leaves : Nat → Incident → Bool}

/-- Incidents of others leave nothing. -/
theorem any_eq_false (hmark : Mark shows leaves) {n : Nat} {incidents : List Incident}
    (h : ∀ i ∈ incidents, i.strand? ≠ some n) : incidents.any (leaves n) = false := by
  rw [List.any_eq_false]
  intro i hi hleaves
  exact h i hi (hmark.own hleaves)

/-- A strand that is added at the end shows what it shows under its own number only. -/
theorem any_concat (strands : List Strand) (strand : Strand) (m : Nat) :
    (strands ++ [strand])[m]?.any shows =
      (strands[m]?.any shows || (m = strands.length && shows strand)) := by
  rcases Nat.lt_trichotomy m strands.length with hlt | rfl | hgt
  · rw [List.getElem?_append_left hlt]
    simp [Nat.ne_of_lt hlt]
  · simp
  · rw [List.getElem?_eq_none (by simp; omega), List.getElem?_eq_none (by omega)]
    simp [Nat.ne_of_gt hgt]

/-- The log tells of the mark when the strand shows it. -/
def Holds (shows : Strand → Bool) (leaves : Nat → Incident → Bool) (t : Traffic) : Prop :=
  ∀ n, t.log.any (leaves n) = t.strands[n]?.any shows

theorem holds_step (hmark : Mark shows leaves) {t next : Traffic} {move : Move}
    (h : Holds shows leaves t) (hstep : t.Step move next) : Holds shows leaves next := by
  intro m
  cases hstep with
  | strand n before after incidents hn hstep hstrands hclosing hlog =>
      rw [hlog, hstrands, List.any_append, h m]
      by_cases heq : n = m
      · subst heq
        obtain ⟨hlt, -⟩ := List.getElem?_eq_some_iff.1 hn
        rw [List.getElem?_set_self hlt, hn, Option.any_some, Option.any_some, hmark.step hstep]
      · have hothers : ∀ i ∈ incidents, i.strand? ≠ some m := by
          intro i hi hm
          rcases hstep.strand?_of_mem hi with ⟨id, rfl⟩ | hsome
          · cases hm
          · rw [hsome] at hm
            exact heq (Option.some.inj hm)
        rw [hmark.any_eq_false hothers, Bool.or_false, List.getElem?_set_ne heq]
  | arrive access hpending hactive hstrands hclosing hlog =>
      rw [hlog, hstrands, any_concat, hmark.arrive, Bool.and_false, Bool.or_false]
      exact h m
  | request c hmove hpending hactive hstrands hclosing hlog =>
      rw [hlog, hstrands, any_concat, List.any_append, h m, hmark.request c t.strands.length]
      by_cases heq : m = t.strands.length
      · rw [heq, decide_eq_true rfl, Bool.true_and]
      · have hothers : ∀ i ∈ c.incidents t.strands.length, i.strand? ≠ some m := by
          intro i hi hm
          rw [Commission.strand?_of_mem hi] at hm
          exact heq (Option.some.inj hm).symm
        rw [hmark.any_eq_false hothers, decide_eq_false heq, Bool.false_and]
  | outside incidents hstep hactive hstrands hlog =>
      have hnobody : ∀ i ∈ incidents, i.strand? ≠ some m := by
        intro i hi
        rw [hstep.strand?_of_mem hi]
        exact Option.some_ne_none m ∘ Eq.symm
      rw [hlog, hstrands, List.any_append, h m, hmark.any_eq_false hnobody, Bool.or_false]

/-- The log and the strands agree on a mark in every state that can be reached. -/
theorem log_any (hmark : Mark shows leaves) (config : Config) (moves : List Move) (n : Nat) :
    ((Traffic.start config).run moves).log.any (leaves n) =
      ((Traffic.start config).run moves).strands[n]?.any shows := by
  have hholds : Holds shows leaves ((Traffic.start config).run moves) := by
    induction moves using List.reverseRecOn with
    | nil => exact fun n => rfl
    | append_singleton moves move ih =>
        rw [Traffic.run_concat]
        exact hmark.holds_step ih (Traffic.step_step _ move)
  exact hholds n

end Mark

-- ============================================================ entry and return

def Incident.isEntry (n : Nat) : Incident → Bool
  | entered m _ => m = n
  | _ => false

def Incident.isReturn (n : Nat) : Incident → Bool
  | left m _ => m = n
  | _ => false

def Task.hasEntered : Task → Bool
  | call _ .enter | errand _ => false
  | call _ _ => true

def Task.hasReturned : Task → Bool
  | call _ (.done _) => true
  | _ => false

theorem Task.isUnderWay_eq (task : Task) :
    task.isUnderWay = (task.hasEntered && !task.hasReturned) := by
  cases task with
  | errand => rfl
  | call access c => cases c <;> rfl

/-- How far an errand is says nothing about entry and return. -/
theorem Task.withErrand_marks {task : Task} {e : Errand} (h : task.errand? = some e)
    (next : Errand) :
    (task.withErrand next).hasEntered = task.hasEntered ∧
      (task.withErrand next).hasReturned = task.hasReturned := by
  unfold errand? at h
  split at h <;> cases h <;> exact ⟨rfl, rfl⟩

/-- The beginning of a request is neither an entry nor a return. -/
theorem Commission.any_incidents (c : Commission) (n m : Nat) :
    (c.incidents n).any (Incident.isEntry m) = false ∧
      (c.incidents n).any (Incident.isReturn m) = false := by
  unfold incidents
  split <;> exact ⟨rfl, rfl⟩

theorem Mark.entry : Mark (fun strand => strand.task.hasEntered) Incident.isEntry where
  own := by
    intro n i h
    cases i with
    | entered m access => exact congrArg some (of_decide_eq_true h)
    | _ => cases h
  step := by
    intro policy n table table' active active' strand strand' incidents h
    cases h with
    | number _ _ _ _ _ he | register _ _ _ _ _ _ he _ | refuse _ _ _ _ _ _ he _
    | sent _ _ _ _ he | unsent _ _ _ _ _ he | wake _ _ _ _ _ he _ | release _ _ _ _ _ he =>
        simp [(Task.withErrand_marks he _).1, Incident.isEntry]
    | commission _ access ruling out c => simp [Task.hasEntered]
    | enter | rule | turn | answered | wait | finish | leave =>
        simp [Task.hasEntered, Incident.isEntry]
  arrive _ := rfl
  request c n := (c.any_incidents n n).1.symm

theorem Mark.exit : Mark (fun strand => strand.task.hasReturned) Incident.isReturn where
  own := by
    intro n i h
    cases i with
    | left m decision => exact congrArg some (of_decide_eq_true h)
    | _ => cases h
  step := by
    intro policy n table table' active active' strand strand' incidents h
    cases h with
    | number _ _ _ _ _ he | register _ _ _ _ _ _ he _ | refuse _ _ _ _ _ _ he _
    | sent _ _ _ _ he | unsent _ _ _ _ _ he | wake _ _ _ _ _ he _ | release _ _ _ _ _ he =>
        simp [(Task.withErrand_marks he _).2, Incident.isReturn]
    | commission _ access ruling out c => simp [Task.hasReturned, (c.any_incidents n n).2]
    | enter | rule | turn | answered | wait | finish | leave =>
        simp [Task.hasReturned, Incident.isReturn]
  arrive _ := rfl
  request c n := (c.any_incidents n n).2.symm

/-- The call with a number is between its entry and its return, as far as the log tells. -/
def isInside (log : List Incident) (n : Nat) : Bool :=
  log.any (Incident.isEntry n) && !log.any (Incident.isReturn n)

theorem isInside_run (config : Config) (moves : List Move) (n : Nat) :
    isInside ((Traffic.start config).run moves).log n =
      ((Traffic.start config).run moves).strands[n]?.any fun strand => strand.task.isUnderWay := by
  unfold isInside
  rw [Mark.entry.log_any, Mark.exit.log_any]
  cases ((Traffic.start config).run moves).strands[n]? with
  | none => rfl
  | some strand => exact strand.task.isUnderWay_eq.symm

theorem any_isEntry_iff {log : List Incident} {n : Nat} :
    log.any (Incident.isEntry n) = true ↔ ∃ access, .entered n access ∈ log := by
  rw [List.any_eq_true]
  constructor
  · rintro ⟨i, hi, hentry⟩
    cases i with
    | entered m access => exact ⟨access, of_decide_eq_true hentry ▸ hi⟩
    | _ => cases hentry
  · rintro ⟨access, hi⟩
    exact ⟨_, hi, decide_eq_true rfl⟩

theorem any_isReturn_iff {log : List Incident} {n : Nat} :
    log.any (Incident.isReturn n) = true ↔ ∃ decision, .left n decision ∈ log := by
  rw [List.any_eq_true]
  constructor
  · rintro ⟨i, hi, hreturn⟩
    cases i with
    | left m decision => exact ⟨decision, of_decide_eq_true hreturn ▸ hi⟩
    | _ => cases hreturn
  · rintro ⟨decision, hi⟩
    exact ⟨_, hi, decide_eq_true rfl⟩

-- ============================================================ nothing after the return

theorem Task.hasReturned_of_errand? {task : Task} {e : Errand} (h : task.errand? = some e) :
    task.hasReturned = false := by
  unfold errand? at h
  split at h <;> cases h <;> rfl

theorem Task.hasReturned_of_contact? {task : Task} {contact : Contact}
    (h : task.contact? = some contact) : task.hasReturned = false := by
  unfold contact? at h
  split at h <;> cases h <;> rfl

/-- No rule moves a call that has returned. -/
theorem Strand.Step.not_hasReturned {policy : UnreachablePolicy} {n : Nat}
    {table table' : Pending} {active active' : Nat} {strand strand' : Strand}
    {incidents : List Incident}
    (h : Step policy n table active strand table' active' strand' incidents) :
    strand.task.hasReturned = false := by
  cases h with
  | turn _ _ _ hcontact => exact Task.hasReturned_of_contact? hcontact
  | number _ _ _ _ _ he | register _ _ _ _ _ _ he _ | refuse _ _ _ _ _ _ he _
  | sent _ _ _ _ he | unsent _ _ _ _ _ he | wait _ _ _ _ he _ | wake _ _ _ _ _ he _
  | release _ _ _ _ _ he => exact Task.hasReturned_of_errand? he
  | enter | rule | commission | answered | finish | leave => rfl

/-- If the one incident is the return of a strand, the other is not of that strand. -/
def Incident.Precedes (first second : Incident) : Prop :=
  ∀ n decision, first = .left n decision → second.strand? ≠ some n

theorem Commission.pairwise_precedes (c : Commission) (n : Nat) :
    (c.incidents n).Pairwise Incident.Precedes := by
  unfold incidents
  split
  · refine List.pairwise_pair.2 fun m decision h => ?_
    cases h
  · exact List.pairwise_singleton _ _

/-- A step that tells of a return tells of nothing else. -/
theorem Strand.Step.pairwise_precedes {policy : UnreachablePolicy} {n : Nat}
    {table table' : Pending} {active active' : Nat} {strand strand' : Strand}
    {incidents : List Incident}
    (h : Step policy n table active strand table' active' strand' incidents) :
    incidents.Pairwise Incident.Precedes := by
  cases h with
  | commission _ access ruling out c => exact c.pairwise_precedes n
  | rule | finish => exact List.Pairwise.nil
  | refuse =>
      refine List.pairwise_pair.2 fun m decision h => ?_
      cases h
  | enter | turn | answered | number | register | sent | unsent | wait | wake | release | leave =>
      exact List.pairwise_singleton _ _

theorem Outside.Step.pairwise_precedes {active : Nat} {table table' : Pending}
    {closing closing' : Closing} {incidents : List Incident}
    (h : Step active table closing table' closing' incidents) : incidents.Pairwise Incident.Precedes := by
  cases h with
  | idle => exact List.Pairwise.nil
  | issue | deliver | shutDown | check | unlisten | drain | look | release =>
      exact List.pairwise_singleton _ _

namespace Traffic

/-- What a move adds to the log is not of strands that have returned. -/
theorem Step.news_precede {t next : Traffic} {move : Move} (hstep : t.Step move next)
    (hexit : Mark.Holds (fun strand => strand.task.hasReturned) Incident.isReturn t) :
    ∃ news, next.log = t.log ++ news ∧ news.Pairwise Incident.Precedes ∧
      ∀ first ∈ t.log, ∀ second ∈ news, first.Precedes second := by
  -- a strand whose return is in the log shows it
  have hshown : ∀ n decision, .left n decision ∈ t.log →
      ∃ strand, t.strands[n]? = some strand ∧ strand.task.hasReturned = true := by
    intro n decision hleft
    have hany := any_isReturn_iff.2 ⟨decision, hleft⟩
    rw [hexit n, Option.any_eq_true] at hany
    exact hany
  cases hstep with
  | strand n before after incidents hn hstep hstrands hclosing hlog =>
      refine ⟨incidents, hlog, hstep.pairwise_precedes, ?_⟩
      rintro first hfirst second hsecond m decision rfl hm
      obtain ⟨strand, hstrand, hreturned⟩ := hshown m decision hfirst
      rcases hstep.strand?_of_mem hsecond with ⟨id, rfl⟩ | hsome
      · cases hm
      · rw [hm] at hsome
        cases hsome
        rw [hn] at hstrand
        cases hstrand
        rw [hstep.not_hasReturned] at hreturned
        cases hreturned
  | arrive access hpending hactive hstrands hclosing hlog =>
      exact ⟨[], by simp [hlog], List.Pairwise.nil, fun _ _ _ h => absurd h List.not_mem_nil⟩
  | request c hmove hpending hactive hstrands hclosing hlog =>
      refine ⟨_, hlog, c.pairwise_precedes _, ?_⟩
      rintro first hfirst second hsecond m decision rfl hm
      obtain ⟨strand, hstrand, -⟩ := hshown m decision hfirst
      rw [Commission.strand?_of_mem hsecond] at hm
      cases hm
      rw [List.getElem?_eq_none (Nat.le_refl _)] at hstrand
      cases hstrand
  | outside incidents hstep hactive hstrands hlog =>
      refine ⟨incidents, hlog, ?_, ?_⟩
      · refine hstep.pairwise_precedes
      · rintro first hfirst second hsecond m decision rfl hm
        rw [hstep.strand?_of_mem hsecond] at hm
        cases hm

/-- The log tells nothing of a call that has returned before. -/
theorem log_pairwise (config : Config) (moves : List Move) :
    ((start config).run moves).log.Pairwise Incident.Precedes := by
  induction moves using List.reverseRecOn with
  | nil => exact List.Pairwise.nil
  | append_singleton moves move ih =>
      rw [run_concat]
      obtain ⟨news, hlog, hnews, hcross⟩ := (step_step ((start config).run moves) move).news_precede
        (Mark.exit.log_any config moves)
      rw [hlog]
      exact List.pairwise_append.2 ⟨ih, hnews, hcross⟩

end Traffic

end Hydration
