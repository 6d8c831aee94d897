/-
Calls and requests that come back, whatever their collaborators do.

# Coming back

A call takes one step after another, and it has come back when it is done. How many steps that takes is
nobody's concern (`Call.Returns`, `Errand.Returns`): a call that is done stays so, hence it comes back
in one way only. Each step of a call is turned into an equivalence between coming back from before it
and from behind it, so that a call is followed to its end by rewriting, and what it has returned is
read backwards in the same way.

# Who was asked

Collaborators can be made to keep a list of the calls that they receive (`Collaborators.recorded`). They
answer as before, and nobody notices the list, so a call comes back among those that keep it exactly as it
does among the others (`Call.returns_recorded_iff`).
-/
import Hydration.Proofs.Agreement.Calls
import Hydration.Proofs.Traffic.Basic

namespace Hydration

variable {σ : Type} {others : Collaborators σ} {access : Access} {arbiter arbiter' : Arbiter}
  {world world' : σ}

-- ============================================================ requests

namespace Errand

/-- A request for content comes back with a verdict, and so it leaves the arbiter and the others. -/
def Returns (others : Collaborators σ) (e : Errand) (arbiter : Arbiter) (world : σ) (v : Verdict)
    (arbiter' : Arbiter) (world' : σ) : Prop :=
  ∃ count, e.moves others count arbiter world = (.done v, arbiter', world')

variable {e next : Errand} {v : Verdict}

theorem moves_succ {count : Nat} {between : Arbiter} {world₁ : σ}
    (h : e.move others arbiter world = (next, between, world₁)) :
    e.moves others (count + 1) arbiter world = next.moves others count between world₁ := by
  rw [moves, h]

/-- An errand that is done stays as it is. -/
theorem moves_done (others : Collaborators σ) (count : Nat) (arbiter : Arbiter) (world : σ)
    (v : Verdict) : (done v).moves others count arbiter world = (done v, arbiter, world) := by
  induction count with
  | zero => rfl
  | succ count ih => exact ih

/-- One more move makes no difference to an errand that is done. -/
theorem moves_done_succ {count : Nat}
    (h : e.moves others count arbiter world = (done v, arbiter', world')) :
    e.moves others (count + 1) arbiter world = (done v, arbiter', world') := by
  induction count generalizing e arbiter world with
  | zero =>
      cases h
      rfl
  | succ count ih => exact ih h

theorem done_or_open (e : Errand) : (∃ v, e = done v) ∨ ∀ v, e ≠ done v := by
  cases e with
  | done v => exact .inl ⟨v, rfl⟩
  | number | register | send | await | release => exact .inr nofun

theorem returns_done_iff {final : Verdict} :
    Returns others (done v) arbiter world final arbiter' world' ↔
      final = v ∧ arbiter' = arbiter ∧ world' = world := by
  unfold Returns
  simp only [moves_done, Prod.mk.injEq, done.injEq]
  constructor
  · rintro ⟨-, rfl, rfl, rfl⟩
    exact ⟨rfl, rfl, rfl⟩
  · rintro ⟨rfl, rfl, rfl⟩
    exact ⟨0, rfl, rfl, rfl⟩

/-- A request comes back as it does from behind its next step. -/
theorem returns_iff_of_move {between : Arbiter} {world₁ : σ}
    (h : e.move others arbiter world = (next, between, world₁)) :
    Returns others e arbiter world v arbiter' world' ↔
      Returns others next between world₁ v arbiter' world' := by
  constructor
  · rintro ⟨count, hmoves⟩
    exact ⟨count, (moves_succ h).symm.trans (moves_done_succ hmoves)⟩
  · rintro ⟨count, hmoves⟩
    exact ⟨count + 1, (moves_succ h).trans hmoves⟩

theorem returns_number_iff {root : Int} {message : Message} :
    Returns others (number root message) arbiter world v arbiter' world' ↔
      Returns others (register root { message with id := arbiter.pending.nextId }) arbiter.takeId.2
        world v arbiter' world' :=
  returns_iff_of_move rfl

/-- A request that the table takes. -/
theorem returns_register_ok_iff {root : Int} {message : Message} {table : Pending}
    (h : arbiter.pending.register message = .ok table) :
    Returns others (register root message) arbiter world v arbiter' world' ↔
      Returns others (send root message)
        (Arbiter.count { arbiter with pending := table } (·.countRequest)) world v arbiter' world' := by
  apply returns_iff_of_move
  simp only [move, step, h]

/-- A request that the table refuses comes back at once. -/
theorem returns_register_error_iff {root : Int} {message : Message} {fault : RegisterFault}
    (h : arbiter.pending.register message = .error fault) :
    Returns others (register root message) arbiter world v arbiter' world' ↔
      v = refusalOf fault ∧ arbiter' = arbiter ∧ world' = world := by
  have hmove : (register root message).move others arbiter world =
      (done (refusalOf fault), arbiter, world) := by
    simp only [move, step, h]
  rw [returns_iff_of_move hmove, returns_done_iff]

/-- A message that the channel takes. -/
theorem returns_send_ok_iff {root : Int} {message : Message} {between : Arbiter} {world₁ : σ}
    (h : others.send root message arbiter world = (.ok (), between, world₁)) :
    Returns others (send root message) arbiter world v arbiter' world' ↔
      Returns others (await message.id) between world₁ v arbiter' world' := by
  apply returns_iff_of_move
  simp only [move, h, returned]

/-- A message that the channel does not take. -/
theorem returns_send_error_iff {root : Int} {message : Message} {between : Arbiter} {world₁ : σ}
    {fault : SendFault}
    (h : others.send root message arbiter world = (.error fault, between, world₁)) :
    Returns others (send root message) arbiter world v arbiter' world' ↔
      Returns others (release message.id (unreachable between.onUnreachable))
        (between.count (·.countTransportFailure)) world₁ v arbiter' world' := by
  apply returns_iff_of_move
  simp only [move, h, returned]

theorem returns_release_iff {id : UInt64} {final : Verdict} :
    Returns others (release id v) arbiter world final arbiter' world' ↔
      final = v ∧ arbiter' = { arbiter with pending := arbiter.pending.drop id } ∧
        world' = world := by
  rw [returns_iff_of_move rfl]
  exact returns_done_iff

/-- A request whose message goes to the channel is waited for, or let go at once. -/
theorem Returns.of_send {root : Int} {message : Message}
    (h : Returns others (send root message) arbiter world v arbiter' world') :
    ∃ between world₁,
      (∃ fault, others.send root message arbiter world = (.error fault, between, world₁) ∧
        v = unreachable between.onUnreachable ∧ world' = world₁ ∧
        arbiter' = { between.count (·.countTransportFailure) with
          pending := between.pending.drop message.id }) ∨
      (others.send root message arbiter world = (.ok (), between, world₁) ∧
        Returns others (await message.id) between world₁ v arbiter' world') := by
  obtain ⟨result, between, world₁, hsent⟩ : ∃ result between world₁,
      others.send root message arbiter world = (result, between, world₁) := ⟨_, _, _, rfl⟩
  refine ⟨between, world₁, ?_⟩
  cases result with
  | error fault =>
      obtain ⟨hv, harbiter, hworld⟩ := returns_release_iff.1 ((returns_send_error_iff hsent).1 h)
      exact .inl ⟨fault, hsent, hv, hworld, harbiter⟩
  | ok done => exact .inr ⟨hsent, (returns_send_ok_iff hsent).1 h⟩

/-- A wait is one look after another, each after what happens meanwhile. What holds at its beginning and
is kept meanwhile holds when it is over. -/
theorem Returns.of_await {id : UInt64}
    (h : Returns others (await id) arbiter world v arbiter' world') (holds : Arbiter → σ → Prop)
    (hnow : holds arbiter world)
    (hkept : ∀ arbiter world, holds arbiter world →
      holds (others.meanwhile arbiter world).1 (others.meanwhile arbiter world).2) :
    ∃ between outcome, holds between world' ∧ between.pending.outcome? id = some outcome ∧
      v = verdictOf outcome ∧
      arbiter' = { between.recordLatency .zero with
        pending := (between.recordLatency .zero).pending.drop id } := by
  obtain ⟨count, hmoves⟩ := h
  induction count generalizing arbiter world with
  | zero => cases hmoves
  | succ count ih =>
      obtain ⟨between, world₁, hholds, hmove⟩ : ∃ between world₁, holds between world₁ ∧
          (await id).move others arbiter world =
            (((await id).step .zero between).2, ((await id).step .zero between).1, world₁) := by
        by_cases hsome : (arbiter.pending.outcome? id).isSome = true
        · refine ⟨arbiter, world, hnow, ?_⟩
          simp only [move, hsome, if_true]
        · refine ⟨_, _, hkept _ _ hnow, ?_⟩
          simp only [move, hsome, Bool.false_eq_true, if_false]
      cases houtcome : between.pending.outcome? id with
      | none =>
          have hagain : (await id).move others arbiter world = (await id, between, world₁) := by
            rw [hmove]
            simp only [step, houtcome]
          rw [moves_succ hagain] at hmoves
          exact ih hholds hmoves
      | some outcome =>
          have hover : (await id).move others arbiter world =
              (release id (verdictOf outcome), between.recordLatency .zero, world₁) := by
            rw [hmove]
            simp only [step, houtcome]
          rw [moves_succ hover] at hmoves
          obtain ⟨hv, harbiter, rfl⟩ := returns_release_iff.1 ⟨count, hmoves⟩
          exact ⟨between, outcome, hholds, houtcome, hv, harbiter⟩

end Errand

/-- The ways a request for content can come back: without a path for its object, refused by the table, or
from behind the channel. -/
theorem Commission.returns_cases {c : Commission} {v : Verdict}
    (h : Errand.Returns others c.errand arbiter world v arbiter' world') :
    (∃ fault, Errand.target c.root c.node = .error fault ∧ v = .deny .pathUnresolved ∧
      arbiter' = arbiter ∧ world' = world) ∨
    (∃ path fault, Errand.target c.root c.node = .ok path ∧
      arbiter.takeId.2.pending.register (c.message path arbiter.pending.nextId) = .error fault ∧
      v = Errand.refusalOf fault ∧ arbiter' = arbiter.takeId.2 ∧ world' = world) ∨
    (∃ path table, Errand.target c.root c.node = .ok path ∧
      arbiter.takeId.2.pending.register (c.message path arbiter.pending.nextId) = .ok table ∧
      Errand.Returns others (.send c.root.index (c.message path arbiter.pending.nextId))
        (Arbiter.count { arbiter.takeId.2 with pending := table } (·.countRequest)) world v arbiter'
        world') := by
  unfold errand Errand.start at h
  cases htarget : Errand.target c.root c.node with
  | error fault =>
      rw [htarget] at h
      exact .inl ⟨fault, rfl, Errand.returns_done_iff.1 h⟩
  | ok path =>
      rw [htarget] at h
      have hregister := Errand.returns_number_iff.1 h
      cases htable : arbiter.takeId.2.pending.register (c.message path arbiter.pending.nextId) with
      | error fault =>
          exact .inr (.inl ⟨path, fault, rfl, htable,
            (Errand.returns_register_error_iff htable).1 hregister⟩)
      | ok table =>
          exact .inr (.inr ⟨path, table, rfl, htable,
            (Errand.returns_register_ok_iff htable).1 hregister⟩)

/-- A request that could not be resolved has no path for its object. -/
theorem Commission.target_of_unresolved {c : Commission}
    (h : Errand.Returns others c.errand arbiter world (.deny .pathUnresolved) arbiter' world') :
    ∃ fault, Errand.target c.root c.node = .error fault := by
  rcases c.returns_cases h with ⟨fault, htarget, -⟩ | ⟨path, fault, -, -, hrefused, -⟩ |
    ⟨path, table, -, -, hsend⟩
  · exact ⟨fault, htarget⟩
  · cases fault <;> cases hrefused
  · obtain ⟨between, world₁, ⟨fault, -, hverdict, -⟩ | ⟨-, hwait⟩⟩ := hsend.of_send
    · cases hpolicy : between.onUnreachable <;> rw [hpolicy] at hverdict <;> cases hverdict
    · obtain ⟨_, outcome, -, -, hverdict, -⟩ :=
        hwait.of_await (fun _ _ => True) trivial fun _ _ _ => trivial
      rcases outcome with ⟨_ | _⟩ | _ <;> cases hverdict

-- ============================================================ calls

namespace Call

/-- A call comes back with a decision, and so it leaves the arbiter and the others. -/
def Returns (others : Collaborators σ) (access : Access) (call : Call) (arbiter : Arbiter) (world : σ)
    (decision : Decision) (arbiter' : Arbiter) (world' : σ) : Prop :=
  ∃ count, call.moves others access count arbiter world = (.done decision, arbiter', world')

variable {call next : Call} {decision : Decision}

theorem returns_done_iff {final : Decision} :
    Returns others access (done decision) arbiter world final arbiter' world' ↔
      final = decision ∧ arbiter' = arbiter ∧ world' = world := by
  unfold Returns
  simp only [moves_done, Prod.mk.injEq, done.injEq]
  constructor
  · rintro ⟨-, rfl, rfl, rfl⟩
    exact ⟨rfl, rfl, rfl⟩
  · rintro ⟨rfl, rfl, rfl⟩
    exact ⟨0, rfl, rfl, rfl⟩

/-- A call comes back as it does from behind its next step. -/
theorem returns_iff_of_move {between : Arbiter} {world₁ : σ}
    (h : call.move others access arbiter world = (next, between, world₁)) :
    Returns others access call arbiter world decision arbiter' world' ↔
      Returns others access next between world₁ decision arbiter' world' := by
  constructor
  · rintro ⟨count, hmoves⟩
    exact ⟨count, (moves_succ h).symm.trans (moves_of_done (Nat.le_succ count) hmoves)⟩
  · rintro ⟨count, hmoves⟩
    exact ⟨count + 1, (moves_succ h).trans hmoves⟩

/-- A call that is run to its end comes back. -/
theorem returns_of_run (h : call.run others access arbiter world = (done decision, arbiter', world')) :
    Returns others access call arbiter world decision arbiter' world' :=
  ⟨12, h⟩

theorem returns_enter_iff :
    Returns others access enter arbiter world decision arbiter' world' ↔
      Returns others access (ask (.ofAccess arbiter.crawlers access))
        { arbiter with active := arbiter.active + 1 } world decision arbiter' world' :=
  returns_iff_of_move rfl

theorem returns_leave_iff {final : Decision} :
    Returns others access (leave decision) arbiter world final arbiter' world' ↔
      final = decision ∧ arbiter' = countDecision arbiter decision ∧ world' = world := by
  rw [returns_iff_of_move rfl]
  exact returns_done_iff

/-- A call makes the moves of its errand. -/
theorem move_errand {e next : Errand} {between : Arbiter} {world₁ : σ} (hopen : ∀ v, e ≠ .done v)
    (h : e.move others arbiter world = (next, between, world₁)) :
    (errand e).move others access arbiter world = (errand next, between, world₁) := by
  cases e with
  | done v => exact absurd rfl (hopen v)
  | number | register | send | await | release => simp only [move, h]

/-- A call with an errand comes back when the errand does, with its verdict. -/
theorem returns_errand_iff {e : Errand} :
    Returns others access (errand e) arbiter world decision arbiter' world' ↔
      ∃ v between, Errand.Returns others e arbiter world v between world' ∧ decision = .ok v ∧
        arbiter' = countDecision between (.ok v) := by
  have hdone : ∀ (v : Verdict) (arbiter : Arbiter) (world : σ),
      Returns others access (errand (.done v)) arbiter world decision arbiter' world' ↔
        decision = .ok v ∧ arbiter' = countDecision arbiter (.ok v) ∧ world' = world := by
    intro v arbiter world
    rw [returns_iff_of_move rfl]
    exact returns_leave_iff
  constructor
  · rintro ⟨count, hmoves⟩
    induction count generalizing e arbiter world with
    | zero => cases hmoves
    | succ count ih =>
        rcases e.done_or_open with ⟨v, rfl⟩ | hopen
        · obtain ⟨hdecision, harbiter, hworld⟩ := (hdone v arbiter world).1 ⟨_, hmoves⟩
          exact ⟨v, arbiter, Errand.returns_done_iff.2 ⟨rfl, rfl, hworld⟩, hdecision, harbiter⟩
        · rw [moves_succ (move_errand hopen rfl)] at hmoves
          obtain ⟨v, between, hreturns, hdecision⟩ := ih hmoves
          exact ⟨v, between, (Errand.returns_iff_of_move rfl).2 hreturns, hdecision⟩
  · rintro ⟨v, between, ⟨count, hmoves⟩, hdecision, harbiter⟩
    induction count generalizing e arbiter world with
    | zero =>
        cases hmoves
        exact (hdone v between world').2 ⟨hdecision, harbiter, rfl⟩
    | succ count ih =>
        rcases e.done_or_open with ⟨w, rfl⟩ | hopen
        · exact ih hmoves
        · exact (returns_iff_of_move (move_errand hopen rfl)).2 (ih hmoves)

end Call

-- ============================================================ questions

namespace Inquiry

/-- What an inquiry comes to when it is put to the others, and how they are left. -/
def consult (others : Collaborators σ) (node : Node) : Inquiry → σ → Ruling × σ
  | askManaged next, world =>
    let (isManaged, world) := others.managed node world
    (next isManaged).consult others node world
  | askFlags next, world =>
    let (flags, world) := others.flags node world
    (next flags).consult others node world
  | askRoot next, world =>
    let (root, world) := others.root node world
    (next root).consult others node world
  | rule ruling, world => (ruling, world)

end Inquiry

/-- Nothing but the count of a ruling that needs no look at any root is changed by asking. -/
def Call.counted (arbiter : Arbiter) (ruling : Ruling) : Arbiter :=
  if ruling = .outside then arbiter.count (·.countFastPath) else arbiter

/-- The questions are put, and the call goes on with what the rules say. -/
theorem Call.returns_ask_iff {inquiry : Inquiry} {decision : Decision} {ruling : Ruling} {world₁ : σ}
    (h : inquiry.consult others access.node world = (ruling, world₁)) :
    Returns others access (ask inquiry) arbiter world decision arbiter' world' ↔
      Returns others access (ofRuling access ruling) (counted arbiter ruling) world₁ decision arbiter'
        world' := by
  induction inquiry generalizing world with
  | askManaged next ih =>
      rw [returns_iff_of_move rfl]
      exact ih _ h
  | askFlags next ih =>
      rw [returns_iff_of_move rfl]
      exact ih _ h
  | askRoot next ih =>
      rw [returns_iff_of_move rfl]
      exact ih _ h
  | rule r =>
      obtain ⟨rfl, rfl⟩ := Prod.mk.inj h
      apply returns_iff_of_move
      cases r with
      | outside | verdict | unreadable | hydrate => rfl

-- ============================================================ who was asked

/-- The same collaborators, with a list of the calls that they receive. -/
def Collaborators.recorded (others : Collaborators σ) : Collaborators (σ × List Contact) where
  managed node world :=
    let (isManaged, next) := others.managed node world.1
    (isManaged, next, world.2 ++ [.question .managed])
  flags node world :=
    let (flags, next) := others.flags node world.1
    (flags, next, world.2 ++ [.question .flags])
  root node world :=
    let (root, next) := others.root node world.1
    (root, next, world.2 ++ [.question .root])
  send root message arbiter world :=
    let (result, arbiter, next) := others.send root message arbiter world.1
    (result, arbiter, next, world.2 ++ [.send root message])
  meanwhile arbiter world :=
    let (arbiter, next) := others.meanwhile arbiter world.1
    (arbiter, next, world.2)

/-- Nobody notices the list. -/
theorem Errand.move_recorded (others : Collaborators σ) (e : Errand) (arbiter : Arbiter) (world : σ)
    (calls : List Contact) :
    ∃ more, e.move others.recorded arbiter (world, calls) =
      let (next, between, world₁) := e.move others arbiter world
      (next, between, world₁, more) := by
  cases e with
  | send root message => exact ⟨_, rfl⟩
  | await id =>
      unfold move
      by_cases hsome : (arbiter.pending.outcome? id).isSome = true
      · simp only [hsome, if_true]
        exact ⟨_, rfl⟩
      · simp only [hsome]
        exact ⟨_, rfl⟩
  | number | register | release | done => exact ⟨_, rfl⟩

theorem Call.move_recorded (others : Collaborators σ) (access : Access) (call : Call)
    (arbiter : Arbiter) (world : σ) (calls : List Contact) :
    ∃ more, call.move others.recorded access arbiter (world, calls) =
      let (next, between, world₁) := call.move others access arbiter world
      (next, between, world₁, more) := by
  cases call with
  | ask inquiry => cases inquiry <;> exact ⟨_, rfl⟩
  | errand e =>
      rcases e.done_or_open with ⟨v, rfl⟩ | hopen
      · exact ⟨_, rfl⟩
      · obtain ⟨more, hmore⟩ := e.move_recorded others arbiter world calls
        exact ⟨more, by rw [move_errand hopen hmore, move_errand hopen rfl]⟩
  | enter | leave | done => exact ⟨_, rfl⟩

theorem Call.moves_recorded (others : Collaborators σ) (access : Access) (count : Nat) (call : Call)
    (arbiter : Arbiter) (world : σ) (calls : List Contact) :
    ∃ more, call.moves others.recorded access count arbiter (world, calls) =
      let (final, between, world₁) := call.moves others access count arbiter world
      (final, between, world₁, more) := by
  induction count generalizing call arbiter world calls with
  | zero => exact ⟨calls, rfl⟩
  | succ count ih =>
      obtain ⟨more, hmove⟩ := call.move_recorded others access arbiter world calls
      obtain ⟨last, hlast⟩ := ih (call.move others access arbiter world).1
        (call.move others access arbiter world).2.1 (call.move others access arbiter world).2.2 more
      exact ⟨last, (moves_succ hmove).trans hlast⟩

/-- A call comes back among those who keep the list as it does among the others. -/
theorem Call.returns_recorded_iff {others : Collaborators σ} {call : Call} {decision : Decision}
    (calls : List Contact) :
    Returns others access call arbiter world decision arbiter' world' ↔
      ∃ more, Returns others.recorded access call arbiter (world, calls) decision arbiter'
        (world', more) := by
  constructor
  · rintro ⟨count, hreturns⟩
    obtain ⟨more, hmore⟩ := call.moves_recorded others access count arbiter world calls
    rw [hreturns] at hmore
    exact ⟨more, count, hmore⟩
  · rintro ⟨more, count, hreturns⟩
    obtain ⟨final, between, world₁, hplain⟩ : ∃ final between world₁,
        call.moves others access count arbiter world = (final, between, world₁) := ⟨_, _, _, rfl⟩
    obtain ⟨last, hlast⟩ := call.moves_recorded others access count arbiter world calls
    rw [hreturns, hplain] at hlast
    cases hlast
    exact ⟨count, hplain⟩

namespace Collaborators

/-- How the others are left by one question about an object. -/
def after (others : Collaborators σ) (node : Node) (world : σ) : Question → σ
  | .managed => (others.managed node world).2
  | .flags => (others.flags node world).2
  | .root => (others.root node world).2

/-- How they are left by several, in this order. -/
def afterAll (others : Collaborators σ) (node : Node) (world : σ) (questions : List Question) : σ :=
  questions.foldl (others.after node) world

end Collaborators

end Hydration
