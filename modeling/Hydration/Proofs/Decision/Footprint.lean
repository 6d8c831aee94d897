/-
What a call leaves behind, whoever comes in between.

# Visitors

While the message of a call is with the channel, and while the call waits, others get at the table: they
bring answers to any ids, and they begin shutdowns. `Visitors` are collaborators that do nothing else,
when and as often as they like, and they keep the list of what they did.

# One request apart

The request of a call is in the table from its registration to its release. `Visited` is what holds in
between: the table without this request is what the list has made of the table before, as if the
request had never been there. The request's own id was free, so whatever the visitors do to it is gone
with it (`Pending.drop_interject`), and what they do to other ids is the same with or without it.

# No trace

`Traceless` is what is left when the call has come back, read off that for each part of the table. A
call whose fresh id is taken comes back without having called the channel, and the request under this
id is not touched.
-/
import Hydration.Proofs.Decision.Clauses
import Hydration.Proofs.Pending.Custody

namespace Hydration

-- ============================================================ interjections

/-- What others do to the table while a call is under way. -/
inductive Interjection where
  | deliver (id : UInt64) (kind : MessageKind)
  | shutDown
deriving DecidableEq

/-- The critical section that it is. -/
def Interjection.deed : Interjection → Deed
  | deliver id kind => .deliver id kind
  | shutDown => .abort

namespace Pending

variable {pending : Pending}

def interject (pending : Pending) : Interjection → Pending
  | .deliver id kind => (pending.deliver id kind).2
  | .shutDown => pending.abort.2

/-- Whatever is done to a request is gone with it, and the others do not notice that it was there. -/
theorem drop_interject (pending : Pending) (id : UInt64) (i : Interjection) :
    (pending.interject i).drop id = (pending.drop id).interject i := by
  cases i with
  | shutDown => rfl
  | deliver other kind => exact drop_deliver pending id other kind

theorem drop_foldl_interject (pending : Pending) (id : UInt64) (made : List Interjection) :
    (made.foldl interject pending).drop id = made.foldl interject (pending.drop id) :=
  (List.foldl_hom (drop · id) fun table i => (drop_interject table id i).symm).symm

@[simp] theorem outstanding_interject (i : Interjection) :
    (pending.interject i).outstanding = pending.outstanding := by
  cases i with
  | deliver id kind => exact outstanding_deliver id kind
  | shutDown => rfl

@[simp] theorem nextId_interject (i : Interjection) :
    (pending.interject i).nextId = pending.nextId := by
  cases i with
  | deliver id kind => exact nextId_deliver id kind
  | shutDown => rfl

theorem shuttingDown_interject (i : Interjection) :
    (pending.interject i).shuttingDown = true ↔ pending.shuttingDown = true ∨ i = .shutDown := by
  cases i with
  | deliver id kind => simp [interject]
  | shutDown => simp [interject]

theorem find?_interject (i : Interjection) (id : UInt64) :
    (pending.interject i).find? id = (pending.find? id).map (Entry.hear (i.deed.answerTo? id)) := by
  cases i with
  | shutDown => exact (Entry.map_hear_none _).symm
  | deliver other kind =>
      show (pending.deliver other kind).2.find? id = _
      rw [find?_deliver]
      by_cases h : id = other
      · subst h
        simp [Interjection.deed, Deed.answerTo?]
      · simp [Interjection.deed, Deed.answerTo?, h, Ne.symm h]

end Pending

/-- What others can make of a table by interjections alone: no request comes or goes, the first answer
that they bring to an id counts for it, and a shutdown is begun by them only. -/
structure Interjected (before : Pending) (made : List Interjection) (after : Pending) : Prop where
  /-- The requests of the others are all there, and none besides. -/
  outstanding : after.outstanding = before.outstanding
  /-- What was brought to their ids is all that they have heard. -/
  answers : ∀ id, after.find? id =
    (before.find? id).map (Entry.hear (firstAnswer id (made.map Interjection.deed)))
  shuttingDown : after.shuttingDown = true ↔ before.shuttingDown = true ∨ .shutDown ∈ made

theorem Pending.interjected_foldl (made : List Interjection) (pending : Pending) :
    Interjected pending made (made.foldl interject pending) := by
  induction made generalizing pending with
  | nil =>
      exact ⟨rfl, fun id => (Entry.map_hear_none _).symm, by simp⟩
  | cons i rest ih =>
      obtain ⟨houtstanding, hanswers, hdown⟩ := ih (pending.interject i)
      refine ⟨houtstanding.trans (outstanding_interject i), fun id => ?_, ?_⟩
      · rw [List.foldl_cons, hanswers, find?_interject, Option.map_map, List.map_cons,
          firstAnswer_cons]
        congr 1
        funext entry
        exact entry.hear_hear _ _
      · rw [List.foldl_cons, hdown, shuttingDown_interject, List.mem_cons, or_assoc,
          eq_comm (a := i)]

theorem Pending.nextId_foldl_interject (made : List Interjection) (pending : Pending) :
    (made.foldl interject pending).nextId = pending.nextId := by
  induction made generalizing pending with
  | nil => rfl
  | cons i rest ih => exact (ih (pending.interject i)).trans (nextId_interject i)

namespace Arbiter

def interject (arbiter : Arbiter) : Interjection → Arbiter
  | .deliver id kind => (arbiter.deliver id kind).2
  | .shutDown => arbiter.beginShutdown.2

/-- Others get at nothing of an arbiter but its table. -/
theorem foldl_interject (made : List Interjection) (arbiter : Arbiter) :
    made.foldl interject arbiter =
      { arbiter with pending := made.foldl Pending.interject arbiter.pending } := by
  induction made generalizing arbiter with
  | nil => rfl
  | cons i rest ih =>
      rw [List.foldl_cons, ih]
      cases i <;> rfl

end Arbiter

-- ============================================================ visitors

/-- Those whom the arbiter turns to, and all that they may do to it meanwhile. -/
structure Visitors (σ : Type) where
  managed : Node → σ → Bool × σ
  flags : Node → σ → Except FlagsFault Flags × σ
  root : Node → σ → Option Root × σ
  /-- What happens while the channel has a message, and how it comes back. -/
  send : Int → Message → Arbiter → σ → List Interjection × Except SendFault Unit × σ
  /-- What happens while a call waits. -/
  meanwhile : Arbiter → σ → List Interjection × σ

variable {σ : Type}

/-- Visitors as collaborators, with the list of what they did. -/
def Visitors.collaborators (visitors : Visitors σ) : Collaborators (σ × List Interjection) where
  managed node world :=
    let (isManaged, next) := visitors.managed node world.1
    (isManaged, next, world.2)
  flags node world :=
    let (flags, next) := visitors.flags node world.1
    (flags, next, world.2)
  root node world :=
    let (root, next) := visitors.root node world.1
    (root, next, world.2)
  send root message arbiter world :=
    let (made, result, next) := visitors.send root message arbiter world.1
    (result, made.foldl .interject arbiter, next, world.2 ++ made)
  meanwhile arbiter world :=
    let (made, next) := visitors.meanwhile arbiter world.1
    (made.foldl .interject arbiter, next, world.2 ++ made)

/-- A question is no interjection. -/
theorem Visitors.made_afterAll (visitors : Visitors σ) (node : Node)
    (world : σ × List Interjection) (questions : List Question) :
    (visitors.collaborators.afterAll node world questions).2 = world.2 := by
  induction questions generalizing world with
  | nil => rfl
  | cons question rest ih =>
      refine (ih (visitors.collaborators.after node world question)).trans ?_
      cases question <;> rfl

-- ============================================================ one request apart

/-- The table without one request is what the visitors have made of another table, and nobody has
entered or left. -/
structure Visited (base : Pending) (active : Nat) (id : UInt64) (arbiter : Arbiter)
    (made : List Interjection) : Prop where
  table : arbiter.pending.drop id = made.foldl .interject base
  active : arbiter.active = active

theorem Visited.interject {base : Pending} {active : Nat} {id : UInt64} {arbiter : Arbiter}
    {made : List Interjection} (h : Visited base active id arbiter made)
    (more : List Interjection) :
    Visited base active id (more.foldl .interject arbiter) (made ++ more) := by
  rw [Arbiter.foldl_interject]
  refine ⟨?_, h.active⟩
  show (more.foldl Pending.interject arbiter.pending).drop id = _
  rw [Pending.drop_foldl_interject, h.table, List.foldl_append]

/-- A request that is sent leaves what the visitors have made of the table without it. -/
theorem Visited.of_returns_send {visitors : Visitors σ} {base : Pending} {active : Nat} {root : Int}
    {message : Message} {registered between : Arbiter} {world : σ} {calls : List Contact} {v : Verdict}
    {after : (σ × List Interjection) × List Contact}
    (h : Visited base active message.id registered [])
    (hsend : Errand.Returns visitors.collaborators.recorded (.send root message) registered
      ((world, []), calls) v between after) :
    between.active = active ∧ between.pending = after.1.2.foldl .interject base := by
  obtain ⟨sent, world₁, hends⟩ := hsend.of_send
  have hvisited : ∀ {result}, visitors.collaborators.recorded.send root message registered
      ((world, []), calls) = (result, sent, world₁) →
      Visited base active message.id sent world₁.1.2 := by
    intro result hsent
    cases hsent
    exact h.interject _
  rcases hends with ⟨fault, hsent, -, rfl, rfl⟩ | ⟨hsent, hwait⟩
  · exact ⟨(hvisited hsent).active, (hvisited hsent).table⟩
  · -- what is done while the call waits is added to what was done while the channel had the message
    obtain ⟨seen, outcome, hkept, -, -, rfl⟩ := hwait.of_await
      (fun now world => Visited base active message.id now world.1.2) (hvisited hsent)
      fun _ _ h => h.interject _
    obtain ⟨metrics, hmetrics⟩ := seen.recordLatency_eq .zero
    rw [hmetrics]
    exact ⟨hkept.active, hkept.table⟩

/-- The table that a request finds, or leaves if it comes to nothing: an id is given out for each object
with a path inside its root. -/
def Commission.numbered (c : Commission) (table : Pending) : Pending :=
  match Errand.target c.root c.node with
  | .ok _ => table.takeId.2
  | .error _ => table

/-- However a request comes back, it leaves what the visitors have made of the table. -/
theorem Commission.visited_of_returns {visitors : Visitors σ} {c : Commission}
    {arbiter between : Arbiter} {world : σ} {calls : List Contact} {v : Verdict}
    {after : (σ × List Interjection) × List Contact}
    (h : Errand.Returns visitors.collaborators.recorded c.errand arbiter ((world, []), calls) v between
      after) :
    between.active = arbiter.active ∧
      between.pending = after.1.2.foldl .interject (c.numbered arbiter.pending) := by
  unfold numbered
  rcases c.returns_cases h with ⟨fault, htarget, -, rfl, rfl⟩ | ⟨path, fault, htarget, -, -, rfl, rfl⟩ |
    ⟨path, table, htarget, htable, hsend⟩
  · rw [htarget]
    exact ⟨rfl, rfl⟩
  · rw [htarget]
    exact ⟨rfl, rfl⟩
  rw [htarget]
  have hregistered : Visited arbiter.pending.takeId.2 arbiter.active
      (c.message path arbiter.pending.nextId).id
      (Arbiter.count { arbiter.takeId.2 with pending := table } (·.countRequest)) [] :=
    ⟨Pending.drop_register htable, rfl⟩
  exact hregistered.of_returns_send hsend

/-- Where the id that is given out is taken, a request comes back at once. -/
theorem Commission.returns_taken_iff {others : Collaborators σ} {c : Commission} {path : String}
    {arbiter arbiter' : Arbiter} {world world' : σ} {v : Verdict}
    (htarget : Errand.target c.root c.node = .ok path)
    (htaken : arbiter.pending.contains arbiter.pending.nextId = true) :
    Errand.Returns others c.errand arbiter world v arbiter' world' ↔
      v = .deny (if arbiter.pending.shuttingDown then .shuttingDown else .hydrationFailed) ∧
        arbiter' = arbiter.takeId.2 ∧ world' = world := by
  unfold errand Errand.start
  rw [htarget]
  refine Errand.returns_number_iff.trans ?_
  generalize hmessage : Message.mk arbiter.pending.nextId c.kind c.pid c.process path = message
  have hid : message.id = arbiter.pending.nextId := by rw [← hmessage]
  have hrefused : arbiter.takeId.2.pending.register message = .error
      (if arbiter.pending.shuttingDown then .shuttingDown message.id else .duplicate message.id) := by
    apply Pending.register_error_iff.2
    cases hdown : arbiter.pending.shuttingDown with
    | true => exact .inl ⟨hdown, rfl⟩
    | false => exact .inr ⟨hdown, hid ▸ htaken, rfl⟩
  refine (Errand.returns_register_error_iff hrefused).trans ?_
  cases arbiter.pending.shuttingDown <;> exact Iff.rfl

-- ============================================================ no trace

/-- The policy demands content for an object with a path inside its root. -/
def Situation.Demands (s : Situation) (c : Commission) (path : String) : Prop :=
  (∃ questions, s.judgement? = some (questions, .commissioned c)) ∧
    Errand.target c.root c.node = .ok path

/-- What is left of a call that has come back. -/
structure Call.Traceless (s : Situation) (before : Arbiter) (made : List Interjection)
    (after : Arbiter) : Prop where
  active : after.active = before.active
  table : Interjected before.pending made after.pending
  numbered : (∃ c path, s.Demands c path) → after.pending.nextId = before.pending.nextId + 1
  unnumbered : (¬ ∃ c path, s.Demands c path) → after.pending.nextId = before.pending.nextId

/-- A request that is numbered finds the requests of the others as they were. -/
theorem Commission.interjected_numbered {c : Commission} {before after : Pending}
    {made : List Interjection} (h : Interjected (c.numbered before) made after) :
    Interjected before made after := by
  unfold numbered at h
  cases htarget : Errand.target c.root c.node with
  | error fault =>
      rw [htarget] at h
      exact h
  | ok path =>
      rw [htarget] at h
      exact ⟨h.outstanding, h.answers, h.shuttingDown⟩

namespace Visitors

variable (visitors : Visitors σ) (access : Access) (arbiter : Arbiter) (world : σ)

def situation : Situation := .of visitors.collaborators arbiter.crawlers access (world, [])

/-- A call comes back with a decision; so it leaves the arbiter, this was done meanwhile, and these
collaborators were called. -/
def Returns (decision : Decision) (arbiter' : Arbiter) (made : List Interjection)
    (calls : List Contact) : Prop :=
  ∃ world', Call.Returns visitors.collaborators.recorded access .enter arbiter ((world, []), []) decision
    arbiter' ((world', made), calls)

variable {visitors access arbiter world}

theorem traceless_of_returns {decision : Decision} {arbiter' : Arbiter} {made : List Interjection}
    {calls : List Contact} (h : visitors.Returns access arbiter world decision arbiter' made calls) :
    Call.Traceless (visitors.situation access arbiter world) arbiter made arbiter' := by
  obtain ⟨world', hreturns⟩ := h
  obtain ⟨questions, judgement, metrics, hjudgement, hends⟩ :=
    Call.returns_iff_ends visitors.collaborators access arbiter (world, [])
  have hleft := (hends _ _ _).1 hreturns
  have hnone : (visitors.collaborators.afterAll access.node (world, []) questions).2 = [] :=
    visitors.made_afterAll access.node (world, []) questions
  cases judgement with
  | decided d =>
      obtain ⟨-, rfl, hafter⟩ := hleft
      obtain rfl : made = [] := (congrArg (·.1.2) hafter).trans hnone
      have hfree : ¬ ∃ c path, (visitors.situation access arbiter world).Demands c path := by
        rintro ⟨c, path, ⟨asked, hdemanded⟩, -⟩
        cases hjudgement.symm.trans hdemanded
      exact ⟨rfl, Pending.interjected_foldl [] arbiter.pending, fun h => absurd h hfree, fun _ => rfl⟩
  | commissioned c =>
      obtain ⟨v, between, herrand, -, rfl⟩ := hleft
      generalize visitors.collaborators.afterAll access.node (world, []) questions = asked at herrand hnone
      obtain ⟨world₁, made₁⟩ := asked
      obtain rfl : made₁ = [] := hnone
      obtain ⟨hactive, htable⟩ := c.visited_of_returns herrand
      have hsame : (Call.countDecision between (.ok v)).pending =
          made.foldl .interject (c.numbered arbiter.pending) := htable
      have hdemands : ∀ c' path, (visitors.situation access arbiter world).Demands c' path →
          c' = c := by
        rintro c' path ⟨⟨asked, hdemanded⟩, -⟩
        cases hjudgement.symm.trans hdemanded
        rfl
      refine ⟨?_, ?_, ?_, ?_⟩
      · show between.active - 1 = arbiter.active
        rw [hactive, Nat.add_sub_cancel]
      · rw [hsame]
        exact Commission.interjected_numbered (Pending.interjected_foldl made _)
      · rintro ⟨c', path, hdemand⟩
        obtain rfl := hdemands c' path hdemand
        rw [hsame, Pending.nextId_foldl_interject, Commission.numbered, hdemand.2]
        rfl
      · intro hundemanded
        rw [hsame, Pending.nextId_foldl_interject, Commission.numbered]
        cases htarget : Errand.target c.root c.node with
        | error fault => rfl
        | ok path => exact absurd ⟨c, path, ⟨questions, hjudgement⟩, htarget⟩ hundemanded

/-- A call whose fresh id is taken comes back at once. Nobody but those who answer questions is called, and
nothing but the next id is changed in the table. -/
theorem returns_taken_iff {questions : List Question} {c : Commission} {path : String}
    (hjudgement : (visitors.situation access arbiter world).judgement? =
      some (questions, .commissioned c))
    (htarget : Errand.target c.root c.node = .ok path)
    (htaken : arbiter.pending.contains arbiter.pending.nextId = true) :
    ∃ metrics, ∀ decision arbiter' made calls,
      visitors.Returns access arbiter world decision arbiter' made calls ↔
        decision = .ok (.deny (if arbiter.pending.shuttingDown then .shuttingDown else
          .hydrationFailed)) ∧
        arbiter' = { arbiter with pending := arbiter.pending.takeId.2, metrics } ∧ made = [] ∧
        calls = questions.map .question := by
  obtain ⟨asked, judgement, left, hfirst, hends⟩ :=
    Call.returns_iff_ends visitors.collaborators access arbiter (world, [])
  cases hfirst.symm.trans hjudgement
  obtain ⟨world₁, hasked⟩ : ∃ world₁,
      visitors.collaborators.afterAll access.node (world, []) questions = (world₁, []) :=
    ⟨_, Prod.ext rfl (visitors.made_afterAll access.node (world, []) questions)⟩
  generalize hrefusal : Verdict.deny (if arbiter.pending.shuttingDown then .shuttingDown else
    .hydrationFailed) = refusal
  generalize hentered : { arbiter with active := arbiter.active + 1 } = entered at hends
  have herrand : ∀ {v between after}, Errand.Returns visitors.collaborators.recorded c.errand entered
      ((world₁, []), questions.map .question) v between after ↔
        v = refusal ∧ between = entered.takeId.2 ∧
          after = ((world₁, []), questions.map .question) := by
    intro v between after
    subst hentered hrefusal
    exact Commission.returns_taken_iff htarget htaken
  obtain ⟨metrics, hleft⟩ : ∃ metrics, Call.countDecision entered.takeId.2 (.ok refusal) =
      { arbiter with pending := arbiter.pending.takeId.2, metrics } := by
    subst hentered
    exact ⟨_, rfl⟩
  refine ⟨metrics, fun decision arbiter' made calls => ?_⟩
  rw [← hleft]
  unfold Returns
  simp only [hends, Judgement.Ends, hentered, hasked, herrand]
  constructor
  · rintro ⟨world', v, between, ⟨rfl, rfl, hafter⟩, rfl, rfl⟩
    cases hafter
    exact ⟨rfl, rfl, rfl, rfl⟩
  · rintro ⟨rfl, rfl, rfl, rfl⟩
    exact ⟨world₁, refusal, _, ⟨rfl, rfl, rfl⟩, rfl, rfl⟩

end Visitors

/-- A call that comes back has left no trace but what others did meanwhile, and an id if it demanded
content. If the id that it would get is taken, the call comes back without having sent anything, and
nothing but the next id is changed. -/
theorem leaves_no_trace (visitors : Visitors σ) (access : Access) (arbiter : Arbiter) (world : σ) :
    (∀ decision arbiter' made calls,
      visitors.Returns access arbiter world decision arbiter' made calls →
        Call.Traceless (visitors.situation access arbiter world) arbiter made arbiter') ∧
    (∀ questions c path,
      (visitors.situation access arbiter world).judgement? = some (questions, .commissioned c) →
      Errand.target c.root c.node = .ok path →
      arbiter.pending.contains arbiter.pending.nextId = true →
      ∃ metrics, ∀ decision arbiter' made calls,
        visitors.Returns access arbiter world decision arbiter' made calls ↔
          decision = .ok (.deny (if arbiter.pending.shuttingDown then .shuttingDown else
            .hydrationFailed)) ∧
          arbiter' = { arbiter with pending := arbiter.pending.takeId.2, metrics } ∧ made = [] ∧
          calls = questions.map .question) :=
  ⟨fun _ _ _ _ h => Visitors.traceless_of_returns h,
    fun _ _ _ hjudgement htarget htaken => Visitors.returns_taken_iff hjudgement htarget htaken⟩

namespace HeldByOthers

/-- Visitors of an online root. The channel brings an answer to a request of somebody else and one to
whatever it was sent, and then begins a shutdown. -/
def visitors : Visitors Unit where
  managed _ world := (true, world)
  flags _ world := (.ok ⟨72⟩, world)
  root _ world := (some ⟨3, "/repo", some 77⟩, world)
  send _ message _ world :=
    ([.deliver 9 .failure, .deliver message.id .success, .shutDown], .ok (), world)
  meanwhile _ world := ([], world)

/-- A placeholder is read. -/
def access : Access := ⟨500, "cat", ⟨.regular, .ok "/repo/src/main.rs"⟩, ⟨2⟩⟩

/-- Somebody else holds a request under an id. -/
def arbiter (id : UInt64) (shuttingDown : Bool) : Arbiter :=
  .inState .standard ⟨[⟨⟨id, .hydrateFile, 1, "vim", "README.md"⟩, none⟩], shuttingDown, 1⟩ 2 .start

def commission : Commission :=
  ⟨⟨3, "/repo", some 77⟩, .hydrateFile, ⟨.regular, .ok "/repo/src/main.rs"⟩, 500, "cat"⟩

theorem judgement?_eq (id : UInt64) (shuttingDown : Bool) :
    (visitors.situation access (arbiter id shuttingDown) ()).judgement? =
      some ([.managed, .flags, .root], .commissioned commission) := by
  show Situation.judgement? ⟨access, Crawlers.contains (arbiter id shuttingDown).crawlers access.process,
    ⟨true, .ok ⟨72⟩, some commission.root⟩⟩ = _
  cbv

theorem target_eq : Errand.target commission.root commission.node = .ok "src/main.rs" := by cbv

/-- The request under another id hears its answer, and the one under the fresh id stays as it is. -/
theorem traceless_of_both :
    (∃ decision arbiter' made calls,
      visitors.Returns access (arbiter 9 false) () decision arbiter' made calls ∧
        Call.Traceless (visitors.situation access (arbiter 9 false) ()) (arbiter 9 false) made
          arbiter' ∧
        arbiter'.pending.entries =
          [⟨⟨9, .hydrateFile, 1, "vim", "README.md"⟩, some .failure⟩]) ∧
    ∃ arbiter' calls,
      visitors.Returns access (arbiter 1 false) () (.ok (.deny .hydrationFailed)) arbiter' [] calls ∧
        arbiter'.pending.entries = (arbiter 1 false).pending.entries := by
  constructor
  · have hreturns : ∃ decision arbiter' made calls,
        visitors.Returns access (arbiter 9 false) () decision arbiter' made calls ∧
          arbiter'.pending.entries =
            [⟨⟨9, .hydrateFile, 1, "vim", "README.md"⟩, some .failure⟩] :=
      ⟨_, _, _, _, ⟨(), Call.returns_of_run rfl⟩, rfl⟩
    obtain ⟨decision, arbiter', made, calls, hreturns, hentries⟩ := hreturns
    exact ⟨decision, arbiter', made, calls, hreturns,
      (leaves_no_trace visitors access (arbiter 9 false) ()).1 _ _ _ _ hreturns, hentries⟩
  · obtain ⟨metrics, hiff⟩ := (leaves_no_trace visitors access (arbiter 1 false) ()).2 _ _ _
      (judgement?_eq 1 false) target_eq (by decide)
    exact ⟨_, _, (hiff _ _ _ _).2 ⟨rfl, rfl, rfl, rfl⟩, rfl⟩

/-- Whenever the fresh id of a call is taken, the call is denied because content could not be had. -/
def TakenFails : Prop :=
  ∀ (visitors : Visitors Unit) (access : Access) (arbiter : Arbiter) (c : Commission) (path : String),
    (visitors.situation access arbiter ()).Demands c path →
    arbiter.pending.contains arbiter.pending.nextId = true →
    ∀ decision arbiter' made calls,
      visitors.Returns access arbiter () decision arbiter' made calls →
        decision = .ok (.deny .hydrationFailed)

/-- During a shutdown nobody looks whether the id is taken. -/
theorem not_takenFails : ¬ TakenFails := by
  intro hfails
  obtain ⟨metrics, hiff⟩ := Visitors.returns_taken_iff (judgement?_eq 1 true) target_eq (by decide)
  have hdecision := hfails visitors access (arbiter 1 true) commission "src/main.rs"
    ⟨⟨_, judgement?_eq 1 true⟩, target_eq⟩ (by decide) _ _ _ _ ((hiff _ _ _ _).2 ⟨rfl, rfl, rfl, rfl⟩)
  cases hdecision

end HeldByOthers

end Hydration
