/-
Who is refused as a crawler: whoever the configuration lists, under the name that the host keeps.

# Three cuts of a name

The entries of a configuration are trimmed and the blank ones dropped, once, when a service starts. The
host keeps the first bytes of the name of a process, at each access. And the check refuses an entry that
is longer than that. The three agree: an entry passes the check exactly if there is a process whose name
the host turns into it (`longName_mem_faults_iff`).

# An access

The crawlers of a service stay what they were, whatever is done with it (`Harness.Runs.crawlers`). So an
access to a placeholder is refused at once if the name is listed (`Harness.access_refused`). If it is not,
the call gets past the one rule that refuses crawlers; then nothing that it can still come to is such a
refusal (`Call.Spares`), however long it waits and whatever happens meanwhile.

A blank entry stands for nobody, not even for a process without a name (`NamelessCaller`).
-/
import Hydration.Proofs.Agreement.Decisions
import Hydration.Proofs.Config.Checked
import Hydration.Proofs.Text.Truncate

namespace Hydration

-- ============================================================ the crawlers stay

theorem Arbiter.crawlers_recordLatency (arbiter : Arbiter) (latency : Span) :
    (arbiter.recordLatency latency).crawlers = arbiter.crawlers := by
  unfold recordLatency
  split <;> rfl

theorem Provider.crawlers_work (count : Nat) (provider : Provider) (tree : Tree) (arbiter : Arbiter) :
    (provider.work count tree arbiter).2.2.crawlers = arbiter.crawlers := by
  induction count generalizing provider tree arbiter with
  | zero => rfl
  | succ count ih =>
      have hanswer : (provider.take.answer tree arbiter).2.2.crawlers = arbiter.crawlers := by
        unfold answer
        split
        · rfl
        · dsimp only
          split <;> rfl
      exact (ih _ _ _).trans hanswer

theorem Errand.crawlers_step (latency : Span) (arbiter : Arbiter) (errand : Errand) :
    (errand.step latency arbiter).1.crawlers = arbiter.crawlers := by
  cases errand with
  | number root message => rfl
  | register root message =>
      unfold step
      dsimp only
      split <;> rfl
  | await id =>
      unfold step
      dsimp only
      split
      · exact arbiter.crawlers_recordLatency latency
      · rfl
  | send | release | done => rfl

theorem Errand.crawlers_move (arbiter : Arbiter) (stage : Stage) (errand : Errand) :
    (errand.move Stage.collaborators arbiter stage).2.1.crawlers = arbiter.crawlers := by
  cases errand with
  | send root message =>
      show ((send root message).returned arbiter (stage.provider.send root message).1).1.crawlers = _
      unfold returned
      dsimp only
      split <;> rfl
  | await id =>
      have hwork : (Stage.work arbiter stage).1.crawlers = arbiter.crawlers :=
        Provider.crawlers_work ..
      unfold move
      dsimp only
      rw [crawlers_step]
      split
      · rfl
      · exact hwork
  | register root message => exact crawlers_step .zero arbiter (.register root message)
  | number | release | done => rfl

namespace Call

theorem crawlers_move (access : Access) (arbiter : Arbiter) (stage : Stage) (call : Call) :
    (call.move Stage.collaborators access arbiter stage).2.1.crawlers = arbiter.crawlers := by
  cases call with
  | ask inquiry =>
      cases inquiry with
      | rule ruling => cases ruling <;> rfl
      | askManaged | askFlags | askRoot => rfl
  | errand e =>
      have herrand := Errand.crawlers_move arbiter stage e
      cases e with
      | done v => rfl
      | number | register | send | await | release => exact herrand
  | leave decision => cases decision <;> rfl
  | enter | done => rfl

theorem crawlers_moves (access : Access) (count : Nat) (arbiter : Arbiter) (stage : Stage)
    (call : Call) :
    (call.moves Stage.collaborators access count arbiter stage).2.1.crawlers = arbiter.crawlers := by
  induction count generalizing arbiter stage call with
  | zero => rfl
  | succ count ih => exact (ih _ _ _).trans (crawlers_move access arbiter stage call)

end Call

namespace Stage

theorem crawlers_resume (arbiter : Arbiter) (stage : Stage) (b : Blocked) :
    (resume arbiter stage b).1.crawlers = arbiter.crawlers := by
  have hrun := Call.crawlers_moves b.access 12 arbiter stage b.call
  unfold resume Call.run
  dsimp only
  split <;> exact hrun

theorem crawlers_resumeAll (arbiter : Arbiter) (stage : Stage) (blocked : List Blocked) :
    (resumeAll arbiter stage blocked).1.crawlers = arbiter.crawlers := by
  induction blocked generalizing arbiter stage with
  | nil => rfl
  | cons b rest ih => exact (ih _ _).trans (crawlers_resume arbiter stage b)

theorem crawlers_settle (arbiter : Arbiter) (stage : Stage) :
    (settle arbiter stage).1.crawlers = arbiter.crawlers := crawlers_resumeAll ..

end Stage

-- ============================================================ what is done with a service

/-- One thing that is done with a service and what is around it. -/
inductive Harness.Use where
  | access (access : Access)
  /-- An access past the host. -/
  | decide (access : Access)
  | spawn (key : String) (access : Access)
  | join (key : String)
  | send (root : Int) (message : Message)
  | deliver (id : UInt64) (kind : MessageKind)
  | beginShutdown
  | listen
  | stop
  /-- Anything else that happens around the service: roots come and go online, flags are set, the
  provider changes its ways. -/
  | rearrange (f : Stage → Stage)

namespace Harness

def use (harness : Harness) : Use → Harness
  | .access access => (harness.access access).2
  | .decide access => (harness.decide access).2
  | .spawn key access => (harness.spawn key access).2
  | .join key => ((harness.join key).map Prod.snd).getD harness
  | .send root message => (harness.send root message).2
  | .deliver id kind => (harness.deliver id kind).2
  | .beginShutdown => harness.beginShutdown.2
  | .listen => harness.listen.2
  | .stop => harness.stop.2
  | .rearrange f => harness.mapStage f

/-- The harness of a service that was started with a configuration, however it has been used since. -/
inductive Runs (config : Config) : Harness → Prop
  | started {stage stage' : Stage} {service : Service}
      (h : Service.start Stage.premises config stage = (.ok service, stage')) :
      Runs config ⟨service, stage'⟩
  | used {harness : Harness} (use : Use) (h : Runs config harness) : Runs config (harness.use use)

theorem crawlers_decide (harness : Harness) (access : Access) :
    (harness.decide access).2.arbiter.crawlers = harness.arbiter.crawlers := by
  have hrun := Call.crawlers_moves access 12 harness.arbiter harness.stage .enter
  unfold decide Call.run
  dsimp only
  split <;> exact hrun

theorem crawlers_access (harness : Harness) (access : Access) :
    (harness.access access).2.arbiter.crawlers = harness.arbiter.crawlers := by
  have hdecide := crawlers_decide
    ⟨harness.service, { harness.stage with dispatched := harness.stage.dispatched + 1 }⟩ access
  unfold Harness.access
  dsimp only
  split
  · rfl
  · split
    · rename_i hdecided
      rw [hdecided] at hdecide
      exact hdecide
    · exact hdecide

theorem crawlers_settled (harness : Harness) :
    harness.settled.arbiter.crawlers = harness.arbiter.crawlers :=
  Stage.crawlers_settle harness.arbiter harness.stage

/-- One use of a service leaves the crawlers as they are. -/
theorem crawlers_use (harness : Harness) (use : Use) :
    (harness.use use).arbiter.crawlers = harness.arbiter.crawlers := by
  cases use with
  | access access => exact harness.crawlers_access access
  | decide access => exact harness.crawlers_decide access
  | spawn key access =>
      have haccess := harness.crawlers_access access
      show (harness.spawn key access).2.arbiter.crawlers = _
      unfold spawn
      split
      all_goals
        rename_i hended
        rw [hended] at haccess
        exact haccess
  | join key =>
      show (((harness.join key).map Prod.snd).getD harness).arbiter.crawlers = _
      unfold join
      cases harness.stage.ended.lookup key <;> rfl
  | send root message =>
      refine (crawlers_settled _).trans ?_
      exact Provider.crawlers_work ..
  | deliver id kind => exact crawlers_settled _
  | beginShutdown => exact crawlers_settled _
  | listen => rfl
  | stop =>
      show (harness.service.stop Stage.premises harness.stage).2.1.arbiter.crawlers = _
      unfold Service.stop
      split
      · rfl
      · exact Stage.crawlers_settle harness.service.arbiter.beginShutdown.2 harness.stage.unlisten
  | rearrange f => rfl

/-- So they are those of the configuration, throughout. -/
theorem Runs.crawlers {config : Config} {harness : Harness} (h : harness.Runs config) :
    harness.arbiter.crawlers = .ofConfig config.effective := by
  induction h with
  | @started stage stage' service hstart =>
      rcases config.effective.check_cases with ⟨-, hcheck⟩ | ⟨fault, -, hcheck⟩
      · unfold Service.start at hstart
        rw [hcheck] at hstart
        dsimp only [Stage.premises] at hstart
        split at hstart
        · cases hstart
        · obtain ⟨hservice, -⟩ := Prod.mk.inj hstart
          obtain rfl := Except.ok.inj hservice
          rfl
      · unfold Service.start at hstart
        rw [hcheck] at hstart
        cases hstart
  | used use h ih => exact (crawlers_use _ use).trans ih

end Harness

-- ============================================================ calls past the rule

theorem Inquiry.ofRoot_ne_crawler (access : Access) (flags : Flags) (root : Root) :
    ofRoot access flags root ≠ .verdict (.deny .crawler) := by
  have hoffline : Policy.offline flags access.node.kind access.action ≠ .deny .crawler := by
    unfold Policy.offline
    split
    · exact nofun
    · split
      · exact nofun
      · split
        · exact nofun
        · split <;> exact nofun
  unfold ofRoot
  split
  · intro h
    exact hoffline (Ruling.verdict.inj h)
  · split
    · exact nofun
    · split
      · exact nofun
      · split <;> exact nofun

/-- The errand does not come back with the refusal of a crawler. -/
def Errand.Spares : Errand → Prop
  | release _ v | done v => v ≠ .deny .crawler
  | number _ _ | register _ _ | send _ _ | await _ => True

/-- The call is past the rules, and will not end in the refusal of a crawler. -/
def Call.Spares : Call → Prop
  | enter | ask _ => False
  | errand e => e.Spares
  | leave decision | done decision => decision ≠ .ok (.deny .crawler)

theorem Errand.Spares.step {errand : Errand} (h : errand.Spares) (latency : Span) (arbiter : Arbiter) :
    (errand.step latency arbiter).2.Spares := by
  cases errand with
  | number root message => trivial
  | register root message =>
      unfold Errand.step
      dsimp only
      split
      · trivial
      · rename_i fault _
        cases fault <;> exact nofun
  | await id =>
      unfold Errand.step
      dsimp only
      split
      · rename_i outcome _
        rcases outcome with (_ | _) | _ <;> exact nofun
      · trivial
  | send | release | done => exact h

theorem Errand.Spares.returned {errand : Errand} (h : errand.Spares) (arbiter : Arbiter)
    (result : Except SendFault Unit) : (errand.returned arbiter result).2.Spares := by
  cases errand with
  | send root message =>
      unfold Errand.returned
      dsimp only
      split
      · trivial
      · show Errand.unreachable arbiter.onUnreachable ≠ .deny .crawler
        cases arbiter.onUnreachable <;> exact nofun
  | number | register | await | release | done => exact h

/-- No move brings the refusal back, whoever answers and however. -/
theorem Errand.Spares.move {σ : Type} {others : Collaborators σ} {errand : Errand} (h : errand.Spares)
    (arbiter : Arbiter) (world : σ) : (errand.move others arbiter world).1.Spares := by
  cases errand with
  | send root message => exact h.returned _ _
  | await id => exact h.step .zero _
  | register root message => exact h.step .zero arbiter
  | number => trivial
  | release | done => exact h

namespace Call

variable {σ : Type} {others : Collaborators σ} {access : Access} {call : Call}

theorem spares_ofRuling (access : Access) {ruling : Ruling} (h : ruling ≠ .verdict (.deny .crawler)) :
    (ofRuling access ruling).Spares := by
  cases ruling with
  | verdict v =>
      intro hv
      exact h (congrArg Ruling.verdict (Except.ok.inj hv))
  | outside | unreadable => exact nofun
  | hydrate root kind =>
      show (Errand.start root kind access.node access.pid access.process).Spares
      unfold Errand.start
      split
      · exact nofun
      · trivial

theorem Spares.move (h : call.Spares) (arbiter : Arbiter) (world : σ) :
    (call.move others access arbiter world).1.Spares := by
  cases call with
  | enter | ask => exact h.elim
  | errand e =>
      have herrand : (e.move others arbiter world).1.Spares := Errand.Spares.move h arbiter world
      cases e with
      | done v =>
          intro hv
          exact h (Except.ok.inj hv)
      | number | register | send | await | release => exact herrand
  | leave | done => exact h

theorem Spares.moves (h : call.Spares) (count : Nat) (arbiter : Arbiter) (world : σ) :
    (call.moves others access count arbiter world).1.Spares := by
  induction count generalizing call arbiter world with
  | zero => exact h
  | succ count ih => exact ih (h.move arbiter world) _ _

/-- What may become of a call, whatever the arbiter and those around it are at each of its moves. -/
inductive Becomes (access : Access) (call : Call) : Call → Prop
  | here : Becomes access call call
  | moved {later : Call} (h : Becomes access call later) (arbiter : Arbiter) (stage : Stage) :
      Becomes access call (later.move Stage.collaborators access arbiter stage).1

theorem Becomes.spares {later : Call} (h : call.Becomes access later) (hspares : call.Spares) :
    later.Spares := by
  induction h with
  | here => exact hspares
  | moved _ arbiter stage ih => exact ih.move arbiter stage

end Call

-- ============================================================ an access to a placeholder

/-- The host listens, and knows the object as a placeholder that is decided about. -/
structure Stage.Shows (stage : Stage) (node : Node) : Prop where
  listening : stage.listening = true
  managed : stage.tree.isManaged node = true
  governed : node.kind.disposition ≠ .ignore
  flags : ∃ flags, stage.tree.flagsOf node = .ok flags ∧ flags.isInRoot = true ∧ flags.isEmpty = true

/-- How an access may end: at once, or after a wait in which anything may happen. -/
inductive Harness.MayEnd (harness : Harness) (access : Access) (decision : Decision) : Prop
  | atOnce (h : (harness.access access).1 = .decided decision)
  | later (call : Call) (h : (harness.access access).1 = .blocked access call)
      (hlater : call.Becomes access (.done decision))

/-- The rules refuse those who are listed. -/
theorem Stage.Shows.ruling_eq_iff {stage : Stage} {access : Access} (h : stage.Shows access.node)
    (crawlers : Crawlers) :
    (Inquiry.ofAccess crawlers access).ruling stage.tree access.node = .verdict (.deny .crawler) ↔
      crawlers.contains access.process = true := by
  obtain ⟨flags, hflags, hroot, hempty⟩ := h.flags
  have hgoverned : ¬ Expectation.isPassed access.node.kind = true :=
    mt access.node.kind.ignore_iff.2 h.governed
  rw [Inquiry.ruling_ofAccess, if_neg (by simp [h.managed, hgoverned]), hflags]
  dsimp only
  rw [Inquiry.ruling_ofFlags, if_neg (by simp [hroot]), hempty, Bool.true_and]
  by_cases hcrawler : crawlers.contains access.process = true
  · rw [if_pos hcrawler]
    exact iff_of_true rfl hcrawler
  · rw [if_neg hcrawler]
    refine iff_of_false ?_ hcrawler
    split
    · exact nofun
    · exact Inquiry.ofRoot_ne_crawler access flags _

namespace Harness

variable {harness : Harness} {access : Access}

/-- A listed name is refused at once. -/
theorem access_refused (h : harness.stage.Shows access.node)
    (hlisted : harness.arbiter.crawlers.contains access.process = true) :
    (harness.access access).1 = .decided (.ok (.deny .crawler)) := by
  obtain ⟨f, lookups, reads, hrun⟩ := Call.run_enter access harness.arbiter
    { harness.stage with dispatched := harness.stage.dispatched + 1 }
  have hruling := (h.ruling_eq_iff harness.arbiter.crawlers).2 hlisted
  dsimp only at hrun
  rw [hruling] at hrun
  rw [access_of_run h.listening (hrun rfl)]

/-- The call of an access, as far as it gets at once. -/
def called (harness : Harness) (access : Access) : Call :=
  (Call.enter.run Stage.collaborators access harness.arbiter
    { harness.stage with dispatched := harness.stage.dispatched + 1 }).1

/-- A host that listens says of an access what its call has come to. -/
theorem access_result (hlistening : harness.stage.listening = true) (access : Access) :
    (harness.access access).1 =
      match (harness.called access).decision? with
      | some decision => .decided decision
      | none => .blocked access (harness.called access) := by
  unfold Harness.access decide called
  rw [if_neg (by simp [hlistening])]
  dsimp only [Harness.arbiter]
  generalize Call.enter.run Stage.collaborators access harness.service.arbiter
    { harness.stage with dispatched := harness.stage.dispatched + 1 } = outcome
  obtain ⟨call, arbiter, stage⟩ := outcome
  cases call <;> rfl

/-- A call made by anybody else gets past the rules. -/
theorem spares_called (h : harness.stage.Shows access.node)
    (hunlisted : ¬ harness.arbiter.crawlers.contains access.process = true) :
    (harness.called access).Spares := by
  obtain ⟨count, f, lookups, reads, -, hrun⟩ := Call.run_enter_eq access harness.arbiter
    { harness.stage with dispatched := harness.stage.dispatched + 1 }
  unfold called
  rw [hrun]
  exact (Call.spares_ofRuling access (mt (h.ruling_eq_iff _).1 hunlisted)).moves ..

/-- Nobody else is ever refused as a crawler. -/
theorem not_mayEnd_crawler (access : Access) (h : harness.stage.Shows access.node)
    (hunlisted : ¬ harness.arbiter.crawlers.contains access.process = true) :
    ¬ harness.MayEnd access (.ok (.deny .crawler)) := by
  have hspares := spares_called h hunlisted
  have hresult := access_result h.listening access
  intro hends
  cases hends with
  | atOnce hdecided =>
      rw [hdecided] at hresult
      cases hcall : harness.called access with
      | done decision =>
          rw [hcall] at hresult hspares
          exact hspares (AccessResult.decided.inj hresult).symm
      | enter | ask | errand | leave =>
          rw [hcall] at hresult
          cases hresult
  | later call hblocked hlater =>
      rw [hblocked] at hresult
      cases hcall : harness.called access with
      | done decision =>
          rw [hcall] at hresult
          cases hresult
      | enter | ask | errand | leave =>
          rw [hcall] at hresult hspares
          obtain ⟨-, rfl⟩ := AccessResult.blocked.inj hresult
          exact hlater.spares hspares rfl

end Harness

-- ============================================================ entries and names

namespace Config

/-- A name is that of an entry, up to the blanks around it. Blank entries are none. -/
def Lists (config : Config) (name : String) : Prop :=
  ∃ entry ∈ config.crawlers, Text.isAllBlank entry = false ∧ Text.trim entry = name

theorem lists_iff {config : Config} {name : String} :
    config.Lists name ↔ (Crawlers.ofConfig config.effective).contains name = true := by
  have hblank : ∀ entry, Text.isAllBlank entry = false ↔ (Text.trim entry).isEmpty = false := by
    intro entry
    rw [← Bool.not_eq_true, ← Bool.not_eq_true, String.isEmpty_iff, Text.trim_eq_empty_iff]
  rw [Crawlers.ofConfig, Crawlers.contains_ofList, List.contains_iff_mem]
  unfold Lists effective
  simp only [hblank, List.mem_filter, List.mem_map, Bool.not_eq_true']
  constructor
  · intro h
    obtain ⟨entry, hentry, hsolid, rfl⟩ := h
    exact ⟨⟨entry, hentry, rfl⟩, hsolid⟩
  · intro h
    obtain ⟨⟨entry, hentry, rfl⟩, hsolid⟩ := h
    exact ⟨entry, hentry, hsolid, rfl⟩

/-- An entry is reported as too long exactly for its length. -/
theorem longName_mem_faults_iff {config : Config} {entry : String} (hentry : entry ∈ config.crawlers)
    (hsolid : Text.isAllBlank entry = false) :
    .longName (Text.trim entry) ∈ config.faults ↔ 16 < (Text.trim entry).utf8ByteSize := by
  have hreported : ∀ (before : List String) (other : String),
      .longName (Text.trim entry) ∈ entryFaults before other ↔ Text.isAllBlank other = false ∧
        16 < (Text.trim other).utf8ByteSize ∧ Text.trim entry = Text.trim other := by
    intro before other
    unfold entryFaults
    cases Text.isAllBlank other with
    | true => simp
    | false => by_cases hlong : 16 < (Text.trim other).utf8ByteSize <;> simp [hlong]
  have hinterval : .longName (Text.trim entry) ∉ config.intervalFaults := by
    simp [intervalFaults]
  rw [config.faults_eq, List.mem_append, or_iff_left hinterval, List.mem_flatMap]
  simp only [hreported]
  constructor
  · intro h
    obtain ⟨p, -, -, hlong, hsame⟩ := h
    rwa [hsame]
  · intro hlong
    obtain ⟨i, hi, hget⟩ := List.mem_iff_getElem.1 hentry
    exact ⟨(entry, i), by simp [List.mem_zipIdx_iff_getElem?, hi, hget], hsolid, hlong, rfl⟩

end Config

-- ============================================================ the result

/-- How the names of processes are matched with a configuration. -/
structure Config.CrawlersMatch (config : Config) : Prop where
  /-- The host keeps as much of a name as fits into 16 bytes. -/
  kept : ∀ caller : Caller, Text.LongestStart 16 caller.name caller.process
  /-- With a service that was started with the configuration, an access to a placeholder is refused at
  once as a crawler's if the name is listed, and else it never is. -/
  refused : ∀ {harness : Harness}, harness.Runs config → ∀ {node : Node}, harness.stage.Shows node →
    ∀ (caller : Caller) (action : Action), config.Lists caller.process →
      (harness.access (caller.access node action)).1 = .decided (.ok (.deny .crawler))
  spared : ∀ {harness : Harness}, harness.Runs config → ∀ {node : Node}, harness.stage.Shows node →
    ∀ (caller : Caller) (action : Action),
      harness.MayEnd (caller.access node action) (.ok (.deny .crawler)) → config.Lists caller.process
  /-- An entry is too long exactly if there is no process that it could match. -/
  matchable : ∀ entry ∈ config.crawlers, Text.isAllBlank entry = false →
    ((∃ caller : Caller, caller.process = Text.trim entry) ↔
      .longName (Text.trim entry) ∉ config.faults)

/-- The trimming of the entries, the host's cut of the names and the check of their lengths agree: a
process is refused as a crawler exactly if an entry is what the host keeps of its name. -/
theorem Config.crawlers_match (config : Config) : config.CrawlersMatch where
  kept caller := Text.longestStart_truncate 16 caller.name
  refused := by
    intro harness hruns node hshows caller action hlisted
    refine Harness.access_refused hshows ?_
    rw [hruns.crawlers]
    exact lists_iff.1 hlisted
  spared := by
    intro harness hruns node hshows caller action hends
    refine lists_iff.2 ?_
    rw [← hruns.crawlers]
    by_contra hunlisted
    exact Harness.not_mayEnd_crawler (caller.access node action) hshows hunlisted hends
  matchable := by
    intro entry hentry hsolid
    rw [longName_mem_faults_iff hentry hsolid, Nat.not_lt, ← Text.exists_truncate_eq_iff]
    constructor
    · intro h
      obtain ⟨caller, hcaller⟩ := h
      exact ⟨caller.name, hcaller⟩
    · intro h
      obtain ⟨name, hname⟩ := h
      exact ⟨⟨0, name⟩, hname⟩

/-- A character that reaches past the limit is left out as a whole, so the name can be shorter. -/
example : (⟨500, "com.example.indéxer"⟩ : Caller).process = "com.example.ind" := by decide +kernel

namespace NamelessCaller

def config : Config := { Config.standard with crawlers := [" "] }

def stage : Stage :=
  .ofTree ((Tree.empty.addRoot ⟨0, "/repo", some 500⟩).addPlaceholder "/repo/a.txt" true) []

def harness : Harness :=
  ⟨⟨.ofConfig config.effective, true⟩, (stage.note .registryInit).listen.2⟩

def node : Node := ⟨.regular, .ok "/repo/a.txt"⟩

/-- A process is refused as a crawler exactly if its name is one of the trimmed entries, blank or not. -/
def MatchesTrimmed : Prop :=
  ∀ (config : Config) {harness : Harness}, harness.Runs config →
    ∀ {node : Node}, harness.stage.Shows node → ∀ (caller : Caller) (action : Action),
      harness.MayEnd (caller.access node action) (.ok (.deny .crawler)) ↔
        ∃ entry ∈ config.crawlers, Text.trim entry = caller.process

/-- A process without a name is none of the crawlers, though a blank entry trimmed is its name. -/
theorem not_matchesTrimmed : ¬ MatchesTrimmed := by
  intro hmatches
  have hstarts : Service.start Stage.premises config stage = (.ok harness.service, harness.stage) := rfl
  have hshows : harness.stage.Shows node :=
    ⟨rfl, by decide +kernel, by decide, _, rfl, by decide, by decide⟩
  have hlisted : ∃ entry ∈ config.crawlers, Text.trim entry = Caller.process ⟨1, ""⟩ := by decide
  have hends := (hmatches config (.started hstarts) hshows ⟨1, ""⟩ ⟨2⟩).2 hlisted
  exact Harness.not_mayEnd_crawler (Caller.access ⟨1, ""⟩ node ⟨2⟩) hshows (by decide) hends

end NamelessCaller

end Hydration
