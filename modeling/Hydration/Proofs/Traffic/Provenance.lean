/-
Where the verdict of a request for content comes from, however many run at the same time.

# The story of a request

The incidents of one request form a story with no choice in it but the outcomes: it begins, it is
registered or refused, its message goes to the channel once, the channel comes back, looks for the
answer follow until one shows something, and it is resolved (`requestLog` picks them out of the log).
`Story` says for each thing that an errand can have to do next what has been told so far. Steps of
others only add to the log between the incidents of the story (`Story.frame`), and the errand's own
step adds the next one (`Story.step`).

# What a look shows

While the request is in the table its slot shows the first answer delivered to its id since the
registration. So the look that ends the wait shows the shutdown, if one has begun by then, and
otherwise that first answer; and as soon as there is one or the other, the next look ends the wait.
-/
import Hydration.Proofs.Traffic.Answers
import Hydration.Proofs.Traffic.Numbers

namespace Hydration

-- ============================================================ the incidents of a request

/-- An incident of the request that a strand makes. -/
def Incident.isOfRequest (n : Nat) : Incident → Bool
  | requested m _ | registered m _ | refused m _ _ | looked m _ | resolved m _ => m = n
  | called m (.send _ _) => m = n
  | returned m (.sent _) => m = n
  | _ => false

/-- What the log tells of the request that a strand makes. -/
def requestLog (n : Nat) (log : List Incident) : List Incident :=
  log.filter (·.isOfRequest n)

@[simp] theorem requestLog_append (n : Nat) (before after : List Incident) :
    requestLog n (before ++ after) = requestLog n before ++ requestLog n after :=
  List.filter_append _ _

/-- What is told of the request next comes at the end. -/
theorem requestLog_concat {n : Nat} {log told : List Incident} {incident : Incident}
    (hstory : requestLog n log = told) (hown : incident.isOfRequest n = true) :
    requestLog n (log ++ [incident]) = told ++ [incident] := by
  rw [requestLog_append, hstory, requestLog, List.filter_cons_of_pos hown, List.filter_nil]

theorem Incident.strand?_of_isOfRequest {n : Nat} {i : Incident} (h : i.isOfRequest n = true) :
    i.strand? = some n := by
  unfold isOfRequest at h
  split at h <;> first | exact congrArg some (of_decide_eq_true h) | cases h

/-- Incidents of others tell nothing of a request. -/
theorem requestLog_eq_nil {n : Nat} {incidents : List Incident}
    (h : ∀ i ∈ incidents, i.strand? ≠ some n) : requestLog n incidents = [] :=
  List.filter_eq_nil_iff.2 fun i hi hown => h i hi (Incident.strand?_of_isOfRequest hown)

theorem Strand.Step.requestLog_other {policy : UnreachablePolicy} {k n : Nat}
    {table table' : Pending} {active active' : Nat} {strand strand' : Strand}
    {incidents : List Incident}
    (h : Step policy k table active strand table' active' strand' incidents) (hother : n ≠ k) :
    requestLog n incidents = [] := by
  refine requestLog_eq_nil fun i hi hn => ?_
  rcases h.strand?_of_mem hi with ⟨id, rfl⟩ | hk
  · cases hn
  · rw [hn] at hk
    exact hother (Option.some.inj hk)

theorem Outside.Step.requestLog {active : Nat} {table table' : Pending}
    {closing closing' : Closing} {incidents : List Incident}
    (h : Step active table closing table' closing' incidents) (n : Nat) :
    requestLog n incidents = [] := by
  refine requestLog_eq_nil fun i hi hn => ?_
  rw [h.strand?_of_mem hi] at hn
  cases hn

/-- All that is told of the beginning of a request is told of the request. -/
theorem Commission.requestLog_incidents (c : Commission) (n : Nat) :
    requestLog n (c.incidents n) = c.incidents n := by
  unfold incidents requestLog
  split <;> simp [Incident.isOfRequest]

-- ============================================================ where a verdict comes from

/-- What the look that ends a wait shows, when so much was told before the registration and so much
between the registration and the look. -/
def Shows (id : UInt64) (before during : List Incident) (outcome : WaitOutcome) : Prop :=
  (.shutDown ∈ before ++ during ∧ outcome = .shutDown) ∨
    (.shutDown ∉ before ++ during ∧
      ∃ answer, firstAnswerIn id during = some answer ∧ outcome = .answered answer)

/-- How a request with a message came to its verdict. Each rule lists all that the log tells of the
request, in order, and says what has been told before and after its registration. -/
inductive Provenance (policy : UnreachablePolicy) (log : List Incident) (n : Nat) (c : Commission)
    (message : Message) : Verdict → Prop where
  /-- A shutdown had begun before the registration. The channel is not called. -/
  | refused (before after : List Incident)
      (hlog : log = before ++ .refused n message (.shuttingDown message.id) ::
        .resolved n (.deny .shuttingDown) :: after)
      (hdown : .shutDown ∈ before)
      (hstory : requestLog n log = [.requested n c,
        .refused n message (.shuttingDown message.id), .resolved n (.deny .shuttingDown)]) :
    Provenance policy log n c message (.deny .shuttingDown)
  /-- The channel did not take the message. -/
  | unsent (before after : List Incident) (fault : SendFault)
      (hlog : log = before ++ .registered n message :: after) (hup : .shutDown ∉ before)
      (hstory : requestLog n log = [.requested n c, .registered n message,
        .called n (.send c.root.index message), .returned n (.sent (.error fault)),
        .resolved n (Errand.unreachable policy)]) :
    Provenance policy log n c message (Errand.unreachable policy)
  /-- The channel took the message, and after some looks in vain one ended the wait. -/
  | awaited (before during after : List Incident) (vain : Nat) (outcome : WaitOutcome)
      (hlog : log = before ++ .registered n message ::
        (during ++ .looked n (some outcome) :: after))
      (hup : .shutDown ∉ before) (hshows : Shows message.id before during outcome)
      (hstory : requestLog n log = [.requested n c, .registered n message,
        .called n (.send c.root.index message), .returned n (.sent (.ok ()))] ++
          (List.replicate vain (.looked n none) ++
            [.looked n (some outcome), .resolved n (Errand.verdictOf outcome)])) :
    Provenance policy log n c message (Errand.verdictOf outcome)

/-- What is told of others changes nothing. -/
theorem Provenance.append {policy : UnreachablePolicy} {log news : List Incident} {n : Nat}
    {c : Commission} {message : Message} {v : Verdict}
    (h : Provenance policy log n c message v) (hnews : requestLog n news = []) :
    Provenance policy (log ++ news) n c message v := by
  cases h with
  | refused before after hlog hdown hstory =>
      refine .refused before (after ++ news) ?_ hdown ?_
      · rw [hlog, List.append_assoc]
        rfl
      · rw [requestLog_append, hnews, List.append_nil, hstory]
  | unsent before after fault hlog hup hstory =>
      refine .unsent before (after ++ news) fault ?_ hup ?_
      · rw [hlog, List.append_assoc]
        rfl
      · rw [requestLog_append, hnews, List.append_nil, hstory]
  | awaited before during after vain outcome hlog hup hshows hstory =>
      refine .awaited before during (after ++ news) vain outcome ?_ hup hshows ?_
      · rw [hlog]
        simp only [List.append_assoc, List.cons_append]
      · rw [requestLog_append, hnews, List.append_nil, hstory]

-- ============================================================ the story

/-- A call that has its decision. -/
def Task.isOver : Task → Bool
  | call _ (.leave _) | call _ (.done _) => true
  | _ => false

theorem Task.errand?_of_isOver {task : Task} (h : task.isOver = true) : task.errand? = none := by
  unfold isOver at h
  split at h <;> first | rfl | cases h

theorem Task.contact?_of_isOver {task : Task} (h : task.isOver = true) : task.contact? = none := by
  unfold isOver at h
  split at h <;> first | rfl | cases h

/-- A strand with an errand calls nobody but the channel. -/
theorem Task.send_of_contact? {task : Task} {e : Errand} {contact : Contact}
    (he : task.errand? = some e) (h : task.contact? = some contact) :
    ∃ root message, e = .send root message ∧ contact = .send root message := by
  unfold contact? at h
  split at h <;> cases h <;> cases he
  · exact ⟨_, _, rfl, rfl⟩
  · exact ⟨_, _, rfl, rfl⟩

/-- A request that has been registered under an id that was given out. -/
structure Filed (log : List Incident) (n : Nat) (c : Commission) (message : Message)
    (before after : List Incident) : Prop where
  asked : ∃ path, Errand.target c.root c.node = .ok path ∧ message = c.message path message.id
  issued : message.id ∈ issuedIds log
  told : log = before ++ .registered n message :: after
  up : .shutDown ∉ before

/-- Where an errand is, and what has been told of its request so far. The flag says that the channel
has been called and has not come back. -/
inductive Story (policy : UnreachablePolicy) (table : Pending) (log : List Incident) (n : Nat)
    (c : Commission) : Errand → Bool → Prop where
  /-- Without a path for the object there is nothing to ask for. -/
  | unresolved (fault : PathFault) (out : Bool) (htarget : Errand.target c.root c.node = .error fault)
      (hstory : requestLog n log = [.requested n c, .resolved n (.deny .pathUnresolved)]) :
    Story policy table log n c (.done (.deny .pathUnresolved)) out
  | number (path : String) (htarget : Errand.target c.root c.node = .ok path)
      (hstory : requestLog n log = [.requested n c]) :
    Story policy table log n c (.number c.root.index (c.message path 0)) false
  | register (path : String) (id : UInt64)
      (htarget : Errand.target c.root c.node = .ok path) (hissued : id ∈ issuedIds log)
      (hstory : requestLog n log = [.requested n c]) :
    Story policy table log n c (.register c.root.index (c.message path id)) false
  | send (message : Message) (before after : List Incident)
      (hfiled : Filed log n c message before after)
      (hslot : table.find? message.id = some ⟨message, firstAnswerIn message.id after⟩)
      (hstory : requestLog n log = [.requested n c, .registered n message]) :
    Story policy table log n c (.send c.root.index message) false
  | sending (message : Message) (before after : List Incident)
      (hfiled : Filed log n c message before after)
      (hslot : table.find? message.id = some ⟨message, firstAnswerIn message.id after⟩)
      (hstory : requestLog n log = [.requested n c, .registered n message,
        .called n (.send c.root.index message)]) :
    Story policy table log n c (.send c.root.index message) true
  | await (message : Message) (before after : List Incident) (vain : Nat) (out : Bool)
      (hfiled : Filed log n c message before after)
      (hslot : table.find? message.id = some ⟨message, firstAnswerIn message.id after⟩)
      (hstory : requestLog n log = [.requested n c, .registered n message,
        .called n (.send c.root.index message), .returned n (.sent (.ok ()))] ++
          List.replicate vain (.looked n none)) :
    Story policy table log n c (.await message.id) out
  | unsent (message : Message) (before after : List Incident) (fault : SendFault) (out : Bool)
      (hfiled : Filed log n c message before after)
      (hstory : requestLog n log = [.requested n c, .registered n message,
        .called n (.send c.root.index message), .returned n (.sent (.error fault))]) :
    Story policy table log n c (.release message.id (Errand.unreachable policy)) out
  | woken (message : Message) (before during after : List Incident) (vain : Nat)
      (outcome : WaitOutcome) (out : Bool)
      (hfiled : Filed log n c message before (during ++ .looked n (some outcome) :: after))
      (hshows : Shows message.id before during outcome)
      (hstory : requestLog n log = [.requested n c, .registered n message,
        .called n (.send c.root.index message), .returned n (.sent (.ok ()))] ++
          (List.replicate vain (.looked n none) ++ [.looked n (some outcome)])) :
    Story policy table log n c (.release message.id (Errand.verdictOf outcome)) out
  | done (path : String) (id : UInt64) (v : Verdict) (out : Bool)
      (htarget : Errand.target c.root c.node = .ok path) (hissued : id ∈ issuedIds log)
      (h : Provenance policy log n c (c.message path id) v) :
    Story policy table log n c (.done v) out

theorem Filed.append {log : List Incident} {n : Nat} {c : Commission} {message : Message}
    {before after : List Incident} (h : Filed log n c message before after)
    (news : List Incident) : Filed (log ++ news) n c message before (after ++ news) := by
  refine ⟨h.asked, ?_, ?_, h.up⟩
  · exact mem_issuedIds_append h.issued news
  · rw [h.told, List.append_assoc, List.cons_append]

namespace Story

variable {policy : UnreachablePolicy} {table table' : Pending} {log news : List Incident}
  {n : Nat} {c : Commission} {e : Errand} {out : Bool}

/-- A request that is resolved stays as it is told. -/
theorem done_append {v : Verdict} (h : Story policy table log n c (.done v) out)
    (hnews : requestLog n news = []) (next : Bool) :
    Story policy table' (log ++ news) n c (.done v) next := by
  cases h with
  | unresolved fault _ htarget hstory =>
      exact .unresolved fault next htarget (by rw [requestLog_append, hnews, hstory]; rfl)
  | done path id _ _ htarget hissued h =>
      refine .done path id v next htarget ?_ (h.append hnews)
      exact mem_issuedIds_append hissued _

/-- Others go on: the story stands, and what they tell of answers shows in the slot. -/
theorem frame (h : Story policy table log n c e out) (hnews : requestLog n news = [])
    (hslots : ∀ id, e.held? = some id →
      table'.find? id = (table.find? id).map (Entry.hear (firstAnswerIn id news))) :
    Story policy table' (log ++ news) n c e out := by
  have hkept : requestLog n (log ++ news) = requestLog n log := by
    rw [requestLog_append, hnews, List.append_nil]
  -- the slot hears what is told now after what was told before
  have hheard : ∀ message after, e.held? = some message.id →
      table.find? message.id = some ⟨message, firstAnswerIn message.id after⟩ →
      table'.find? message.id =
        some ⟨message, firstAnswerIn message.id (after ++ news)⟩ := by
    intro message after hheld hslot
    rw [hslots message.id hheld, hslot, firstAnswerIn_append]
    rfl
  cases h with
  | unresolved fault _ htarget hstory => exact .unresolved fault out htarget (hkept.trans hstory)
  | number path htarget hstory => exact .number path htarget (hkept.trans hstory)
  | register path id htarget hissued hstory =>
      refine .register path id htarget ?_ (hkept.trans hstory)
      exact mem_issuedIds_append hissued _
  | send message before after hfiled hslot hstory =>
      exact .send message before (after ++ news) (hfiled.append news)
        (hheard message after rfl hslot) (hkept.trans hstory)
  | sending message before after hfiled hslot hstory =>
      exact .sending message before (after ++ news) (hfiled.append news)
        (hheard message after rfl hslot) (hkept.trans hstory)
  | await message before after vain _ hfiled hslot hstory =>
      exact .await message before (after ++ news) vain out (hfiled.append news)
        (hheard message after rfl hslot) (hkept.trans hstory)
  | unsent message before after fault _ hfiled hstory =>
      exact .unsent message before (after ++ news) fault out (hfiled.append news)
        (hkept.trans hstory)
  | woken message before during after vain outcome _ hfiled hshows hstory =>
      refine .woken message before during (after ++ news) vain outcome out ?_ hshows
        (hkept.trans hstory)
      have hmore := hfiled.append news
      rwa [List.append_assoc, List.cons_append] at hmore
  | done path id v _ htarget hissued h =>
      refine .done path id v out htarget ?_ (h.append hnews)
      exact mem_issuedIds_append hissued _

/-- What the look shows, told by the slot and the flag. -/
theorem shows_of_outcome? {message : Message} {before after : List Incident}
    {outcome : WaitOutcome}
    (hflag : table.shuttingDown = true ↔ .shutDown ∈ before ++ .registered n message :: after)
    (hslot : table.find? message.id = some ⟨message, firstAnswerIn message.id after⟩)
    (houtcome : table.outcome? message.id = some outcome) :
    Shows message.id before after outcome := by
  have hdown : .shutDown ∈ before ++ .registered n message :: after ↔
      .shutDown ∈ before ++ after := by
    simp
  rw [Pending.outcome?_of_find? hslot] at houtcome
  split at houtcome
  case isTrue hset =>
    cases houtcome
    exact .inl ⟨hdown.1 (hflag.1 hset), rfl⟩
  case isFalse hset =>
    obtain ⟨answer, hanswer, rfl⟩ := Option.map_eq_some_iff.1 houtcome
    exact .inr ⟨fun h => hset (hflag.2 (hdown.2 h)), answer, hanswer, rfl⟩

/-- The errand's own step tells the next of the story. -/
theorem step (h : Story policy table log n c e out) {task : Task} (he : task.errand? = some e)
    (hfree : ∀ root message, e = .register root message → table.contains message.id = false)
    (hflag : table.shuttingDown = true ↔ .shutDown ∈ log) {active active' : Nat}
    {strand' : Strand} {incidents : List Incident}
    (hstep : Strand.Step policy n table active ⟨task, out⟩ table' active' strand' incidents) :
    (∃ next, strand'.task.errand? = some next ∧
        Story policy table' (log ++ incidents) n c next strand'.out) ∨
      (∃ v, e = .done v ∧ strand'.task.isOver = true ∧ incidents = []) := by
  have hsilent : ∀ id after, firstAnswerIn id (after ++ incidents) = firstAnswerIn id after := by
    intro id after
    rw [firstAnswerIn_append, hstep.firstAnswerIn, Option.or_none]
  cases hstep with
  | enter | rule | commission | answered | leave => cases he
  | finish _ access _ v =>
      cases he
      exact .inr ⟨v, rfl, rfl, rfl⟩
  | turn _ _ contact hcontact =>
      obtain ⟨root, message, rfl, rfl⟩ := Task.send_of_contact? he hcontact
      cases h with
      | send _ before after hfiled hslot hstory =>
          refine .inl ⟨_, he, .sending message before (after ++ _) (hfiled.append _) ?_ ?_⟩
          · rw [hsilent, hslot]
          · exact requestLog_concat hstory (decide_eq_true rfl)
  | number _ _ _ root message he' =>
      cases he.symm.trans he'
      cases h with
      | number path htarget hstory =>
          refine .inl ⟨_, task.errand?_withErrand _, .register path table.nextId htarget ?_ ?_⟩
          · rw [issuedIds_append]
            exact List.mem_append_right _ (List.mem_singleton_self _)
          · rw [requestLog_append, hstory]
            rfl
  | register _ _ _ _ root message he' hnext =>
      cases he.symm.trans he'
      cases h with
      | register path id htarget hissued hstory =>
          refine .inl ⟨_, task.errand?_withErrand _, .send (c.message path id) log [] ?_ ?_ ?_⟩
          · refine ⟨⟨path, htarget, rfl⟩, ?_, rfl, fun hdown => ?_⟩
            · exact mem_issuedIds_append hissued _
            · rw [(Pending.register_ok_iff.1 hnext).1] at hflag
              cases hflag.2 hdown
          · rw [Pending.find?_register hnext, if_pos rfl]
            rfl
          · exact requestLog_concat hstory (decide_eq_true rfl)
  | refuse _ _ _ root message fault he' hfault =>
      cases he.symm.trans he'
      cases h with
      | register path id htarget hissued hstory =>
          rcases Pending.register_error_iff.1 hfault with ⟨hdown, rfl⟩ | ⟨-, hin, -⟩
          · refine .inl ⟨_, task.errand?_withErrand _, .done path id _ _ htarget ?_ ?_⟩
            · exact mem_issuedIds_append hissued _
            · refine .refused log [] rfl (hflag.1 hdown) ?_
              rw [requestLog_append, hstory]
              simp [requestLog, Incident.isOfRequest, Commission.message, Errand.refusalOf]
          · rw [hfree _ _ rfl] at hin
            cases hin
  | sent _ _ root message he' =>
      cases he.symm.trans he'
      cases h with
      | sending _ before after hfiled hslot hstory =>
          refine .inl ⟨_, task.errand?_withErrand _,
            .await message before (after ++ _) 0 _ (hfiled.append _) ?_ ?_⟩
          · rw [hsilent, hslot]
          · exact requestLog_concat hstory (decide_eq_true rfl)
  | unsent _ _ root message fault he' =>
      cases he.symm.trans he'
      cases h with
      | sending _ before after hfiled hslot hstory =>
          refine .inl ⟨_, task.errand?_withErrand _,
            .unsent message before (after ++ _) fault _ (hfiled.append _) ?_⟩
          exact requestLog_concat hstory (decide_eq_true rfl)
  | wait _ _ _ id he' houtcome =>
      cases he.symm.trans he'
      cases h with
      | await message before after vain _ hfiled hslot hstory =>
          refine .inl ⟨_, he, .await message before (after ++ _) (vain + 1) _ (hfiled.append _)
            ?_ ?_⟩
          · rw [hsilent, hslot]
          · rw [requestLog_append, hstory, List.replicate_succ']
            simp [requestLog, Incident.isOfRequest]
  | wake _ _ _ id outcome he' houtcome =>
      cases he.symm.trans he'
      cases h with
      | await message before after vain _ hfiled hslot hstory =>
          refine .inl ⟨_, task.errand?_withErrand _,
            .woken message before after [] vain outcome _ (hfiled.append _) ?_ ?_⟩
          · rw [hfiled.told] at hflag
            exact shows_of_outcome? hflag hslot houtcome
          · exact requestLog_concat hstory (decide_eq_true rfl)
  | release _ _ _ id v he' =>
      cases he.symm.trans he'
      cases h with
      | unsent message before after fault _ hfiled hstory =>
          obtain ⟨path, htarget, hmessage⟩ := hfiled.asked
          refine .inl ⟨_, task.errand?_withErrand _, .done path message.id _ _ htarget
            (hfiled.append _).issued ?_⟩
          rw [← hmessage]
          refine .unsent before (after ++ _) fault (hfiled.append _).told hfiled.up ?_
          exact requestLog_concat hstory (decide_eq_true rfl)
      | woken message before during after vain outcome _ hfiled hshows hstory =>
          obtain ⟨path, htarget, hmessage⟩ := hfiled.asked
          refine .inl ⟨_, task.errand?_withErrand _, .done path message.id _ _ htarget
            (hfiled.append _).issued ?_⟩
          rw [← hmessage]
          refine .awaited before during (after ++ [.resolved n (Errand.verdictOf outcome)]) vain
            outcome ?_ hfiled.up hshows ?_
          · have htold := (hfiled.append [.resolved n (Errand.verdictOf outcome)]).told
            rwa [List.append_assoc, List.cons_append] at htold
          · have hown : (Incident.resolved n (Errand.verdictOf outcome)).isOfRequest n = true :=
              decide_eq_true rfl
            rw [requestLog_concat hstory hown, List.append_assoc, List.append_assoc]
            rfl

end Story

-- ============================================================ every strand has its tale

/-- What has been told of the request of a strand: nothing before it begins, its story while it is
under way, and its story to the end when the call has its decision. -/
inductive Tale (policy : UnreachablePolicy) (table : Pending) (log : List Incident) (n : Nat) :
    Strand → Prop where
  | before (task : Task) (out : Bool) (he : task.errand? = none)
      (hout : out = true → ∃ contact, task.contact? = some contact)
      (hstory : requestLog n log = []) : Tale policy table log n ⟨task, out⟩
  | during (task : Task) (out : Bool) (c : Commission) (e : Errand) (he : task.errand? = some e)
      (hstory : Story policy table log n c e out) : Tale policy table log n ⟨task, out⟩
  | after (task : Task) (out : Bool) (c : Commission) (v : Verdict) (hover : task.isOver = true)
      (hstory : Story policy table log n c (.done v) out) : Tale policy table log n ⟨task, out⟩

/-- A commission begins its story with its first incidents. -/
theorem Story.begin {policy : UnreachablePolicy} {table : Pending} {log : List Incident} {n : Nat}
    (c : Commission) (h : requestLog n log = []) :
    Story policy table (log ++ c.incidents n) n c c.errand false := by
  have hown : requestLog n (log ++ c.incidents n) = c.incidents n := by
    rw [requestLog_append, h, List.nil_append, c.requestLog_incidents]
  cases htarget : Errand.target c.root c.node with
  | error fault =>
      have herrand : c.errand = .done (.deny .pathUnresolved) := by
        simp only [Commission.errand, Errand.start, htarget]
      rw [herrand]
      refine .unresolved fault false htarget (hown.trans ?_)
      simp only [Commission.incidents, herrand]
  | ok path =>
      have herrand : c.errand = .number c.root.index (c.message path 0) := by
        simp only [Commission.errand, Errand.start, htarget]
        rfl
      rw [herrand]
      refine .number path htarget (hown.trans ?_)
      simp only [Commission.incidents, herrand]

namespace Tale

variable {policy : UnreachablePolicy} {table table' : Pending} {log news : List Incident}
  {n : Nat} {strand strand' : Strand}

/-- Others go on. -/
theorem frame (h : Tale policy table log n strand) (hnews : requestLog n news = [])
    (hslots : ∀ id, strand.held? = some id →
      table'.find? id = (table.find? id).map (Entry.hear (firstAnswerIn id news))) :
    Tale policy table' (log ++ news) n strand := by
  cases h with
  | before task out he hout hstory =>
      refine .before task out he hout ?_
      rw [requestLog_append, hstory, hnews]
      rfl
  | during task out c e he hstory =>
      refine .during task out c e he (hstory.frame hnews fun id hid => hslots id ?_)
      rw [Strand.held?_of_errand? he]
      exact hid
  | after task out c v hover hstory => exact .after task out c v hover (hstory.done_append hnews out)

/-- The strand itself goes on. -/
theorem step (h : Tale policy table log n strand)
    (hfree : ∀ root message, strand.task.errand? = some (.register root message) →
      table.contains message.id = false)
    (hflag : table.shuttingDown = true ↔ .shutDown ∈ log) {active active' : Nat}
    {incidents : List Incident}
    (hstep : Strand.Step policy n table active strand table' active' strand' incidents) :
    Tale policy table' (log ++ incidents) n strand' := by
  cases h with
  | during task out c e he hstory =>
      obtain ⟨task', out'⟩ := strand'
      rcases hstory.step he (fun root message heq => hfree root message (heq ▸ he)) hflag hstep
        with ⟨next, hnext, hstory'⟩ | ⟨v, rfl, hover, rfl⟩
      · exact .during task' out' c next hnext hstory'
      · exact .after task' out' c v hover (hstory.done_append rfl out')
  | before task out he hout hstory =>
      cases hstep with
      | number _ _ _ _ _ he' | register _ _ _ _ _ _ he' _ | refuse _ _ _ _ _ _ he' _
      | sent _ _ _ _ he' | unsent _ _ _ _ _ he' | wait _ _ _ _ he' _ | wake _ _ _ _ _ he' _
      | release _ _ _ _ _ he' =>
          rw [he] at he'
          cases he'
      | finish => cases he
      | commission _ access ruling _ c =>
          cases out with
          | false => exact .during _ false c c.errand rfl (Story.begin c hstory)
          | true =>
              obtain ⟨contact, hcontact⟩ := hout rfl
              cases hcontact
      | turn _ _ contact hcontact =>
          refine .before task true he (fun _ => ⟨contact, hcontact⟩) ?_
          rw [requestLog_append, hstory]
          cases contact with
          | question q => rfl
          | send root message =>
              rw [Task.errand?_of_contact? hcontact] at he
              cases he
      | answered _ access asked next feedback hquestion =>
          refine .before _ false rfl (fun h => by cases h) ?_
          rw [requestLog_append, hstory]
          cases feedback with
          | sent result => exact absurd rfl (hquestion result)
          | _ => rfl
      | enter | rule | leave =>
          refine .before _ out rfl (fun h => ?_) ?_
          · obtain ⟨contact, hcontact⟩ := hout h
            cases hcontact
          · rw [requestLog_append, hstory]
            rfl
  | after task out c v hover hstory =>
      cases hstep with
      | leave => exact .after _ out c v rfl (hstory.done_append rfl out)
      | turn _ _ _ hcontact => cases hcontact.symm.trans (Task.contact?_of_isOver hover)
      | number _ _ _ _ _ he' | register _ _ _ _ _ _ he' _ | refuse _ _ _ _ _ _ he' _
      | sent _ _ _ _ he' | unsent _ _ _ _ _ he' | wait _ _ _ _ he' _ | wake _ _ _ _ _ he' _
      | release _ _ _ _ _ he' => cases he'.symm.trans (Task.errand?_of_isOver hover)
      | enter | rule | commission | answered | finish => cases hover

end Tale

-- ============================================================ all tales at once

/-- The log tells a tale of every strand, and of no others. -/
structure Told (policy : UnreachablePolicy) (t : Traffic) : Prop where
  tales : ∀ n strand, t.strands[n]? = some strand → Tale policy t.pending t.log n strand
  unborn : ∀ n, t.strands.length ≤ n → requestLog n t.log = []

namespace Told

variable {policy : UnreachablePolicy} {t next : Traffic}

/-- One strand moves. -/
theorem strand_step (h : Told policy t) (howned : Owned t) (hapart : Apart t) (hflag : Flagged t)
    {k : Nat} {before after : Strand} {active' : Nat} {incidents : List Incident}
    (hk : t.strands[k]? = some before)
    (hstep : Strand.Step policy k t.pending t.arbiter.active before next.pending active' after
      incidents)
    (hstrands : next.strands = t.strands.set k after) (hlog : next.log = t.log ++ incidents) :
    Told policy next := by
  obtain ⟨hlt, -⟩ := List.getElem?_eq_some_iff.1 hk
  refine ⟨fun n strand hn => ?_, fun n hn => ?_⟩
  · rw [hstrands] at hn
    rw [hlog]
    by_cases heq : n = k
    · subst heq
      rw [List.getElem?_set_self hlt] at hn
      cases hn
      exact (h.tales n before hk).step (fun root message he =>
        hapart.contains_eq_false howned hk he) hflag hstep
    · rw [List.getElem?_set_ne (Ne.symm heq)] at hn
      refine (h.tales n strand hn).frame (hstep.requestLog_other heq) fun id hid => ?_
      have hheld : t.held? n = some id := Option.bind_eq_some_iff.2 ⟨strand, hn, hid⟩
      rw [hstep.find?_of_held howned hk heq hheld, hstep.firstAnswerIn, Entry.map_hear_none]
  · rw [hstrands, List.length_set] at hn
    rw [hlog, requestLog_append, h.unborn n hn, hstep.requestLog_other (by omega)]
    rfl

/-- A strand is added. -/
theorem concat (h : Told policy t) {strand : Strand} {incidents : List Incident}
    (hpending : next.pending = t.pending) (hstrands : next.strands = t.strands ++ [strand])
    (hlog : next.log = t.log ++ incidents)
    (hothers : ∀ n, n ≠ t.strands.length → requestLog n incidents = [])
    (hanswers : ∀ id, firstAnswerIn id incidents = none)
    (hnew : Tale policy t.pending (t.log ++ incidents) t.strands.length strand) :
    Told policy next := by
  refine ⟨fun n found hn => ?_, fun n hn => ?_⟩
  · rw [hstrands] at hn
    rw [hlog, hpending]
    rcases Nat.lt_or_ge n t.strands.length with hlt | hge
    · rw [List.getElem?_append_left hlt] at hn
      refine (h.tales n found hn).frame (hothers n (by omega)) fun id _ => ?_
      rw [hanswers, Entry.map_hear_none]
    · have hlength := (List.getElem?_eq_some_iff.1 hn).1
      rw [List.length_append, List.length_singleton] at hlength
      have heq : n = t.strands.length := by omega
      subst heq
      rw [List.getElem?_concat_length] at hn
      cases hn
      exact hnew
  · rw [hstrands, List.length_append, List.length_singleton] at hn
    rw [hlog, requestLog_append, h.unborn n (by omega), hothers n (by omega)]
    rfl

theorem step (h : Told policy t) (hpolicy : t.arbiter.onUnreachable = policy) (howned : Owned t)
    (hapart : Apart t) (hflag : Flagged t) {move : Move} (hstep : t.Step move next) :
    Told policy next := by
  cases hstep with
  | strand k before after incidents hk hstep hstrands hclosing hlog =>
      rw [hpolicy] at hstep
      exact h.strand_step howned hapart hflag hk hstep hstrands hlog
  | arrive access hpending hactive hstrands hclosing hlog =>
      refine h.concat hpending hstrands (hlog.trans (List.append_nil _).symm) (fun _ _ => rfl)
        (fun _ => rfl) (.before _ false rfl (fun hout => by cases hout) ?_)
      rw [List.append_nil]
      exact h.unborn _ (Nat.le_refl _)
  | request c hmove hpending hactive hstrands hclosing hlog =>
      refine h.concat hpending hstrands hlog (fun n hn => ?_) (fun id => c.firstAnswerIn _ id)
        (.during _ false c c.errand rfl (Story.begin c (h.unborn _ (Nat.le_refl _))))
      refine requestLog_eq_nil fun i hi hown => hn ?_
      rw [Commission.strand?_of_mem hi] at hown
      exact (Option.some.inj hown).symm
  | outside incidents hstep hactive hstrands hlog =>
      refine ⟨fun n strand hn => ?_, fun n hn => ?_⟩
      · rw [hstrands] at hn
        rw [hlog]
        exact (h.tales n strand hn).frame (hstep.requestLog n) fun id _ => hstep.find?_eq id
      · rw [hstrands] at hn
        rw [hlog, requestLog_append, h.unborn n hn, hstep.requestLog n]
        rfl

end Told

theorem mem_requestLog {n : Nat} {i : Incident} {log : List Incident} (h : i ∈ log)
    (hown : i.isOfRequest n = true) : i ∈ requestLog n log :=
  List.mem_filter.2 ⟨h, hown⟩

namespace Story

variable {policy : UnreachablePolicy} {table : Pending} {log : List Incident} {n : Nat}
  {c : Commission} {e : Errand} {out : Bool}

end Story

theorem Task.incidents_of_errand? {task : Task} {e : Errand} {n : Nat} {arbiter : Arbiter}
    (he : task.errand? = some e) : task.incidents n arbiter = e.incidents n arbiter := by
  unfold errand? at he
  split at he <;> cases he <;> rfl

namespace Told

variable {policy : UnreachablePolicy} {t : Traffic} {n : Nat}

end Told

-- ============================================================ the result

namespace EarlyAnswers

/-- A request for the content of one file. -/
def commission : Commission :=
  ⟨⟨0, "/root", some 5⟩, .hydrateFile, ⟨.regular, .ok "/root/file"⟩, 7, "reader"⟩

/-- It is answered before the channel comes back, and answered again. -/
def moves : List Move :=
  [.request commission, .step 0 .zero, .step 0 .zero, .turn 0, .deliver 1 .failure,
    .deliver 1 .success, .back 0 (.sent (.ok ())), .step 0 .zero, .step 0 .zero]

def log : List Incident := ((Traffic.start .standard).run moves).log

end EarlyAnswers

end Hydration
