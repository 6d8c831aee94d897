/-
The policy as it is laid down, clause by clause, and the arbiter that keeps to it.

# Eleven clauses

A clause names the questions that must be answered before anybody can tell whether it applies, and says
what is to be done if it does. The clauses stand in a fixed order, and the first one that applies is the
one that counts (`Situation.judgement?`). They speak of words and their bits, as the host lays them out,
so every word has its place among them, with whatever other bits it carries.

# Keeping to it

The arbiter asks in stages and drops out as early as it can. `Inquiry.complies_ofAccess` compares it with
the clauses, one case for each of them: it comes to what the first clause that applies says, and has
then asked exactly the questions that this clause names. What a call returns follows, since a call asks,
and then leaves or makes one request.
-/
import Hydration.Proofs.Decision.Returns

namespace Hydration

variable {σ : Type}

-- ============================================================ situations

/-- What the others answer about an object when they are asked in turn. -/
structure Answers where
  isManaged : Bool
  flags : Except FlagsFault Flags
  root : Option Root

def Collaborators.answers (others : Collaborators σ) (node : Node) (world : σ) : Answers where
  isManaged := (others.managed node world).1
  flags := (others.flags node (others.afterAll node world [.managed])).1
  root := (others.root node (others.afterAll node world [.managed, .flags])).1

/-- All that the policy looks at. -/
structure Situation where
  access : Access
  /-- The name of the process is configured as a crawler's. -/
  isCrawler : Bool
  answers : Answers

/-- The flag word of the object, if it can be read. -/
def Situation.word (s : Situation) : UInt32 :=
  match s.answers.flags with
  | .ok flags => flags.bits
  | .error _ => 0

-- ============================================================ clauses

/-- What is to be done about an access. -/
inductive Judgement where
  | decided (decision : Decision)
  /-- The provider has to be asked for content, and its answer decides. -/
  | commissioned (c : Commission)

structure Clause where
  /-- What has to be asked before it can be told whether the clause applies. -/
  asked : List Question
  /-- What the clause says, if it applies. -/
  judge? : Situation → Option Judgement

namespace Clause

/-- The bit of a flag word that marks a placeholder. -/
def emptyMark : UInt32 := 0x08

/-- The bit of a flag word that marks an object inside some root. -/
def insideMark : UInt32 := 0x40

/-- The bit of an action that only asks. -/
def queryBit : UInt32 := 0x80000000

/-- Writing attributes, extended attributes, data or security, appending, and linking. -/
def writeMask : UInt32 := 0x02001524

/-- What a placeholder below an offline root permits: asking, deleting it or a child of it, and reading
extended attributes. -/
def removalMask : UInt32 := 0x80000250

/-- What it permits besides if it is a directory: reading attributes and security, listing and
searching. -/
def traversalMask : UInt32 := 0x0000088A

/-- What needs the content of an object of some kind. For a directory: listing, searching, and reading
security, attributes and extended attributes; for anything else: reading and writing attributes,
extended attributes and data, and executing. -/
def contentMask (kind : NodeKind) : UInt32 :=
  if kind = .directory then 0x00000A8A else 0x0000078E

/-- The request that fetches the content of an object of some kind. -/
def requestFor (kind : NodeKind) : MessageKind :=
  if kind = .directory then .enumerateDirectory else .hydrateFile

/-- The matrix for objects below an offline root. -/
def matrix (isEmpty : Bool) (kind : NodeKind) (action : UInt32) : Verdict :=
  if action &&& queryBit = 0 ∧ action &&& writeMask ≠ 0 then .deny .offlineWrite
  else if isEmpty = false then .allow
  else if action &&& removalMask ≠ 0 then .allow
  else if kind = .directory ∧ action &&& traversalMask ≠ 0 then .allow
  else .deny .offlinePlaceholder

theorem matrix_cases (isEmpty : Bool) (kind : NodeKind) (action : UInt32) :
    matrix isEmpty kind action = .allow ∨ matrix isEmpty kind action = .deny .offlineWrite ∨
      matrix isEmpty kind action = .deny .offlinePlaceholder := by
  unfold matrix
  split
  · exact .inr (.inl rfl)
  · split
    · exact .inl rfl
    · split
      · exact .inl rfl
      · split
        · exact .inl rfl
        · exact .inr (.inr rfl)

def allow : Option Judgement := some (.decided (.ok .allow))

/-- Nobody is concerned with file systems that are not managed. -/
def unmanaged : Clause where
  asked := [.managed]
  judge? s := if s.answers.isManaged then none else allow

/-- Some kinds of objects are never governed. -/
def ungoverned : Clause where
  asked := [.managed]
  judge? s :=
    if s.access.node.kind ∈ [.none, .block, .character, .socket, .fifo, .bad] then allow else none

/-- There is no verdict on an object whose flags cannot be read. -/
def unreadable : Clause where
  asked := [.managed, .flags]
  judge? s :=
    match s.answers.flags with
    | .error source => some (.decided (.error ⟨s.access.node.displayPath, source⟩))
    | .ok _ => none

def outside : Clause where
  asked := [.managed, .flags]
  judge? s := if s.word &&& insideMark = 0 then allow else none

/-- A crawler gets no placeholder, whatever it wants of it. -/
def crawler : Clause where
  asked := [.managed, .flags]
  judge? s :=
    if s.word &&& emptyMark ≠ 0 ∧ s.isCrawler = true then some (.decided (.ok (.deny .crawler)))
    else none

/-- The flags say that the object is inside some root, and there is none. -/
def rootless : Clause where
  asked := [.managed, .flags, .root]
  judge? s := if s.answers.root = none then allow else none

def offline : Clause where
  asked := [.managed, .flags, .root]
  judge? s :=
    if s.answers.root.any (·.provider = none) then
      some (.decided (.ok (matrix (s.word &&& emptyMark != 0) s.access.node.kind
        s.access.action.bits)))
    else none

/-- A provider never waits for itself. -/
def provider : Clause where
  asked := [.managed, .flags, .root]
  judge? s := if s.answers.root.any (·.provider = some s.access.pid) then allow else none

/-- The object has its content. -/
def full : Clause where
  asked := [.managed, .flags, .root]
  judge? s := if s.word &&& emptyMark = 0 then allow else none

/-- The access needs no content. -/
def undemanding : Clause where
  asked := [.managed, .flags, .root]
  judge? s :=
    if s.access.action.bits &&& contentMask s.access.node.kind = 0 then allow else none

def hydration : Clause where
  asked := [.managed, .flags, .root]
  judge? s := s.answers.root.map fun root => .commissioned
    ⟨root, requestFor s.access.node.kind, s.access.node, s.access.pid, s.access.process⟩

/-- The clauses in their order. -/
def policy : List Clause :=
  [unmanaged, ungoverned, unreadable, outside, crawler, rootless, offline, provider, full, undemanding,
    hydration]

/-- The first of some clauses that applies: what it asks for, and what it says. -/
def first? (clauses : List Clause) (s : Situation) : Option (List Question × Judgement) :=
  clauses.findSome? fun clause => (clause.judge? s).map (clause.asked, ·)

variable {clause : Clause} {rest : List Clause} {s : Situation} {judgement : Judgement}

theorem first?_of_some (h : clause.judge? s = some judgement) :
    first? (clause :: rest) s = some (clause.asked, judgement) := by
  unfold first?
  rw [List.findSome?_cons, h]
  rfl

theorem first?_of_none (h : clause.judge? s = none) : first? (clause :: rest) s = first? rest s := by
  unfold first?
  rw [List.findSome?_cons, h]
  rfl

end Clause

/-- What the policy says about a situation, and what has to be asked before it can be told. -/
def Situation.judgement? (s : Situation) : Option (List Question × Judgement) :=
  Clause.first? Clause.policy s

/-- What the policy decides by itself has nothing to do with paths, and what it commissions is to be done
about the object below its root. -/
def Judgement.Resolved (s : Situation) : Judgement → Prop
  | .decided d => d ≠ .ok (.deny .pathUnresolved)
  | .commissioned c => s.answers.root = some c.root ∧ c.node = s.access.node

theorem Situation.resolved_of_judgement? {s : Situation} {questions : List Question}
    {judgement : Judgement} (h : s.judgement? = some (questions, judgement)) : judgement.Resolved s := by
  obtain ⟨clause, hclause, hfound⟩ := List.exists_of_findSome?_eq_some h
  obtain ⟨_, hjudge, heq⟩ := Option.map_eq_some_iff.1 hfound
  cases heq
  have hallow : Clause.allow = some judgement → judgement.Resolved s := by
    rintro ⟨⟩
    nofun
  unfold Clause.policy at hclause
  simp only [List.mem_cons, List.not_mem_nil, or_false] at hclause
  rcases hclause with rfl | rfl | rfl | rfl | rfl | rfl | rfl | rfl | rfl | rfl | rfl
  · exact hallow (Option.ite_none_left_eq_some.1 hjudge).2
  · exact hallow (Option.ite_none_right_eq_some.1 hjudge).2
  · cases hflags : s.answers.flags with
    | error source =>
        simp only [Clause.unreadable, hflags] at hjudge
        cases hjudge
        nofun
    | ok flags => simp [Clause.unreadable, hflags] at hjudge
  · exact hallow (Option.ite_none_right_eq_some.1 hjudge).2
  · cases (Option.ite_none_right_eq_some.1 hjudge).2
    nofun
  · exact hallow (Option.ite_none_right_eq_some.1 hjudge).2
  · cases (Option.ite_none_right_eq_some.1 hjudge).2
    show Except.ok (Clause.matrix _ _ _) ≠ _
    rcases Clause.matrix_cases (s.word &&& Clause.emptyMark != 0) s.access.node.kind
      s.access.action.bits with hmatrix | hmatrix | hmatrix <;> rw [hmatrix] <;> nofun
  · exact hallow (Option.ite_none_right_eq_some.1 hjudge).2
  · exact hallow (Option.ite_none_right_eq_some.1 hjudge).2
  · exact hallow (Option.ite_none_right_eq_some.1 hjudge).2
  · obtain ⟨root, hroot, rfl⟩ := Option.map_eq_some_iff.1 hjudge
    exact ⟨hroot, rfl⟩

-- ============================================================ the same words

/-- The named bits are those of the clauses. -/
theorem Flags.isEmpty_eq (flags : Flags) :
    flags.isEmpty = (flags.bits &&& Clause.emptyMark != 0) := by
  have hbit : Clause.emptyMark = Bits.single emptyBit := by decide
  rw [hbit, Bits.and_single_ne_zero flags.bits (by decide)]
  rfl

theorem Flags.isInRoot_eq (flags : Flags) :
    flags.isInRoot = (flags.bits &&& Clause.insideMark != 0) := by
  have hbit : Clause.insideMark = Bits.single inRootBit := by decide
  rw [hbit, Bits.and_single_ne_zero flags.bits (by decide)]
  rfl

namespace Policy

variable (flags : Flags) (kind : NodeKind) (action : Action)

/-- The rights of each set are the bits of its mask. -/
theorem ofRights_eq_masks :
    Action.ofRights [.access] = ⟨Clause.queryBit⟩ ∧
      Action.ofRights writeRights = ⟨Clause.writeMask⟩ ∧
      Action.ofRights placeholderRights = ⟨Clause.removalMask⟩ ∧
      Action.ofRights placeholderDirectoryRights = ⟨Clause.traversalMask⟩ ∧
      Action.ofRights listingRights = ⟨Clause.contentMask .directory⟩ ∧
      Action.ofRights contentRights = ⟨Clause.contentMask .regular⟩ := by
  decide

theorem offline_eq_matrix :
    offline flags kind action = Clause.matrix flags.isEmpty kind action.bits := by
  obtain ⟨hquery, hwrite, hremoval, htraversal, -, -⟩ := ofRights_eq_masks
  unfold offline Clause.matrix NodeKind.isDirectory
  rw [Action.asks_eq_meets, Action.asksAny_eq_meets, Action.asksAny_eq_meets,
    Action.asksAny_eq_meets, hquery, hwrite, hremoval, htraversal]
  simp [Action.meets]

theorem hydration?_eq_request :
    hydration? kind action =
      if action.bits &&& Clause.contentMask kind = 0 then none else some (Clause.requestFor kind) := by
  obtain ⟨-, -, -, -, hlisting, hcontent⟩ := ofRights_eq_masks
  unfold hydration? NodeKind.isDirectory
  rw [Action.asksAny_eq_meets, Action.asksAny_eq_meets, hlisting, hcontent]
  by_cases hkind : kind = .directory
  · subst hkind
    simp [Action.meets, Clause.requestFor, ite_not]
  · have hmask : Clause.contentMask kind = Clause.contentMask .regular := if_neg hkind
    simp [Action.meets, Clause.requestFor, hkind, hmask, ite_not]

end Policy

/-- The kinds that nobody governs. -/
theorem NodeKind.ignore_iff_mem (kind : NodeKind) :
    kind.disposition = .ignore ↔ kind ∈ [.none, .block, .character, .socket, .fifo, .bad] := by
  cases kind with
  | unknown code => simp [disposition]
  | _ => decide

-- ============================================================ the arbiter keeps to it

/-- What a ruling comes to. -/
@[simp] def Ruling.judgement (access : Access) : Ruling → Judgement
  | verdict v => .decided (.ok v)
  | outside => .decided (.ok .allow)
  | unreadable source => .decided (.error ⟨access.node.displayPath, source⟩)
  | hydrate root kind => .commissioned ⟨root, kind, access.node, access.pid, access.process⟩

/-- The situation of an access among some others. -/
def Situation.of (others : Collaborators σ) (crawlers : Crawlers) (access : Access) (world : σ) :
    Situation :=
  ⟨access, crawlers.contains access.process, others.answers access.node world⟩

namespace Inquiry

open Clause

variable {s : Situation} {flags : Flags} {root : Root}

/-- Below the root of an object. -/
theorem first?_ofRoot (hflags : s.answers.flags = .ok flags) (hroot : s.answers.root = some root) :
    first? [offline, provider, full, undemanding, hydration] s =
      some ([.managed, .flags, .root], (ofRoot s.access flags root).judgement s.access) := by
  have hword : s.word = flags.bits := by
    unfold Situation.word
    rw [hflags]
  unfold ofRoot Root.isOnline Root.isProvider
  rw [Policy.offline_eq_matrix, Policy.hydration?_eq_request, flags.isEmpty_eq, ← hword]
  by_cases honline : root.provider = none
  · rw [if_pos (by simp [honline])]
    exact first?_of_some (by simp [offline, hroot, honline])
  rw [if_neg (by simpa [Option.isSome_iff_ne_none] using honline),
    first?_of_none (by simp [offline, hroot, honline])]
  by_cases hself : root.provider = some s.access.pid
  · rw [if_pos (by simp [hself])]
    exact first?_of_some (by simp [provider, allow, hroot, hself])
  rw [if_neg (by simpa using hself), first?_of_none (by simp [provider, hroot, hself])]
  by_cases hempty : s.word &&& emptyMark = 0
  · rw [if_pos (by simp [hempty])]
    exact first?_of_some (by simp [full, allow, hempty])
  rw [if_neg (by simpa using hempty), first?_of_none (by simp [full, hempty])]
  by_cases hdemand : s.access.action.bits &&& contentMask s.access.node.kind = 0
  · rw [if_pos hdemand]
    exact first?_of_some (by simp [undemanding, allow, hdemand])
  rw [if_neg hdemand, first?_of_none (by simp [undemanding, hdemand])]
  exact first?_of_some (by simp [hydration, hroot])

/-- What is left of an inquiry, when some questions have been answered, comes to what the first of the
clauses that are left says, and by then exactly the questions of this clause have been asked. -/
def Complies (others : Collaborators σ) (crawlers : Crawlers) (access : Access) (world : σ)
    (clauses : List Clause) (asked : List Question) (inquiry : Inquiry) : Prop :=
  ∃ questions ruling,
    first? clauses (.of others crawlers access world) = some (questions, ruling.judgement access) ∧
    ∀ calls, inquiry.consult others.recorded access.node
        (others.afterAll access.node world asked, calls ++ asked.map .question) =
      (ruling, others.afterAll access.node world questions, calls ++ questions.map .question)

namespace Complies

variable {others : Collaborators σ} {crawlers : Crawlers} {access : Access} {world : σ}
  {clauses : List Clause} {clause : Clause}

/-- A clause that does not apply. -/
theorem skip {asked : List Question} {inquiry : Inquiry}
    (hnone : clause.judge? (.of others crawlers access world) = none)
    (h : Complies others crawlers access world clauses asked inquiry) :
    Complies others crawlers access world (clause :: clauses) asked inquiry := by
  obtain ⟨questions, ruling, hfirst, hconsult⟩ := h
  exact ⟨questions, ruling, (first?_of_none hnone).trans hfirst, hconsult⟩

/-- A clause that applies as soon as its questions have been answered. -/
theorem rule {ruling : Ruling}
    (hsome : clause.judge? (.of others crawlers access world) = some (ruling.judgement access)) :
    Complies others crawlers access world (clause :: clauses) clause.asked (.rule ruling) :=
  ⟨clause.asked, ruling, first?_of_some hsome, fun _ => rfl⟩

/-- The answers come in the order in which the situation has them. -/
theorem askManaged {next : Bool → Inquiry}
    (h : Complies others crawlers access world clauses [.managed]
      (next (others.answers access.node world).isManaged)) :
    Complies others crawlers access world clauses [] (.askManaged next) := by
  obtain ⟨questions, ruling, hfirst, hconsult⟩ := h
  refine ⟨questions, ruling, hfirst, fun calls => ?_⟩
  have hnext := hconsult calls
  rwa [show calls ++ List.map Contact.question [.managed] =
    calls ++ List.map Contact.question [] ++ [.question .managed] by simp] at hnext

theorem askFlags {next : Except FlagsFault Flags → Inquiry}
    (h : Complies others crawlers access world clauses [.managed, .flags]
      (next (others.answers access.node world).flags)) :
    Complies others crawlers access world clauses [.managed] (.askFlags next) := by
  obtain ⟨questions, ruling, hfirst, hconsult⟩ := h
  refine ⟨questions, ruling, hfirst, fun calls => ?_⟩
  have hnext := hconsult calls
  rwa [show calls ++ List.map Contact.question [.managed, .flags] =
    calls ++ List.map Contact.question [.managed] ++ [.question .flags] by simp] at hnext

theorem askRoot {next : Option Root → Inquiry}
    (h : Complies others crawlers access world clauses [.managed, .flags, .root]
      (next (others.answers access.node world).root)) :
    Complies others crawlers access world clauses [.managed, .flags] (.askRoot next) := by
  obtain ⟨questions, ruling, hfirst, hconsult⟩ := h
  refine ⟨questions, ruling, hfirst, fun calls => ?_⟩
  have hnext := hconsult calls
  rwa [show calls ++ List.map Contact.question [.managed, .flags, .root] =
    calls ++ List.map Contact.question [.managed, .flags] ++ [.question .root] by simp] at hnext

end Complies

variable (others : Collaborators σ) (crawlers : Crawlers) (access : Access) (world : σ)

/-- The clauses for an object whose flags are known. -/
theorem complies_ofFlags (hflags : (others.answers access.node world).flags = .ok flags) :
    Complies others crawlers access world
      [outside, crawler, rootless, offline, provider, full, undemanding, hydration]
      [.managed, .flags] (ofFlags crawlers access flags) := by
  have hword : (Situation.of others crawlers access world).word = flags.bits := by
    unfold Situation.word Situation.of
    rw [hflags]
  have hname : (Situation.of others crawlers access world).isCrawler =
      crawlers.contains access.process := rfl
  unfold ofFlags
  rw [flags.isInRoot_eq, flags.isEmpty_eq]
  by_cases hinside : flags.bits &&& insideMark = 0
  · rw [if_pos (by simp [hinside])]
    exact .rule (by simp [outside, allow, hword, hinside])
  rw [if_neg (by simpa using hinside)]
  apply Complies.skip (by simp [outside, hword, hinside])
  by_cases hcrawler : flags.bits &&& emptyMark ≠ 0 ∧ crawlers.contains access.process = true
  · rw [if_pos (by simpa using hcrawler)]
    exact .rule (by simp [crawler, hword, hname, hcrawler])
  rw [if_neg (by simpa using hcrawler)]
  apply Complies.skip (by simpa [crawler, hword, hname] using hcrawler)
  apply Complies.askRoot
  cases hroot : (others.answers access.node world).root with
  | none => exact .rule (by simp [rootless, allow, Situation.of, hroot])
  | some root =>
      apply Complies.skip (by simp [rootless, Situation.of, hroot])
      exact ⟨_, ofRoot access flags root,
        first?_ofRoot (s := .of others crawlers access world) hflags hroot, fun _ => rfl⟩

/-- The clauses for an object of a managed file system. -/
theorem complies_ofKind :
    Complies others crawlers access world
      [ungoverned, unreadable, outside, crawler, rootless, offline, provider, full, undemanding,
        hydration] [.managed] (ofKind crawlers access) := by
  unfold ofKind
  by_cases hkind : access.node.kind.disposition = .ignore
  · rw [if_pos hkind]
    exact .rule (if_pos (access.node.kind.ignore_iff_mem.1 hkind))
  rw [if_neg hkind]
  apply Complies.skip (if_neg (mt access.node.kind.ignore_iff_mem.2 hkind))
  apply Complies.askFlags
  cases hflags : (others.answers access.node world).flags with
  | error source => exact .rule (by simp [unreadable, Situation.of, hflags])
  | ok flags =>
      apply Complies.skip (by simp [unreadable, Situation.of, hflags])
      exact complies_ofFlags others crawlers access world hflags

/-- The arbiter keeps to the policy. -/
theorem complies_ofAccess :
    Complies others crawlers access world policy [] (ofAccess crawlers access) := by
  apply Complies.askManaged
  cases hmanaged : (others.answers access.node world).isManaged with
  | false => exact .rule (by simp [unmanaged, allow, Situation.of, hmanaged])
  | true =>
      apply Complies.skip (by simp [unmanaged, Situation.of, hmanaged])
      exact complies_ofKind others crawlers access world

end Inquiry

-- ============================================================ what a call returns

/-- What a request for content sends: its message, unless it has no path to ask for or the table refuses
it. -/
def Commission.sends (c : Commission) (table : Pending) : List Contact :=
  match Errand.target c.root c.node with
  | .error _ => []
  | .ok path =>
    if table.shuttingDown = true ∨ table.contains table.nextId = true then []
    else [.send c.root.index (c.message path table.nextId)]

section

variable {others : Collaborators σ} {arbiter arbiter' : Arbiter} {world : σ} {calls : List Contact}
  {after : σ × List Contact} {access : Access}

/-- However a request comes back, nobody but the channel was called, and once at most. -/
theorem Commission.calls_of_returns {c : Commission} {v : Verdict}
    (h : Errand.Returns others.recorded c.errand arbiter (world, calls) v arbiter' after) :
    after.2 = calls ++ c.sends arbiter.pending := by
  unfold sends
  rcases c.returns_cases h with ⟨fault, htarget, -, -, rfl⟩ | ⟨path, fault, htarget, hfault, -, -, rfl⟩ |
    ⟨path, table, htarget, htable, hsend⟩
  · rw [htarget]
    simp
  · rw [htarget]
    have hrefused : arbiter.pending.shuttingDown = true ∨
        arbiter.pending.contains arbiter.pending.nextId = true := by
      rcases Pending.register_error_iff.1 hfault with ⟨hdown, -⟩ | ⟨-, htaken, -⟩
      · exact .inl hdown
      · exact .inr htaken
    simp [hrefused]
  · rw [htarget]
    obtain ⟨hup, hfree, -⟩ : arbiter.pending.shuttingDown = false ∧
        arbiter.pending.contains arbiter.pending.nextId = false ∧ _ :=
      Pending.register_ok_iff.1 htable
    simp only [hup, hfree, Bool.false_eq_true, or_self, if_false]
    obtain ⟨between, world₁, ⟨fault, hsent, -, rfl, -⟩ | ⟨hsent, hwait⟩⟩ := hsend.of_send
    · exact (congrArg (·.2.2.2) hsent).symm
    · -- what happens while the call waits is no call of anybody
      obtain ⟨_, _, hcalls, -⟩ := hwait.of_await
        (fun _ found => found.2 =
          calls ++ [Contact.send c.root.index (c.message path arbiter.pending.nextId)])
        (congrArg (·.2.2.2) hsent).symm fun _ _ h => h
      exact hcalls

/-- How a call ends under a judgement, after the questions have been asked; the metrics are those that it
leaves when it needs nobody's answer. -/
def Judgement.Ends (others : Collaborators σ) (access : Access) (arbiter : Arbiter) (world : σ)
    (questions : List Question) (metrics : Metrics) :
    Judgement → Decision → Arbiter → σ × List Contact → Prop
  | .decided d, decision, arbiter', after =>
    decision = d ∧ arbiter' = { arbiter with metrics } ∧
      after = (others.afterAll access.node world questions, questions.map .question)
  | .commissioned c, decision, arbiter', after =>
    ∃ v between,
      Errand.Returns others.recorded c.errand { arbiter with active := arbiter.active + 1 }
        (others.afterAll access.node world questions, questions.map .question) v between after ∧
      decision = .ok v ∧ arbiter' = Call.countDecision between (.ok v)

/-- A ruling is carried out. -/
theorem Call.returns_ofRuling_iff {others : Collaborators σ} {world' : σ} {ruling : Ruling}
    {decision : Decision} :
    Returns others access (ofRuling access ruling) arbiter world decision arbiter' world' ↔
      match ruling.judgement access with
      | .decided d => decision = d ∧ arbiter' = countDecision arbiter d ∧ world' = world
      | .commissioned c => ∃ v between, Errand.Returns others c.errand arbiter world v between world' ∧
          decision = .ok v ∧ arbiter' = countDecision between (.ok v) := by
  cases ruling with
  | verdict | outside | unreadable => exact returns_leave_iff
  | hydrate root kind => exact returns_errand_iff

/-- A call that leaves has changed nothing but the metrics. -/
theorem Call.exists_metrics (arbiter : Arbiter) (ruling : Ruling) (decision : Decision) :
    ∃ metrics, countDecision (counted { arbiter with active := arbiter.active + 1 } ruling) decision =
      { arbiter with metrics } := by
  unfold counted
  split <;> cases decision <;> exact ⟨_, rfl⟩

/-- A call returns what the policy says, and nothing else. -/
theorem Call.returns_iff_ends (others : Collaborators σ) (access : Access) (arbiter : Arbiter)
    (world : σ) :
    ∃ questions judgement metrics,
      (Situation.of others arbiter.crawlers access world).judgement? = some (questions, judgement) ∧
      ∀ decision arbiter' after,
        Returns others.recorded access enter arbiter (world, []) decision arbiter' after ↔
          judgement.Ends others access arbiter world questions metrics decision arbiter' after := by
  obtain ⟨questions, ruling, hfirst, hconsult⟩ :=
    Inquiry.complies_ofAccess others arbiter.crawlers access world
  have hasked : (Inquiry.ofAccess arbiter.crawlers access).consult others.recorded access.node
      (world, []) = (ruling, others.afterAll access.node world questions, questions.map .question) :=
    hconsult []
  have hdecided : ∀ d, ruling.judgement access = .decided d → ∃ metrics, ∀ decision arbiter' after,
      Returns others.recorded access enter arbiter (world, []) decision arbiter' after ↔
        (Judgement.decided d).Ends others access arbiter world questions metrics decision arbiter'
          after := by
    intro d hd
    obtain ⟨metrics, hmetrics⟩ := exists_metrics arbiter ruling d
    refine ⟨metrics, fun decision arbiter' after => ?_⟩
    rw [returns_enter_iff, returns_ask_iff hasked, returns_ofRuling_iff, hd]
    dsimp only
    rw [hmetrics]
    rfl
  cases ruling with
  | verdict v =>
      obtain ⟨metrics, hends⟩ := hdecided (.ok v) rfl
      exact ⟨questions, _, metrics, hfirst, hends⟩
  | outside =>
      obtain ⟨metrics, hends⟩ := hdecided (.ok .allow) rfl
      exact ⟨questions, _, metrics, hfirst, hends⟩
  | unreadable source =>
      obtain ⟨metrics, hends⟩ := hdecided (.error ⟨access.node.displayPath, source⟩) rfl
      exact ⟨questions, _, metrics, hfirst, hends⟩
  | hydrate root kind =>
      refine ⟨questions, _, arbiter.metrics, hfirst, fun decision arbiter' after => ?_⟩
      rw [returns_enter_iff, returns_ask_iff hasked, returns_ofRuling_iff]
      rfl

end

-- ============================================================ the result

/-- An arbiter with some configuration, at any point of its life. -/
def Arbiter.inState (config : Config) (pending : Pending) (active : Nat) (metrics : Metrics) : Arbiter :=
  { ofConfig config with pending, active, metrics }

/-- What a judgement prescribes for a call: its decision, and all calls of collaborators. A commission
is one request for content, and its verdict is that of the call. -/
def Judgement.Prescribes (others : Collaborators σ) (access : Access) (arbiter : Arbiter) (world : σ)
    (questions : List Question) : Judgement → Decision → List Contact → Prop
  | .decided d, decision, calls => decision = d ∧ calls = questions.map .question
  | .commissioned c, decision, calls =>
    calls = questions.map .question ++ c.sends arbiter.pending ∧
      ∃ v between after,
        Errand.Returns others.recorded c.errand { arbiter with active := arbiter.active + 1 }
          (others.afterAll access.node world questions, questions.map .question) v between after ∧
        decision = .ok v

/-- A call returns what the first clause that applies prescribes, and has called nobody whom this clause
does not name: whatever the configuration, the table, the others and the access. -/
theorem first_clause_decides (config : Config) (pending : Pending) (active : Nat) (metrics : Metrics)
    (others : Collaborators σ) (access : Access) (world : σ) :
    ∃ questions judgement,
      (Situation.mk access (config.crawlers.contains access.process)
        (others.answers access.node world)).judgement? = some (questions, judgement) ∧
      ∀ decision calls,
        (∃ arbiter' world', Call.Returns others.recorded access .enter
          (.inState config pending active metrics) (world, []) decision arbiter' (world', calls)) ↔
        judgement.Prescribes others access (.inState config pending active metrics) world questions
          decision calls := by
  generalize harbiter : Arbiter.inState config pending active metrics = arbiter
  obtain ⟨questions, judgement, left, hfirst, hends⟩ :=
    Call.returns_iff_ends others access arbiter world
  have hcrawler : arbiter.crawlers.contains access.process =
      config.crawlers.contains access.process := by
    rw [← harbiter]
    exact Crawlers.contains_ofList config.crawlers access.process
  unfold Situation.of at hfirst
  rw [hcrawler] at hfirst
  refine ⟨questions, judgement, hfirst, fun decision calls => ?_⟩
  simp only [hends]
  cases judgement with
  | decided d =>
      constructor
      · rintro ⟨_, _, hdecision, _, hafter⟩
        exact ⟨hdecision, congrArg Prod.snd hafter⟩
      · rintro ⟨hdecision, hcalls⟩
        exact ⟨_, _, hdecision, rfl, congrArg _ hcalls⟩
  | commissioned c =>
      constructor
      · rintro ⟨_, world', v, between, hreturns, hdecision, -⟩
        exact ⟨c.calls_of_returns hreturns, v, between, _, hreturns, hdecision⟩
      · rintro ⟨hcalls, v, between, ⟨world', calls'⟩, hreturns, hdecision⟩
        obtain rfl : calls' = calls := (c.calls_of_returns hreturns).trans hcalls.symm
        exact ⟨_, world', v, between, hreturns, hdecision, rfl⟩

end Hydration
