/-
Requests do not interfere: what is done under one id is answered as if there were no other id.

# One id at a time

`View` is all that an id sees of the table: whether a shutdown has begun, and the entry under the id,
if there is one. An act about the id changes the view and is answered from the view alone
(`view_act`, `result_eq`); an act about another id leaves it as it is, and so does the issue of an id.
Hence what a history answers to the acts about an id is what the view answers (`results_about`), and
histories that agree on the acts about the id and on the shutdowns among them give the same answers.

# Why the handles do not show

A look and a drop need a handle, and the view knows nothing of handles. But in every state that can
be reached a handle is held exactly when its entry is in the table
(`Represents.contains_eq_holds`), so the entry tells.
-/
import Hydration.Proofs.Pending.Custody

namespace Hydration

-- ============================================================ acts

/-- What is done to the table, or asked of it. -/
inductive Act where
  | deed (deed : Deed)
  /-- Somebody asks whether an id is in the table. -/
  | contains (id : UInt64)
deriving DecidableEq

/-- What an act comes back with. -/
inductive Act.Result where
  | silent
  | issued (id : UInt64)
  | registered
  | refused (fault : RegisterFault)
  | counted (accepted : Bool)
  | woke (count : Nat)
  /-- What a look shows; with nothing to show the wait goes on. -/
  | looked (outcome : Option WaitOutcome)
  | contained (present : Bool)
deriving DecidableEq

/-- The id that a deed is about. -/
def Deed.id? : Deed → Option UInt64
  | takeId | abort => none
  | register message => some message.id
  | deliver id _ | look id | stir id | drop id => some id

namespace Act

/-- The id that an act is about. -/
def id? : Act → Option UInt64
  | deed d => d.id?
  | contains id => some id

/-- The act is about the id. -/
def concerns (id : UInt64) (act : Act) : Bool := act.id? = some id

/-- The act is about no other id. -/
def spares (id : UInt64) (act : Act) : Bool := act.id?.all (· = id)

/-- The act is about the id, or begins the shutdown. -/
def touches (id : UInt64) (act : Act) : Bool := act.concerns id || act = deed .abort

end Act

namespace Custody

/-- One act. A question changes nothing. -/
def act (c : Custody) : Act → Custody
  | .deed deed => c.step deed
  | .contains _ => c

/-- What an act comes back with. Nobody can look without a handle. -/
def result (c : Custody) : Act → Act.Result
  | .deed .takeId => .issued c.waiters.takeId.1
  | .deed (.register message) =>
    match c.waiters.register message with
    | .ok _ => .registered
    | .error fault => .refused fault
  | .deed (.deliver id kind) => .counted (c.waiters.deliver id kind).1
  | .deed .abort => .woke c.waiters.abort.1
  | .deed (.look id) => if c.holds id then .looked (c.waiters.look id).1 else .silent
  | .deed (.stir _) | .deed (.drop _) => .silent
  | .contains id => .contained (c.table.contains id)

/-- What a history of acts comes back with, act by act. -/
def results (c : Custody) : List Act → List (Act × Act.Result)
  | [] => []
  | act :: rest => (act, c.result act) :: (c.act act).results rest

/-- What a history comes back with under one id, on a new table. -/
def outcomes (id : UInt64) (acts : List Act) : List (Act × Act.Result) :=
  (start.results acts).filter fun told => told.1.concerns id

/-- The table after a history of acts. -/
def after (acts : List Act) : Custody := acts.foldl act start

end Custody

-- ============================================================ what an id sees of the table

/-- What an id sees of the table. -/
structure View where
  down : Bool
  slot : Option Entry

namespace View

/-- What an act makes of the view of an id. -/
def act (id : UInt64) (v : View) : Act → View
  | .deed .abort => { v with down := true }
  | .deed (.register message) =>
    if message.id = id ∧ v.down = false ∧ v.slot = none then { v with slot := some ⟨message, none⟩ }
    else v
  | .deed (.deliver other kind) =>
    if other = id then { v with slot := v.slot.map (Entry.hear kind.outcome?) } else v
  | .deed (.drop other) => if other = id then { v with slot := none } else v
  | .deed .takeId | .deed (.look _) | .deed (.stir _) | .contains _ => v

/-- What an act about the id comes back with. -/
def result (v : View) : Act → Act.Result
  | .deed (.register message) =>
    if v.down then .refused (.shuttingDown message.id)
    else if v.slot.isSome then .refused (.duplicate message.id)
    else .registered
  | .deed (.deliver _ kind) =>
    .counted (kind.outcome?.isSome && v.slot.any (·.answer.isNone))
  | .deed (.look _) =>
    if v.slot.isSome then
      .looked (if v.down then some .shutDown else (v.slot.bind Entry.answer).map .answered)
    else .silent
  | .contains _ => .contained v.slot.isSome
  | .deed .takeId | .deed .abort | .deed (.stir _) | .deed (.drop _) => .silent

/-- What the view answers to the acts of a history that are about its id. -/
def results (id : UInt64) (v : View) : List Act → List (Act × Act.Result)
  | [] => []
  | act :: rest =>
    if act.concerns id then (act, v.result act) :: (v.act id act).results id rest
    else (v.act id act).results id rest

end View

/-- What an id sees of the table. -/
def Custody.view (id : UInt64) (c : Custody) : View := ⟨c.table.shuttingDown, c.table.find? id⟩

-- ============================================================ answers, one by one

namespace Waiters

variable {w : Waiters}

theorem register_error_iff {message : Message} {fault : RegisterFault} :
    w.register message = .error fault ↔ w.pending.register message = .error fault := by
  unfold register
  cases w.pending.register message <;> simp

theorem look_fst (id : UInt64) : (w.look id).1 = w.pending.outcome? id := by
  unfold look
  split
  case h_1 outcome houtcome => exact houtcome.symm
  case h_2 hnone => exact hnone.symm

theorem deliver_fst (id : UInt64) (kind : MessageKind) :
    (w.deliver id kind).1 = (w.pending.deliver id kind).1 := by
  unfold deliver
  split
  case h_1 next hdeliver => rw [hdeliver]
  case h_2 next hdeliver => rw [hdeliver]

end Waiters

namespace Custody

variable {c : Custody}

/-- A registration is answered as the table answers it, and one that is refused changes nothing. -/
theorem register_cases (c : Custody) (message : Message) :
    (∃ next, c.table.register message = .ok next ∧
        c.result (.deed (.register message)) = .registered ∧
        (c.step (.register message)).table = next) ∨
      (∃ fault, c.table.register message = .error fault ∧
        c.result (.deed (.register message)) = .refused fault ∧
        c.step (.register message) = c) := by
  cases hreg : c.waiters.register message with
  | ok waiters =>
      obtain ⟨next, hnext, rfl⟩ := Waiters.register_ok_iff.1 hreg
      exact .inl ⟨next, hnext, by simp only [result, hreg], by simp only [step, hreg, table]⟩
  | error fault =>
      refine .inr ⟨fault, ?_, by simp only [result, hreg], by simp only [step, hreg]⟩
      exact Waiters.register_error_iff.1 hreg

/-- A look leaves the table alone. -/
@[simp] theorem table_look (c : Custody) (id : UInt64) : (c.step (.look id)).table = c.table := by
  unfold step
  dsimp only
  split
  · exact Waiters.look_pending id
  · rfl

theorem shuttingDown_drop (c : Custody) (id : UInt64) :
    (c.step (.drop id)).table.shuttingDown = c.table.shuttingDown := by
  unfold step
  dsimp only
  split <;> rfl

-- ============================================================ the table, seen from one id

/-- After a drop no entry stands under its id, whether somebody held one or not. -/
theorem Represents.find?_drop (h : Represents c) (id other : UInt64) :
    (c.step (.drop other)).table.find? id = if other = id then none else c.table.find? id := by
  unfold Custody.step
  dsimp only
  split
  case isTrue =>
    show (c.table.drop other).find? id = _
    rw [Pending.find?_drop]
    simp only [eq_comm]
  case isFalse hnobody =>
    split
    case isFalse => rfl
    case isTrue heq =>
      rw [← h.contains_eq_holds, heq, Pending.contains, Option.not_isSome_iff_eq_none] at hnobody
      exact hnobody

/-- The view of an id goes its own way: what an act makes of it depends on nothing else. -/
theorem Represents.view_act (h : Represents c) (id : UInt64) (act : Act) :
    (c.act act).view id = (c.view id).act id act := by
  cases act with
  | contains other => rfl
  | deed deed =>
      cases deed with
      | takeId | abort | stir other => rfl
      | look other =>
          show (c.step (.look other)).view id = c.view id
          rw [view, table_look]
          rfl
      | deliver other kind =>
          show View.mk (c.waiters.deliver other kind).2.pending.shuttingDown
            ((c.waiters.deliver other kind).2.pending.find? id) = _
          rw [Waiters.deliver_pending, Pending.shuttingDown_deliver, Pending.find?_deliver]
          by_cases heq : other = id
          · subst heq
            simp [View.act, view, table]
          · simp [View.act, view, table, heq, Ne.symm heq]
      | drop other =>
          show View.mk (c.step (.drop other)).table.shuttingDown
            ((c.step (.drop other)).table.find? id) = _
          rw [shuttingDown_drop, h.find?_drop]
          by_cases heq : other = id <;> simp [View.act, view, heq]
      | register message =>
          show (c.step (.register message)).view id = _
          rcases register_cases c message with ⟨next, hnext, -, htable⟩ | ⟨fault, hfault, -, hsame⟩
          · obtain ⟨hup, hfree, -⟩ := Pending.register_ok_iff.1 hnext
            rw [Pending.contains, Option.isSome_eq_false_iff, Option.isNone_iff_eq_none] at hfree
            rw [view, htable, Pending.find?_register hnext, Pending.shuttingDown_register hnext]
            by_cases heq : message.id = id
            · subst heq
              simp [View.act, view, hup, hfree]
            · simp [View.act, view, heq, Ne.symm heq, hup]
          · rw [hsame, View.act, if_neg]
            rintro ⟨rfl, hup, hfree⟩
            -- neither of the two reasons for a refusal is there
            rcases Pending.register_error_iff.1 hfault with ⟨hdown, -⟩ | ⟨-, hin, -⟩
            · exact Bool.noConfusion (hup.symm.trans hdown)
            · rw [Pending.contains, show c.table.find? message.id = none from hfree] at hin
              cases hin

/-- An act about an id is answered from the view of the id. -/
theorem Represents.result_eq (h : Represents c) {id : UInt64} {act : Act}
    (hid : act.concerns id = true) : c.result act = (c.view id).result act := by
  have hid : act.id? = some id := of_decide_eq_true hid
  cases act with
  | contains other =>
      cases hid
      rfl
  | deed deed =>
      cases deed with
      | takeId | abort => cases hid
      | stir other | drop other => rfl
      | look other =>
          cases hid
          simp only [result, View.result, ← h.contains_eq_holds, Waiters.look_fst]
          rfl
      | deliver other kind =>
          cases hid
          simp only [result, View.result, Waiters.deliver_fst, Act.Result.counted.injEq]
          rw [Bool.eq_iff_iff, Pending.deliver_fst_iff, Bool.and_eq_true, Option.any_eq_true]
          refine and_congr_right fun _ => ?_
          constructor
          · rintro ⟨message, hfind⟩
            exact ⟨_, hfind, rfl⟩
          · rintro ⟨⟨message, answer⟩, hfind, hopen⟩
            rw [Option.isNone_iff_eq_none] at hopen
            exact ⟨message, hopen ▸ hfind⟩
      | register message =>
          cases hid
          rcases register_cases c message with ⟨next, hnext, hresult, -⟩ | ⟨fault, hfault, hresult, -⟩
          · obtain ⟨hup, hfree, -⟩ := Pending.register_ok_iff.1 hnext
            rw [Pending.contains] at hfree
            simp [hresult, View.result, view, hup, hfree]
          · rw [hresult]
            rcases Pending.register_error_iff.1 hfault with ⟨hdown, rfl⟩ | ⟨hup, hin, rfl⟩
            · simp [View.result, view, hdown]
            · rw [Pending.contains] at hin
              simp [View.result, view, hup, hin]

theorem Represents.act (h : Represents c) (act : Act) : Represents (c.act act) := by
  cases act with
  | contains id => exact h
  | deed deed => exact h.step deed

/-- What a history answers to the acts about an id, the view of the id answers alone. -/
theorem Represents.results_about (h : Represents c) (id : UInt64) (acts : List Act) :
    (c.results acts).filter (fun told => told.1.concerns id) = (c.view id).results id acts := by
  induction acts generalizing c with
  | nil => rfl
  | cons act rest ih =>
      rw [results, List.filter_cons, ih (h.act act), h.view_act id act, View.results]
      split
      case isTrue hid => rw [h.result_eq hid]
      case isFalse => rfl

theorem Represents.view_foldl (h : Represents c) (id : UInt64) (acts : List Act) :
    (acts.foldl Custody.act c).view id = acts.foldl (View.act id) (c.view id) := by
  induction acts generalizing c with
  | nil => rfl
  | cons act rest ih => rw [List.foldl_cons, ih (h.act act), h.view_act id act, List.foldl_cons]

end Custody

-- ============================================================ histories that agree

namespace View

variable {id : UInt64}

/-- What does not touch an id leaves its view as it is. -/
theorem act_of_not_touches (v : View) {act : Act} (h : act.touches id = false) :
    v.act id act = v := by
  rw [Act.touches, Bool.or_eq_false_iff] at h
  obtain ⟨hother, habort⟩ := h
  have hother : act.id? ≠ some id := of_decide_eq_false hother
  have habort : act ≠ .deed .abort := of_decide_eq_false habort
  cases act with
  | contains other => rfl
  | deed deed =>
      cases deed with
      | abort => exact absurd rfl habort
      | takeId | look other | stir other => rfl
      | register message =>
          have hne : message.id ≠ id := fun heq => hother (congrArg some heq)
          simp [act, hne]
      | deliver other kind | drop other =>
          have hne : other ≠ id := fun heq => hother (congrArg some heq)
          simp [act, hne]

/-- So only the acts that touch the id count. -/
theorem results_touching (v : View) (acts : List Act) :
    v.results id (acts.filter (Act.touches id)) = v.results id acts := by
  induction acts generalizing v with
  | nil => rfl
  | cons act rest ih =>
      cases htouches : act.touches id with
      | true => rw [List.filter_cons_of_pos htouches, results, results, ih]
      | false =>
          have hother : act.concerns id = false := (Bool.or_eq_false_iff.1 htouches).1
          rw [List.filter_cons_of_neg (by simp [htouches]), ih, results, hother,
            act_of_not_touches v htouches]
          rfl

theorem foldl_touching (v : View) (acts : List Act) :
    (acts.filter (Act.touches id)).foldl (act id) v = acts.foldl (act id) v := by
  induction acts generalizing v with
  | nil => rfl
  | cons act rest ih =>
      cases htouches : act.touches id with
      | true => rw [List.filter_cons_of_pos htouches, List.foldl_cons, List.foldl_cons, ih]
      | false =>
          rw [List.filter_cons_of_neg (by simp [htouches]), ih, List.foldl_cons,
            act_of_not_touches v htouches]

end View

/-- Two histories come to the same under an id: the acts about it come back with the same, and its
entry is the same in the end. -/
structure SameUnder (id : UInt64) (first second : List Act) : Prop where
  outcomes : Custody.outcomes id first = Custody.outcomes id second
  entry : (Custody.after first).table.find? id = (Custody.after second).table.find? id

/-- So they do if the same acts touch the id, in the same order. -/
theorem sameUnder_of_touching {id : UInt64} {first second : List Act}
    (h : first.filter (Act.touches id) = second.filter (Act.touches id)) :
    SameUnder id first second := by
  have hview : (Custody.after first).view id = (Custody.after second).view id := by
    calc (Custody.after first).view id
      _ = first.foldl (View.act id) (Custody.start.view id) :=
          Custody.represents_start.view_foldl id first
      _ = second.foldl (View.act id) (Custody.start.view id) := by
          rw [← View.foldl_touching, h, View.foldl_touching]
      _ = (Custody.after second).view id := (Custody.represents_start.view_foldl id second).symm
  refine ⟨?_, congrArg View.slot hview⟩
  calc Custody.outcomes id first
    _ = (Custody.start.view id).results id first := Custody.represents_start.results_about id first
    _ = (Custody.start.view id).results id second := by
        rw [← View.results_touching, h, View.results_touching]
    _ = Custody.outcomes id second := (Custody.represents_start.results_about id second).symm

/-- To leave out what is about other ids leaves all that touches the id. -/
theorem filter_spares_touches (id : UInt64) (acts : List Act) :
    (acts.filter (Act.spares id)).filter (Act.touches id) = acts.filter (Act.touches id) := by
  rw [List.filter_filter]
  refine List.filter_congr fun act _ => ?_
  cases htouches : act.touches id with
  | false => rfl
  | true =>
      rw [Bool.true_and]
      rcases Bool.or_eq_true_iff.1 htouches with hid | habort
      · have hid : act.id? = some id := of_decide_eq_true hid
        simp [Act.spares, hid]
      · rw [of_decide_eq_true habort]
        rfl

/-- For every id, the acts about it and the shutdowns stand in the same order in both histories. -/
def SameOrder (first second : List Act) : Prop :=
  ∀ id, first.filter (Act.touches id) = second.filter (Act.touches id)

/-- Two acts about different ids may change places. -/
theorem sameOrder_swap {first second : UInt64} (hne : first ≠ second) {act other : Act}
    (hact : act.id? = some first) (hother : other.id? = some second) (before after : List Act) :
    SameOrder (before ++ act :: other :: after) (before ++ other :: act :: after) := by
  intro id
  have habort : act ≠ .deed .abort := by
    rintro rfl
    cases hact
  have habort' : other ≠ .deed .abort := by
    rintro rfl
    cases hother
  simp only [List.filter_append, List.filter_cons, Act.touches, Act.concerns, hact, hother, habort,
    habort', decide_false, Bool.or_false, Option.some.injEq, decide_eq_true_eq]
  by_cases heq : first = id
  · have hapart : second ≠ id := fun h => hne (heq.trans h.symm)
    simp [heq, hapart]
  · simp [heq]

-- ============================================================ the result

/-- Whatever is done under other ids, an id does not notice: a history comes to the same under it when
all that is about other ids is left out, and two histories come to the same under every id when they
differ only in how the acts about different ids stand to each other. -/
theorem undisturbed :
    (∀ id acts, SameUnder id (acts.filter (Act.spares id)) acts) ∧
      ∀ first second, SameOrder first second → ∀ id, SameUnder id first second :=
  ⟨fun id acts => sameUnder_of_touching (filter_spares_touches id acts),
    fun _ _ horder id => sameUnder_of_touching (horder id)⟩

namespace TwoReaders

def message (id : UInt64) : Message := ⟨id, .hydrateFile, 7, "reader", "file"⟩

/-- One request is answered and its wait ends; another one is in the way of a third, and is let go. -/
def acts : List Act :=
  [.deed (.register (message 1)), .deed (.register (message 2)), .deed (.deliver 1 .success),
    .deed (.register (message 2)), .deed (.look 1), .contains 2, .deed .abort, .deed (.drop 2)]

def swapped : List Act :=
  [.deed (.register (message 1)), .deed (.deliver 1 .success), .deed (.register (message 2)),
    .deed (.register (message 2)), .deed (.look 1), .contains 2, .deed .abort, .deed (.drop 2)]

/-- The answer may as well come before the other request. -/
theorem undisturbed_swapped :
    SameOrder acts swapped ∧ SameUnder 1 acts swapped ∧
      Custody.outcomes 1 swapped =
        [(.deed (.register (message 1)), .registered), (.deed (.deliver 1 .success), .counted true),
          (.deed (.look 1), .looked (some (.answered .success)))] := by
  have horder : SameOrder acts swapped :=
    sameOrder_swap (by decide : (2 : UInt64) ≠ 1) rfl rfl [.deed (.register (message 1))] _
  exact ⟨horder, undisturbed.2 acts swapped horder 1, by decide⟩

end TwoReaders

end Hydration
