/-
The laws of the table of requests in flight: what each change does to the entry found under an id,
and to the messages as a whole.

# Two views

- `find?` is the table as a map from ids to entries. Every law of a change is an equation about it,
  and says for all ids at once what the change leaves alone.
- `outstanding` is the table as a collection of messages. It is needed where requests are counted:
  a registration adds one message up to order, letting go takes the messages with the id away, and
  nothing else touches the collection.

# The answer

An answer that comes in writes the open slot and no other. `Entry.hear` says this in one equation:
the answer of the entry is the one it had, or else the outcome that came in, if one did.
-/
import Hydration.Pending.Table

namespace Hydration

/-- The entry after an outcome has come in for it, if one has: the first one stays. -/
def Entry.hear (outcome? : Option Outcome) (entry : Entry) : Entry :=
  { entry with answer := entry.answer.or outcome? }

@[simp] theorem Entry.hear_message (outcome? : Option Outcome) (entry : Entry) :
    (entry.hear outcome?).message = entry.message := rfl

@[simp] theorem Entry.hear_none (entry : Entry) : entry.hear none = entry := by
  obtain ⟨message, answer⟩ := entry
  simp [hear]

/-- An entry that hears two outcomes hears the first of them. -/
theorem Entry.hear_hear (entry : Entry) (first? later? : Option Outcome) :
    (entry.hear first?).hear later? = entry.hear (first?.or later?) := by
  unfold hear
  rw [Option.or_assoc]

@[simp] theorem Entry.map_hear_none (found : Option Entry) :
    found.map (Entry.hear none) = found := by
  cases found with
  | none => rfl
  | some entry => rw [Option.map_some, hear_none]

namespace Pending

variable {pending : Pending}

-- ============================================================ the order of the entries

/-- The entries stand in the strict order of their ids. -/
def Ordered (pending : Pending) : Prop := pending.entries.Pairwise (·.id < ·.id)

theorem insertEntry_perm (new : Entry) (entries : List Entry) :
    (insertEntry new entries).Perm (new :: entries) := by
  induction entries with
  | nil => exact List.Perm.refl _
  | cons first rest ih =>
      unfold insertEntry
      split
      · exact List.Perm.refl _
      · exact (ih.cons first).trans (List.Perm.swap new first rest)

theorem mem_insertEntry {new entry : Entry} {entries : List Entry} :
    entry ∈ insertEntry new entries ↔ entry = new ∨ entry ∈ entries := by
  rw [(insertEntry_perm new entries).mem_iff, List.mem_cons]

/-- An entry with an id of its own is put where the order stays strict. -/
theorem pairwise_insertEntry {new : Entry} {entries : List Entry}
    (h : entries.Pairwise (·.id < ·.id)) (fresh : ∀ entry ∈ entries, entry.id ≠ new.id) :
    (insertEntry new entries).Pairwise (·.id < ·.id) := by
  induction entries with
  | nil => exact List.pairwise_singleton _ _
  | cons first rest ih =>
      obtain ⟨hfirst, hrest⟩ := List.pairwise_cons.1 h
      unfold insertEntry
      split
      case isTrue hlt =>
        refine List.pairwise_cons.2 ⟨fun entry hentry => ?_, h⟩
        rcases List.mem_cons.1 hentry with rfl | hentry
        · exact hlt
        · exact UInt64.lt_trans hlt (hfirst entry hentry)
      case isFalse hge =>
        have hlt : first.id < new.id :=
          UInt64.lt_of_le_of_ne (UInt64.not_lt.1 hge) (fresh first (List.mem_cons_self ..))
        refine List.pairwise_cons.2 ⟨fun entry hentry => ?_, ?_⟩
        · rcases mem_insertEntry.1 hentry with rfl | hentry
          · exact hlt
          · exact hfirst entry hentry
        · exact ih hrest fun entry hentry => fresh entry (List.mem_cons_of_mem _ hentry)

-- ============================================================ looking

/-- An entry that is found bears the id it was looked up under. -/
theorem id_of_find? {id : UInt64} {entry : Entry} (h : pending.find? id = some entry) :
    entry.id = id := by
  simpa using List.find?_some h

theorem contains_iff {id : UInt64} :
    pending.contains id = true ↔ ∃ message ∈ pending.outstanding, message.id = id := by
  unfold contains find? outstanding
  rw [List.find?_isSome]
  constructor
  · rintro ⟨entry, hentry, hid⟩
    exact ⟨entry.message, List.mem_map_of_mem hentry, of_decide_eq_true hid⟩
  · rintro ⟨message, hmessage, hid⟩
    obtain ⟨entry, hentry, rfl⟩ := List.mem_map.1 hmessage
    exact ⟨entry, hentry, decide_eq_true hid⟩

theorem contains_eq_false_iff {id : UInt64} :
    pending.contains id = false ↔ ∀ message ∈ pending.outstanding, message.id ≠ id := by
  rw [← Bool.not_eq_true, contains_iff]
  simp only [not_exists, not_and, ne_eq]

@[simp] theorem size_eq_length_outstanding : pending.size = pending.outstanding.length := by
  simp [size, outstanding]

@[simp] theorem isEmpty_iff : pending.isEmpty = true ↔ pending.outstanding = [] := by
  simp [isEmpty, outstanding]

/-- A table is ordered when its messages stand in the strict order of their ids. -/
theorem ordered_iff_outstanding :
    pending.Ordered ↔ pending.outstanding.Pairwise (·.id < ·.id) := by
  rw [outstanding, List.pairwise_map]
  rfl

/-- In an ordered table no two messages share an id. -/
theorem Ordered.nodup (h : pending.Ordered) : (pending.outstanding.map Message.id).Nodup := by
  refine List.pairwise_map.2 ((ordered_iff_outstanding.1 h).imp fun hlt => ?_)
  exact UInt64.ne_of_lt hlt

-- ============================================================ the changes, entry by entry

theorem find?_insertEntry {new : Entry} {entries : List Entry} {id : UInt64}
    (fresh : ∀ entry ∈ entries, entry.id ≠ new.id) :
    (insertEntry new entries).find? (·.id = id) =
      if id = new.id then some new else entries.find? (·.id = id) := by
  induction entries with
  | nil => by_cases h : id = new.id <;> simp [insertEntry, h, eq_comm]
  | cons first rest ih =>
      have hfirst := fresh first (List.mem_cons_self ..)
      have hrest := ih fun entry hentry => fresh entry (List.mem_cons_of_mem _ hentry)
      unfold insertEntry
      split
      · by_cases h : id = new.id
        · subst h
          simp
        · simp [h, Ne.symm h]
      · by_cases h : first.id = id
        · subst h
          simp [hfirst]
        · rw [List.find?_cons_of_neg (by simpa using h), hrest,
            List.find?_cons_of_neg (by simpa using h)]

/-- A registration fails only for its two reasons, and then nothing has changed. -/
theorem register_error_iff {message : Message} {fault : RegisterFault} :
    pending.register message = .error fault ↔
      (pending.shuttingDown = true ∧ fault = .shuttingDown message.id) ∨
      (pending.shuttingDown = false ∧ pending.contains message.id = true ∧
        fault = .duplicate message.id) := by
  unfold register
  cases hdown : pending.shuttingDown <;> cases hhas : pending.contains message.id <;>
    simp [eq_comm]

/-- A registration succeeds exactly when no shutdown has begun and the id is free. -/
theorem register_ok_iff {message : Message} {next : Pending} :
    pending.register message = .ok next ↔
      pending.shuttingDown = false ∧ pending.contains message.id = false ∧
        next = { pending with entries := insertEntry ⟨message, none⟩ pending.entries } := by
  unfold register
  cases hdown : pending.shuttingDown <;> cases hhas : pending.contains message.id <;>
    simp [eq_comm]

/-- A free id is the id of no entry. -/
theorem fresh_of_contains {id : UInt64} (h : pending.contains id = false) :
    ∀ entry ∈ pending.entries, entry.id ≠ id := by
  intro entry hentry
  exact contains_eq_false_iff.1 h entry.message (List.mem_map_of_mem hentry)

/-- A registration opens a slot for its own id. -/
theorem find?_register {message : Message} {next : Pending}
    (h : pending.register message = .ok next) (id : UInt64) :
    next.find? id = if id = message.id then some ⟨message, none⟩ else pending.find? id := by
  obtain ⟨-, hfree, rfl⟩ := register_ok_iff.1 h
  show (insertEntry ⟨message, none⟩ pending.entries).find? (·.id = id) = _
  rw [find?_insertEntry (fresh_of_contains hfree)]
  rfl

/-- Whether a delivery counts: it has an outcome, and it finds an open slot. -/
theorem deliver_fst_iff {id : UInt64} {kind : MessageKind} :
    (pending.deliver id kind).1 = true ↔
      kind.outcome?.isSome = true ∧ ∃ message, pending.find? id = some ⟨message, none⟩ := by
  unfold deliver
  split
  case h_1 outcome message hkind hfind => simp [hkind, hfind]
  case h_2 hnot =>
    simp only [Bool.false_eq_true, false_iff, not_and, not_exists]
    intro hsome message hfind
    obtain ⟨outcome, hkind⟩ := Option.isSome_iff_exists.1 hsome
    exact hnot outcome message hkind hfind

/-- A delivery that finds no open slot changes nothing. -/
theorem deliver_of_not_open {id : UInt64} {kind : MessageKind}
    (h : ∀ message, pending.find? id ≠ some ⟨message, none⟩) :
    pending.deliver id kind = (false, pending) := by
  unfold deliver
  split
  case h_1 outcome message _ hfind => exact absurd hfind (h message)
  case h_2 => rfl

theorem find?_map_writeAnswer (id other : UInt64) (outcome : Outcome) (entries : List Entry) :
    (entries.map (writeAnswer id outcome)).find? (·.id = other) =
      (entries.find? (·.id = other)).map (writeAnswer id outcome) := by
  rw [List.find?_map]
  congr 2
  funext entry
  simp only [Function.comp, writeAnswer]
  split <;> rfl

/-- A delivery writes the slot of its own id, if that is open. -/
theorem find?_deliver (id : UInt64) (kind : MessageKind) (other : UInt64) :
    (pending.deliver id kind).2.find? other =
      if other = id then (pending.find? id).map (Entry.hear kind.outcome?) else pending.find? other := by
  unfold deliver
  split
  case h_1 outcome message hkind hfind =>
    show (pending.entries.map (writeAnswer id outcome)).find? (·.id = other) = _
    rw [find?_map_writeAnswer]
    split
    case isTrue heq =>
      subst heq
      have hid : message.id = other := id_of_find? hfind
      rw [show pending.entries.find? (·.id = other) = some ⟨message, none⟩ from hfind, hfind]
      simp [writeAnswer, Entry.hear, Entry.id, hid, hkind]
    case isFalse hne =>
      show (pending.find? other).map _ = _
      cases hother : pending.find? other with
      | none => rfl
      | some entry =>
          have hid : entry.id ≠ id := by rw [id_of_find? hother]; exact hne
          simp [writeAnswer, hid]
  case h_2 hnot =>
    split
    case isFalse => rfl
    case isTrue heq =>
      subst heq
      cases hfind : pending.find? other with
      | none => rfl
      | some entry =>
          obtain ⟨message, answer⟩ := entry
          cases answer with
          | some outcome => rfl
          | none =>
              cases hkind : kind.outcome? with
              | none => rw [Option.map_some, Entry.hear_none]
              | some outcome => exact absurd hfind (hnot outcome message hkind)

/-- Letting a request go takes its entry away. -/
theorem find?_drop (id other : UInt64) :
    (pending.drop id).find? other = if other = id then none else pending.find? other := by
  unfold find? drop
  rw [List.find?_filter]
  split
  case isTrue heq =>
    subst heq
    rw [List.find?_eq_none]
    intro entry _
    by_cases h : entry.id = other <;> simp [h]
  case isFalse hne =>
    congr 1
    funext entry
    by_cases h : entry.id = other <;> simp [h, hne]

@[simp] theorem find?_takeId (id : UInt64) : pending.takeId.2.find? id = pending.find? id := rfl

@[simp] theorem find?_abort (id : UInt64) : pending.abort.2.find? id = pending.find? id := rfl

-- ============================================================ one request apart

theorem filter_insertEntry {new : Entry} {entries : List Entry}
    (fresh : ∀ entry ∈ entries, entry.id ≠ new.id) :
    (insertEntry new entries).filter (·.id != new.id) = entries := by
  induction entries with
  | nil => simp [insertEntry]
  | cons first rest ih =>
      have hfirst := fresh first (List.mem_cons_self ..)
      have hrest : ∀ entry ∈ rest, entry.id ≠ new.id := fun entry hentry =>
        fresh entry (List.mem_cons_of_mem _ hentry)
      unfold insertEntry
      split
      · rw [List.filter_cons_of_neg (by simp)]
        exact List.filter_eq_self.2 fun entry hentry => by simpa using fresh entry hentry
      · rw [List.filter_cons_of_pos (by simpa using hfirst), ih hrest]

/-- A request that is let go leaves the table as it was before its registration. -/
theorem drop_register {message : Message} {next : Pending}
    (h : pending.register message = .ok next) : next.drop message.id = pending := by
  obtain ⟨-, hfree, rfl⟩ := register_ok_iff.1 h
  have hfresh : ∀ entry ∈ pending.entries, entry.id ≠ (Entry.mk message none).id :=
    fresh_of_contains hfree
  unfold drop
  congr 1
  exact filter_insertEntry hfresh

theorem filter_map_writeAnswer (id other : UInt64) (outcome : Outcome) (entries : List Entry) :
    (entries.map (writeAnswer other outcome)).filter (·.id != id) =
      (entries.filter (·.id != id)).map (writeAnswer other outcome) := by
  rw [List.filter_map]
  congr 2
  funext entry
  simp only [Function.comp, writeAnswer]
  split <;> rfl

/-- An answer to a request that is let go is lost with it, and any other answer comes in as well without
that request. -/
theorem drop_deliver (pending : Pending) (id other : UInt64) (kind : MessageKind) :
    (pending.deliver other kind).2.drop id = ((pending.drop id).deliver other kind).2 := by
  by_cases heq : other = id
  · subst heq
    have hgone : (pending.drop other).deliver other kind = (false, pending.drop other) := by
      apply deliver_of_not_open
      rw [find?_drop, if_pos rfl]
      nofun
    rw [hgone]
    unfold deliver
    split
    case h_2 => rfl
    case h_1 outcome message _ _ =>
      unfold drop
      congr 1
      rw [filter_map_writeAnswer]
      refine (List.map_congr_left fun entry hentry => ?_).trans (List.map_id _)
      have hne : entry.id ≠ other := by simpa using (List.mem_filter.1 hentry).2
      exact if_neg hne
  · have hkept : (pending.drop id).find? other = pending.find? other := by
      rw [find?_drop, if_neg heq]
    unfold deliver
    rw [hkept]
    split
    · unfold drop
      congr 1
      exact filter_map_writeAnswer id other _ pending.entries
    · rfl

-- ============================================================ the changes, message by message

theorem outstanding_register {message : Message} {next : Pending}
    (h : pending.register message = .ok next) :
    next.outstanding.Perm (message :: pending.outstanding) := by
  obtain ⟨-, -, rfl⟩ := register_ok_iff.1 h
  exact (insertEntry_perm ⟨message, none⟩ pending.entries).map Entry.message

@[simp] theorem outstanding_deliver (id : UInt64) (kind : MessageKind) :
    (pending.deliver id kind).2.outstanding = pending.outstanding := by
  unfold deliver
  split
  case h_2 => rfl
  case h_1 outcome message _ _ =>
    show (pending.entries.map (writeAnswer id outcome)).map Entry.message = _
    rw [List.map_map]
    refine List.map_congr_left fun entry _ => ?_
    simp only [Function.comp, writeAnswer]
    split <;> rfl

theorem outstanding_drop (id : UInt64) :
    (pending.drop id).outstanding = pending.outstanding.filter (·.id != id) := by
  unfold outstanding drop
  rw [List.filter_map]
  rfl

@[simp] theorem outstanding_takeId : pending.takeId.2.outstanding = pending.outstanding := rfl

@[simp] theorem outstanding_abort : pending.abort.2.outstanding = pending.outstanding := rfl

-- ============================================================ the order is kept

theorem ordered_start : start.Ordered := List.Pairwise.nil

theorem Ordered.register {message : Message} {next : Pending} (h : pending.Ordered)
    (hnext : pending.register message = .ok next) : next.Ordered := by
  obtain ⟨-, hfree, rfl⟩ := register_ok_iff.1 hnext
  show (insertEntry ⟨message, none⟩ pending.entries).Pairwise (·.id < ·.id)
  exact pairwise_insertEntry h (fresh_of_contains hfree)

theorem Ordered.deliver (h : pending.Ordered) (id : UInt64) (kind : MessageKind) :
    (pending.deliver id kind).2.Ordered := by
  rw [ordered_iff_outstanding, outstanding_deliver]
  exact ordered_iff_outstanding.1 h

theorem Ordered.drop (h : pending.Ordered) (id : UInt64) : (pending.drop id).Ordered :=
  List.Pairwise.filter _ h

-- ============================================================ the flag and the ids

@[simp] theorem shuttingDown_deliver (id : UInt64) (kind : MessageKind) :
    (pending.deliver id kind).2.shuttingDown = pending.shuttingDown := by
  unfold deliver
  split <;> rfl

@[simp] theorem shuttingDown_drop (id : UInt64) :
    (pending.drop id).shuttingDown = pending.shuttingDown := rfl

@[simp] theorem shuttingDown_takeId : pending.takeId.2.shuttingDown = pending.shuttingDown := rfl

@[simp] theorem shuttingDown_abort : pending.abort.2.shuttingDown = true := rfl

theorem shuttingDown_register {message : Message} {next : Pending}
    (h : pending.register message = .ok next) : next.shuttingDown = false := by
  obtain ⟨hup, -, rfl⟩ := register_ok_iff.1 h
  exact hup

@[simp] theorem nextId_deliver (id : UInt64) (kind : MessageKind) :
    (pending.deliver id kind).2.nextId = pending.nextId := by
  unfold deliver
  split <;> rfl

theorem nextId_register {message : Message} {next : Pending}
    (h : pending.register message = .ok next) : next.nextId = pending.nextId := by
  obtain ⟨-, -, rfl⟩ := register_ok_iff.1 h
  rfl

-- ============================================================ what a wait comes back with

/-- A wait is over exactly when a shutdown has begun or the entry has its answer. -/
theorem outcome?_of_find? {id : UInt64} {message : Message} {answer : Option Outcome}
    (h : pending.find? id = some ⟨message, answer⟩) :
    pending.outcome? id =
      if pending.shuttingDown then some .shutDown else answer.map .answered := by
  unfold outcome?
  rw [h]
  rfl

end Pending

end Hydration
