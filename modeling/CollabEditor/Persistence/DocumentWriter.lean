import CollabEditor.Persistence.Store

/-!
Owns `persistence/writer.ts`. A `DocumentWriter` batches the updates a room
records; the promise chain it calls `queue` is the list of batches whose write
has not started, the write in progress, and the count of finished ones.

Does not own time: an armed timer fires, and an append or a compaction settles,
whenever it does. When is `Persistence.Deadlines`' to say.
-/

namespace CollabEditor.Persistence

open CollabEditor.Yjs

universe u v

structure WriterOptions where
  debounceMs : ℕ
  maxBatchBytes : ℕ
  compactAfter : ℕ

/-- Where the `write` in progress stands. -/
inductive Write (Op : Type u) where
  /-- `store.append` was called. -/
  | appending (batch : List (Update Op))
  /-- The append took effect; its promise has not settled. -/
  | appended (batch : List (Update Op))
  /-- `store.compact` was called. -/
  | compacting
  /-- The compaction took effect; its promise has not settled. -/
  | compacted

/-- `DocumentWriter`. -/
structure DocumentWriter (Op : Type u) where
  pending : List (Update Op)
  pendingBytes : ℕ
  /-- The delay the timer was armed with. -/
  timer : Option ℕ
  closed : Bool
  queued : List (List (Update Op))
  writing : Option (Write Op)
  finished : ℕ
  rowsSinceSnapshot : ℕ

/-- What happens to a writer between calls to it. -/
inductive WriterEvent where
  | timerFired
  | startWrite
  | appendStored
  | appendResolved
  | appendRejected
  | compactStored
  | compactResolved
  | compactRejected
deriving DecidableEq

/-- The batch a write has not put in the store yet. -/
def Write.unstored {Op : Type u} : Write Op → List (Update Op)
  | .appending batch => batch
  | _ => []

/-- The batch whose append has not settled. -/
def Write.unsettled {Op : Type u} : Write Op → List (Update Op)
  | .appending batch | .appended batch => batch
  | _ => []

namespace DocumentWriter

variable {Op : Type u}

/-- `new DocumentWriter(documentId, store, options, pendingUpdates)`. -/
def new (rowsSinceSnapshot : ℕ) : DocumentWriter Op :=
  ⟨[], 0, none, false, [], none, 0, rowsSinceSnapshot⟩

/-- The write that the promise `queue` waits for, counted from the first. -/
def ticket (writer : DocumentWriter Op) : ℕ :=
  writer.finished + writer.writing.toList.length + writer.queued.length

/-- `flush`. The promise it returns is `ticket` of the writer it leaves. -/
def flush (writer : DocumentWriter Op) : DocumentWriter Op :=
  match writer.pending with
  | [] => { writer with timer := none }
  | batch => { writer with
      timer := none
      pending := []
      pendingBytes := 0
      queued := writer.queued ++ [batch] }

/-- `schedule`. -/
def schedule (options : WriterOptions) (writer : DocumentWriter Op) : DocumentWriter Op :=
  if writer.timer.isSome ∨ writer.closed = true then writer
  else { writer with timer := some options.debounceMs }

/-- `record`. -/
def record (options : WriterOptions) (byteLength : Update Op → ℕ)
    (writer : DocumentWriter Op) (update : Update Op) : DocumentWriter Op :=
  let recorded := { writer with
    pending := writer.pending ++ [update]
    pendingBytes := writer.pendingBytes + byteLength update }
  if options.maxBatchBytes ≤ recorded.pendingBytes then recorded.flush
  else recorded.schedule options

/-- `close`, whose promise is the `ticket` of the writer it leaves. -/
def close (writer : DocumentWriter Op) : DocumentWriter Op :=
  { writer with closed := true }.flush

/-- The promise a `close` returned has resolved. -/
def Resolved (writer : DocumentWriter Op) (ticket : ℕ) : Prop := ticket ≤ writer.finished

instance (writer : DocumentWriter Op) (ticket : ℕ) : Decidable (writer.Resolved ticket) :=
  inferInstanceAs (Decidable (_ ≤ _))

def finish (writer : DocumentWriter Op) : DocumentWriter Op :=
  { writer with writing := none, finished := writer.finished + 1 }

/-- The updates not in the store yet. -/
def unstored (writer : DocumentWriter Op) : List (Update Op) :=
  writer.writing.toList.flatMap Write.unstored ++ writer.queued.flatten ++ writer.pending

/-- The updates whose append has not settled. -/
def unsettled (writer : DocumentWriter Op) : List (Update Op) :=
  writer.writing.toList.flatMap Write.unsettled ++ writer.queued.flatten ++ writer.pending

/-- The batch whose append an event settles. -/
def settles (writer : DocumentWriter Op) (event : WriterEvent) : List (Update Op) :=
  match event, writer.writing with
  | .appendResolved, some (.appended batch) => batch
  | _, _ => []

variable {Entry : Type v} [DecidableEq Op]

/-- One event of a writer, with the document's entry in the store. A rejected
operation had no effect. -/
def step (store : DocumentStore Op Entry) (options : WriterOptions)
    (byteLength : Update Op → ℕ) (writer : DocumentWriter Op) (entry : Entry) :
    WriterEvent → Option (DocumentWriter Op × Entry)
  | .timerFired =>
      if writer.timer.isSome then some ({ writer with timer := none }.flush, entry) else none
  | .startWrite =>
      match writer.writing, writer.queued with
      | none, batch :: rest =>
          some ({ writer with writing := some (.appending batch), queued := rest }, entry)
      | _, _ => none
  | .appendStored =>
      match writer.writing with
      | some (.appending batch) => some ({ writer with writing := some (.appended batch) },
          store.append entry (mergeParts batch))
      | _ => none
  | .appendResolved =>
      match writer.writing with
      | some (.appended _) =>
          let counted := { writer with rowsSinceSnapshot := writer.rowsSinceSnapshot + 1 }
          if counted.rowsSinceSnapshot < options.compactAfter then some (counted.finish, entry)
          else some ({ counted with writing := some .compacting }, entry)
      | _ => none
  | .appendRejected =>
      match writer.writing with
      | some (.appending batch) =>
          if writer.closed then some (writer.finish, entry)
          else some (({ writer with
            pending := writer.pending ++ [mergeParts batch]
            pendingBytes := writer.pendingBytes + byteLength (mergeParts batch) }.schedule
              options).finish, entry)
      | _ => none
  | .compactStored =>
      match writer.writing with
      | some .compacting =>
          some ({ writer with writing := some .compacted }, (store.compact entry).1)
      | _ => none
  | .compactResolved =>
      match writer.writing with
      | some .compacted => some ({ writer with rowsSinceSnapshot := 0 }.finish, entry)
      | _ => none
  | .compactRejected =>
      match writer.writing with
      | some .compacting => some (writer.finish, entry)
      | _ => none

/-- What an event does: one constructor for each branch of `step`. -/
inductive Fires (store : DocumentStore Op Entry) (options : WriterOptions)
    (byteLength : Update Op → ℕ) (writer : DocumentWriter Op) (entry : Entry) :
    WriterEvent → DocumentWriter Op → Entry → Prop where
  | timerFired (armed : writer.timer.isSome) : Fires store options byteLength writer entry
      .timerFired { writer with timer := none }.flush entry
  | startWrite (batch : List (Update Op)) (rest : List (List (Update Op)))
      (idle : writer.writing = none) (next : writer.queued = batch :: rest) :
      Fires store options byteLength writer entry .startWrite
        { writer with writing := some (.appending batch), queued := rest } entry
  | appendStored (batch : List (Update Op)) (writing : writer.writing = some (.appending batch)) :
      Fires store options byteLength writer entry .appendStored
        { writer with writing := some (.appended batch) } (store.append entry (mergeParts batch))
  | appendResolved (batch : List (Update Op)) (writing : writer.writing = some (.appended batch))
      (few : writer.rowsSinceSnapshot + 1 < options.compactAfter) :
      Fires store options byteLength writer entry .appendResolved
        { writer with rowsSinceSnapshot := writer.rowsSinceSnapshot + 1 }.finish entry
  | compactCalled (batch : List (Update Op)) (writing : writer.writing = some (.appended batch))
      (many : ¬ writer.rowsSinceSnapshot + 1 < options.compactAfter) :
      Fires store options byteLength writer entry .appendResolved
        { writer with
          rowsSinceSnapshot := writer.rowsSinceSnapshot + 1
          writing := some .compacting } entry
  | dropped (batch : List (Update Op)) (writing : writer.writing = some (.appending batch))
      (closed : writer.closed = true) :
      Fires store options byteLength writer entry .appendRejected writer.finish entry
  | retried (batch : List (Update Op)) (writing : writer.writing = some (.appending batch))
      (isOpen : writer.closed = false) :
      Fires store options byteLength writer entry .appendRejected
        ({ writer with
          pending := writer.pending ++ [mergeParts batch]
          pendingBytes := writer.pendingBytes + byteLength (mergeParts batch) }.schedule
            options).finish entry
  | compactStored (writing : writer.writing = some .compacting) :
      Fires store options byteLength writer entry .compactStored
        { writer with writing := some .compacted } (store.compact entry).1
  | compactResolved (writing : writer.writing = some .compacted) :
      Fires store options byteLength writer entry .compactResolved
        { writer with rowsSinceSnapshot := 0 }.finish entry
  | compactRejected (writing : writer.writing = some .compacting) :
      Fires store options byteLength writer entry .compactRejected writer.finish entry

theorem fires_of_step {store : DocumentStore Op Entry} {options : WriterOptions}
    {byteLength : Update Op → ℕ} {writer writer' : DocumentWriter Op} {entry entry' : Entry}
    {event : WriterEvent}
    (stepped : writer.step store options byteLength entry event = some (writer', entry')) :
    Fires store options byteLength writer entry event writer' entry' := by
  cases event with
  | timerFired =>
      simp only [step] at stepped
      split at stepped
      · next armed =>
          cases stepped
          exact .timerFired armed
      · cases stepped
  | startWrite =>
      simp only [step] at stepped
      split at stepped
      · next batch rest idle next =>
          cases stepped
          exact .startWrite batch rest idle next
      · cases stepped
  | appendStored =>
      simp only [step] at stepped
      split at stepped
      · next batch writing =>
          cases stepped
          exact .appendStored batch writing
      · cases stepped
  | appendResolved =>
      simp only [step] at stepped
      split at stepped
      · next batch writing =>
          split at stepped
          · next few =>
              cases stepped
              exact .appendResolved batch writing few
          · next many =>
              cases stepped
              exact .compactCalled batch writing many
      · cases stepped
  | appendRejected =>
      simp only [step] at stepped
      split at stepped
      · next batch writing =>
          split at stepped
          · next closed =>
              cases stepped
              exact .dropped batch writing closed
          · next notClosed =>
              cases stepped
              exact .retried batch writing (by simpa using notClosed)
      · cases stepped
  | compactStored =>
      simp only [step] at stepped
      split at stepped
      · next writing =>
          cases stepped
          exact .compactStored writing
      · cases stepped
  | compactResolved =>
      simp only [step] at stepped
      split at stepped
      · next writing =>
          cases stepped
          exact .compactResolved writing
      · cases stepped
  | compactRejected =>
      simp only [step] at stepped
      split at stepped
      · next writing =>
          cases stepped
          exact .compactRejected writing
      · cases stepped

/-! ### Where the recorded updates are -/

variable {writer : DocumentWriter Op}

section

omit [DecidableEq Op]

@[simp] theorem flush_pending : writer.flush.pending = [] := by
  unfold flush
  split
  · assumption
  · rfl

@[simp] theorem flush_unstored : writer.flush.unstored = writer.unstored := by
  unfold flush
  split
  · rfl
  · simp [unstored]

@[simp] theorem flush_unsettled : writer.flush.unsettled = writer.unsettled := by
  unfold flush
  split
  · rfl
  · simp [unsettled]

@[simp] theorem schedule_unstored (options : WriterOptions) :
    (writer.schedule options).unstored = writer.unstored := by
  unfold schedule
  split <;> rfl

@[simp] theorem schedule_unsettled (options : WriterOptions) :
    (writer.schedule options).unsettled = writer.unsettled := by
  unfold schedule
  split <;> rfl

/-- A recorded update is the last of those waiting. -/
@[simp] theorem record_unstored (options : WriterOptions) (byteLength : Update Op → ℕ)
    (update : Update Op) :
    (writer.record options byteLength update).unstored = writer.unstored ++ [update] := by
  unfold record
  dsimp only
  split
  · rw [flush_unstored]
    simp [unstored]
  · rw [schedule_unstored]
    simp [unstored]

@[simp] theorem record_unsettled (options : WriterOptions) (byteLength : Update Op → ℕ)
    (update : Update Op) :
    (writer.record options byteLength update).unsettled = writer.unsettled ++ [update] := by
  unfold record
  dsimp only
  split
  · rw [flush_unsettled]
    simp [unsettled]
  · rw [schedule_unsettled]
    simp [unsettled]

@[simp] theorem close_unstored : writer.close.unstored = writer.unstored :=
  flush_unstored

@[simp] theorem close_unsettled : writer.close.unsettled = writer.unsettled :=
  flush_unsettled

@[simp] theorem flush_closed : writer.flush.closed = writer.closed := by
  unfold flush
  split <;> rfl

@[simp] theorem schedule_closed (options : WriterOptions) :
    (writer.schedule options).closed = writer.closed := by
  unfold schedule
  split <;> rfl

@[simp] theorem record_closed (options : WriterOptions) (byteLength : Update Op → ℕ)
    (update : Update Op) : (writer.record options byteLength update).closed = writer.closed := by
  unfold record
  dsimp only
  split
  · rw [flush_closed]
  · rw [schedule_closed]

end

/-- Only `close` closes a writer. -/
theorem step_closed {store : DocumentStore Op Entry} {options : WriterOptions}
    {byteLength : Update Op → ℕ} {writer' : DocumentWriter Op} {entry entry' : Entry}
    {event : WriterEvent}
    (stepped : writer.step store options byteLength entry event = some (writer', entry')) :
    writer'.closed = writer.closed := by
  cases fires_of_step stepped with
  | timerFired armed => rw [flush_closed]
  | retried batch writing isOpen =>
      show (schedule options _).closed = _
      rw [schedule_closed]
  | _ => rfl

/-- Unless an append is rejected, what leaves the unstored updates is what the
store gains. -/
theorem step_unstored {store : DocumentStore Op Entry} {options : WriterOptions}
    {byteLength : Update Op → ℕ} {writer' : DocumentWriter Op} {entry entry' : Entry}
    {event : WriterEvent} (succeeds : event ≠ .appendRejected)
    (stepped : writer.step store options byteLength entry event = some (writer', entry')) :
    (∃ batch, writer.unstored = batch ++ writer'.unstored ∧
      (store.load entry').content = (store.load entry).content ∪ mergeUpdates batch) := by
  have kept : ∀ {writer' : DocumentWriter Op} {entry' : Entry},
      writer'.unstored = writer.unstored →
      (store.load entry').content = (store.load entry).content →
      ∃ batch, writer.unstored = batch ++ writer'.unstored ∧
        (store.load entry').content = (store.load entry).content ∪ mergeUpdates batch :=
    fun same content => ⟨[], by simp [same], by simp [content]⟩
  cases fires_of_step stepped with
  | timerFired armed => exact kept flush_unstored rfl
  | startWrite batch rest idle next =>
      exact kept (by simp [unstored, idle, next, Write.unstored]) rfl
  | appendStored batch writing =>
      refine ⟨batch, by simp [unstored, writing, Write.unstored], ?_⟩
      rw [store.content_append, mergeParts_eq]
  | appendResolved batch writing few =>
      exact kept (by simp [unstored, finish, writing, Write.unstored]) rfl
  | compactCalled batch writing many =>
      exact kept (by simp [unstored, writing, Write.unstored]) rfl
  | dropped batch writing closed => exact absurd rfl succeeds
  | retried batch writing isOpen => exact absurd rfl succeeds
  | compactStored writing =>
      exact kept (by simp [unstored, writing, Write.unstored]) (store.content_compact entry)
  | compactResolved writing =>
      exact kept (by simp [unstored, finish, writing, Write.unstored]) rfl
  | compactRejected writing =>
      exact kept (by simp [unstored, finish, writing, Write.unstored]) rfl

/-! ### When the promise of a flush resolves -/

/-- Unless an append is rejected, an update is unsettled until its append is. -/
theorem step_unsettled {store : DocumentStore Op Entry} {options : WriterOptions}
    {byteLength : Update Op → ℕ} {writer' : DocumentWriter Op} {entry entry' : Entry}
    {event : WriterEvent} (succeeds : event ≠ .appendRejected)
    (stepped : writer.step store options byteLength entry event = some (writer', entry')) :
    writer.unsettled = writer.settles event ++ writer'.unsettled := by
  cases fires_of_step stepped with
  | timerFired armed =>
      rw [flush_unsettled]
      rfl
  | appendResolved batch writing few =>
      have settled : writer.settles .appendResolved = batch := by simp [settles, writing]
      rw [settled]
      simp [unsettled, finish, writing, Write.unsettled]
  | compactCalled batch writing many =>
      have settled : writer.settles .appendResolved = batch := by simp [settles, writing]
      rw [settled]
      simp [unsettled, writing, Write.unsettled]
  | dropped batch writing closed => exact absurd rfl succeeds
  | retried batch writing isOpen => exact absurd rfl succeeds
  | startWrite batch rest idle next => simp [unsettled, settles, Write.unsettled, idle, next]
  | appendStored batch writing => simp [unsettled, settles, Write.unsettled, writing]
  | compactStored writing => simp [unsettled, settles, Write.unsettled, writing]
  | compactResolved writing => simp [unsettled, finish, settles, Write.unsettled, writing]
  | compactRejected writing => simp [unsettled, finish, settles, Write.unsettled, writing]

omit [DecidableEq Op] in
theorem flush_of_empty (empty : writer.pending = []) :
    writer.flush = { writer with timer := none } := by
  unfold flush
  rw [empty]

/-- With nothing pending, the writes a flush waits for stay the same: an append
that is rejected brings nothing back once the writer is closed. -/
theorem step_ticket {store : DocumentStore Op Entry} {options : WriterOptions}
    {byteLength : Update Op → ℕ} {writer' : DocumentWriter Op} {entry entry' : Entry}
    {event : WriterEvent} (succeeds : event ≠ .appendRejected ∨ writer.closed = true)
    (stepped : writer.step store options byteLength entry event = some (writer', entry'))
    (empty : writer.pending = []) : writer'.pending = [] ∧ writer'.ticket = writer.ticket := by
  cases fires_of_step stepped with
  | timerFired armed =>
      rw [flush_of_empty]
      · exact ⟨empty, rfl⟩
      · exact empty
  | startWrite batch rest idle next =>
      refine ⟨empty, ?_⟩
      simp only [ticket, idle, next, Option.toList_some, Option.toList_none, List.length_cons,
        List.length_nil]
      omega
  | appendStored batch writing => exact ⟨empty, by simp [ticket, writing]⟩
  | appendResolved batch writing few => exact ⟨empty, by simp [ticket, finish, writing]⟩
  | compactCalled batch writing many => exact ⟨empty, by simp [ticket, writing]⟩
  | dropped batch writing closed => exact ⟨empty, by simp [ticket, finish, writing]⟩
  | retried batch writing isOpen =>
      rcases succeeds with notRejected | closed
      · exact absurd rfl notRejected
      · exact absurd (isOpen.symm.trans closed) (by decide)
  | compactStored writing => exact ⟨empty, by simp [ticket, writing]⟩
  | compactResolved writing => exact ⟨empty, by simp [ticket, finish, writing]⟩
  | compactRejected writing => exact ⟨empty, by simp [ticket, finish, writing]⟩

omit [DecidableEq Op] in
/-- Once all writes have finished none is queued or in progress. -/
theorem idle_of_resolved (resolved : writer.Resolved writer.ticket) :
    writer.writing = none ∧ writer.queued = [] := by
  unfold Resolved ticket at resolved
  constructor
  · cases writing : writer.writing with
    | none => rfl
    | some write =>
        rw [writing] at resolved
        simp only [Option.toList_some, List.length_singleton] at resolved
        omega
  · rw [← List.length_eq_zero_iff]
    omega

omit [DecidableEq Op] in
theorem unsettled_eq_nil (empty : writer.pending = [])
    (resolved : writer.Resolved writer.ticket) : writer.unsettled = [] := by
  obtain ⟨noWrite, noQueue⟩ := idle_of_resolved resolved
  simp [unsettled, noWrite, noQueue, empty]

end DocumentWriter

end CollabEditor.Persistence
