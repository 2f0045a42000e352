import CollabEditor.Persistence.Conservation

/-!
Owns the compaction counter of a `DocumentWriter`: over every run with failing
appends and compactions it is the length of the document's log.
-/

set_option autoImplicit false

namespace CollabEditor.Persistence

open CollabEditor.Library CollabEditor.Yjs

universe u v

variable {Op : Type u} {Entry : Type v}

namespace DocumentWriter

/-- A call of the room or an event of the writer, in any order. -/
def handle [DecidableEq Op] (store : DocumentStore Op Entry) (options : WriterOptions)
    (byteLength : Update Op → ℕ) (held : DocumentWriter Op × Entry) :
    WriterCall Op → Option (DocumentWriter Op × Entry)
  | .record update => some (held.1.record options byteLength update, held.2)
  | .close => some (held.1.close, held.2)
  | .runs event => held.1.step store options byteLength held.2 event

/-- The writer `RoomRegistry.load` makes from what the store has. -/
def fromStore [DecidableEq Op] (store : DocumentStore Op Entry) (entry : Entry) :
    DocumentWriter Op × Entry :=
  (.new (store.load entry).pendingUpdates, entry)

/-- The rows the log has, as the writer knows it: it counts an append when the
promise resolves, and forgets the rows when that of the compaction does. -/
def logRows (writer : DocumentWriter Op) : ℕ :=
  match writer.writing with
  | some (.appended _) => writer.rowsSinceSnapshot + 1
  | some .compacted => 0
  | _ => writer.rowsSinceSnapshot

/-- Between appending and settling there are only two cases to count apart. -/
theorem logRows_congr {writer writer' : DocumentWriter Op}
    (writing : writer'.writing = writer.writing)
    (counter : writer'.rowsSinceSnapshot = writer.rowsSinceSnapshot) :
    writer'.logRows = writer.logRows := by
  unfold logRows
  rw [writing, counter]

@[simp] theorem flush_logRows (writer : DocumentWriter Op) :
    writer.flush.logRows = writer.logRows := by
  unfold flush
  split
  · exact logRows_congr rfl rfl
  · exact logRows_congr rfl rfl

@[simp] theorem schedule_logRows (options : WriterOptions) (writer : DocumentWriter Op) :
    (writer.schedule options).logRows = writer.logRows := by
  unfold schedule
  split
  · rfl
  · exact logRows_congr rfl rfl

@[simp] theorem record_logRows (options : WriterOptions) (byteLength : Update Op → ℕ)
    (writer : DocumentWriter Op) (update : Update Op) :
    (writer.record options byteLength update).logRows = writer.logRows := by
  unfold record
  dsimp only
  split
  · rw [flush_logRows]
    exact logRows_congr rfl rfl
  · rw [schedule_logRows]
    exact logRows_congr rfl rfl

@[simp] theorem close_logRows (writer : DocumentWriter Op) :
    writer.close.logRows = writer.logRows :=
  flush_logRows _

/-- A write that ends leaves the counter it has. -/
theorem finish_logRows (writer : DocumentWriter Op) :
    writer.finish.logRows = writer.rowsSinceSnapshot :=
  rfl

private theorem schedule_rowsSinceSnapshot (options : WriterOptions) (writer : DocumentWriter Op) :
    (writer.schedule options).rowsSinceSnapshot = writer.rowsSinceSnapshot := by
  unfold schedule
  split <;> rfl

/-! ### Every run -/

variable [DecidableEq Op] {store : DocumentStore Op Entry} {options : WriterOptions}
  {byteLength : Update Op → ℕ} {writer writer' : DocumentWriter Op} {entry entry' : Entry}
  {event : WriterEvent}

/-- No event makes the writer lose count. -/
theorem step_logRows (counted : (store.load entry).pendingUpdates = writer.logRows)
    (stepped : writer.step store options byteLength entry event = some (writer', entry')) :
    (store.load entry').pendingUpdates = writer'.logRows := by
  cases fires_of_step stepped with
  | timerFired armed =>
      rw [flush_logRows, counted]
      exact (logRows_congr rfl rfl).symm
  | startWrite batch rest idle next =>
      rw [counted]
      simp [logRows, idle]
  | appendStored batch writing =>
      rw [store.pending_append, counted]
      simp [logRows, writing]
  | appendResolved batch writing few =>
      rw [counted, finish_logRows]
      simp [logRows, writing]
  | compactCalled batch writing many =>
      rw [counted]
      simp [logRows, writing]
  | dropped batch writing closed =>
      rw [counted, finish_logRows]
      simp [logRows, writing]
  | retried batch writing isOpen =>
      rw [counted, finish_logRows, schedule_rowsSinceSnapshot]
      simp [logRows, writing]
  | compactStored writing => exact store.pending_compact entry
  | compactResolved writing =>
      rw [counted, finish_logRows]
      simp [logRows, writing]
  | compactRejected writing =>
      rw [counted, finish_logRows]
      simp [logRows, writing]

private theorem handle_logRows {held after : DocumentWriter Op × Entry} {call : WriterCall Op}
    (counted : (store.load held.2).pendingUpdates = held.1.logRows)
    (handled : handle store options byteLength held call = some after) :
    (store.load after.2).pendingUpdates = after.1.logRows := by
  cases call with
  | record update =>
      cases handled
      rw [record_logRows]
      exact counted
  | close =>
      cases handled
      rw [close_logRows]
      exact counted
  | runs event => exact step_logRows counted handled

/-- A write that ends well leaves fewer rows than call for a compaction. -/
theorem step_pendingUpdates_lt (compacts : 1 ≤ options.compactAfter)
    (counted : (store.load entry).pendingUpdates = writer.logRows)
    (succeeds : event = .appendResolved ∨ event = .compactResolved)
    (stepped : writer.step store options byteLength entry event = some (writer', entry'))
    (ends : writer'.writing = none) :
    (store.load entry').pendingUpdates < options.compactAfter := by
  have after := step_logRows counted stepped
  cases fires_of_step stepped with
  | appendResolved batch writing few =>
      rw [after, finish_logRows]
      exact few
  | compactCalled batch writing many => cases ends
  | compactResolved writing =>
      rw [after, finish_logRows]
      exact compacts
  | _ => rcases succeeds with impossible | impossible <;> cases impossible

/-- Whenever no write is under way the counter is the length of the log, and
after a write whose operations succeeded the log is short of a compaction. -/
theorem counter_is_log_length (store : DocumentStore Op Entry) (options : WriterOptions)
    (byteLength : Update Op → ℕ) (stored : Entry)
    (reached : Reached (handle store options byteLength) (· = fromStore store stored)
      (writer, entry)) :
    (writer.writing = none →
      writer.rowsSinceSnapshot = (store.load entry).pendingUpdates) ∧
    (1 ≤ options.compactAfter → ∀ event writer' entry',
      event = .appendResolved ∨ event = .compactResolved →
      writer.step store options byteLength entry event = some (writer', entry') →
      writer'.writing = none →
      (store.load entry').pendingUpdates < options.compactAfter) := by
  have counted : (store.load entry).pendingUpdates = writer.logRows := by
    refine reached.invariant (fun held => (store.load held.2).pendingUpdates = held.1.logRows)
      ?_ fun held call after counted _ handled => handle_logRows counted handled
    intro held begins
    rw [begins]
    rfl
  constructor
  · intro idle
    rw [counted]
    simp [logRows, idle]
  · intro compacts event writer' entry' succeeds stepped ends
    exact step_pendingUpdates_lt compacts counted succeeds stepped ends

/-- Over a log of one row with a threshold of two, an append fails, its retry
leads to a compaction that fails, and the compaction of the next write is to
resolve. -/
theorem counter_is_log_length_failing :
    ∃ held after : DocumentWriter ℕ × Option (MemoryDocumentStore.Entry ℕ),
      held.1.step MemoryDocumentStore.store ⟨500, 64 * 1024, 2⟩ Finset.card held.2
        .compactResolved = some after ∧ held.1.rowsSinceSnapshot = 3 ∧
        (MemoryDocumentStore.store.load after.2).pendingUpdates < 2 := by
  let options : WriterOptions := ⟨500, 64 * 1024, 2⟩
  let start := fromStore MemoryDocumentStore.store (some ⟨none, [({6} : Update ℕ)]⟩)
  let calls : List (WriterCall ℕ) :=
    [.record {7}, .runs .timerFired, .runs .startWrite, .runs .appendRejected,
      .runs .timerFired, .runs .startWrite, .runs .appendStored, .runs .appendResolved,
      .runs .compactRejected, .record {8}, .runs .timerFired, .runs .startWrite,
      .runs .appendStored, .runs .appendResolved, .runs .compactStored]
  let ends := (run (handle MemoryDocumentStore.store options Finset.card) start calls).getD start
  have reached : Reached (handle MemoryDocumentStore.store options Finset.card)
      (· = fromStore MemoryDocumentStore.store (some ⟨none, [{6}]⟩)) ends :=
    reachedWhen_getD start calls start (by decide)
  have counts := (counter_is_log_length MemoryDocumentStore.store options Finset.card
    (some ⟨none, [{6}]⟩) reached).2 (by decide)
  obtain ⟨writing, counter⟩ : ends.1.writing = some .compacted ∧ ends.1.rowsSinceSnapshot = 3 := by
    constructor
    · rfl
    · rfl
  have taken : ends.1.step MemoryDocumentStore.store options Finset.card ends.2 .compactResolved =
      some ({ ends.1 with rowsSinceSnapshot := 0 }.finish, ends.2) := by
    simp [step, writing]
  exact ⟨ends, _, taken, counter, counts _ _ _ (Or.inr rfl) taken rfl⟩

end DocumentWriter

end CollabEditor.Persistence
