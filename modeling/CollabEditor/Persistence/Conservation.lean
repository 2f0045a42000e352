import CollabEditor.Library.PromiseChain
import CollabEditor.Library.Transition
import CollabEditor.Persistence.DocumentWriter

/-!
Owns whole runs of a `DocumentWriter` over a store that may fail: where every
recorded update is, why writes never overlap, and what has happened once the
promise of `close` resolves.
-/

namespace CollabEditor.Persistence

open CollabEditor.Library CollabEditor.Yjs

universe u v

variable {Op : Type u} {Entry : Type v} [DecidableEq Op]

/-! ### The promise chain -/

namespace DocumentWriter

variable {store : DocumentStore Op Entry} {options : WriterOptions} {byteLength : Update Op → ℕ}
  {writer writer' : DocumentWriter Op} {entry entry' : Entry} {event : WriterEvent}

omit [DecidableEq Op] in
theorem schedule_queue (options : WriterOptions) (writer : DocumentWriter Op) :
    (writer.schedule options).queued = writer.queued ∧
      (writer.schedule options).writing = writer.writing ∧
        (writer.schedule options).pending = writer.pending := by
  unfold schedule
  split <;> exact ⟨rfl, rfl, rfl⟩

/-- The writes chained in `queue`. -/
def chain (writer : DocumentWriter Op) : PromiseChain :=
  List.replicate writer.finished .settled ++ writer.writing.toList.map (fun _ => .running) ++
    writer.queued.map fun _ => .waiting

section

omit [DecidableEq Op]

private theorem serial_chain (writer : DocumentWriter Op) : writer.chain.Serial := by
  unfold chain
  rw [List.append_assoc, PromiseChain.serial_append_of_settled
    fun job member => List.eq_of_mem_replicate member]
  have waiting : ∀ job ∈ writer.queued.map fun _ => JobStage.waiting, job = .waiting := by
    intro job member
    obtain ⟨-, -, rfl⟩ := List.mem_map.mp member
    rfl
  cases writer.writing with
  | none => exact PromiseChain.serial_of_waiting waiting
  | some write => exact waiting

private theorem chain_flush (writer : DocumentWriter Op) :
    writer.flush.chain = writer.chain ∨ writer.chain.Step writer.flush.chain := by
  unfold flush
  split
  · exact Or.inl rfl
  · right
    have attached := PromiseChain.Step.attach writer.chain
    simpa [chain] using attached

private theorem chain_schedule (options : WriterOptions) (writer : DocumentWriter Op) :
    (writer.schedule options).chain = writer.chain := by
  unfold schedule
  split <;> rfl

/-- The write in progress settles. -/
theorem chain_finish (writer : DocumentWriter Op) {write : Write Op}
    (writing : writer.writing = some write) : writer.chain.Step writer.finish.chain := by
  have settles := PromiseChain.Step.settle (List.replicate writer.finished .settled)
    (writer.queued.map fun _ => JobStage.waiting)
  have after : writer.finish.chain = List.replicate writer.finished .settled ++
      .settled :: writer.queued.map fun _ => JobStage.waiting := by
    simp [chain, finish, List.replicate_succ']
  have before : writer.chain = List.replicate writer.finished .settled ++
      .running :: writer.queued.map fun _ => JobStage.waiting := by
    simp [chain, writing]
  rw [before, after]
  exact settles

end

/-- Every event of a writer is one the promise chain allows. -/
theorem step_chain
    (stepped : writer.step store options byteLength entry event = some (writer', entry')) :
    writer'.chain = writer.chain ∨ writer.chain.Step writer'.chain := by
  cases fires_of_step stepped with
  | timerFired armed => exact chain_flush { writer with timer := none }
  | startWrite batch rest idle next =>
      right
      have starts := PromiseChain.Step.start (List.replicate writer.finished .settled)
        (rest.map fun _ => JobStage.waiting) fun last isLast =>
          List.eq_of_mem_replicate (List.mem_of_getLast? isLast)
      simpa [chain, idle, next] using starts
  | appendStored batch writing => exact Or.inl (by simp [chain, writing])
  | appendResolved batch writing few =>
      exact Or.inr (chain_finish { writer with
        rowsSinceSnapshot := writer.rowsSinceSnapshot + 1 } writing)
  | compactCalled batch writing many => exact Or.inl (by simp [chain, writing])
  | dropped batch writing closed => exact Or.inr (writer.chain_finish writing)
  | retried batch writing isOpen =>
      right
      have scheduled := chain_schedule options { writer with
        pending := writer.pending ++ [mergeParts batch]
        pendingBytes := writer.pendingBytes + byteLength (mergeParts batch) }
      have still : ∀ rescheduled : DocumentWriter Op, rescheduled.writing = writer.writing →
          rescheduled.chain = writer.chain → writer.chain.Step rescheduled.finish.chain := by
        intro rescheduled same sameChain
        rw [← sameChain]
        exact rescheduled.chain_finish (same.trans writing)
      exact still _ (schedule_queue options _).2.1 scheduled
  | compactStored writing => exact Or.inl (by simp [chain, writing])
  | compactResolved writing =>
      exact Or.inr (chain_finish { writer with rowsSinceSnapshot := 0 } writing)
  | compactRejected writing => exact Or.inr (writer.chain_finish writing)

/-- A write starts exactly when the promise chain lets the next one start. -/
theorem startWrite_iff : (writer.step store options byteLength entry .startWrite).isSome ↔
    ∃ before after, writer.chain = before ++ .waiting :: after ∧ PromiseChain.Ready before := by
  constructor
  · intro enabled
    obtain ⟨⟨writer', entry'⟩, stepped⟩ := Option.isSome_iff_exists.mp enabled
    cases fires_of_step stepped with
    | startWrite batch rest idle next =>
        refine ⟨List.replicate writer.finished .settled, rest.map fun _ => .waiting, ?_, ?_⟩
        · simp [chain, idle, next]
        · exact fun last isLast => List.eq_of_mem_replicate (List.mem_of_getLast? isLast)
  · rintro ⟨before, after, chain, ready⟩
    have serial := writer.serial_chain
    rw [chain] at serial
    have notRunning := serial.not_running ready
    rw [← chain] at notRunning
    have waits : JobStage.waiting ∈ writer.chain :=
      chain ▸ List.mem_append_right _ List.mem_cons_self
    have idle : writer.writing = none := by
      cases writing : writer.writing with
      | none => rfl
      | some write => simp [DocumentWriter.chain, writing] at notRunning
    cases queue : writer.queued with
    | nil => simp [DocumentWriter.chain, idle, queue] at waits
    | cons batch rest => simp [step, idle, queue]

/-! ### What a writer holds -/

/-- The updates of the batches that are queued or being written. -/
def inQueue (writer : DocumentWriter Op) : List (Update Op) :=
  writer.writing.toList.flatMap Write.unstored ++ writer.queued.flatten

section

omit [DecidableEq Op]

private theorem inQueue_appending {batch : List (Update Op)}
    (writing : writer.writing = some (.appending batch)) :
    writer.inQueue = batch ++ writer.queued.flatten := by
  simp [inQueue, writing, Write.unstored]

private theorem inQueue_finish (writer : DocumentWriter Op) :
    writer.finish.inQueue = writer.queued.flatten :=
  List.nil_append _

private theorem inQueue_flush (writer : DocumentWriter Op) :
    writer.flush.inQueue = writer.inQueue ++ writer.pending := by
  unfold flush
  split
  · next empty => simp [inQueue, empty]
  · simp [inQueue]

private theorem inQueue_schedule (options : WriterOptions) (writer : DocumentWriter Op) :
    (writer.schedule options).inQueue = writer.inQueue := by
  obtain ⟨queued, writing, -⟩ := writer.schedule_queue options
  rw [inQueue, inQueue, queued, writing]

end

/-- The batch an event drops, as it is logged. -/
def drops (writer : DocumentWriter Op) (event : WriterEvent) : List (Update Op) :=
  match event, writer.writing with
  | .appendRejected, some (.appending batch) =>
      if writer.closed then [mergeParts batch] else []
  | _, _ => []

end DocumentWriter

/-! ### Runs -/

/-- A writer with its document's entry in the store, the updates it was given,
the batches it logged as dropped and the promise `close` returned. -/
structure WriterRun (Op : Type u) (Entry : Type v) where
  writer : DocumentWriter Op
  entry : Entry
  recorded : List (Update Op)
  dropped : List (Update Op)
  closing : Option ℕ

inductive WriterCall (Op : Type u) where
  | record (update : Update Op)
  | close
  | runs (event : WriterEvent)

namespace WriterRun

/-- `new DocumentWriter(..)` over an entry. -/
def start (entry : Entry) (rowsSinceSnapshot : ℕ) : WriterRun Op Entry :=
  ⟨.new rowsSinceSnapshot, entry, [], [], none⟩

/-- One step; `close` is called once and nothing is recorded after it. -/
def step (store : DocumentStore Op Entry) (options : WriterOptions)
    (byteLength : Update Op → ℕ) (run : WriterRun Op Entry) :
    WriterCall Op → Option (WriterRun Op Entry)
  | .record update =>
      if run.writer.closed then none else some { run with
        writer := run.writer.record options byteLength update
        recorded := run.recorded ++ [update] }
  | .close =>
      if run.writer.closed then none else some { run with
        writer := run.writer.close
        closing := some run.writer.close.ticket }
  | .runs event =>
      (run.writer.step store options byteLength run.entry event).map fun (writer, entry) =>
        { run with
          writer := writer
          entry := entry
          dropped := run.dropped ++ run.writer.drops event }

/-- The three ways a run goes on. -/
theorem step_cases {store : DocumentStore Op Entry} {options : WriterOptions}
    {byteLength : Update Op → ℕ} {run run' : WriterRun Op Entry} {call : WriterCall Op}
    (stepped : run.step store options byteLength call = some run') :
    (∃ update, call = .record update ∧ run.writer.closed = false ∧ run' = { run with
      writer := run.writer.record options byteLength update
      recorded := run.recorded ++ [update] }) ∨
    (call = .close ∧ run.writer.closed = false ∧ run' = { run with
      writer := run.writer.close
      closing := some run.writer.close.ticket }) ∨
    ∃ event writer entry, call = .runs event ∧
      run.writer.step store options byteLength run.entry event = some (writer, entry) ∧
        run' = { run with
          writer := writer
          entry := entry
          dropped := run.dropped ++ run.writer.drops event } := by
  cases call with
  | record update =>
      obtain ⟨isOpen, result⟩ := Option.ite_none_left_eq_some.mp stepped
      exact Or.inl ⟨update, rfl, Bool.eq_false_of_not_eq_true isOpen,
        (Option.some.inj result).symm⟩
  | close =>
      obtain ⟨isOpen, result⟩ := Option.ite_none_left_eq_some.mp stepped
      exact Or.inr (Or.inl ⟨rfl, Bool.eq_false_of_not_eq_true isOpen,
        (Option.some.inj result).symm⟩)
  | runs event =>
      obtain ⟨⟨writer, entry⟩, fired, rfl⟩ := Option.map_eq_some_iff.mp stepped
      exact Or.inr (Or.inr ⟨event, writer, entry, rfl, fired, rfl⟩)

/-- The append that was called and has not settled. -/
def appending (run : WriterRun Op Entry) : List (Update Op) :=
  run.writer.writing.toList.flatMap Write.unsettled

end WriterRun

/-! ### Where the recorded updates are -/

/-- Updates that were each merged from some recorded ones. -/
def Merged (pieces updates : List (Update Op)) : Prop :=
  ∃ groups : List (List (Update Op)), pieces = groups.map mergeUpdates ∧ updates = groups.flatten

namespace Merged

private theorem nil : Merged ([] : List (Update Op)) [] := ⟨[], rfl, rfl⟩

private theorem singleton (update : Update Op) : Merged [update] [update] :=
  ⟨[[update]], by simp, rfl⟩

private theorem append {pieces pieces' updates updates' : List (Update Op)}
    (first : Merged pieces updates) (second : Merged pieces' updates') :
    Merged (pieces ++ pieces') (updates ++ updates') := by
  obtain ⟨groups, rfl, rfl⟩ := first
  obtain ⟨groups', rfl, rfl⟩ := second
  exact ⟨groups ++ groups', by simp, by simp⟩

/-- The updates behind the first pieces and those behind the rest. -/
theorem split {pieces pieces' updates : List (Update Op)}
    (merged : Merged (pieces ++ pieces') updates) : ∃ first second,
      updates = first ++ second ∧ Merged pieces first ∧ Merged pieces' second := by
  obtain ⟨groups, same, rfl⟩ := merged
  obtain ⟨front, back, rfl, rfl, rfl⟩ := List.append_eq_map_iff.mp same
  exact ⟨front.flatten, back.flatten, by simp, ⟨front, rfl, rfl⟩, ⟨back, rfl, rfl⟩⟩

private theorem mergeUpdates_eq {pieces updates : List (Update Op)}
    (merged : Merged pieces updates) :
    mergeUpdates pieces = mergeUpdates updates := by
  obtain ⟨groups, rfl, rfl⟩ := merged
  induction groups with
  | nil => rfl
  | cons group rest inductionHypothesis => simp [inductionHypothesis]

/-- A whole batch merged into one. -/
theorem batch {pieces updates : List (Update Op)} (merged : Merged pieces updates) :
    Merged [mergeParts pieces] updates := by
  rw [mergeParts_eq, merged.mergeUpdates_eq]
  exact ⟨[updates], by simp, by simp⟩

end Merged

/-- The recorded updates, by where they are. -/
structure Ledger (Op : Type u) where
  pending : List (Update Op)
  inQueue : List (Update Op)
  stored : List (Update Op)
  dropped : List (Update Op)

/-- Every recorded update has exactly one place in the ledger, and every place
holds what the ledger says. -/
structure Ledger.Accounts (store : DocumentStore Op Entry) (before : Entry)
    (run : WriterRun Op Entry) (ledger : Ledger Op) : Prop where
  each : (ledger.pending ++ ledger.inQueue ++ ledger.stored ++ ledger.dropped).Perm run.recorded
  pending : Merged run.writer.pending ledger.pending
  inQueue : Merged run.writer.inQueue ledger.inQueue
  stored : (store.load run.entry).content =
    (store.load before).content ∪ mergeUpdates ledger.stored
  dropped : Merged run.dropped ledger.dropped

namespace Ledger.Accounts

variable {store : DocumentStore Op Entry} {options : WriterOptions} {byteLength : Update Op → ℕ}
  {before : Entry} {run run' : WriterRun Op Entry} {ledger : Ledger Op}

/-- Nothing was recorded yet. -/
theorem start (store : DocumentStore Op Entry) (before : Entry) (rowsSinceSnapshot : ℕ) :
    Accounts store before (WriterRun.start before rowsSinceSnapshot) ⟨[], [], [], []⟩ where
  each := List.Perm.refl []
  pending := .nil
  inQueue := .nil
  stored := (Finset.union_empty _).symm
  dropped := .nil

/-- Steps that move nothing. -/
theorem unchanged (accounts : ledger.Accounts store before run)
    (recorded : run'.recorded = run.recorded)
    (pending : run'.writer.pending = run.writer.pending)
    (inQueue : run'.writer.inQueue = run.writer.inQueue)
    (stored : (store.load run'.entry).content = (store.load run.entry).content)
    (dropped : run'.dropped = run.dropped) : ledger.Accounts store before run' where
  each := recorded ▸ accounts.each
  pending := pending ▸ accounts.pending
  inQueue := inQueue ▸ accounts.inQueue
  stored := stored.trans accounts.stored
  dropped := dropped ▸ accounts.dropped

/-- A flush moves what is pending to the queue. -/
theorem flush (accounts : ledger.Accounts store before run) (writer : DocumentWriter Op)
    (pending : writer.pending = run.writer.pending)
    (inQueue : writer.inQueue = run.writer.inQueue) :
    Accounts store before { run with writer := writer.flush }
      ⟨[], ledger.inQueue ++ ledger.pending, ledger.stored, ledger.dropped⟩ where
  each := by
    refine List.Perm.trans ?_ accounts.each
    simp only [List.nil_append, List.append_assoc]
    exact List.perm_append_comm_assoc _ _ _
  pending := by
    show Merged writer.flush.pending []
    rw [DocumentWriter.flush_pending]
    exact .nil
  inQueue := by
    show Merged writer.flush.inQueue _
    rw [writer.inQueue_flush, inQueue, pending]
    exact accounts.inQueue.append accounts.pending
  stored := accounts.stored
  dropped := accounts.dropped

/-- An update is recorded at the end of what is pending. -/
theorem push (accounts : ledger.Accounts store before run) (update : Update Op) (bytes : ℕ) :
    Accounts store before
      { run with
        writer := { run.writer with
          pending := run.writer.pending ++ [update]
          pendingBytes := bytes }
        recorded := run.recorded ++ [update] }
      { ledger with pending := ledger.pending ++ [update] } where
  each := by
    refine List.Perm.trans ?_ (accounts.each.append_right [update])
    rw [List.perm_iff_count]
    intro counted
    simp only [List.count_append]
    omega
  pending := accounts.pending.append (.singleton update)
  inQueue := accounts.inQueue
  stored := accounts.stored
  dropped := accounts.dropped

/-- The append of a batch takes effect. -/
theorem store_batch (accounts : ledger.Accounts store before run) (writer : DocumentWriter Op)
    {batch : List (Update Op)} (inQueue : run.writer.inQueue = batch ++ writer.inQueue)
    (pending : writer.pending = run.writer.pending) : ∃ ledger' : Ledger Op,
      ledger'.Accounts store before
        { run with writer := writer, entry := store.append run.entry (mergeParts batch) } := by
  obtain ⟨first, second, split, ofBatch, ofRest⟩ := Merged.split (inQueue ▸ accounts.inQueue)
  refine ⟨⟨ledger.pending, second, ledger.stored ++ first, ledger.dropped⟩,
    ⟨?_, pending ▸ accounts.pending, ofRest, ?_, accounts.dropped⟩⟩
  · refine List.Perm.trans ?_ accounts.each
    rw [split, List.perm_iff_count]
    intro counted
    simp only [List.count_append]
    omega
  · show (store.load (store.append run.entry (mergeParts batch))).content = _
    rw [store.content_append, accounts.stored, mergeParts_eq, ofBatch.mergeUpdates_eq,
      mergeUpdates_append, Finset.union_assoc]

/-- The append of a batch is rejected: it is pending again, or dropped. -/
theorem reject_batch (accounts : ledger.Accounts store before run) (writer : DocumentWriter Op)
    {batch : List (Update Op)} (inQueue : run.writer.inQueue = batch ++ writer.inQueue)
    {back logged : List (Update Op)} (pending : writer.pending = run.writer.pending ++ back)
    (outcome : back = [mergeParts batch] ∧ logged = [] ∨
      back = [] ∧ logged = [mergeParts batch]) : ∃ ledger' : Ledger Op,
      ledger'.Accounts store before
        { run with writer := writer, dropped := run.dropped ++ logged } := by
  obtain ⟨first, second, split, ofBatch, ofRest⟩ := Merged.split (inQueue ▸ accounts.inQueue)
  rcases outcome with ⟨rfl, rfl⟩ | ⟨rfl, rfl⟩
  · refine ⟨⟨ledger.pending ++ first, second, ledger.stored, ledger.dropped⟩,
      ⟨?_, pending ▸ accounts.pending.append ofBatch.batch, ofRest, accounts.stored, ?_⟩⟩
    · refine List.Perm.trans ?_ accounts.each
      rw [split, List.perm_iff_count]
      intro counted
      simp only [List.count_append]
      omega
    · simpa using accounts.dropped
  · refine ⟨⟨ledger.pending, second, ledger.stored, ledger.dropped ++ first⟩,
      ⟨?_, ?_, ofRest, accounts.stored, accounts.dropped.append ofBatch.batch⟩⟩
    · refine List.Perm.trans ?_ accounts.each
      rw [split, List.perm_iff_count]
      intro counted
      simp only [List.count_append]
      omega
    · rw [List.append_nil] at pending
      exact pending ▸ accounts.pending

/-- An event of the writer. -/
theorem fires (accounts : ledger.Accounts store before run) {event : WriterEvent}
    {writer : DocumentWriter Op} {entry : Entry}
    (fired : run.writer.Fires store options byteLength run.entry event writer entry) :
    ∃ ledger' : Ledger Op, ledger'.Accounts store before { run with
      writer := writer
      entry := entry
      dropped := run.dropped ++ run.writer.drops event } := by
  have nothing : ∀ {logged : List (Update Op)}, logged = [] → run.dropped ++ logged = run.dropped :=
    fun none => by rw [none, List.append_nil]
  have kept : ∀ {writer : DocumentWriter Op} {entry : Entry} {logged : List (Update Op)},
      writer.pending = run.writer.pending → writer.inQueue = run.writer.inQueue →
      (store.load entry).content = (store.load run.entry).content → logged = [] →
      ∃ ledger' : Ledger Op, ledger'.Accounts store before
        { run with writer := writer, entry := entry, dropped := run.dropped ++ logged } :=
    fun pending inQueue content none =>
      ⟨ledger, accounts.unchanged rfl pending inQueue content (nothing none)⟩
  cases fired with
  | timerFired armed =>
      have flushed := accounts.flush { run.writer with timer := none } rfl rfl
      exact ⟨_, flushed.unchanged rfl rfl rfl rfl (nothing rfl)⟩
  | startWrite batch rest idle next =>
      exact kept rfl (by simp [DocumentWriter.inQueue, idle, next, Write.unstored]) rfl rfl
  | appendStored batch writing =>
      obtain ⟨ledger', stored⟩ := accounts.store_batch { run.writer with
        writing := some (.appended batch) } (DocumentWriter.inQueue_appending writing) rfl
      exact ⟨ledger', stored.unchanged rfl rfl rfl rfl (nothing rfl)⟩
  | appendResolved batch writing few =>
      exact kept rfl (by simp [DocumentWriter.inQueue, DocumentWriter.finish, writing,
        Write.unstored]) rfl rfl
  | compactCalled batch writing many =>
      exact kept rfl (by simp [DocumentWriter.inQueue, writing, Write.unstored]) rfl rfl
  | dropped batch writing closed =>
      have logged : run.writer.drops .appendRejected = [mergeParts batch] := by
        simp [DocumentWriter.drops, writing, closed]
      rw [logged]
      exact accounts.reject_batch run.writer.finish (DocumentWriter.inQueue_appending writing)
        (List.append_nil _).symm (Or.inr ⟨rfl, rfl⟩)
  | retried batch writing isOpen =>
      have logged : run.writer.drops .appendRejected = [] := by
        simp [DocumentWriter.drops, writing, isOpen]
      obtain ⟨queued, -, pending⟩ := DocumentWriter.schedule_queue options { run.writer with
        pending := run.writer.pending ++ [mergeParts batch]
        pendingBytes := run.writer.pendingBytes + byteLength (mergeParts batch) }
      have moved := DocumentWriter.inQueue_appending writing
      rw [← queued, ← DocumentWriter.inQueue_finish] at moved
      rw [logged]
      exact accounts.reject_batch _ moved pending (Or.inl ⟨rfl, rfl⟩)
  | compactStored writing =>
      exact kept rfl (by simp [DocumentWriter.inQueue, writing, Write.unstored])
        (store.content_compact run.entry) rfl
  | compactResolved writing =>
      exact kept rfl (by simp [DocumentWriter.inQueue, DocumentWriter.finish, writing,
        Write.unstored]) rfl rfl
  | compactRejected writing =>
      exact kept rfl (by simp [DocumentWriter.inQueue, DocumentWriter.finish, writing,
        Write.unstored]) rfl rfl

end Ledger.Accounts

/-- Every step keeps an account of the recorded updates. -/
theorem WriterRun.accounts_of_step {store : DocumentStore Op Entry} {options : WriterOptions}
    {byteLength : Update Op → ℕ} {before : Entry} {run run' : WriterRun Op Entry}
    {call : WriterCall Op} (accounted : ∃ ledger : Ledger Op, ledger.Accounts store before run)
    (stepped : run.step store options byteLength call = some run') :
    ∃ ledger : Ledger Op, ledger.Accounts store before run' := by
  obtain ⟨ledger, accounts⟩ := accounted
  rcases WriterRun.step_cases stepped with
    ⟨update, -, -, rfl⟩ | ⟨-, -, rfl⟩ | ⟨event, writer, entry, -, fired, rfl⟩
  · have pushed := accounts.push update (run.writer.pendingBytes + byteLength update)
    unfold DocumentWriter.record
    dsimp only
    split
    · exact ⟨_, pushed.flush _ rfl rfl⟩
    · exact ⟨_, pushed.unchanged rfl (DocumentWriter.schedule_queue options _).2.2
        (DocumentWriter.inQueue_schedule options _) rfl rfl⟩
  · have flushed := accounts.flush { run.writer with closed := true } rfl rfl
    exact ⟨_, flushed.unchanged rfl rfl rfl rfl rfl⟩
  · exact accounts.fires (DocumentWriter.fires_of_step fired)

/-! ### The promise of `close` -/

/-- Nothing is pending once `close` was called, and its promise is the promise
of the last write. -/
structure WriterRun.Closing (run : WriterRun Op Entry) : Prop where
  closed : run.writer.closed = run.closing.isSome
  pending : run.writer.closed = true → run.writer.pending = []
  ticket : ∀ ticket, run.closing = some ticket → run.writer.ticket = ticket

namespace WriterRun

variable {store : DocumentStore Op Entry} {options : WriterOptions} {byteLength : Update Op → ℕ}
  {run run' : WriterRun Op Entry}

private theorem Closing.step {call : WriterCall Op} (holds : run.Closing)
    (stepped : run.step store options byteLength call = some run') : run'.Closing := by
  have closedOf : ∀ {ticket : ℕ}, run.closing = some ticket → run.writer.closed = true := by
    intro ticket closing
    rw [holds.closed, closing, Option.isSome_some]
  rcases step_cases stepped with
    ⟨update, -, isOpen, rfl⟩ | ⟨-, -, rfl⟩ | ⟨event, writer, entry, -, fired, rfl⟩
  · have stays : (run.writer.record options byteLength update).closed = run.writer.closed :=
      DocumentWriter.record_closed options byteLength update
    refine ⟨stays.trans holds.closed, fun closed => ?_, fun ticket closing => ?_⟩
    · exact absurd ((isOpen.symm.trans stays.symm).trans closed) Bool.false_ne_true
    · exact absurd (isOpen.symm.trans (closedOf closing)) Bool.false_ne_true
  · exact ⟨DocumentWriter.flush_closed, fun _ => DocumentWriter.flush_pending,
      fun ticket same => Option.some.inj same⟩
  · have stays := DocumentWriter.step_closed fired
    have kept := fun closed =>
      DocumentWriter.step_ticket (Or.inr closed) fired (holds.pending closed)
    refine ⟨stays.trans holds.closed, fun closed => (kept (stays.symm.trans closed)).1,
      fun ticket closing => ?_⟩
    exact (kept (closedOf closing)).2.trans (holds.ticket ticket closing)

/-- Only the batch of an append that fails in a closed writer is dropped. -/
theorem dropped_of_step {call : WriterCall Op}
    (stepped : run.step store options byteLength call = some run') :
    run'.dropped = run.dropped ∨ ∃ batch,
      call = .runs .appendRejected ∧ run.writer.closed = true ∧
        run.writer.writing = some (.appending batch) ∧
          run'.dropped = run.dropped ++ [mergeParts batch] := by
  rcases step_cases stepped with
    ⟨update, -, -, rfl⟩ | ⟨-, -, rfl⟩ | ⟨event, writer, entry, rfl, fired, rfl⟩
  · exact Or.inl rfl
  · exact Or.inl rfl
  · by_cases none : run.writer.drops event = []
    · left
      show run.dropped ++ run.writer.drops event = run.dropped
      rw [none, List.append_nil]
    · right
      unfold DocumentWriter.drops at none ⊢
      split at none
      · next batch writing =>
          split at none
          · next closed =>
              refine ⟨batch, rfl, closed, writing, ?_⟩
              show run.dropped ++ (if run.writer.closed then [mergeParts batch] else []) = _
              rw [if_pos closed]
          · exact absurd rfl none
      · exact absurd rfl none

/-- The writes of a writer are the jobs of one promise chain. -/
theorem chain_of_step {call : WriterCall Op}
    (stepped : run.step store options byteLength call = some run') :
    run'.writer.chain = run.writer.chain ∨ run.writer.chain.Step run'.writer.chain := by
  rcases step_cases stepped with
    ⟨update, -, -, rfl⟩ | ⟨-, -, rfl⟩ | ⟨event, writer, entry, -, fired, rfl⟩
  · show (run.writer.record options byteLength update).chain = _ ∨ _
    unfold DocumentWriter.record
    dsimp only
    split
    · exact DocumentWriter.chain_flush { run.writer with
        pending := run.writer.pending ++ [update]
        pendingBytes := run.writer.pendingBytes + byteLength update }
    · exact Or.inl (DocumentWriter.chain_schedule options _)
  · exact DocumentWriter.chain_flush { run.writer with closed := true }
  · exact DocumentWriter.step_chain fired

end WriterRun

/-- In every run of a writer: each recorded update has one place; it is dropped
only if its append fails after `close`; a write starts only when the promise
chain lets it, and then no other is in progress; and nothing is left when the
promise of `close` resolves. -/
theorem writer_conserves (store : DocumentStore Op Entry) (options : WriterOptions)
    (byteLength : Update Op → ℕ) (before : Entry) (rowsSinceSnapshot : ℕ)
    {run : WriterRun Op Entry}
    (reached : Reached (WriterRun.step store options byteLength)
      (· = WriterRun.start before rowsSinceSnapshot) run) :
    (∃ ledger : Ledger Op, ledger.Accounts store before run) ∧
    (∀ call run', run.step store options byteLength call = some run' →
      run'.dropped = run.dropped ∨ ∃ batch,
        call = .runs .appendRejected ∧ run.closing.isSome ∧
          run.writer.writing = some (.appending batch) ∧
            run'.dropped = run.dropped ++ [mergeParts batch]) ∧
    (Relation.ReflTransGen PromiseChain.Step [] run.writer.chain ∧
      ∀ run', run.step store options byteLength (.runs .startWrite) = some run' →
        JobStage.running ∉ run.writer.chain) ∧
    ∀ ticket, run.closing = some ticket → run.writer.Resolved ticket →
      run.writer.pending = [] ∧ run.writer.queued = [] ∧ run.writer.writing = none := by
  have accounted : ∃ ledger : Ledger Op, ledger.Accounts store before run := by
    refine reached.invariant (fun run => ∃ ledger : Ledger Op, ledger.Accounts store before run)
      ?_ fun _ _ _ holds _ stepped => WriterRun.accounts_of_step holds stepped
    rintro begun rfl
    exact ⟨_, Ledger.Accounts.start store before rowsSinceSnapshot⟩
  have closing := reached.invariant WriterRun.Closing
    (fun _ same => same ▸ ⟨rfl, fun _ => rfl, fun _ same => by cases same⟩)
    fun _ _ _ holds _ stepped => holds.step stepped
  have chain := reached.invariant (fun run => Relation.ReflTransGen PromiseChain.Step []
    run.writer.chain) (fun _ same => same ▸ .refl) fun _ _ _ holds _ stepped => by
      rcases WriterRun.chain_of_step stepped with same | next
      · rwa [same]
      · exact holds.tail next
  refine ⟨accounted, fun call run' stepped => ?_, ⟨chain, fun run' stepped => ?_⟩,
    fun ticket called resolved => ?_⟩
  · rcases WriterRun.dropped_of_step stepped with same | ⟨batch, rejected, closed, rest⟩
    · exact Or.inl same
    · exact Or.inr ⟨batch, rejected, closing.closed ▸ closed, rest⟩
  · obtain ⟨_, fired, _⟩ := Option.map_eq_some_iff.mp stepped
    obtain ⟨earlier, later, split, ready⟩ := DocumentWriter.startWrite_iff.mp
      (Option.isSome_iff_exists.mpr ⟨_, fired⟩)
    have serial := PromiseChain.serial_of_steps chain
    rw [split] at serial ⊢
    exact serial.not_running ready
  · have closed : run.writer.closed = true := by rw [closing.closed, called, Option.isSome_some]
    have idle := DocumentWriter.idle_of_resolved (closing.ticket ticket called ▸ resolved)
    exact ⟨closing.pending closed, idle.2, idle.1⟩

/-- Two recorded updates, the first of which fails to be stored and is retried;
`close` finds the second write in progress, which fails as well. -/
theorem writer_conserves_failing : ∃ run : WriterRun ℕ (Option (MemoryDocumentStore.Entry ℕ)),
    run.dropped = [{8}] ∧ (∃ ledger : Ledger ℕ,
      ledger.Accounts MemoryDocumentStore.store none run) ∧
        run.writer.pending = [] ∧ run.writer.queued = [] ∧ run.writer.writing = none := by
  let options : WriterOptions := ⟨500, 64 * 1024, 200⟩
  let start : WriterRun ℕ (Option (MemoryDocumentStore.Entry ℕ)) := WriterRun.start none 0
  let calls : List (WriterCall ℕ) :=
    [.record {7}, .runs .timerFired, .runs .startWrite, .runs .appendRejected,
      .runs .timerFired, .record {8}, .runs .timerFired, .runs .startWrite,
      .runs .appendStored, .runs .appendResolved, .runs .startWrite, .close,
      .runs .appendRejected]
  let ends := (Library.run (WriterRun.step MemoryDocumentStore.store options Finset.card)
    start calls).getD start
  have reached : Reached (WriterRun.step MemoryDocumentStore.store options Finset.card)
      (· = WriterRun.start none 0) ends := reachedWhen_getD start calls start (by decide)
  obtain ⟨accounted, -, -, resolved⟩ := writer_conserves MemoryDocumentStore.store options
    Finset.card none 0 reached
  have isDropped : ends.dropped = [{8}] := by decide
  have isClosing : ends.closing = some 3 := by decide
  have isResolved : ends.writer.Resolved 3 := by decide
  exact ⟨ends, isDropped, accounted, resolved 3 isClosing isResolved⟩

end CollabEditor.Persistence
