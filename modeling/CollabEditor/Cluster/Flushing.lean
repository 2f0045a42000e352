import CollabEditor.Cluster.Durability
import CollabEditor.Persistence.Deadlines
import Mathlib.Algebra.Order.BigOperators.Group.Finset

/-!
Owns that the writers of a cluster come to an end: once nobody edits and no
append is rejected, whatever they do in whatever order leaves everything stored
that they had. The store is the one of `Cluster.Durability`: shared, and changed
by one `append` or `compact` at a time.
-/

namespace CollabEditor

open CollabEditor.Library CollabEditor.Yjs CollabEditor.Persistence CollabEditor.Rooms
open CollabEditor.Instance
open CollabEditor.Ws (dispatch)

universe u v w

variable {Conn : Type v} {Op : Type u} {Entry : Type w}

/-! ### The work of one writer -/

namespace Persistence

/-- How many steps a write has left. -/
def Write.work : Write Op → ℕ
  | .appending _ => 4
  | .appended _ => 3
  | .compacting => 2
  | .compacted => 1

namespace DocumentWriter

/-- The steps a writer has left at most: a batch takes five of them, and so does
what is pending once the timer has fired. -/
def work (writer : DocumentWriter Op) : ℕ :=
  writer.timer.toList.length + (if writer.pending.isEmpty then 0 else 5) +
    5 * writer.queued.length + writer.writing.elim 0 Write.work

private theorem flush_work (writer : DocumentWriter Op) :
    writer.flush.work + writer.timer.toList.length = writer.work := by
  by_cases empty : writer.pending = []
  · rw [flush_of_empty empty]
    simp [work, empty]
    omega
  · rw [flush_of_pending writer empty]
    simp [work, empty]
    omega

/-- What is pending has a timer. -/
def Armed (writer : DocumentWriter Op) : Prop := writer.pending ≠ [] → writer.timer.isSome

variable {options : WriterOptions} {byteLength : Update Op → ℕ} {writer writer' : DocumentWriter Op}

private theorem armed_of_buffers (armed : writer.Armed)
    (moved : Buffers options byteLength writer writer') : writer'.Armed := by
  intro waiting
  cases moved with
  | keeps pending bytes timer =>
      rw [timer]
      exact armed (pending ▸ waiting)
  | adds update pending bytes timer =>
      rw [timer]
      rfl
  | flushes last pending queued bytes timer => exact absurd pending waiting
  | idles empty pending bytes timer => exact absurd pending waiting

private theorem armed_foldl_record (isOpen : writer.closed = false) (armed : writer.Armed)
    (updates : List (Update Op)) : (updates.foldl (record options byteLength) writer).Armed ∧
      (updates.foldl (record options byteLength) writer).closed = false := by
  induction updates generalizing writer with
  | nil => exact ⟨armed, isOpen⟩
  | cons update rest inductionHypothesis =>
      apply inductionHypothesis
      · rw [record_closed]
        exact isOpen
      · exact armed_of_buffers armed (buffers_record isOpen update)

variable [DecidableEq Op] {store : DocumentStore Op Entry} {entry entry' : Entry}
  {event : WriterEvent}

/-- Unless an append is rejected, a step is one less to go. -/
theorem step_work (succeeds : event ≠ .appendRejected)
    (stepped : writer.step store options byteLength entry event = some (writer', entry')) :
    writer'.work < writer.work := by
  cases fires_of_step stepped with
  | timerFired armed =>
      obtain ⟨delay, isDelay⟩ := Option.isSome_iff_exists.mp armed
      have flushed := flush_work { writer with timer := none }
      simp only [work, isDelay, Option.toList_none, Option.toList_some, List.length_nil,
        List.length_cons] at flushed ⊢
      omega
  | startWrite batch rest idle next =>
      simp [work, idle, next, Write.work]
      omega
  | appendStored batch writing => simp [work, writing, Write.work]
  | appendResolved batch writing few => simp [work, finish, writing, Write.work]
  | compactCalled batch writing many => simp [work, writing, Write.work]
  | dropped batch writing closed => exact absurd rfl succeeds
  | retried batch writing isOpen => exact absurd rfl succeeds
  | compactStored writing => simp [work, writing, Write.work]
  | compactResolved writing => simp [work, finish, writing, Write.work]
  | compactRejected writing => simp [work, finish, writing, Write.work]

/-- A writer that has not stored everything can go on. -/
theorem enabled_of_unstored (armed : writer.Armed) (left : writer.unstored ≠ []) :
    ∃ event, event ≠ .appendRejected ∧
      (writer.step store options byteLength entry event).isSome := by
  cases writing : writer.writing with
  | some write =>
      cases write with
      | appending batch => exact ⟨.appendStored, by decide, by simp [step, writing]⟩
      | appended batch =>
          refine ⟨.appendResolved, by decide, ?_⟩
          simp only [step, writing]
          split <;> rfl
      | compacting => exact ⟨.compactStored, by decide, by simp [step, writing]⟩
      | compacted => exact ⟨.compactResolved, by decide, by simp [step, writing]⟩
  | none =>
      cases queued : writer.queued with
      | cons batch rest => exact ⟨.startWrite, by decide, by simp [step, writing, queued]⟩
      | nil =>
          have waiting : writer.pending ≠ [] := by
            intro empty
            simp [unstored, writing, queued, empty] at left
          exact ⟨.timerFired, by decide, by simp [step, armed waiting]⟩

end DocumentWriter

end Persistence

/-! ### The writers of a document -/

namespace Instance

/-- A writer waits for its timer while anything is pending, and is closed only
with its room. -/
structure RoomObject.Prompt (object : RoomObject Conn Op) : Prop where
  isOpen : object.teardown = .alive → object.writer.closed = false
  armed : object.writer.Armed

private theorem RoomObject.prompt_new (clientId pendingUpdates : ℕ) :
    (RoomObject.new clientId pendingUpdates : RoomObject Conn Op).Prompt :=
  ⟨fun _ => rfl, fun waiting => absurd rfl waiting⟩

namespace Slot

/-- The steps the writers of some rooms have left at most. -/
def totalWork : List (RoomObject Conn Op) → ℕ
  | [] => 0
  | object :: rest => object.writer.work + totalWork rest

private theorem totalWork_modify {objects : List (RoomObject Conn Op)} {room : ℕ}
    {object : RoomObject Conn Op} (found : objects[room]? = some object)
    {f : RoomObject Conn Op → RoomObject Conn Op}
    (less : (f object).writer.work < object.writer.work) :
    totalWork (objects.modify room f) < totalWork objects := by
  induction objects generalizing room with
  | nil => simp at found
  | cons head rest inductionHypothesis =>
      cases room with
      | zero =>
          cases found
          simpa [totalWork] using less
      | succ room =>
          have later := inductionHypothesis (by simpa using found)
          simpa [totalWork] using later

end Slot

end Instance

/-! ### The writers of a cluster -/

namespace Outages

variable {n : ℕ}

/-- Every writer of every instance is prompt. -/
def Prompt (cluster : Cluster n Conn Op Entry) : Prop :=
  ∀ server (room : ℕ) object, (cluster.slots server).objects[room]? = some object → object.Prompt

private theorem prompt_initial {state : Outages n Conn Op Entry} (initial : state.Initial) :
    Prompt state.cluster := by
  obtain ⟨⟨entry, fresh⟩, -, -, -⟩ := initial
  intro server
  rw [fresh]
  exact nofun

private theorem drops_of_succeeds [DecidableEq Op] (slot : Slot Conn Op Entry) (room : ℕ)
    {writing : WriterEvent} (succeeds : writing ≠ .appendRejected) :
    slot.drops (.writer room writing) = ∅ := by
  have nothing : ∀ writer : DocumentWriter Op, writer.drops writing = [] := by
    intro writer
    cases writing with
    | appendRejected => exact absurd rfl succeeds
    | _ => rfl
  simp only [Slot.drops, nothing]
  cases slot.objects[room]? with
  | none => rfl
  | some object => rfl

end Outages

variable [DecidableEq Conn] [DecidableEq Op] [Causality Op]

/-! ### One event -/

namespace Instance.Slot

variable {setup : Setup Op Entry} {before after : Slot Conn Op Entry} {event : SlotEvent Conn Op}

private theorem Moves.prompt {room : ℕ} {object object' : RoomObject Conn Op}
    (moves : Moves setup before after event room object object') (prompt : object.Prompt)
    (live : ∀ conn ready, before.connections conn = some ⟨ready, .joined room⟩ →
      object.teardown = .alive) : object'.Prompt := by
  have quiet : ∀ {outcome : Outcome Conn Op}, Rooms.recorded outcome.2 = [] →
      (object.perform setup outcome).Prompt := by
    intro outcome nothing
    rw [object.perform_of_nothing setup nothing]
    exact ⟨prompt.isOpen, prompt.armed⟩
  cases moves with
  | idles => exact prompt
  | enters conns isOpen => exact ⟨prompt.isOpen, prompt.armed⟩
  | leaves conn stays => exact quiet (object.room.recorded_remove conn)
  | closes conn last =>
      rw [object.perform_of_nothing setup (object.room.recorded_remove conn)]
      exact ⟨nofun, prompt.armed⟩
  | hydrates content waiters opening opening' =>
      exact quiet (object.room.recorded_applyUpdate content .hydrate)
  | frames conn message isFrame ready joined =>
      have isOpen := prompt.isOpen (live conn ready joined)
      obtain ⟨armed, still⟩ := DocumentWriter.armed_foldl_record isOpen prompt.armed
        (Rooms.recorded (dispatch object.room conn message).2)
      exact ⟨fun _ => still, armed⟩
  | receives message isBus listens => exact quiet (object.room.recorded_receive message)
  | expires ids => exact quiet (object.room.recorded_expirePresence ids)
  | destroys leaving =>
      refine ⟨nofun, fun waiting => absurd ?_ waiting⟩
      exact DocumentWriter.flush_pending
  | ends ticket flushing resolved => exact ⟨nofun, prompt.armed⟩
  | writes writing writer isWriter stepped =>
      constructor
      case isOpen =>
        intro alive
        rw [DocumentWriter.step_closed stepped]
        exact prompt.isOpen alive
      case armed =>
        exact DocumentWriter.armed_of_buffers prompt.armed (DocumentWriter.buffers_step stepped)

private theorem prompt_of_step (coherent : before.Coherent)
    (prompt : ∀ (room : ℕ) object, before.objects[room]? = some object → object.Prompt)
    (stepped : before.step setup event = some after) {room : ℕ} {object' : RoomObject Conn Op}
    (found' : after.objects[room]? = some object') : object'.Prompt := by
  rcases origin_of_step stepped found' with ⟨object, found, moves⟩ | ⟨-, _, _, _, -, -, -, rfl⟩
  · apply moves.prompt (prompt room object found)
    intro conn ready joined
    have registered := coherent.registered_of_joined joined
    obtain ⟨-, current, isCurrent, alive, -⟩ := coherent.current room registered
    rw [Option.some.inj (found.symm.trans isCurrent)]
    exact alive
  · exact RoomObject.prompt_new _ _

private theorem totalWork_of_step {room : ℕ} {writing : WriterEvent}
    (succeeds : writing ≠ .appendRejected)
    (stepped : before.step setup (.writer room writing) = some after) :
    totalWork after.objects < totalWork before.objects := by
  cases fires_of_step stepped with
  | writes room object found writing writer entry wrote =>
      exact totalWork_modify found (DocumentWriter.step_work succeeds wrote)

/-- A document with something unstored has a writer that can go on. -/
theorem enabled_of_unstored
    (prompt : ∀ (room : ℕ) object, before.objects[room]? = some object → object.Prompt)
    {op : Op} (left : op ∈ before.unstored) : ∃ room writing, writing ≠ .appendRejected ∧
      (before.step setup (.writer room writing)).isSome := by
  obtain ⟨update, inList, inUpdate⟩ := mem_mergeUpdates.mp left
  obtain ⟨object, inObjects, rfl⟩ := List.mem_map.mp inList
  obtain ⟨room, found⟩ := List.mem_iff_getElem?.mp inObjects
  have some : object.writer.unstored ≠ [] := by
    intro none
    simp [none] at inUpdate
  obtain ⟨writing, succeeds, enabled⟩ :=
    DocumentWriter.enabled_of_unstored (prompt room object found).armed some
  refine ⟨room, writing, succeeds, ?_⟩
  simp only [step, found, Option.isSome_map]
  exact enabled

end Instance.Slot

namespace Outages

variable {n : ℕ} {setup : Setup Op Entry}

private theorem prompt_of_handles {before after : Cluster n Conn Op Entry} {server : Fin n}
    {event : SlotEvent Conn Op} (prompt : Prompt before) (coherent : before.Coherent)
    (handles : Cluster.Handles setup before after server event) : Prompt after := by
  intro other room object' found'
  by_cases here : other = server
  · subst here
    have earlier : ∀ (room : ℕ) object, (before.slot other).objects[room]? = some object →
        object.Prompt := prompt other
    exact Slot.prompt_of_step (Cluster.coherent_slot coherent other) earlier handles.stepped found'
  · rw [handles.others other here] at found'
    exact prompt other room object' found'

private theorem prompt_step {state after : Outages n Conn Op Entry} {event : OutageEvent n Conn Op}
    (prompt : Prompt state.cluster) (coherent : state.cluster.Coherent)
    (stepped : state.step setup event = some after) : Prompt after.cluster := by
  cases event with
  | runs event =>
      obtain ⟨cluster, taken, rfl⟩ := Option.map_eq_some_iff.mp stepped
      cases Cluster.acts_of_step taken with
      | runs server event notBus ready handles => exact prompt_of_handles prompt coherent handles
      | subscribes server result =>
          rw [result]
          exact prompt
      | unsubscribes server deaf result =>
          rw [result]
          exact prompt
      | drops index receiver message found deaf result =>
          rw [result]
          exact prompt
      | receives index receiver message found handles =>
          have arrived : Prompt
              { state.cluster with inFlight := state.cluster.inFlight.eraseIdx index } := prompt
          exact prompt_of_handles arrived coherent handles
  | crash server =>
      cases stepped
      intro other room object found
      rw [slots_crash] at found
      split at found
      · simp [Slot.initial] at found
      · exact prompt other room object found
  | drop index =>
      cases stepped
      exact prompt

/-! ### Flushing -/

/-- A writer of an instance goes on, and its append is not rejected. -/
def flush (setup : Setup Op Entry) (state : Outages n Conn Op Entry)
    (label : Fin n × ℕ × WriterEvent) : Option (Outages n Conn Op Entry) :=
  if label.2.2 = .appendRejected then none
  else state.step setup (.runs (.runs label.1 (.writer label.2.1 label.2.2)))

/-- The steps the writers have left at most. -/
def work (state : Outages n Conn Op Entry) : ℕ :=
  ∑ server, Slot.totalWork (state.cluster.slots server).objects

/-- What a flush does. -/
structure Flushes (setup : Setup Op Entry) (state after : Outages n Conn Op Entry)
    (label : Fin n × ℕ × WriterEvent) : Prop where
  succeeds : label.2.2 ≠ .appendRejected
  handles : Cluster.Handles setup state.cluster after.cluster label.1 (.writer label.2.1 label.2.2)
  lost : after.lost = state.lost

private theorem flushes_of_flush {state after : Outages n Conn Op Entry}
    {label : Fin n × ℕ × WriterEvent} (flushed : state.flush setup label = some after) :
    Flushes setup state after label := by
  obtain ⟨succeeds, stepped⟩ := Option.ite_none_left_eq_some.mp flushed
  obtain ⟨cluster, taken, rfl⟩ := Option.map_eq_some_iff.mp stepped
  cases Cluster.acts_of_step taken with
  | runs server event notBus ready handles =>
      refine ⟨succeeds, handles, ?_⟩
      show state.lost ∪ (state.cluster.slots label.1).drops _ = state.lost
      rw [drops_of_succeeds _ _ succeeds, Finset.union_empty]

private theorem Flushes.accounted {state after : Outages n Conn Op Entry}
    {label : Fin n × ℕ × WriterEvent} (flushes : Flushes setup state after label) :
    state.accounted setup ⊆ after.accounted setup := by
  have grows := accounted_of_handles flushes.handles state.lost
  rw [drops_of_succeeds _ _ flushes.succeeds, Finset.union_empty] at grows
  have same : after = ⟨after.cluster, state.lost⟩ := by
    rw [← flushes.lost]
  rw [same]
  exact grows

private theorem Flushes.work {state after : Outages n Conn Op Entry}
    {label : Fin n × ℕ × WriterEvent} (flushes : Flushes setup state after label) :
    after.work < state.work := by
  have here : Slot.totalWork (after.cluster.slot label.1).objects <
      Slot.totalWork (state.cluster.slot label.1).objects :=
    Slot.totalWork_of_step flushes.succeeds flushes.handles.stepped
  apply Finset.sum_lt_sum
  · intro other _
    by_cases same : other = label.1
    · rw [same]
      exact here.le
    · rw [flushes.handles.others other same]
  · exact ⟨label.1, Finset.mem_univ _, here⟩

/-- Once nobody edits and appends are not rejected, whatever the writers do, and in
whatever order, there comes a moment at which everything that any room had
integrated is in the store, except what had been lost before. -/
theorem stored_inevitably (setup : Setup Op Entry) {state : Outages n Conn Op Entry}
    (reached : ReachedWhen (step setup) (ReleasesAccounted setup) Initial state) :
    Inevitable (flush setup)
      (fun after => ∀ server (room : ℕ) object, (state.cluster.slots server).objects[room]? =
        some object → object.room.doc.integrated ⊆ after.cluster.content setup ∪ state.lost)
      state := by
  have durable := (fetched_and_durable reached).2
  have begins : Fetched setup state.cluster ∧ Prompt state.cluster := by
    apply reached.invariant (fun state => Fetched setup state.cluster ∧ Prompt state.cluster)
    · intro state initial
      exact ⟨fetched_initial initial, prompt_initial initial⟩
    · intro state event after holds _ stepped
      exact ⟨fetched_step holds.1 stepped, prompt_step holds.2 holds.1.coherent stepped⟩
  apply inevitable_of_decreases_on
    (fun after => after.cluster.Coherent ∧ Prompt after.cluster ∧ after.lost = state.lost ∧
      state.accounted setup ⊆ after.accounted setup) work
  · intro earlier label after holds flushed
    obtain ⟨coherent, prompt, lost, kept⟩ := holds
    have flushes := flushes_of_flush flushed
    exact ⟨flushes.handles.coherent coherent, prompt_of_handles prompt coherent flushes.handles,
      flushes.lost.trans lost, kept.trans flushes.accounted⟩
  · intro earlier label after _ flushed
    exact (flushes_of_flush flushed).work
  · intro after holds unmet
    obtain ⟨-, prompt, lost, kept⟩ := holds
    have left : ∃ op, op ∈ after.cluster.unstored := by
      by_contra none
      apply unmet
      intro server room object found op integrated
      have placed := kept (durable.integrated server room object found integrated)
      simp only [accounted, Finset.mem_union, lost] at placed
      rcases placed with (stored | unstored) | gone
      · exact Finset.mem_union_left _ stored
      · exact absurd ⟨op, unstored⟩ none
      · exact Finset.mem_union_right _ gone
    obtain ⟨op, unstored⟩ := left
    obtain ⟨update, inList, inUpdate⟩ := mem_mergeUpdates.mp unstored
    obtain ⟨server, -, rfl⟩ := List.mem_map.mp inList
    have here : ∀ (room : ℕ) object, (after.cluster.slot server).objects[room]? = some object →
        object.Prompt := prompt server
    obtain ⟨room, writing, succeeds, enabled⟩ := Slot.enabled_of_unstored here inUpdate
    refine ⟨(server, room, writing), ?_⟩
    rw [flush, if_neg succeeds]
    show ((after.cluster.handle setup server (.writer room writing)).map _).isSome
    rw [Option.isSome_map, Cluster.handle, Option.isSome_map]
    exact enabled
  · exact ⟨begins.1.coherent, begins.2, rfl, Finset.Subset.refl _⟩

/-- The instance that is left has both edits, of which one is stored by then, and
the other one was lost with the instance that crashed. -/
theorem stored_inevitably_crashed :
    ∃ (state : Outages 2 ℕ ItemId (PostgresDocumentStore.Entry ItemId)),
      state.lost = {⟨7, 1⟩} ∧ state.cluster.unstored = {⟨8, 0⟩} ∧
      Inevitable (flush databaseSetup)
        (fun after => ∀ server (room : ℕ) object, (state.cluster.slots server).objects[room]? =
          some object → object.room.doc.integrated ⊆
            after.cluster.content databaseSetup ∪ state.lost) state := by
  obtain ⟨state, reached, lost, unstored⟩ := exists_reachedWhen_of_runWhen
    (step databaseSetup) (ReleasesAccounted databaseSetup) Initial
    (⟨⟨fun _ => Slot.initial PostgresDocumentStore.store.absent,
        PostgresDocumentStore.store.absent, fun _ => false, []⟩, ∅⟩ : Outages 2 ℕ ItemId _)
    (crashing 0 1 ++ runsOn 1 [.frame 1 (.sync (.update {⟨8, 0⟩}))])
    (fun state => state.lost = {⟨7, 1⟩} ∧ state.cluster.unstored = {⟨8, 0⟩})
    ⟨⟨_, fun _ => rfl⟩, fun _ => rfl, rfl, rfl⟩ (by decide)
  exact ⟨state, lost, unstored, stored_inevitably databaseSetup reached⟩

end Outages

end CollabEditor
