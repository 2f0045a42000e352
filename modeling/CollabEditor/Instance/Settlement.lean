import CollabEditor.Instance.Sockets

/-!
Owns the account a document keeps of what its rooms have recorded: which of it
an append has settled, and which a writer still has.
-/

namespace CollabEditor.Instance

open CollabEditor.Library CollabEditor.Yjs CollabEditor.Persistence CollabEditor.Rooms
open CollabEditor.Ws (dispatch)

universe u v w

variable {Conn : Type v} {Op : Type u} {Entry : Type w}

namespace RoomObject

private theorem foldl_record_unsettled (options : WriterOptions) (byteLength : Update Op → ℕ)
    (updates : List (Update Op)) (writer : DocumentWriter Op) :
    (updates.foldl (DocumentWriter.record options byteLength) writer).unsettled =
      writer.unsettled ++ updates := by
  induction updates generalizing writer with
  | nil => simp
  | cons head tail inductionHypothesis =>
      rw [List.foldl_cons, inductionHypothesis, DocumentWriter.record_unsettled,
        List.append_assoc, List.singleton_append]

/-- A call that hands nothing to the sink changes neither the writer nor the
account. -/
theorem perform_of_nothing [DecidableEq Op] (setup : Setup Op Entry) (object : RoomObject Conn Op)
    {outcome : Outcome Conn Op} (nothing : Rooms.recorded outcome.2 = []) :
    object.perform setup outcome = { object with room := outcome.1 } := by
  unfold perform
  simp [nothing]

/-- The last client's `leave` has not finished. -/
def Leaving (object : RoomObject Conn Op) : Prop :=
  object.teardown = .unsubscribing ∨ ∃ ticket, object.teardown = .flushing ticket

end RoomObject

/-- What an event may do to a writer that gets no more updates. -/
structure Drains (writer writer' : DocumentWriter Op) : Prop where
  pending : writer.pending = [] → writer'.pending = [] ∧ writer'.ticket = writer.ticket
  unsettled : writer.unsettled = [] → writer'.unsettled = []

private theorem Drains.refl (writer : DocumentWriter Op) : Drains writer writer :=
  ⟨fun empty => ⟨empty, rfl⟩, id⟩

theorem drains_close (writer : DocumentWriter Op) : Drains writer writer.close := by
  refine ⟨fun empty => ?_, fun empty => by rw [DocumentWriter.close_unsettled, empty]⟩
  have flushed : writer.close = { writer with closed := true, timer := none } := by
    simp [DocumentWriter.close, DocumentWriter.flush, empty]
  rw [flushed]
  exact ⟨empty, rfl⟩

private theorem drains_step [DecidableEq Op] {store : DocumentStore Op Entry}
    {options : WriterOptions}
    {byteLength : Update Op → ℕ} {writer writer' : DocumentWriter Op} {entry entry' : Entry}
    {event : WriterEvent} (succeeds : event ≠ .appendRejected)
    (stepped : writer.step store options byteLength entry event = some (writer', entry')) :
    Drains writer writer' := by
  refine ⟨DocumentWriter.step_ticket (Or.inl succeeds) stepped, fun empty => ?_⟩
  have split := DocumentWriter.step_unsettled succeeds stepped
  rw [empty] at split
  exact (List.append_eq_nil_iff.mp split.symm).2

namespace Slot

/-- What the account of one room says. -/
structure Accounted (object : RoomObject Conn Op) : Prop where
  /-- Every recorded update has been settled or is still with the writer. -/
  recorded : object.recorded = object.settled ++ object.writer.unsettled
  /-- A writer that `leave` closed is done when the write it waits for is. -/
  flushing : ∀ ticket, object.teardown = .flushing ticket →
    object.writer.pending = [] ∧ object.writer.ticket = ticket
  destroyed : object.teardown = .destroyed → object.writer.unsettled = []

theorem accounted_new (clientId pendingUpdates : ℕ) :
    Accounted (RoomObject.new clientId pendingUpdates : RoomObject Conn Op) :=
  ⟨rfl, nofun, nofun⟩

/-- An event that is not a frame for the room gives its writer nothing. -/
theorem Moves.writer_drains [DecidableEq Op] [Causality Op] [DecidableEq Conn]
    {setup : Setup Op Entry} {before after : Slot Conn Op Entry}
    {event : SlotEvent Conn Op} {room : ℕ} {object object' : RoomObject Conn Op}
    (moves : Moves setup before after event room object object')
    (succeeds : ∀ room, event ≠ .writer room .appendRejected)
    (silent : ∀ conn ready, before.connections conn ≠ some ⟨ready, .joined room⟩) :
    Drains object.writer object'.writer ∧ object'.recorded = object.recorded := by
  have quiet : ∀ {outcome : Outcome Conn Op}, Rooms.recorded outcome.2 = [] →
      Drains object.writer (object.perform setup outcome).writer ∧
        (object.perform setup outcome).recorded = object.recorded := by
    intro outcome nothing
    rw [object.perform_of_nothing setup nothing]
    exact ⟨.refl object.writer, rfl⟩
  cases moves with
  | idles => exact ⟨.refl object.writer, rfl⟩
  | enters conns isOpen => exact ⟨.refl object.writer, rfl⟩
  | leaves conn stays => exact quiet (object.room.recorded_remove conn)
  | closes conn last => exact quiet (object.room.recorded_remove conn)
  | hydrates content waiters opening opening' =>
      exact quiet (object.room.recorded_applyUpdate content .hydrate)
  | frames conn message isFrame ready joined => exact absurd joined (silent conn ready)
  | receives message isBus listens => exact quiet (object.room.recorded_receive message)
  | expires ids => exact quiet (object.room.recorded_expirePresence ids)
  | destroys leaving => exact ⟨drains_close object.writer, rfl⟩
  | ends ticket flushing resolved => exact ⟨.refl object.writer, rfl⟩
  | writes writing writer isWriter stepped =>
      have notRejected : writing ≠ .appendRejected := by
        rintro rfl
        exact succeeds room isWriter
      exact ⟨drains_step notRejected stepped, rfl⟩

theorem Moves.accounted [DecidableEq Op] [Causality Op] [DecidableEq Conn] {setup : Setup Op Entry}
    {before after : Slot Conn Op Entry}
    {event : SlotEvent Conn Op} {room : ℕ} {object object' : RoomObject Conn Op}
    (moves : Moves setup before after event room object object')
    (accounted : Accounted object) (succeeds : ∀ room, event ≠ .writer room .appendRejected)
    (live : ∀ conn ready, before.connections conn = some ⟨ready, .joined room⟩ →
      object.teardown = .alive) : Accounted object' := by
  obtain ⟨kept, flushes, done⟩ := accounted
  have quiet : ∀ {outcome : Outcome Conn Op}, Rooms.recorded outcome.2 = [] →
      Accounted (object.perform setup outcome) := by
    intro outcome nothing
    rw [object.perform_of_nothing setup nothing]
    exact ⟨kept, flushes, done⟩
  cases moves with
  | idles => exact ⟨kept, flushes, done⟩
  | enters conns isOpen => exact ⟨kept, flushes, done⟩
  | leaves conn stays => exact quiet (object.room.recorded_remove conn)
  | closes conn last =>
      rw [object.perform_of_nothing setup (object.room.recorded_remove conn)]
      exact ⟨kept, by simp, by simp⟩
  | hydrates content waiters opening opening' =>
      exact quiet (object.room.recorded_applyUpdate content .hydrate)
  | frames conn message isFrame ready joined =>
      have alive := live conn ready joined
      refine ⟨?_, fun ticket flushing => ?_, fun destroyed => ?_⟩
      · rw [RoomObject.perform, RoomObject.foldl_record_unsettled, ← List.append_assoc, ← kept]
      · exact absurd (alive.symm.trans flushing) (by simp)
      · exact absurd (alive.symm.trans destroyed) (by simp)
  | receives message isBus listens => exact quiet (object.room.recorded_receive message)
  | expires ids => exact quiet (object.room.recorded_expirePresence ids)
  | destroys leaving =>
      refine ⟨?_, fun ticket flushing => ?_, by simp [RoomObject.destroy]⟩
      · rw [RoomObject.destroy, DocumentWriter.close_unsettled]
        exact kept
      · cases flushing
        exact ⟨DocumentWriter.flush_pending, rfl⟩
  | ends ticket flushing resolved =>
      refine ⟨kept, by simp, fun _ => ?_⟩
      obtain ⟨empty, isTicket⟩ := flushes ticket flushing
      exact DocumentWriter.unsettled_eq_nil empty (isTicket ▸ resolved)
  | writes writing writer isWriter stepped =>
      have notRejected : writing ≠ .appendRejected := by
        rintro rfl
        exact succeeds room isWriter
      obtain ⟨pending, unsettled⟩ := drains_step notRejected stepped
      refine ⟨?_, fun ticket flushing => ?_, fun destroyed => unsettled (done destroyed)⟩
      · have settles := DocumentWriter.step_unsettled notRejected stepped
        rw [kept, settles, List.append_assoc]
      · obtain ⟨empty, isTicket⟩ := flushes ticket flushing
        exact ⟨(pending empty).1, (pending empty).2.trans isTicket⟩

end Slot

end CollabEditor.Instance
