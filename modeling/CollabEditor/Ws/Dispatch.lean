import CollabEditor.Rooms.Broadcast

/-!
Owns what a `Connection` does with a frame of a client that has joined.
-/

namespace CollabEditor.Ws

open CollabEditor.Library CollabEditor.Yjs CollabEditor.Rooms

universe u v

variable {Client : Type v} {Op : Type u} [DecidableEq Client] [DecidableEq Op] [Causality Op]

/-- `Connection.dispatch`. -/
def dispatch (room : Room Client Op) (client : Client) : Message Op → Outcome Client Op
  | .sync message => room.handleSync client message
  | .awareness entries => room.handleAwareness client entries
  | .ping => (room, [.send client .pong])
  | _ => (room, [])

theorem informs_dispatch (room : Room Client Op) {sender client : Client}
    (other : sender ≠ client) (frame : Message Op) :
    Informs room (dispatch room sender frame) client := by
  cases frame with
  | sync message => exact room.informs_handleSync other message
  | awareness entries => exact room.informs_changeAwareness _ _ _
  | ping => exact Room.informs_of_quiet (by simp [framesTo, Effect.frameTo?, other])
  | pong => exact Room.informs_of_quiet rfl
  | auth token => exact Room.informs_of_quiet rfl

/-- Whatever a frame carries is given to the room's document. -/
theorem dispatch_doc (room : Room Client Op) (client : Client) (frame : Message Op) :
    (dispatch room client frame).1.doc = room.doc.apply frame.carried ∧
      (dispatch room client frame).1.clients = room.clients := by
  have unchanged : room.doc = room.doc.apply ∅ := by
    cases room.doc
    simp [Doc.apply]
  cases frame with
  | sync message =>
      cases message with
      | step1 vector => exact ⟨unchanged, rfl⟩
      | step2 update => exact ⟨rfl, rfl⟩
      | update update => exact ⟨rfl, rfl⟩
  | awareness entries =>
      obtain ⟨sameDoc, sameClients⟩ := room.changeAwareness_doc
        (room.awareness.applyUpdate entries) (.client client)
      exact ⟨sameDoc.trans unchanged, sameClients⟩
  | ping => exact ⟨unchanged, rfl⟩
  | pong => exact ⟨unchanged, rfl⟩
  | auth token => exact ⟨unchanged, rfl⟩

/-- What a frame integrates is handed to the sink. -/
theorem integrated_dispatch (room : Room Client Op) (client : Client) (frame : Message Op) :
    (dispatch room client frame).1.doc.integrated =
      room.doc.integrated ∪ mergeUpdates (recorded (dispatch room client frame).2) := by
  have quiet : ∀ effects : List (Effect Client Op), recorded effects = [] →
      room.doc.integrated = room.doc.integrated ∪ mergeUpdates (recorded effects) := by
    intro effects none
    simp [none]
  have applied : ∀ update : Update Op, (room.doc.apply update).integrated =
      room.doc.integrated ∪
        mergeUpdates (recorded (room.applyUpdate update (.client client)).2) := by
    intro update
    have toSink : mergeUpdates (room.doc.event update).toList = room.doc.fresh update := by
      rw [← Doc.event_getD]
      cases room.doc.event update <;> simp
    rw [room.recorded_applyUpdate, if_pos ⟨nofun, nofun⟩, toSink, Doc.integrated_apply]
  cases frame with
  | sync message =>
      cases message with
      | step1 vector => exact quiet _ rfl
      | step2 update => exact applied update
      | update update => exact applied update
  | awareness entries =>
      obtain ⟨sameDoc, -⟩ := room.changeAwareness_doc
        (room.awareness.applyUpdate entries) (.client client)
      have presence := room.changeAwareness_presence
        (room.awareness.applyUpdate entries) (.client client)
      rw [dispatch, Room.handleAwareness, sameDoc]
      exact quiet _ (recorded_of_presence presence)
  | ping => exact quiet _ rfl
  | pong => exact quiet _ rfl
  | auth token => exact quiet _ rfl

/-- A frame reaches the bus as presence or as what it integrates. -/
theorem published_dispatch (room : Room Client Op) (client : Client) (frame : Message Op)
    {message : BusMessage Op} (member : message ∈ published (dispatch room client frame).2) :
    (∃ entries, message = .awareness entries) ∨
      ∃ update, message = .update update ∧ room.doc.event frame.carried = some update := by
  have applied : ∀ update : Update Op,
      message ∈ published (room.applyUpdate update (.client client)).2 →
        ∃ fresh, message = .update fresh ∧ room.doc.event update = some fresh := by
    intro update inPublished
    rw [room.published_applyUpdate, if_pos ⟨nofun, nofun⟩] at inPublished
    obtain ⟨fresh, isFresh, rfl⟩ := List.mem_map.mp inPublished
    exact ⟨fresh, rfl, Option.mem_toList.mp isFresh⟩
  cases frame with
  | sync content =>
      cases content with
      | step1 vector => cases member
      | step2 update => exact Or.inr (applied update member)
      | update update => exact Or.inr (applied update member)
  | awareness entries =>
      have presence := room.changeAwareness_presence
        (room.awareness.applyUpdate entries) (.client client)
      exact Or.inl (published_of_presence presence message member)
  | ping => cases member
  | pong => cases member
  | auth token => cases member

theorem carriedBy_dispatch_subset (room : Room Client Op) (client : Client)
    (frame : Message Op) :
    carriedBy (framesTo client (dispatch room client frame).2) ⊆ room.doc.received := by
  have applied : ∀ update : Update Op,
      carriedBy (framesTo client (room.applyUpdate update (.client client)).2) ⊆
        room.doc.received := by
    intro update
    rw [room.framesTo_applyUpdate_eq_nil update fun both => both.2 rfl]
    exact Finset.empty_subset _
  cases frame with
  | sync message =>
      cases message with
      | step1 vector =>
          simpa [dispatch, Room.handleSync, framesTo, Effect.frameTo?, Message.carried,
            SyncMessage.carried] using room.doc.encodeStateAsUpdate_subset vector
      | step2 update => exact applied update
      | update update => exact applied update
  | awareness entries =>
      have presence := room.changeAwareness_presence
        (room.awareness.applyUpdate entries) (.client client)
      have nothing := carriedBy_of_presence presence client
      exact nothing ▸ Finset.empty_subset _
  | ping =>
      simp [dispatch, framesTo, Effect.frameTo?, Message.carried]
  | pong => exact Finset.empty_subset _
  | auth token => exact Finset.empty_subset _

end CollabEditor.Ws
