import CollabEditor.Yjs.Document
import CollabEditor.Yjs.Awareness

/-!
Owns `rooms/room.ts`: a document and an awareness with the clients editing
them. Every method returns the room it leaves behind and the calls it makes to
the sink, the bus and the clients, in order.

Does not own what those calls throw; of the bus that is `Instance.Registry`'s
and `Cluster.Opening`'s to say.
-/

namespace CollabEditor.Rooms

open CollabEditor.Library CollabEditor.Yjs

universe u v

/-- A `y-protocols/sync` message. -/
inductive SyncMessage (Op : Type u) where
  | step1 (vector : Finset Op)
  | step2 (update : Update Op)
  | update (update : Update Op)
deriving DecidableEq

/-- A decoded frame of `@cce/protocol`. -/
inductive Message (Op : Type u) where
  | sync (message : SyncMessage Op)
  | awareness (entries : List AwarenessEntry)
  | ping
  | pong
  | auth (token : String)
deriving DecidableEq

/-- A decoded bus message, without the publishing instance's id. -/
inductive BusMessage (Op : Type u) where
  | update (update : Update Op)
  | awareness (entries : List AwarenessEntry)
  | stateRequest
deriving DecidableEq

/-- The origin of a transaction on a room's document or awareness. -/
inductive Origin (Client : Type v) where
  | hydrate
  | remote
  | client (client : Client)
  | disconnect
  | timeout
deriving DecidableEq

/-- A call a room makes. -/
inductive Effect (Client : Type v) (Op : Type u) where
  | record (update : Update Op)
  | publish (message : BusMessage Op)
  | send (client : Client) (frame : Message Op)
  | sendPresence (client : Client) (frame : Message Op)

/-- The operations a sync message carries. -/
def SyncMessage.carried : SyncMessage Op → Update Op
  | .step1 _ => ∅
  | .step2 content | .update content => content

/-- The operations a frame carries. -/
def Message.carried : Message Op → Update Op
  | .sync message => message.carried
  | _ => ∅

/-- The operations a bus message carries. -/
def BusMessage.carried : BusMessage Op → Update Op
  | .update content => content
  | _ => ∅

variable {Client : Type v} {Op : Type u} [DecidableEq Client] [DecidableEq Op]

/-- `Room`, with the awareness ids each of its clients controls. -/
structure Room (Client : Type v) (Op : Type u) where
  doc : Doc Op
  awareness : Awareness
  clients : List Client
  controlled : Client → List ℕ

/-- A method's room and calls. -/
abbrev Outcome (Client : Type v) (Op : Type u) := Room Client Op × List (Effect Client Op)

namespace Room

/-- `new Room(id)`, whose document drew `clientId`. -/
def new (clientId : ℕ) : Room Client Op :=
  ⟨Doc.empty, Awareness.observer clientId, [], fun _ => []⟩

/-- `clientCount`. -/
def clientCount (room : Room Client Op) : ℕ := room.clients.length

/-- The clients a broadcast goes to: all but the origin of the change. -/
def audience (room : Room Client Op) (origin : Origin Client) : List Client :=
  room.clients.filter fun client => origin ≠ .client client

/-- `onDocUpdate`. -/
def onDocUpdate (room : Room Client Op) (update : Update Op) (origin : Origin Client) :
    List (Effect Client Op) :=
  (if origin ≠ .hydrate ∧ origin ≠ .remote then
    [.record update, .publish (.update update)] else []) ++
  (room.audience origin).map fun client => .send client (.sync (.update update))

/-- `onAwarenessUpdate`. -/
def onAwarenessUpdate (room : Room Client Op) (change : AwarenessChange)
    (origin : Origin Client) : Outcome Client Op :=
  let owned : Client → List ℕ :=
    match origin with
    | .client client => Function.update room.controlled client
        ((room.controlled client ++ change.added.filter (· ∉ room.controlled client)).filter
          (· ∉ change.removed))
    | _ => room.controlled
  let payload := room.awareness.encodeUpdate change.all
  ({ room with controlled := owned },
    (if origin ≠ .remote then [.publish (.awareness payload)] else []) ++
    (room.audience origin).map fun client => .sendPresence client (.awareness payload))

/-- The awareness once a change is applied; its event runs `onAwarenessUpdate`. -/
def changeAwareness (room : Room Client Op) (changed : Awareness × AwarenessChange)
    (origin : Origin Client) : Outcome Client Op :=
  if changed.2 = .empty then ({ room with awareness := changed.1 }, [])
  else { room with awareness := changed.1 }.onAwarenessUpdate changed.2 origin

variable [Causality Op]

/-- `Y.applyUpdate(this.doc, update, origin)`; its event runs `onDocUpdate`. -/
def applyUpdate (room : Room Client Op) (update : Update Op) (origin : Origin Client) :
    Outcome Client Op :=
  ({ room with doc := room.doc.apply update },
    match room.doc.event update with
    | some fresh => room.onDocUpdate fresh origin
    | none => [])

/-- `hydrate`. -/
def hydrate (room : Room Client Op) (state : Update Op) : Outcome Client Op :=
  room.applyUpdate state .hydrate

/-- `add`. -/
def add (room : Room Client Op) (client : Client) : Outcome Client Op :=
  ({ room with
      clients := if client ∈ room.clients then room.clients else room.clients ++ [client] },
    .send client (.sync (.step1 room.doc.stateVector)) ::
      if room.awareness.states.keys = [] then []
      else [.sendPresence client
        (.awareness (room.awareness.encodeUpdate room.awareness.states.keys))])

/-- `remove`. -/
def remove (room : Room Client Op) (client : Client) : Outcome Client Op :=
  { room with clients := room.clients.filter (· ≠ client) }.changeAwareness
    (room.awareness.removeStates (room.controlled client)) .disconnect

/-- `handleSync`, which answers a step 1 and applies the rest. -/
def handleSync (room : Room Client Op) (client : Client) : SyncMessage Op → Outcome Client Op
  | .step1 vector =>
      (room, [.send client (.sync (.step2 (room.doc.encodeStateAsUpdate vector)))])
  | .step2 update => room.applyUpdate update (.client client)
  | .update update => room.applyUpdate update (.client client)

/-- `handleAwareness`. -/
def handleAwareness (room : Room Client Op) (client : Client)
    (entries : List AwarenessEntry) : Outcome Client Op :=
  room.changeAwareness (room.awareness.applyUpdate entries) (.client client)

/-- `Awareness` drops the states it has not heard about for too long. -/
def expirePresence (room : Room Client Op) (ids : List ℕ) : Outcome Client Op :=
  room.changeAwareness (room.awareness.removeStates ids) .timeout

/-- `requestState`. -/
def requestState : List (Effect Client Op) := [.publish .stateRequest]

/-- `answerStateRequest`. -/
def answerStateRequest (room : Room Client Op) : List (Effect Client Op) :=
  .publish (.update (room.doc.encodeStateAsUpdate ∅)) ::
    if room.awareness.states.keys = [] then []
    else [.publish (.awareness (room.awareness.encodeUpdate room.awareness.states.keys))]

/-- `receive`. -/
def receive (room : Room Client Op) : BusMessage Op → Outcome Client Op
  | .update update => room.applyUpdate update .remote
  | .awareness entries => room.changeAwareness (room.awareness.applyUpdate entries) .remote
  | .stateRequest => (room, if room.clientCount > 0 then room.answerStateRequest else [])

end Room

/-! ### What the calls carry -/

/-- The update a call hands to the sink. -/
def Effect.recorded? : Effect Client Op → Option (Update Op)
  | .record content => some content
  | _ => none

/-- The message a call puts on the bus. -/
def Effect.published? : Effect Client Op → Option (BusMessage Op)
  | .publish message => some message
  | _ => none

/-- The frame a call sends to `client`. -/
def Effect.frameTo? (client : Client) : Effect Client Op → Option (Message Op)
  | .send receiver frame | .sendPresence receiver frame =>
      if receiver = client then some frame else none
  | _ => none

/-- The updates some calls hand to the sink, in order. -/
def recorded (effects : List (Effect Client Op)) : List (Update Op) :=
  effects.filterMap Effect.recorded?

/-- The messages some calls put on the bus, in order. -/
def published (effects : List (Effect Client Op)) : List (BusMessage Op) :=
  effects.filterMap Effect.published?

/-- The frames some calls send to `client`, in order. -/
def framesTo (client : Client) (effects : List (Effect Client Op)) : List (Message Op) :=
  effects.filterMap (Effect.frameTo? client)

/-- A call that only concerns presence. -/
def Effect.IsPresence : Effect Client Op → Prop
  | .publish (.awareness _) | .sendPresence _ (.awareness _) => True
  | _ => False

omit [DecidableEq Client] [DecidableEq Op] in
theorem recorded_of_presence {effects : List (Effect Client Op)}
    (presence : ∀ effect ∈ effects, effect.IsPresence) : recorded effects = [] := by
  rw [recorded, List.filterMap_eq_nil_iff]
  intro effect member
  have isPresence := presence effect member
  cases effect <;> first
    | rfl
    | exact isPresence.elim

omit [DecidableEq Client] [DecidableEq Op] in
theorem published_of_presence {effects : List (Effect Client Op)}
    (presence : ∀ effect ∈ effects, effect.IsPresence) :
    ∀ message ∈ published effects, ∃ entries, message = .awareness entries := by
  intro message member
  obtain ⟨effect, inEffects, isPublish⟩ := List.mem_filterMap.mp member
  have isPresence := presence effect inEffects
  cases effect with
  | publish sent =>
      cases isPublish
      cases message with
      | awareness entries => exact ⟨entries, rfl⟩
      | update content => exact isPresence.elim
      | stateRequest => exact isPresence.elim
  | record content => cases isPublish
  | send receiver frame => cases isPublish
  | sendPresence receiver frame => cases isPublish

omit [DecidableEq Op] in
theorem framesTo_of_presence {effects : List (Effect Client Op)}
    (presence : ∀ effect ∈ effects, effect.IsPresence) (client : Client) :
    ∀ frame ∈ framesTo client effects, ∃ entries, frame = .awareness entries := by
  intro frame member
  obtain ⟨effect, inEffects, isFrame⟩ := List.mem_filterMap.mp member
  have isPresence := presence effect inEffects
  cases effect with
  | sendPresence receiver sent =>
      simp only [Effect.frameTo?] at isFrame
      split at isFrame
      · cases isFrame
        cases frame with
        | awareness entries => exact ⟨entries, rfl⟩
        | sync message => exact isPresence.elim
        | ping => exact isPresence.elim
        | pong => exact isPresence.elim
        | auth token => exact isPresence.elim
      · cases isFrame
  | send receiver sent => exact isPresence.elim
  | record content => cases isFrame
  | publish sent => cases isFrame

namespace Room

section

omit [DecidableEq Op]

theorem changeAwareness_doc (room : Room Client Op) (changed : Awareness × AwarenessChange)
    (origin : Origin Client) :
    (room.changeAwareness changed origin).1.doc = room.doc ∧
      (room.changeAwareness changed origin).1.clients = room.clients := by
  unfold changeAwareness
  split <;> exact ⟨rfl, rfl⟩

/-- Presence changes reach the bus and the clients as presence only. -/
theorem changeAwareness_presence (room : Room Client Op)
    (changed : Awareness × AwarenessChange) (origin : Origin Client) :
    ∀ effect ∈ (room.changeAwareness changed origin).2, effect.IsPresence := by
  intro effect member
  unfold changeAwareness onAwarenessUpdate at member
  split at member
  · cases member
  · rcases List.mem_append.mp member with publishes | sends
    · split at publishes
      · rw [List.mem_singleton.mp publishes]
        trivial
      · cases publishes
    · obtain ⟨client, -, rfl⟩ := List.mem_map.mp sends
      trivial

theorem changeAwareness_publishes_nothing (room : Room Client Op)
    (changed : Awareness × AwarenessChange) :
    published (room.changeAwareness changed .remote).2 = [] := by
  rw [published, List.filterMap_eq_nil_iff]
  intro effect member
  unfold changeAwareness onAwarenessUpdate at member
  split at member
  · cases member
  · simp only [ne_eq, not_true_eq_false, ↓reduceIte, List.nil_append] at member
    obtain ⟨client, -, rfl⟩ := List.mem_map.mp member
    rfl

end

variable [Causality Op]

@[simp] theorem applyUpdate_room (room : Room Client Op) (update : Update Op)
    (origin : Origin Client) :
    (room.applyUpdate update origin).1 = { room with doc := room.doc.apply update } := rfl

/-- Only what a client's transaction integrates is handed to the sink. -/
theorem recorded_applyUpdate (room : Room Client Op) (update : Update Op)
    (origin : Origin Client) :
    recorded (room.applyUpdate update origin).2 =
      if origin ≠ .hydrate ∧ origin ≠ .remote then (room.doc.event update).toList else [] := by
  unfold applyUpdate
  cases room.doc.event update with
  | none => simp [recorded]
  | some fresh =>
      simp only [onDocUpdate, recorded, List.filterMap_append, List.filterMap_map]
      split <;> simp [Effect.recorded?, Function.comp_def]

theorem published_applyUpdate (room : Room Client Op) (update : Update Op)
    (origin : Origin Client) :
    published (room.applyUpdate update origin).2 =
      if origin ≠ .hydrate ∧ origin ≠ .remote then
        (room.doc.event update).toList.map .update else [] := by
  unfold applyUpdate
  cases room.doc.event update with
  | none => simp [published]
  | some fresh =>
      simp only [onDocUpdate, published, List.filterMap_append, List.filterMap_map]
      split
      · simp [List.filterMap_cons, Effect.published?, Function.comp_def]
      · simp [Effect.published?, Function.comp_def]

theorem recorded_receive (room : Room Client Op) (message : BusMessage Op) :
    recorded (room.receive message).2 = [] := by
  cases message with
  | update content => exact room.recorded_applyUpdate content .remote
  | awareness entries => exact recorded_of_presence (room.changeAwareness_presence _ _)
  | stateRequest =>
      rw [receive]
      dsimp only
      split
      · rw [answerStateRequest]
        split <;> rfl
      · rfl

/-- Only a state request is answered on the bus, and only with a client there. -/
theorem published_receive (room : Room Client Op) {message answer : BusMessage Op}
    (member : answer ∈ published (room.receive message).2) :
    message = .stateRequest ∧ room.clientCount > 0 ∧
      ((∃ entries, answer = .awareness entries) ∨ answer = .update room.doc.received) := by
  cases message with
  | update content =>
      rw [receive, room.published_applyUpdate, if_neg fun both => both.2 rfl] at member
      cases member
  | awareness entries =>
      rw [receive, room.changeAwareness_publishes_nothing] at member
      cases member
  | stateRequest =>
      simp only [receive] at member
      split at member
      · next occupied =>
          refine ⟨rfl, occupied, ?_⟩
          have whole : room.doc.encodeStateAsUpdate ∅ = room.doc.received := Finset.sdiff_empty
          rw [answerStateRequest, whole, published, List.filterMap_cons] at member
          rcases List.mem_cons.mp member with update | presence
          · exact Or.inr update
          · split at presence
            · cases presence
            · rw [List.mem_singleton.mp presence]
              exact Or.inl ⟨_, rfl⟩
      · cases member

omit [Causality Op] [DecidableEq Op] in
theorem recorded_remove (room : Room Client Op) (leaving : Client) :
    recorded (room.remove leaving).2 = [] :=
  recorded_of_presence (changeAwareness_presence _ _ _)

omit [Causality Op] [DecidableEq Op] in
theorem recorded_expirePresence (room : Room Client Op) (ids : List ℕ) :
    recorded (room.expirePresence ids).2 = [] :=
  recorded_of_presence (room.changeAwareness_presence _ _)

end Room

end CollabEditor.Rooms
