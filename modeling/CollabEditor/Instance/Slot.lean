import CollabEditor.Library.Transition
import CollabEditor.Persistence.DocumentWriter
import CollabEditor.Ws.Dispatch

/-!
Owns what one server instance keeps under one document id: the entries of
`RoomRegistry`'s maps and of the bus's listeners, every `Room` object made for
the document, the document's connections and its entry in the store. All of
those maps are keyed by the document id, so an instance is one slot for each.

Code between two awaits is one event. A promise's reactions run before anything
else can call `join` for the document, so the waiters of an open are added to
the room together.

Assumes that a call of the store takes effect as a whole, before its promise
resolves, and that the bus publishes what it is given. Where `publish` throws is
`Instance.Registry`'s to say.
-/

namespace CollabEditor.Instance

open CollabEditor.Library CollabEditor.Yjs CollabEditor.Persistence CollabEditor.Rooms
open CollabEditor.Ws (dispatch)

universe u v w

/-- What a `RoomRegistry` is constructed with. -/
structure Setup (Op : Type u) [DecidableEq Op] (Entry : Type w) where
  store : DocumentStore Op Entry
  writerOptions : WriterOptions
  byteLength : Update Op → ℕ

/-- The socket's `readyState`. -/
inductive ReadyState where
  | opened
  | closing
  | closed
deriving DecidableEq

/-- How far `Connection.join` has come; rooms are numbered as they are made. -/
inductive JoinStage where
  | unauthenticated
  /-- Waits for the open of its document. -/
  | waiting
  /-- `rooms.join` ran `room.add`; `Connection.join` is about to go on. -/
  | added (room : ℕ)
  /-- `Connection.room` is set. -/
  | joined (room : ℕ)
  /-- `rooms.leave` was called, or the open failed. -/
  | left
deriving DecidableEq

/-- A `Connection`. -/
structure Connection where
  readyState : ReadyState
  stage : JoinStage
deriving DecidableEq

/-- How far `RoomRegistry.load` has come. -/
inductive Progress (Op : Type u) where
  /-- `store.load` was called. -/
  | reading
  /-- The store was read; the promise has not resolved. -/
  | read (loaded : LoadedDocument Op)
  /-- The room was made and `bus.subscribe` called. -/
  | subscribing (room : ℕ) (state : Option (Update Op))
  /-- `rooms.set` ran; the waiters have not been told. -/
  | opened (room : ℕ)
  | failed

/-- An entry of `opening`, with the connections that await it in order. -/
structure Load (Conn : Type v) (Op : Type u) where
  progress : Progress Op
  waiters : List Conn

/-- How far the `leave` that took a room out of the map has come. -/
inductive Teardown where
  | alive
  /-- `bus.unsubscribe` was called. -/
  | unsubscribing
  /-- `sink.close()` was called and returned this promise. -/
  | flushing (ticket : ℕ)
  | destroyed
deriving DecidableEq

/-- A `Room` object with its `DocumentWriter`, the updates it has recorded and
those whose append has settled. -/
structure RoomObject (Conn : Type v) (Op : Type u) where
  room : Room Conn Op
  writer : DocumentWriter Op
  teardown : Teardown
  recorded : List (Update Op)
  settled : List (Update Op)

structure Slot (Conn : Type v) (Op : Type u) (Entry : Type w) where
  connections : Conn → Option Connection
  /-- `rooms.get(documentId)`. -/
  registered : Option ℕ
  /-- `opening.get(documentId)`. -/
  opening : Option (Load Conn Op)
  /-- The bus's listener, by the room it hands messages to. -/
  listener : Option ℕ
  objects : List (RoomObject Conn Op)
  entry : Entry

inductive SlotEvent (Conn : Type v) (Op : Type u) where
  | connect (conn : Conn)
  | authenticate (conn : Conn)
  /-- One end calls `close`. -/
  | closing (conn : Conn)
  | socketClosed (conn : Conn)
  | storeRead
  | loadRejected
  /-- `store.load` resolves; the room's document draws `clientId`. -/
  | loadResolved (clientId : ℕ)
  | subscribed
  /-- The waiters of the open learn its outcome. -/
  | resume
  /-- `Connection.join` goes on after `rooms.join`. -/
  | proceed (conn : Conn)
  | frame (conn : Conn) (message : Message Op)
  | bus (message : BusMessage Op)
  | expirePresence (room : ℕ) (ids : List ℕ)
  | unsubscribed (room : ℕ)
  | destroyed (room : ℕ)
  | writer (room : ℕ) (event : WriterEvent)

/-- The room of a stage in which the client has been added. -/
def JoinStage.room? : JoinStage → Option ℕ
  | .added room | .joined room => some room
  | _ => none

variable {Conn : Type v} {Op : Type u} {Entry : Type w} [DecidableEq Conn] [DecidableEq Op]
  [Causality Op]

namespace RoomObject

/-- `new Room(documentId, new DocumentWriter(..), bus)`. -/
def new (clientId pendingUpdates : ℕ) : RoomObject Conn Op :=
  ⟨Room.new clientId, DocumentWriter.new pendingUpdates, .alive, [], []⟩

/-- The room's calls to its sink reach the writer. -/
def perform (setup : Setup Op Entry) (object : RoomObject Conn Op)
    (outcome : Outcome Conn Op) : RoomObject Conn Op :=
  { object with
    room := outcome.1
    writer := (Rooms.recorded outcome.2).foldl
      (DocumentWriter.record setup.writerOptions setup.byteLength) object.writer
    recorded := object.recorded ++ Rooms.recorded outcome.2 }

/-- `destroy`, up to its await. -/
def destroy (object : RoomObject Conn Op) : RoomObject Conn Op :=
  { object with
    writer := object.writer.close
    teardown := .flushing object.writer.close.ticket }

end RoomObject

namespace Slot

def initial (entry : Entry) : Slot Conn Op Entry :=
  ⟨fun _ => none, none, none, none, [], entry⟩

def modifyObject (slot : Slot Conn Op Entry) (room : ℕ)
    (f : RoomObject Conn Op → RoomObject Conn Op) : Slot Conn Op Entry :=
  { slot with objects := slot.objects.modify room f }

def setConnection (slot : Slot Conn Op Entry) (conn : Conn) (connection : Connection) :
    Slot Conn Op Entry :=
  { slot with connections := Function.update slot.connections conn (some connection) }

/-- Some connections get a new stage together. -/
def setStage (slot : Slot Conn Op Entry) (conns : List Conn) (stage : JoinStage) :
    Slot Conn Op Entry :=
  { slot with
    connections := fun conn =>
      if conn ∈ conns then
        (slot.connections conn).map fun connection => { connection with stage := stage }
      else slot.connections conn }

/-- `room.add` for each of some connections that joined, in order. -/
def enter (slot : Slot Conn Op Entry) (room : ℕ) (conns : List Conn) : Slot Conn Op Entry :=
  (slot.setStage conns (.added room)).modifyObject room fun object =>
    { object with room := conns.foldl (fun room conn => (room.add conn).1) object.room }

/-- `rooms.leave(room, client)`, up to its first await. It deletes by document
id: whatever room and listener the maps hold. -/
def leave (setup : Setup Op Entry) (slot : Slot Conn Op Entry) (room : ℕ) (conn : Conn) :
    Slot Conn Op Entry :=
  let removed := slot.modifyObject room fun object =>
    object.perform setup (object.room.remove conn)
  match removed.objects[room]? with
  | some object =>
      if object.room.clientCount > 0 then removed
      else { removed.modifyObject room fun object =>
          { object with teardown := .unsubscribing } with
        registered := none
        listener := none }
  | none => removed

/-- `rooms.join(client)`: into the registered room, onto a load in flight, or
into a load of its own. While an open's waiters have yet to be told, no other
code runs for the document. -/
def join (slot : Slot Conn Op Entry) (conn : Conn) : Option (Slot Conn Op Entry) :=
  match slot.opening, slot.registered with
  | some ⟨.opened _, _⟩, _ => none
  | some ⟨.failed, _⟩, _ => none
  | _, some room => some (slot.enter room [conn])
  | some load, none => some { slot.setStage [conn] .waiting with
      opening := some { load with waiters := load.waiters ++ [conn] } }
  | none, none => some { slot.setStage [conn] .waiting with
      opening := some ⟨.reading, [conn]⟩ }

/-- The waiters of a load that is over. When it failed, each of them closes its
socket. -/
def resume (slot : Slot Conn Op Entry) : Option (Slot Conn Op Entry) :=
  match slot.opening with
  | some ⟨.opened room, waiters⟩ => some { slot.enter room waiters with opening := none }
  | some ⟨.failed, waiters⟩ => some { slot with
      opening := none
      connections := fun conn =>
        if conn ∈ waiters then (slot.connections conn).map fun connection =>
          ⟨if connection.readyState = .closed then .closed else .closing, .left⟩
        else slot.connections conn }
  | _ => none

/-- `Connection.join` after `rooms.join`: a client that gave up leaves again. -/
def proceed (setup : Setup Op Entry) (slot : Slot Conn Op Entry) (conn : Conn) :
    Option (Slot Conn Op Entry) :=
  match slot.connections conn with
  | some ⟨.opened, .added room⟩ => some (slot.setStage [conn] (.joined room))
  | some ⟨_, .added room⟩ => some ((slot.setStage [conn] .left).leave setup room conn)
  | _ => none

/-- `Connection.onSocketClosed`. -/
def socketClosed (setup : Setup Op Entry) (slot : Slot Conn Op Entry) (conn : Conn) :
    Option (Slot Conn Op Entry) :=
  match slot.connections conn with
  | some ⟨.closed, _⟩ => none
  | some ⟨_, .joined room⟩ =>
      some ((slot.setConnection conn ⟨.closed, .left⟩).leave setup room conn)
  | some ⟨_, stage⟩ => some (slot.setConnection conn ⟨.closed, stage⟩)
  | none => none

/-- `if (state) room.hydrate(state)`. -/
def hydrate (setup : Setup Op Entry) (slot : Slot Conn Op Entry) (room : ℕ) :
    Option (Update Op) → Slot Conn Op Entry
  | some state => slot.modifyObject room fun object =>
      object.perform setup (object.room.hydrate state)
  | none => slot

/-- `requestState` throws, after `rooms.set`: the load rejects. -/
def requestThrows (setup : Setup Op Entry) (slot : Slot Conn Op Entry) :
    Option (Slot Conn Op Entry) :=
  match slot.opening with
  | some ⟨.subscribing room state, waiters⟩ =>
      some { slot.hydrate setup room state with
        registered := some room
        opening := some ⟨.failed, waiters⟩ }
  | _ => none

/-- `RoomRegistry.load`, from one await to the next, on a bus whose `publish` does
not throw. -/
def load (setup : Setup Op Entry) (slot : Slot Conn Op Entry) :
    SlotEvent Conn Op → Option (Slot Conn Op Entry)
  | .storeRead =>
      match slot.opening with
      | some ⟨.reading, waiters⟩ =>
          some { slot with opening := some ⟨.read (setup.store.load slot.entry), waiters⟩ }
      | _ => none
  | .loadRejected =>
      match slot.opening with
      | some ⟨.reading, waiters⟩ | some ⟨.read _, waiters⟩ =>
          some { slot with opening := some ⟨.failed, waiters⟩ }
      | _ => none
  | .loadResolved clientId =>
      match slot.opening with
      | some ⟨.read loaded, waiters⟩ => some { slot with
          objects := slot.objects ++ [RoomObject.new clientId loaded.pendingUpdates]
          listener := some slot.objects.length
          opening := some ⟨.subscribing slot.objects.length loaded.state, waiters⟩ }
      | _ => none
  | .subscribed =>
      match slot.opening with
      | some ⟨.subscribing room state, waiters⟩ =>
          some { slot.hydrate setup room state with
            registered := some room
            opening := some ⟨.opened room, waiters⟩ }
      | _ => none
  | _ => none

/-- An event of the document on this instance, whose bus can publish. -/
def step (setup : Setup Op Entry) (slot : Slot Conn Op Entry) :
    SlotEvent Conn Op → Option (Slot Conn Op Entry)
  | .connect conn =>
      match slot.connections conn with
      | none => some (slot.setConnection conn ⟨.opened, .unauthenticated⟩)
      | some _ => none
  | .authenticate conn =>
      match slot.connections conn with
      | some ⟨.opened, .unauthenticated⟩ | some ⟨.closing, .unauthenticated⟩ => slot.join conn
      | _ => none
  | .closing conn =>
      match slot.connections conn with
      | some ⟨.opened, stage⟩ => some (slot.setConnection conn ⟨.closing, stage⟩)
      | _ => none
  | .socketClosed conn => slot.socketClosed setup conn
  | .resume => slot.resume
  | .proceed conn => slot.proceed setup conn
  | .frame conn message =>
      match slot.connections conn with
      | some ⟨_, .joined room⟩ => some (slot.modifyObject room fun object =>
          object.perform setup (dispatch object.room conn message))
      | _ => none
  | .bus message =>
      match slot.listener with
      | some room => some (slot.modifyObject room fun object =>
          object.perform setup (object.room.receive message))
      | none => none
  | .expirePresence room ids => some (slot.modifyObject room fun object =>
      object.perform setup (object.room.expirePresence ids))
  | .unsubscribed room =>
      match slot.objects[room]? with
      | some object =>
          if object.teardown = .unsubscribing then some (slot.modifyObject room .destroy)
          else none
      | none => none
  | .destroyed room =>
      match slot.objects[room]? with
      | some object =>
          match object.teardown with
          | .flushing ticket =>
              if object.writer.Resolved ticket then some (slot.modifyObject room fun object =>
                { object with teardown := .destroyed })
              else none
          | _ => none
      | none => none
  | .writer room event =>
      match slot.objects[room]? with
      | some object =>
          (object.writer.step setup.store setup.writerOptions setup.byteLength slot.entry
            event).map fun (writer, entry) =>
              { slot.modifyObject room fun object =>
                  { object with
                    writer := writer
                    settled := object.settled ++ object.writer.settles event } with
                entry := entry }
      | none => none
  | event => slot.load setup event

/-- What a call of one of the room's methods publishes. -/
def publishedBy (slot : Slot Conn Op Entry) (room : ℕ)
    (call : Room Conn Op → Outcome Conn Op) : List (BusMessage Op) :=
  match slot.objects[room]? with
  | some object => published (call object.room).2
  | none => []

/-- The messages the code of an event publishes. -/
def publishes (slot : Slot Conn Op Entry) : SlotEvent Conn Op → List (BusMessage Op)
  | .socketClosed conn =>
      match slot.connections conn with
      | some ⟨_, .joined room⟩ => slot.publishedBy room (·.remove conn)
      | _ => []
  | .proceed conn =>
      match slot.connections conn with
      | some ⟨.opened, _⟩ => []
      | some ⟨_, .added room⟩ => slot.publishedBy room (·.remove conn)
      | _ => []
  | .subscribed =>
      match slot.opening with
      | some ⟨.subscribing room (some state), _⟩ => slot.publishedBy room (·.hydrate state) ++
          published (Room.requestState : List (Effect Conn Op))
      | some ⟨.subscribing _ none, _⟩ => published (Room.requestState : List (Effect Conn Op))
      | _ => []
  | .frame conn message =>
      match slot.connections conn with
      | some ⟨_, .joined room⟩ => slot.publishedBy room (dispatch · conn message)
      | _ => []
  | .bus message =>
      match slot.listener with
      | some room => slot.publishedBy room (·.receive message)
      | none => []
  | .expirePresence room ids => slot.publishedBy room (·.expirePresence ids)
  | _ => []

end Slot

end CollabEditor.Instance
