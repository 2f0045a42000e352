import CollabEditor.Library.Transition
import CollabEditor.Ws.Dispatch

/-!
Owns one room with the sockets of its clients, seen from both ends: the
`CollabProvider` of `provider.ts` on the client's side and the `Connection` of
`connection.ts` on the server's. Sockets are FIFO; tokens verify and no document
frame is over the rate limit, since either would close the socket. A client
that reconnects is a new one that brings the same document.

Does not own the send buffer of a socket, which never fills up here, and the
heartbeat: see `Ws.Client` and `Ws.Heartbeat`.
-/

namespace CollabEditor.Ws

open CollabEditor.Library CollabEditor.Yjs CollabEditor.Rooms

universe u v

/-- `MAX_QUEUED_FRAMES`. -/
def maxQueuedFrames : ℕ := 32

/-- How far a `Connection` has come. -/
inductive Stage where
  | unauthenticated
  /-- `user` is set and `rooms.join` has not resolved. -/
  | joining
  /-- `room.add` ran and `join` is about to go on. -/
  | added
  /-- `room` is set. -/
  | joined
  /-- The socket's `close` event was handled. -/
  | closed
deriving DecidableEq

/-- A socket: the client's document, the frames in flight each way and the
server's `Connection`. -/
structure Endpoint (Op : Type u) where
  doc : Doc Op
  opened : Bool
  up : List (Message Op)
  down : List (Message Op)
  stage : Stage
  queued : List (Message Op)

/-- A room and its sockets; `replaying` names the connection whose `join` is
dispatching its queued frames. -/
structure Session (Client : Type v) (Op : Type u) where
  room : Room Client Op
  ends : Client → Endpoint Op
  replaying : Option Client

/-- What the client's side does. -/
inductive ClientAction (Op : Type u) where
  | onopen (token : String) (presence : Option (List AwarenessEntry))
  | edit (update : Update Op)
  | announce (entries : List AwarenessEntry)
  | ping
  | onFrame

/-- What happens next: a client's action, the server taking a frame off a
socket or refusing a presence frame, `rooms.join` resolving and `join` going
on, a socket closing, a bus message, or presence timing out. -/
inductive Event (Client : Type v) (Op : Type u) where
  | client (client : Client) (action : ClientAction Op)
  | receive (client : Client)
  | refusePresence (client : Client)
  | join (client : Client)
  | resume (client : Client)
  | replay
  | close (client : Client)
  | bus (message : BusMessage Op)
  | expirePresence (ids : List ℕ)

variable {Client : Type v} {Op : Type u} [DecidableEq Client] [DecidableEq Op] [Causality Op]

namespace Endpoint

/-- `CollabProvider.send`, which only sends on an open socket. -/
def send (endpoint : Endpoint Op) (frames : List (Message Op)) : Endpoint Op :=
  if endpoint.opened then { endpoint with up := endpoint.up ++ frames } else endpoint

/-- `socket.onopen`: the token, our state vector and our presence if we have
one. -/
def onOpen (endpoint : Endpoint Op) (token : String)
    (presence : Option (List AwarenessEntry)) : Endpoint Op :=
  { endpoint with opened := true }.send
    (.auth token :: .sync (.step1 endpoint.doc.stateVector) ::
      presence.toList.map .awareness)

/-- An edit, whose update event runs `onDocUpdate`. -/
def edit (endpoint : Endpoint Op) (update : Update Op) : Endpoint Op :=
  { endpoint with doc := endpoint.doc.apply update }.send
    ((endpoint.doc.event update).toList.map fun fresh => .sync (.update fresh))

/-- `CollabProvider.onFrame`. What it applies is not sent back. -/
def onFrame (endpoint : Endpoint Op) : Message Op → Endpoint Op
  | .sync (.step1 vector) =>
      endpoint.send [.sync (.step2 (endpoint.doc.encodeStateAsUpdate vector))]
  | .sync (.step2 update) => { endpoint with doc := endpoint.doc.apply update }
  | .sync (.update update) => { endpoint with doc := endpoint.doc.apply update }
  | _ => endpoint

/-- One action of the client. An edit only makes operations whose predecessors
its document has. A frame that the server sent while adding the client is
answered after the task that added it, hence after `resume`. -/
def act (endpoint : Endpoint Op) : ClientAction Op → Option (Endpoint Op)
  | .onopen token presence =>
      if endpoint.opened = true ∨ endpoint.stage = .closed then none
      else some (endpoint.onOpen token presence)
  | .edit update =>
      if update ⊆ (endpoint.doc.apply update).integrated then some (endpoint.edit update)
      else none
  | .announce entries => some (endpoint.send [.awareness entries])
  | .ping => some (endpoint.send [.ping])
  | .onFrame =>
      match endpoint.stage, endpoint.down with
      | .added, _ | _, [] => none
      | _, frame :: rest => some ({ endpoint with down := rest }.onFrame frame)

/-- A closed socket; what was in flight or queued is gone. -/
def close (endpoint : Endpoint Op) : Endpoint Op :=
  { endpoint with opened := false, up := [], down := [], stage := .closed, queued := [] }

end Endpoint

namespace Session

def setEnd (session : Session Client Op) (client : Client) (endpoint : Endpoint Op) :
    Session Client Op :=
  { session with ends := Function.update session.ends client endpoint }

/-- The room's calls put frames on the sockets. -/
def perform (session : Session Client Op) (outcome : Outcome Client Op) :
    Session Client Op :=
  { session with
    room := outcome.1
    ends := fun client =>
      { session.ends client with
        down := (session.ends client).down ++ framesTo client outcome.2 } }

/-- `Connection.onFrame` on a frame just taken off the socket. A frame before
the token closes the socket. -/
def onFrame (session : Session Client Op) (client : Client) (frame : Message Op) :
    Option (Session Client Op) :=
  let endpoint := session.ends client
  match endpoint.stage with
  | .unauthenticated =>
      match frame with
      | .auth _ => some (session.setEnd client { endpoint with stage := .joining })
      | _ => none
  | .joining | .added =>
      if endpoint.queued.length < maxQueuedFrames then
        some (session.setEnd client { endpoint with queued := endpoint.queued ++ [frame] })
      else some session
  | .joined => some (session.perform (dispatch session.room client frame))
  | .closed => none

/-- `Connection.onSocketClosed`. A connection still joining is added to the
room and removed again later, which changes nothing. -/
def onSocketClosed (session : Session Client Op) (client : Client) : Session Client Op :=
  match (session.ends client).stage with
  | .added | .joined =>
      (session.setEnd client (session.ends client).close).perform (session.room.remove client)
  | _ => session.setEnd client (session.ends client).close

/-- A step of the server; `join` replays its queue without interruption. -/
def serve (session : Session Client Op) : Event Client Op → Option (Session Client Op)
  | .receive client =>
      match (session.ends client).up with
      | [] => none
      | frame :: rest =>
          (session.setEnd client { session.ends client with up := rest }).onFrame client frame
  | .refusePresence client =>
      match (session.ends client).up with
      | .awareness _ :: rest =>
          if (session.ends client).stage = .unauthenticated then none
          else some (session.setEnd client { session.ends client with up := rest })
      | _ => none
  | .join client =>
      if (session.ends client).stage = .joining then
        some ((session.setEnd client { session.ends client with stage := .added }).perform
          (session.room.add client))
      else none
  | .resume client =>
      if (session.ends client).stage = .added then
        some { session.setEnd client { session.ends client with stage := .joined } with
          replaying := some client }
      else none
  | .close client => some (session.onSocketClosed client)
  | .bus message => some (session.perform (session.room.receive message))
  | .expirePresence ids => some (session.perform (session.room.expirePresence ids))
  | _ => none

/-- The next queued frame, or the end of the queue. -/
def replay (session : Session Client Op) (client : Client) : Session Client Op :=
  match (session.ends client).queued with
  | [] => { session with replaying := none }
  | frame :: rest =>
      (session.setEnd client { session.ends client with queued := rest }).perform
        (dispatch session.room client frame)

def step (session : Session Client Op) (event : Event Client Op) :
    Option (Session Client Op) :=
  match event, session.replaying with
  | .client client action, _ =>
      ((session.ends client).act action).map (session.setEnd client)
  | .replay, some client => some (session.replay client)
  | event, none => session.serve event
  | _, some _ => none

/-- Nobody has connected yet; the documents are arbitrary. -/
def Initial (session : Session Client Op) : Prop :=
  session.room.clients = [] ∧ session.replaying = none ∧
    ∀ client, (session.ends client).opened = false ∧ (session.ends client).up = [] ∧
      (session.ends client).down = [] ∧ (session.ends client).stage = .unauthenticated ∧
      (session.ends client).queued = []

/-- A room and documents nobody has connected yet. -/
def start (doc : Doc Op) (docs : Client → Doc Op) : Session Client Op where
  room := { (Room.new 0 : Room Client Op) with doc := doc }
  ends client := ⟨docs client, false, [], [], .unauthenticated, []⟩
  replaying := none

omit [DecidableEq Client] [DecidableEq Op] [Causality Op] in
theorem start_initial (doc : Doc Op) (docs : Client → Doc Op) :
    (start doc docs : Session Client Op).Initial :=
  ⟨rfl, rfl, fun _ => ⟨rfl, rfl, rfl, rfl, rfl⟩⟩

end Session

/-- Connected with every frame of the socket delivered and dispatched. -/
def Endpoint.Drained (endpoint : Endpoint Op) : Prop :=
  endpoint.opened = true ∧ endpoint.up = [] ∧ endpoint.down = [] ∧ endpoint.queued = []

instance (endpoint : Endpoint Op) : Decidable endpoint.Drained :=
  inferInstanceAs (Decidable (_ ∧ _))

end CollabEditor.Ws
