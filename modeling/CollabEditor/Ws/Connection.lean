import CollabEditor.Protocol.Messages
import CollabEditor.Ws.RateLimit
import CollabEditor.Ws.Session

/-!
Owns `ws/connection.ts` at the level of frames: authentication, the inbound
limits, the queue that fills while the document loads, its replay, and which
exceptions are caught. The room and the token check are what they are given.
-/

namespace CollabEditor.Ws

open CollabEditor.Library CollabEditor.Protocol

universe u v

/-- The inbound part of `config`, and the `maxPayload` of the gateway. -/
structure Limits where
  bytesPerSecond : ℕ
  minFrameCost : ℕ
  presencePerSecond : ℕ
  maxPayload : ℕ

/-- The defaults. -/
def Limits.default : Limits := ⟨1024 * 1024, 1024, 60, 1024 * 1024⟩

/-- What a `Connection` calls; a handler that throws leaves the room alone. -/
structure Services (Claims : Type u) (Room : Type v) where
  verifyToken : ℤ → JsString → Option Claims
  handleSync : Room → List UInt8 → Option Room
  handleAwareness : Room → List UInt8 → Option Room

/-- `socket.readyState`. -/
inductive ReadyState where
  | isOpen
  | closing
  | closed
deriving DecidableEq

/-- `Connection`, with what it has done so far. -/
structure Connection (Claims : Type u) (Room : Type v) where
  readyState : ReadyState
  /-- The WebSocket gave up on its input after a frame over `maxPayload`. -/
  deaf : Bool
  authTimer : Bool
  user : Option Claims
  /-- `rooms.join` is pending. -/
  joining : Bool
  room : Option Room
  queued : List (List UInt8)
  documentBudget : TokenBucket
  presenceBudget : TokenBucket
  /-- The messages that passed the limits. -/
  admitted : List Message
  /-- Those of them that were queued or dispatched. -/
  accepted : List Message
  /-- The messages `dispatch` was called with. -/
  dispatched : List Message
  /-- The inbound limits closed the socket. -/
  refused : Bool
  /-- The codes `client.close` was called with. -/
  closes : List CloseCode
  /-- An exception left an event handler. -/
  escaped : Bool

inductive ConnectionEvent (Room : Type v) where
  /-- A binary message of the WebSocket, and the reading of `Date.now`. -/
  | message (frame : List UInt8) (now : ℤ)
  | joinResolved (room : Room)
  | joinRejected
  | authTimeout
  /-- Somebody else changes the room. -/
  | roomChanges (room : Room)
  /-- The peer, the heartbeat, backpressure or a shutdown closes the socket. -/
  | socketCloses
  | socketClosed

/-- What a replay leaves: the room, the messages `dispatch` was called with and
whether one of the calls threw. -/
structure Replay (Room : Type v) where
  room : Room
  dispatched : List Message
  threw : Bool

variable {Claims : Type u} {Room : Type v}

namespace Services

/-- `dispatch`; `none` when it throws. -/
def dispatch (services : Services Claims Room) (room : Room) : Message → Option Room
  | .sync payload => services.handleSync room payload
  | .awareness payload => services.handleAwareness room payload
  | _ => some room

/-- `for (const frame of this.queued) this.dispatch(room, decodeMessage(frame))`. -/
def replay (services : Services Claims Room) : Room → List (List UInt8) → Replay Room
  | room, [] => ⟨room, [], false⟩
  | room, frame :: rest =>
      match decodeMessage frame with
      | none => ⟨room, [], true⟩
      | some message =>
          match services.dispatch room message with
          | none => ⟨room, [message], true⟩
          | some next =>
              let later := services.replay next rest
              { later with dispatched := message :: later.dispatched }

/-- Each of some messages can be applied after the ones before it. -/
def Applies (services : Services Claims Room) : Room → List Message → Prop
  | _, [] => True
  | room, message :: rest =>
      ∃ next, services.dispatch room message = some next ∧ services.Applies next rest

end Services

namespace Connection

/-- `new Connection(client, ..)` and its `start`. -/
def start (limits : Limits) (now : ℤ) : Connection Claims Room where
  readyState := .isOpen
  deaf := false
  authTimer := true
  user := none
  joining := false
  room := none
  queued := []
  documentBudget := .new (limits.bytesPerSecond * 2) limits.bytesPerSecond now
  presenceBudget := .new (limits.presencePerSecond * 2) limits.presencePerSecond now
  admitted := []
  accepted := []
  dispatched := []
  refused := false
  closes := []
  escaped := false

/-- The socket starts closing unless it already has. -/
def closing (connection : Connection Claims Room) : Connection Claims Room :=
  match connection.readyState with
  | .isOpen => { connection with readyState := .closing }
  | _ => connection

/-- `client.close`. -/
def close (connection : Connection Claims Room) (code : CloseCode) : Connection Claims Room :=
  { connection.closing with closes := connection.closes ++ [code] }

/-- What a message costs in bytes. -/
def cost (limits : Limits) (size : ℕ) : ℚ := (max size limits.minFrameCost : ℕ)

/-- `withinLimits`. -/
def withinLimits (limits : Limits) (connection : Connection Claims Room) (message : Message)
    (size : ℕ) (now : ℤ) : Bool × Connection Claims Room :=
  match message with
  | .awareness _ =>
      let taken := connection.presenceBudget.take now 1
      (taken.1, { connection with presenceBudget := taken.2 })
  | _ =>
      let taken := connection.documentBudget.take now (cost limits size)
      let charged := { connection with documentBudget := taken.2 }
      if taken.1 then (true, charged)
      else (false, { charged.close .rateLimited with refused := true })

/-- `authenticate`. -/
def authenticate (services : Services Claims Room) (connection : Connection Claims Room)
    (token : JsString) (now : ℤ) : Connection Claims Room :=
  match services.verifyToken now token with
  | none => connection.close .unauthorized
  | some claims => { connection with authTimer := false, user := some claims, joining := true }

/-- A message that passed the limits is queued while the document loads, if
there is space, and dispatched afterwards; what the dispatch throws is caught. -/
def handle (services : Services Claims Room) (connection : Connection Claims Room)
    (frame : List UInt8) (message : Message) : Connection Claims Room :=
  let admitted := { connection with admitted := connection.admitted ++ [message] }
  match connection.room with
  | none =>
      if connection.queued.length < maxQueuedFrames then { admitted with
        queued := connection.queued ++ [frame]
        accepted := connection.accepted ++ [message] }
      else admitted
  | some room => { admitted with
      room := some ((services.dispatch room message).getD room)
      accepted := connection.accepted ++ [message]
      dispatched := connection.dispatched ++ [message] }

/-- The `message` handler: `onFrame`, whose exceptions are caught. -/
def onMessage (limits : Limits) (services : Services Claims Room)
    (connection : Connection Claims Room) (frame : List UInt8) (now : ℤ) :
    Connection Claims Room :=
  match decodeMessage frame with
  | none => connection
  | some message =>
      match connection.user with
      | none =>
          match message with
          | .auth token => connection.authenticate services token now
          | _ => connection.close .unauthorized
      | some _ =>
          let checked := connection.withinLimits limits message frame.length now
          if checked.1 then checked.2.handle services frame message else checked.2

/-- `join` once `rooms.join` has resolved. -/
def onJoined (services : Services Claims Room) (connection : Connection Claims Room)
    (room : Room) : Connection Claims Room :=
  match connection.readyState with
  | .isOpen =>
      let replayed := services.replay room connection.queued
      { connection with
        joining := false
        room := some replayed.room
        dispatched := connection.dispatched ++ replayed.dispatched
        queued := if replayed.threw then connection.queued else []
        escaped := replayed.threw }
  | _ => { connection with joining := false }

/-- One event. An exception that escapes ends the process. -/
def step (limits : Limits) (services : Services Claims Room)
    (connection : Connection Claims Room) (event : ConnectionEvent Room) :
    Option (Connection Claims Room) :=
  if connection.escaped then none else
    match event with
    | .message frame now =>
        if connection.readyState = .closed ∨ connection.deaf = true then none
        else if limits.maxPayload < frame.length then
          some { connection.closing with deaf := true, refused := true }
        else some (connection.onMessage limits services frame now)
    | .joinResolved room =>
        if connection.joining then some (connection.onJoined services room) else none
    | .joinRejected =>
        if connection.joining then
          some ({ connection with joining := false }.close .documentUnavailable)
        else none
    | .authTimeout =>
        if connection.authTimer then
          some ({ connection with authTimer := false }.close .unauthorized)
        else none
    | .roomChanges room =>
        if connection.room.isSome then some { connection with room := some room } else none
    | .socketCloses => if connection.readyState = .isOpen then some connection.closing else none
    | .socketClosed =>
        if connection.readyState = .closed then none
        else some { connection with readyState := .closed, authTimer := false, room := none }

end Connection

end CollabEditor.Ws
