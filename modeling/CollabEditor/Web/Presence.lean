import CollabEditor.Rooms.Announcements
import CollabEditor.Rooms.Ownership

/-!
Owns presence between the providers of one document and its room: what
`collab/provider.ts` does to its awareness when a socket opens and when it is
lost, what `room.ts` tells the clients that join and stay, and the frames on
their way. Providers are named by the client ids of their documents.

Assumes that no two documents draw the same client id. Does not own the timers
that renew a state and let it expire.
-/

namespace CollabEditor.Web

open CollabEditor.Library CollabEditor.Yjs CollabEditor.Rooms

universe u

variable {Op : Type u} [DecidableEq Op] [Causality Op]

/-- The room, the providers, and the sockets between them. -/
structure PresenceNet (Op : Type u) where
  server : Presence ℕ Op
  peers : ℕ → Awareness
  /-- The socket of a provider from its `open` to its `close` event. -/
  current : ℕ → Option ℕ
  /-- The provider that opened a socket. -/
  opener : ℕ → Option ℕ
  /-- Presence frames on their way to the room; a provider sends its own entry. -/
  up : ℕ → List AwarenessEntry
  /-- Presence frames on their way to a provider. -/
  down : ℕ → List (List AwarenessEntry)
  /-- The sockets whose end the server has seen. -/
  gone : List ℕ

inductive PresenceEvent where
  | setLocalState (peer : ℕ) (state : Option String)
  /-- `socket.onopen`. -/
  | connect (peer socket : ℕ)
  /-- The document is loaded, and the room adds the client of a socket. -/
  | join (socket : ℕ)
  /-- The room handles the first frame of a socket. -/
  | handle (socket : ℕ)
  /-- The provider receives the first frame of its socket. -/
  | deliver (socket : ℕ)
  /-- `socket.onclose`. -/
  | lose (peer : ℕ)
  /-- The server sees the end of a socket. -/
  | close (socket : ℕ)
deriving DecidableEq

namespace PresenceNet

def start (roomId : ℕ) : PresenceNet Op :=
  ⟨.start roomId, .participant, fun _ => none, fun _ => none, fun _ => [], fun _ => [], []⟩

/-- `this.send` of the own entry. -/
def announce (net : PresenceNet Op) (peer : ℕ) : PresenceNet Op :=
  match net.current peer with
  | none => net
  | some socket => { net with
      up := Function.update net.up socket
        (net.up socket ++ (net.peers peer).encodeUpdate [peer]) }

/-- What the room tells goes on its way. -/
def tell (net : PresenceNet Op) (server : Presence ℕ Op) (calls : List (Effect ℕ Op)) :
    PresenceNet Op :=
  { net with
    server := server
    down := fun socket => net.down socket ++ presenceTo socket calls }

/-- The room takes a call. -/
def serve (net : PresenceNet Op) (event : RoomEvent ℕ Op) : Option (PresenceNet Op) :=
  (net.server.step event).map fun server => net.tell server (event.perform net.server.room).2

/-- What the room handles is no longer on its way. -/
def popped (net : PresenceNet Op) (socket : ℕ) (rest : List AwarenessEntry) : PresenceNet Op :=
  { net with up := Function.update net.up socket rest }

/-- The server has seen the end of a socket. -/
def ended (net : PresenceNet Op) (socket : ℕ) : PresenceNet Op :=
  { net with gone := socket :: net.gone }

/-- A room that nobody is in is closed; the next to join opens it again. The id
its document draws is shown to nobody, so one stands for all. -/
def vacate (net : PresenceNet Op) : PresenceNet Op :=
  if net.server.room.clients = [] then
    { net with server := { net.server with
        room := Room.new net.server.room.awareness.clientId
        owner := fun _ => none } }
  else net

/-- `setLocalState`, whose event makes the provider send it. -/
def setLocalState (net : PresenceNet Op) (peer : ℕ) (state : Option String) : PresenceNet Op :=
  { net with
    peers := Function.update net.peers peer ((net.peers peer).setLocalState state) }.announce peer

/-- A new socket opens, and a local state is announced on it. -/
def connect (net : PresenceNet Op) (peer socket : ℕ) : PresenceNet Op :=
  let connected := { net with
    current := Function.update net.current peer (some socket)
    opener := Function.update net.opener socket (some peer) }
  if peer ∈ (net.peers peer).states then connected.announce peer else connected

/-- The socket closes, and the states of everybody else go. -/
def lose (net : PresenceNet Op) (peer : ℕ) : PresenceNet Op :=
  { net with
    current := Function.update net.current peer none
    peers := Function.update net.peers peer
      ((net.peers peer).removeStates
        ((net.peers peer).states.keys.filter fun id => id ≠ peer)).1 }

/-- A frame is applied to the awareness of its receiver. -/
def receive (net : PresenceNet Op) (peer socket : ℕ) (frame : List AwarenessEntry)
    (rest : List (List AwarenessEntry)) : PresenceNet Op :=
  { net with
    peers := Function.update net.peers peer ((net.peers peer).heard frame)
    down := Function.update net.down socket rest }

def step (net : PresenceNet Op) : PresenceEvent → Option (PresenceNet Op)
  | .setLocalState peer state => some (net.setLocalState peer state)
  | .connect peer socket =>
      if peer ≠ net.server.room.awareness.clientId ∧ net.current peer = none ∧
          net.opener socket = none then
        some (net.connect peer socket)
      else none
  | .join socket =>
      if (net.opener socket).isSome ∧ socket ∉ net.gone then net.serve (.add socket) else none
  | .handle socket =>
      match net.up socket with
      | [] => none
      | entry :: rest => (net.popped socket rest).serve (.awareness socket [entry])
  | .deliver socket =>
      match net.opener socket, net.down socket with
      | some peer, frame :: rest =>
          if net.current peer = some socket then some (net.receive peer socket frame rest) else none
      | _, _ => none
  | .lose peer => if (net.current peer).isSome then some (net.lose peer) else none
  | .close socket =>
      if (net.opener socket).isSome ∧ socket ∉ net.gone then
        if socket ∈ net.server.room.clients then
          ((net.ended socket).serve (.remove socket)).map vacate
        else some (net.ended socket)
      else none

/-! ### What is meant to hold -/

/-- Everything is delivered: opened sockets have joined, ended ones have left,
and no frame is on its way. -/
structure Settled (net : PresenceNet Op) : Prop where
  joined : ∀ peer socket, net.current peer = some socket → socket ∈ net.server.room.clients
  live : ∀ socket ∈ net.server.room.clients, ∃ peer, net.current peer = some socket
  up : ∀ socket ∈ net.server.room.clients, net.up socket = []
  down : ∀ socket ∈ net.server.room.clients, net.down socket = []

/-- A connected client whose local state is not null. -/
def IsPresent (net : PresenceNet Op) (id : ℕ) : Prop :=
  (net.current id).isSome ∧ id ∈ (net.peers id).states

/-- The room and every connected client have a state exactly for the connected
clients with one. -/
def Converged (net : PresenceNet Op) : Prop :=
  ∀ id, (id ∈ net.server.room.awareness.states ↔ net.IsPresent id) ∧
    ∀ peer, (net.current peer).isSome → (id ∈ (net.peers peer).states ↔ net.IsPresent id)

/-! ### When presence gets through -/

/-- What a provider holds once the frames on their way to it have arrived. -/
def view (net : PresenceNet Op) (peer socket : ℕ) : Awareness :=
  (net.peers peer).heard (net.down socket).flatten

/-- The room holds the last value that the id has sent on its current socket. -/
def Newest (net : PresenceNet Op) (id : ℕ) : Prop :=
  ∃ socket, net.server.owner id = some socket ∧ net.current id = some socket ∧
    net.up socket = []

/-- The last value on its way from a current socket is newer than what the room
and the other clients in it have recorded for the id; a client that joins has
recorded, for the values that will stay, older clocks than the room; and a
client that leaves controls the ids of its own values and none that will stay. -/
def GetsThrough (net : PresenceNet Op) : PresenceEvent → Prop
  | .handle socket =>
      ∀ entry, net.up socket = [entry] → entry.state ≠ none →
        net.current entry.clientId = some socket →
          (net.server.room.awareness.slot entry.clientId).clock < entry.clock ∧
          ∀ peer other, net.current peer = some other → other ∈ net.server.room.clients →
            peer ≠ entry.clientId →
              ((net.view peer other).slot entry.clientId).clock < entry.clock
  | .join socket =>
      ∀ peer, net.current peer = some socket →
        ∀ id ∈ net.server.room.awareness.states, id ≠ peer → net.Newest id →
          ((net.peers peer).slot id).clock < (net.server.room.awareness.slot id).clock
  | .close socket =>
      socket ∈ net.server.room.clients →
        ∀ id ∈ net.server.room.awareness.states,
          (id ∉ net.server.room.controlled socket → net.server.owner id ≠ some socket) ∧
          (id ∈ net.server.room.controlled socket → net.Newest id →
            net.server.owner id = some socket)
  | _ => True

end PresenceNet

end CollabEditor.Web
