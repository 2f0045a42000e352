import CollabEditor.Ws.Uploads
import CollabEditor.Ws.Downloads

/-!
Owns the whole system for one document: the instances that have it open, each
with its room and the sockets of its clients, and the bus between them. A copy
of a message goes to every other instance and arrives whenever it does, and a
client that lost its socket may come back on any instance.

Every room is open and subscribed from the start to the end, and all of them
start from one document, as if each had just read the same store. The bus loses
nothing. What a room misses that opens later is `Cluster.Handoff`'s to say.
-/

namespace CollabEditor

open CollabEditor.Library CollabEditor.Yjs CollabEditor.Rooms CollabEditor.Ws

universe u v

variable {Client : Type v} {Op : Type u} [DecidableEq Client] [DecidableEq Op] [Causality Op]

namespace Rooms.Room

omit [DecidableEq Op] [Causality Op] in
private theorem remove_doc (room : Room Client Op) (leaving : Client) :
    (room.remove leaving).1.doc = room.doc :=
  (changeAwareness_doc _ _ _).1

omit [DecidableEq Op] [Causality Op] in
private theorem remove_presence (room : Room Client Op) (leaving : Client) :
    ∀ effect ∈ (room.remove leaving).2, effect.IsPresence :=
  changeAwareness_presence _ _ _

private theorem add_distinct (room : Room Client Op) (client : Client)
    (distinct : room.clients.Nodup) :
    (room.add client).1.clients.Nodup := by
  unfold add
  dsimp only
  split
  · exact distinct
  · next away =>
      rw [← List.concat_eq_append]
      exact distinct.concat away

omit [DecidableEq Op] [Causality Op] in
private theorem remove_distinct (room : Room Client Op) (leaving : Client)
    (distinct : room.clients.Nodup) : (room.remove leaving).1.clients.Nodup := by
  unfold remove
  rw [(changeAwareness_doc _ _ _).2]
  exact distinct.filter _

end Rooms.Room

namespace Ws.Session

/-- The messages a step puts on the bus. -/
def publishes (session : Session Client Op) : Event Client Op → List (BusMessage Op)
  | .close client =>
      match (session.ends client).stage with
      | .added | .joined => published (session.room.remove client).2
      | _ => []
  | .bus message => published (session.room.receive message).2
  | .expirePresence ids => published (session.room.expirePresence ids).2
  | event =>
      match session.dispatches? event with
      | some (client, frame) => published (dispatch session.room client frame).2
      | none => []

end Ws.Session

/-- `n` instances with a document open. -/
structure Deployment (n : ℕ) (Client : Type v) (Op : Type u) where
  sessions : Fin n → Session Client Op
  /-- Messages on their way, with the instance they go to. -/
  inFlight : List (Fin n × BusMessage Op)

inductive DeploymentEvent (n : ℕ) (Client : Type v) (Op : Type u) where
  | runs (server : Fin n) (event : Event Client Op)
  /-- `Room.requestState`. -/
  | requestState (server : Fin n)
  /-- One of the messages in flight arrives. -/
  | deliver (index : ℕ)
  /-- A provider whose socket has closed is about to open another one. -/
  | reconnect (lost : Fin n × Client) (next : Fin n × Client)

namespace Deployment

variable {n : ℕ}

/-- The socket of a client on an instance. -/
def endpoint (deployment : Deployment n Client Op) (socket : Fin n × Client) : Endpoint Op :=
  (deployment.sessions socket.1).ends socket.2

/-- The copies of a message published by an instance, whose own copy it ignores. -/
def copies (publisher : Fin n) (message : BusMessage Op) : List (Fin n × BusMessage Op) :=
  ((List.finRange n).filter fun other => other ≠ publisher).map fun other => (other, message)

/-- An instance takes a step. -/
def handle (deployment : Deployment n Client Op) (server : Fin n) (event : Event Client Op) :
    Option (Deployment n Client Op) :=
  ((deployment.sessions server).step event).map fun session =>
    { sessions := Function.update deployment.sessions server session
      inFlight := deployment.inFlight ++
        ((deployment.sessions server).publishes event).flatMap (copies server) }

def step (deployment : Deployment n Client Op) :
    DeploymentEvent n Client Op → Option (Deployment n Client Op)
  | .runs _ (.bus _) => none
  | .runs server event => deployment.handle server event
  | .requestState server =>
      some { deployment with
        inFlight := deployment.inFlight ++ copies server .stateRequest }
  | .deliver index =>
      match deployment.inFlight[index]? with
      | some (receiver, message) =>
          { deployment with inFlight := deployment.inFlight.eraseIdx index }.handle receiver
            (.bus message)
      | none => none
  | .reconnect lost next =>
      if (deployment.endpoint lost).stage = .closed ∧
          (deployment.endpoint next).opened = false ∧
          (deployment.endpoint next).stage = .unauthenticated then
        some { deployment with
          sessions := Function.update deployment.sessions next.1
            ((deployment.sessions next.1).setEnd next.2
              { deployment.endpoint next with doc := (deployment.endpoint lost).doc }) }
      else none

/-- Nobody has connected yet, and every room shows what the store holds. -/
def Initial (deployment : Deployment n Client Op) : Prop :=
  (∀ server, (deployment.sessions server).Initial) ∧ deployment.inFlight = [] ∧
    ∀ server other, (deployment.sessions server).room.doc = (deployment.sessions other).room.doc

/-- What the messages on their way to an instance carry. -/
def carriedTo (receiver : Fin n) (inFlight : List (Fin n × BusMessage Op)) : Update Op :=
  mergeUpdates ((inFlight.filter fun copy => copy.1 = receiver).map fun copy => copy.2.carried)

/-- What the room of an instance was given or is on its way to it. -/
def known (deployment : Deployment n Client Op) (server : Fin n) : Update Op :=
  (deployment.sessions server).room.doc.received ∪ carriedTo server deployment.inFlight

/-- No step unlocks held operations that somebody would then never hear of: a
client's frame only what that client knows, a bus message only what every
instance knows. -/
def UnlocksKnown (deployment : Deployment n Client Op) : DeploymentEvent n Client Op → Prop
  | .runs server event => UnlocksOnlyKnown (deployment.sessions server) event
  | .deliver index => ∀ copy ∈ deployment.inFlight[index]?,
      ∀ op ∈ (deployment.sessions copy.1).room.doc.pending,
        Integrable ((deployment.sessions copy.1).room.doc.received ∪ copy.2.carried) op →
          ∀ other, op ∈ deployment.known other
  | _ => True

instance (deployment : Deployment n Client Op) (event : DeploymentEvent n Client Op) :
    Decidable (deployment.UnlocksKnown event) :=
  match event with
  | .runs server event =>
      inferInstanceAs (Decidable (UnlocksOnlyKnown (deployment.sessions server) event))
  | .deliver index => inferInstanceAs (Decidable (∀ copy ∈ deployment.inFlight[index]?, _))
  | .requestState _ | .reconnect _ _ => inferInstanceAs (Decidable True)

end Deployment

/-! ### What a step of one instance tells the others -/

namespace Ws.Session

/-- The call a step makes on the room, if it gives the room's document
something or puts any operation on the bus. -/
inductive Calls (session : Session Client Op) (event : Event Client Op) :
    Room Client Op → Prop where
  | dispatches (client : Client) (frame : Message Op)
      (taken : session.dispatches? event = some (client, frame))
      (publishes : session.publishes event = published (dispatch session.room client frame).2) :
      Calls session event (dispatch session.room client frame).1
  | receives (message : BusMessage Op) (isBus : event = .bus message) :
      Calls session event (session.room.receive message).1
  | quiet {room : Room Client Op} (sameDoc : room.doc = session.room.doc)
      (presence : ∀ message ∈ session.publishes event, message.carried = ∅)
      (distinct : session.room.clients.Nodup → room.clients.Nodup) : Calls session event room

omit [DecidableEq Client] [DecidableEq Op] [Causality Op] in
private theorem carried_of_presence {effects : List (Effect Client Op)}
    (presence : ∀ effect ∈ effects, effect.IsPresence) :
    ∀ message ∈ published effects, message.carried = ∅ := by
  intro message member
  obtain ⟨entries, rfl⟩ := published_of_presence presence message member
  rfl

theorem publishes_of_dispatches {session : Session Client Op} {event : Event Client Op}
    {client : Client} {frame : Message Op}
    (taken : session.dispatches? event = some (client, frame)) :
    session.publishes event = published (dispatch session.room client frame).2 := by
  cases event with
  | receive actor => simp only [publishes, taken]
  | replay => simp only [publishes, taken]
  | client actor action => cases taken
  | refusePresence actor => cases taken
  | join actor => cases taken
  | resume actor => cases taken
  | close actor => cases taken
  | bus message => cases taken
  | expirePresence ids => cases taken

private theorem calls_onFrame {session session' : Session Client Op} {client : Client}
    {frame : Message Op} {rest : List (Message Op)}
    (next : (session.ends client).up = frame :: rest)
    (handled : (session.setEnd client { session.ends client with up := rest }).onFrame client
      frame = some session') : session.Calls (.receive client) session'.room := by
  have silent : (session.ends client).stage ≠ .joined →
      ∀ message ∈ session.publishes (.receive client), message.carried = ∅ := by
    intro notJoined message member
    simp [publishes, dispatches?, notJoined] at member
  unfold onFrame at handled
  simp only [setEnd_ends_self, setEnd_room] at handled
  split at handled
  · next stage =>
      split at handled
      · cases handled
        exact .quiet rfl (silent (by simp [stage])) id
      · cases handled
  · next stage =>
      have quiet := silent (by simp [stage])
      split at handled
      · cases handled
        exact .quiet rfl quiet id
      · cases handled
        exact .quiet rfl quiet id
  · next stage =>
      have quiet := silent (by simp [stage])
      split at handled
      · cases handled
        exact .quiet rfl quiet id
      · cases handled
        exact .quiet rfl quiet id
  · next stage =>
      cases handled
      have taken : session.dispatches? (.receive client) = some (client, frame) := by
        simp [dispatches?, stage, next]
      exact .dispatches client frame taken (publishes_of_dispatches taken)
  · cases handled

private theorem calls_onSocketClosed (session : Session Client Op) (client : Client) :
    session.Calls (.close client) (session.onSocketClosed client).room := by
  have presence := session.room.remove_presence client
  unfold onSocketClosed
  split
  · next stage =>
      refine .quiet (session.room.remove_doc client) ?_ (session.room.remove_distinct client)
      simpa only [publishes, stage] using carried_of_presence presence
  · next stage =>
      refine .quiet (session.room.remove_doc client) ?_ (session.room.remove_distinct client)
      simpa only [publishes, stage] using carried_of_presence presence
  · next notAdded notJoined =>
      refine .quiet rfl (fun message member => ?_) id
      simp only [publishes] at member
      cases member

private theorem calls_replay {session : Session Client Op} {client : Client}
    (replaying : session.replaying = some client) :
    session.Calls .replay (session.replay client).room := by
  unfold replay
  split
  · next empty =>
      refine .quiet rfl (fun message member => ?_) id
      simp [publishes, dispatches?, replaying, empty] at member
  · next frame rest queue =>
      have taken : session.dispatches? .replay = some (client, frame) := by
        simp [dispatches?, replaying, queue]
      exact .dispatches client frame taken (publishes_of_dispatches taken)

private theorem calls_serve {session session' : Session Client Op} {event : Event Client Op}
    (served : session.serve event = some session') : session.Calls event session'.room := by
  cases event with
  | client actor action => cases served
  | replay => cases served
  | receive actor =>
      simp only [serve] at served
      split at served
      · cases served
      · next frame rest next => exact calls_onFrame next served
  | refusePresence actor =>
      simp only [serve] at served
      split at served
      · split at served
        · cases served
        · cases served
          exact .quiet rfl (by simp [publishes, dispatches?]) id
      · cases served
  | join actor =>
      simp only [serve] at served
      split at served
      · cases served
        exact .quiet rfl (by simp [publishes, dispatches?]) (session.room.add_distinct actor)
      · cases served
  | resume actor =>
      simp only [serve] at served
      split at served
      · cases served
        exact .quiet rfl (by simp [publishes, dispatches?]) id
      · cases served
  | close actor =>
      cases served
      exact calls_onSocketClosed session actor
  | bus message =>
      cases served
      exact .receives message rfl
  | expirePresence ids =>
      cases served
      obtain ⟨sameDoc, sameClients⟩ := session.room.changeAwareness_doc
        (session.room.awareness.removeStates ids) .timeout
      exact .quiet sameDoc (carried_of_presence (session.room.changeAwareness_presence _ _))
        (fun distinct => sameClients.symm ▸ distinct)

theorem calls_of_step {session session' : Session Client Op} {event : Event Client Op}
    (stepped : session.step event = some session') : session.Calls event session'.room := by
  rcases step_cases stepped with ⟨client, action, endpoint, rfl, -, rfl⟩ |
    ⟨client, rfl, replaying, rfl⟩ | ⟨-, served⟩
  · exact .quiet rfl (by simp [publishes, dispatches?]) id
  · exact calls_replay replaying
  · exact calls_serve served

theorem room_of_bus {session session' : Session Client Op} {message : BusMessage Op}
    (stepped : session.step (.bus message) = some session') :
    session'.room = (session.room.receive message).1 := by
  rcases step_cases stepped with ⟨client, action, endpoint, isClient, -⟩ |
    ⟨client, isReplay, -⟩ | ⟨-, served⟩
  · cases isClient
  · cases isReplay
  · cases served
    rfl

/-- What a frame integrates goes to the bus. -/
theorem fresh_subset_published (room : Room Client Op) (client : Client) (frame : Message Op) :
    room.doc.fresh frame.carried ⊆
      mergeUpdates ((published (dispatch room client frame).2).map BusMessage.carried) := by
  have nothing : room.doc.fresh ∅ = ∅ := by simp [Doc.fresh, Doc.apply]
  have applied : ∀ update : Update Op, room.doc.fresh update ⊆
      mergeUpdates ((published (room.applyUpdate update (.client client)).2).map
        BusMessage.carried) := by
    intro update
    rw [room.published_applyUpdate, if_pos (by simp), ← Doc.event_getD]
    cases room.doc.event update <;> simp [BusMessage.carried]
  cases frame with
  | sync message =>
      cases message with
      | step1 vector => exact nothing.subset.trans (Finset.empty_subset _)
      | step2 update => exact applied update
      | update update => exact applied update
  | awareness entries => exact nothing.subset.trans (Finset.empty_subset _)
  | ping => exact nothing.subset.trans (Finset.empty_subset _)
  | pong => exact nothing.subset.trans (Finset.empty_subset _)
  | auth token => exact nothing.subset.trans (Finset.empty_subset _)

/-- Whatever a step puts on the bus, the room it leaves was given. -/
theorem Calls.published_subset {session : Session Client Op} {event : Event Client Op}
    {room : Room Client Op} (calls : session.Calls event room) :
    ∀ message ∈ session.publishes event, message.carried ⊆ room.doc.received := by
  intro message member
  cases calls with
  | dispatches client frame taken publishes =>
      rw [publishes] at member
      rcases published_dispatch session.room client frame member with ⟨entries, rfl⟩ |
        ⟨update, rfl, fresh⟩
      · exact Finset.empty_subset _
      · have isFresh : update = session.room.doc.fresh frame.carried := by
          rw [← Doc.event_getD, fresh, Option.getD_some]
        rw [(dispatch_doc session.room client frame).1, BusMessage.carried, isFresh]
        exact session.room.doc.fresh_subset_received frame.carried
  | receives arriving isBus =>
      subst isBus
      obtain ⟨rfl, -, ⟨entries, rfl⟩ | rfl⟩ := session.room.published_receive member
      · exact Finset.empty_subset _
      · exact Finset.Subset.refl _
  | quiet sameDoc presence distinct =>
      rw [presence message member]
      exact Finset.empty_subset _

/-- A room keeps what it was given. -/
theorem Calls.received_subset {session : Session Client Op} {event : Event Client Op}
    {room : Room Client Op} (calls : session.Calls event room) :
    session.room.doc.received ⊆ room.doc.received := by
  cases calls with
  | dispatches client frame taken publishes =>
      rw [(dispatch_doc session.room client frame).1]
      exact Finset.subset_union_left
  | receives message isBus =>
      rw [session.room.doc_receive message]
      exact Finset.subset_union_left
  | quiet sameDoc presence distinct => rw [sameDoc]

private theorem receive_clients (room : Room Client Op) (message : BusMessage Op) :
    (room.receive message).1.clients = room.clients := by
  cases message with
  | update content => rfl
  | awareness entries => exact (room.changeAwareness_doc _ _).2
  | stateRequest => rfl

theorem Calls.distinct {session : Session Client Op} {event : Event Client Op}
    {room : Room Client Op} (calls : session.Calls event room)
    (distinct : session.room.clients.Nodup) : room.clients.Nodup := by
  cases calls with
  | dispatches client frame taken publishes =>
      rw [(dispatch_doc session.room client frame).2]
      exact distinct
  | receives message isBus =>
      rw [receive_clients]
      exact distinct
  | quiet sameDoc presence stays => exact stays distinct

end Ws.Session

end CollabEditor
