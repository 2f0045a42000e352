import CollabEditor.Cluster.Relay

/-!
Owns what the open document of an instance is given and what the instance puts
on the bus: the fresh part of a client's edit, presence, the state request that
ends a load, and the whole document in answer to one while somebody is there.
-/

namespace CollabEditor.Instance

open CollabEditor.Library CollabEditor.Yjs CollabEditor.Persistence CollabEditor.Rooms
open CollabEditor.Ws (dispatch)

universe u v w

variable {Conn : Type v} {Op : Type u} {Entry : Type w} [DecidableEq Conn] [DecidableEq Op]
  [Causality Op]

/-- The operations an event brings along. -/
def SlotEvent.offered : SlotEvent Conn Op → Update Op
  | .frame _ message => message.carried
  | .bus message => message.carried
  | _ => ∅

namespace Slot

/-- What the document of the registered room was given. -/
def document (slot : Slot Conn Op Entry) : Update Op :=
  match slot.registered with
  | some room => (slot.objects[room]?.map fun object => object.room.doc.received).getD ∅
  | none => ∅

/-- What the document of the room a load is about to register will hold. -/
def upcoming (slot : Slot Conn Op Entry) : Update Op :=
  match slot.opening with
  | some ⟨.subscribing room state, _⟩ =>
      (slot.objects[room]?.map fun object => object.room.doc.received).getD ∅ ∪ state.getD ∅
  | _ => ∅

/-- The room that listens to the bus has a client. -/
def attended (slot : Slot Conn Op Entry) : Bool :=
  match slot.listener with
  | some room => slot.objects[room]?.any fun object => object.room.clientCount > 0
  | none => false

omit [DecidableEq Conn] [DecidableEq Op] [Causality Op] in
theorem document_eq {slot : Slot Conn Op Entry} {room : ℕ} {object : RoomObject Conn Op}
    (registered : slot.registered = some room) (found : slot.objects[room]? = some object) :
    slot.document = object.room.doc.received := by
  simp [document, registered, found]

omit [DecidableEq Conn] [Causality Op] in
private theorem upcoming_eq {slot : Slot Conn Op Entry} {room : ℕ} {object : RoomObject Conn Op}
    {state : Option (Update Op)} {waiters : List Conn}
    (opening : slot.opening = some ⟨.subscribing room state, waiters⟩)
    (found : slot.objects[room]? = some object) :
    slot.upcoming = object.room.doc.received ∪ state.getD ∅ := by
  simp [upcoming, opening, found]

omit [DecidableEq Conn] [DecidableEq Op] [Causality Op] in
/-- The room on the bus has a client exactly when it is registered and nobody
is still to be told. -/
theorem Coherent.attended_iff {slot : Slot Conn Op Entry} (coherent : slot.Coherent) :
    slot.attended ↔ slot.registered.isSome ∧ slot.opening = none := by
  constructor
  · intro attended
    unfold Slot.attended at attended
    split at attended
    · next room listens =>
        obtain ⟨object, found, occupied⟩ := (Option.any_eq_true _ _).mp attended
        obtain ⟨conn, member⟩ := List.length_pos_iff_exists_mem.mp (of_decide_eq_true occupied)
        have inRoom := coherent.clients room object conn found member
        have registered := (coherent.entered conn room inRoom).1
        exact ⟨Option.isSome_iff_exists.mpr ⟨room, registered⟩, coherent.opening_eq_none inRoom⟩
    · cases attended
  · rintro ⟨isOpen, settled⟩
    obtain ⟨room, registered⟩ := Option.isSome_iff_exists.mp isOpen
    obtain ⟨listens, object, found, -, occupied⟩ := coherent.current room registered
    have clients : object.room.clients ≠ [] := fun empty => occupied empty settled
    have positive : object.room.clientCount > 0 := List.length_pos_iff.mpr clients
    simp [Slot.attended, listens, found, positive]

/-! ### What a document is given -/

/-- Apart from the end of a load, an event gives a document what it brings. -/
theorem given_subset {setup : Setup Op Entry} {before after : Slot Conn Op Entry}
    {event : SlotEvent Conn Op} (stepped : before.step setup event = some after)
    (notSubscribed : event ≠ .subscribed) {room : ℕ} {given : Update Op}
    (gives : Gives before after event room given) : given ⊆ event.offered := by
  cases gives with
  | nothing => exact Finset.empty_subset _
  | hydrated content waiters opening opening' =>
      rcases progress_of_step stepped opening' with ⟨earlier, was, same⟩ | ⟨isSubscribed, -⟩
      · obtain rfl := Option.some.inj (opening.symm.trans was)
        cases same
      · exact absurd isSubscribed notSubscribed
  | framed conn message isFrame ready joined =>
      rw [isFrame]
      exact Finset.Subset.refl _
  | received message isBus listens =>
      rw [isBus]
      exact Finset.Subset.refl _

/-- A room that stays open keeps what its document was given. -/
theorem Coherent.document_of_step {before after : Slot Conn Op Entry}
    (coherent : before.Coherent) {setup : Setup Op Entry} {event : SlotEvent Conn Op}
    (stepped : before.step setup event = some after) {room : ℕ}
    (registered : before.registered = some room) (still : after.registered.isSome) :
    before.document ⊆ after.document := by
  obtain ⟨-, object, found, -⟩ := coherent.current room registered
  obtain ⟨object', found', moves⟩ := moves_of_step stepped found
  obtain ⟨room', registered'⟩ := Option.isSome_iff_exists.mp still
  have same : room' = room := by
    rcases registered_of_step stepped registered' with was | ⟨-, state, waiters, opening, -, -⟩
    · exact Option.some.inj (was.symm.trans registered)
    · have unregistered := (coherent.loading _ opening).2.2.1
      exact absurd (registered.symm.trans unregistered) nofun
  subst same
  obtain ⟨given, -, doc⟩ := moves.gives
  rw [document_eq registered found, document_eq registered' found', doc]
  exact Finset.subset_union_left

/-- An open document is given nothing but what the event brings. -/
theorem Coherent.document_subset_of_step {before after : Slot Conn Op Entry}
    (coherent : before.Coherent) {setup : Setup Op Entry} {event : SlotEvent Conn Op}
    (stepped : before.step setup event = some after) (notSubscribed : event ≠ .subscribed) :
    after.document ⊆ before.document ∪ event.offered := by
  cases registered' : after.registered with
  | none => simp [document, registered']
  | some room =>
      have registered : before.registered = some room :=
        (registered_of_step stepped registered').resolve_right fun loaded =>
          notSubscribed loaded.1
      obtain ⟨-, object, found, -⟩ := coherent.current room registered
      obtain ⟨object', found', moves⟩ := moves_of_step stepped found
      obtain ⟨given, gives, doc⟩ := moves.gives
      rw [document_eq registered found, document_eq registered' found', doc,
        Doc.received_apply]
      exact Finset.union_subset_union_right (given_subset stepped notSubscribed gives)

/-- The document of a load starts from the state read and is given what the bus
brings until it is registered. -/
theorem Coherent.upcoming_of_step {before after : Slot Conn Op Entry}
    (coherent : before.Coherent) {setup : Setup Op Entry} {event : SlotEvent Conn Op}
    (stepped : before.step setup event = some after) {room : ℕ} {state : Option (Update Op)}
    {waiters : List Conn} (opening : after.opening = some ⟨.subscribing room state, waiters⟩) :
    (∃ loaded waiters', before.opening = some ⟨.read loaded, waiters'⟩ ∧
      after.upcoming = loaded.content) ∨
    (∃ waiters', before.opening = some ⟨.subscribing room state, waiters'⟩) ∧
      before.upcoming ⊆ after.upcoming ∧ after.upcoming ⊆ before.upcoming ∪ event.offered := by
  have notSubscribed : event ≠ .subscribed := by
    rintro rfl
    cases fires_of_step stepped with
    | registers => cases opening
  rcases progress_of_step stepped opening with ⟨⟨progress, waiters'⟩, opening', rfl⟩ |
    ⟨clientId, loaded, waiters', opening', rfl, rfl, objects⟩
  · obtain ⟨-, -, object, found, -⟩ := (coherent.loading _ opening').2.2
    obtain ⟨object', found', moves⟩ := moves_of_step stepped found
    obtain ⟨given, gives, doc⟩ := moves.gives
    have brought := given_subset stepped notSubscribed gives
    refine Or.inr ⟨⟨waiters', opening'⟩, ?_⟩
    rw [upcoming_eq opening' found, upcoming_eq opening found', doc, Doc.received_apply]
    constructor
    · exact Finset.union_subset_union_left Finset.subset_union_left
    · rw [Finset.union_right_comm]
      exact Finset.union_subset_union_right brought
  · have made : after.objects[before.objects.length]? =
        some (RoomObject.new clientId loaded.pendingUpdates) := by
      rw [objects, List.getElem?_concat_length]
    refine Or.inl ⟨loaded, waiters', opening', ?_⟩
    rw [upcoming_eq opening made]
    exact Finset.empty_union _

theorem Coherent.document_of_subscribed {before after : Slot Conn Op Entry}
    (coherent : before.Coherent) {setup : Setup Op Entry}
    (stepped : before.step setup .subscribed = some after) :
    after.document = before.upcoming := by
  cases fires_of_step stepped with
  | registers room state waiters opening =>
      obtain ⟨-, -, object, found, -⟩ := (coherent.loading _ opening).2.2
      obtain ⟨object', found', doc⟩ := hydrate_received setup before found state
      refine Eq.trans (document_eq rfl found') ?_
      rw [upcoming_eq opening found, doc, Doc.received_apply]

/-- An update from the bus is merged into the open document. -/
theorem Coherent.document_of_bus {before after : Slot Conn Op Entry}
    (coherent : before.Coherent) {setup : Setup Op Entry} {message : BusMessage Op}
    (stepped : before.step setup (.bus message) = some after) {room : ℕ}
    (registered : before.registered = some room) :
    after.document = before.document ∪ message.carried := by
  obtain ⟨listens, object, found, -⟩ := coherent.current room registered
  cases fires_of_step stepped with
  | receives message other listens' =>
      obtain rfl := Option.some.inj (listens.symm.trans listens')
      have found' := (objects_modifyObject before room room fun object =>
        object.perform setup (object.room.receive message)).trans
          (by rw [if_pos rfl, found, Option.map_some])
      refine Eq.trans (document_eq registered found') ?_
      rw [document_eq registered found, RoomObject.perform, object.room.doc_receive,
        Doc.received_apply]

/-! ### What an instance publishes -/

/-- The end of a load publishes the state request. -/
theorem publishes_of_subscribed {before after : Slot Conn Op Entry} {setup : Setup Op Entry}
    (stepped : before.step setup .subscribed = some after) :
    .stateRequest ∈ before.publishes .subscribed := by
  cases fires_of_step stepped with
  | registers room state waiters opening =>
      cases state <;> simp [publishes, opening, published, Room.requestState,
        Effect.published?]

/-- A room with a client answers a state request with its whole document. -/
theorem Coherent.publishes_answer {slot : Slot Conn Op Entry} (coherent : slot.Coherent)
    {room : ℕ} (registered : slot.registered = some room) (attended : slot.attended) :
    .update slot.document ∈ slot.publishes (.bus .stateRequest) := by
  obtain ⟨listens, object, found, -⟩ := coherent.current room registered
  have occupied : object.room.clientCount > 0 := by
    simpa [Slot.attended, listens, found] using attended
  have answer : object.room.doc.encodeStateAsUpdate ∅ = object.room.doc.received :=
    Finset.sdiff_empty
  rw [document_eq registered found]
  simp only [publishes, listens, publishedBy, found, Room.receive, if_pos occupied,
    Room.answerStateRequest, answer]
  exact List.mem_cons_self

omit [DecidableEq Conn] [DecidableEq Op] [Causality Op] in
private theorem mem_publishedBy {slot : Slot Conn Op Entry} {room : ℕ}
    {call : Room Conn Op → Outcome Conn Op} {message : BusMessage Op}
    (member : message ∈ slot.publishedBy room call) : ∃ object,
      slot.objects[room]? = some object ∧ message ∈ published (call object.room).2 := by
  unfold publishedBy at member
  split at member
  · next object found => exact ⟨object, found, member⟩
  · cases member

/-- A message the code of an event publishes. -/
inductive Publishes (slot : Slot Conn Op Entry) (event : SlotEvent Conn Op) :
    BusMessage Op → Prop where
  | presence (entries : List AwarenessEntry) : Publishes slot event (.awareness entries)
  | edits (conn : Conn) (frame : Message Op) (update : Update Op)
      (isFrame : event = .frame conn frame)
      (fresh : (Doc.mk slot.document).event frame.carried = some update) :
      Publishes slot event (.update update)
  | requests (isSubscribed : event = .subscribed) : Publishes slot event .stateRequest
  | answers (isRequest : event = .bus .stateRequest) (attended : slot.attended) :
      Publishes slot event (.update slot.document)

omit [DecidableEq Conn] in
private theorem publishes_of_presence {slot : Slot Conn Op Entry} {event : SlotEvent Conn Op}
    {room : ℕ} {call : Room Conn Op → Outcome Conn Op} {message : BusMessage Op}
    (presence : ∀ room effect, effect ∈ (call room).2 → effect.IsPresence)
    (member : message ∈ slot.publishedBy room call) : Publishes slot event message := by
  obtain ⟨object, -, inPublished⟩ := mem_publishedBy member
  obtain ⟨entries, rfl⟩ := published_of_presence (presence object.room) message inPublished
  exact .presence entries

private theorem requests_of_subscribed {slot : Slot Conn Op Entry} {message : BusMessage Op}
    (member : message ∈ slot.publishes .subscribed) : Publishes slot .subscribed message := by
  have requests : message ∈ published (Room.requestState : List (Effect Conn Op)) →
      Publishes slot .subscribed message := by
    intro inRequest
    rw [List.mem_singleton.mp inRequest]
    exact .requests rfl
  simp only [publishes] at member
  split at member
  · rcases List.mem_append.mp member with hydrating | inRequest
    · obtain ⟨object, -, inPublished⟩ := mem_publishedBy hydrating
      rw [Room.hydrate, object.room.published_applyUpdate,
        if_neg fun both => both.1 rfl] at inPublished
      cases inPublished
    · exact requests inRequest
  · exact requests member
  · cases member

private theorem Coherent.publishes_of_frame {slot : Slot Conn Op Entry} (coherent : slot.Coherent)
    {conn : Conn} {frame : Message Op} {message : BusMessage Op}
    (member : message ∈ slot.publishes (.frame conn frame)) :
    Publishes slot (.frame conn frame) message := by
  simp only [publishes] at member
  split at member
  · next ready room joined =>
      obtain ⟨object, found, inPublished⟩ := mem_publishedBy member
      have registered := coherent.registered_of_joined joined
      rcases Ws.published_dispatch object.room conn frame inPublished with
        ⟨entries, rfl⟩ | ⟨update, rfl, fresh⟩
      · exact .presence entries
      · refine .edits conn frame update rfl ?_
        rw [document_eq registered found]
        exact fresh
  · cases member

/-- A room with clients answers a request with its whole document. -/
theorem Coherent.publishes_of_bus {slot : Slot Conn Op Entry} (coherent : slot.Coherent)
    {received message : BusMessage Op} (member : message ∈ slot.publishes (.bus received)) :
    Publishes slot (.bus received) message := by
  simp only [publishes] at member
  split at member
  · next room listens =>
      obtain ⟨object, found, inPublished⟩ := mem_publishedBy member
      obtain ⟨rfl, occupied, answer⟩ := object.room.published_receive inPublished
      rcases answer with ⟨entries, rfl⟩ | rfl
      · exact .presence entries
      · obtain ⟨conn, inClients⟩ := List.length_pos_iff_exists_mem.mp occupied
        have registered := (coherent.entered conn room
          (coherent.clients room object conn found inClients)).1
        have attended : slot.attended := by
          simpa [Slot.attended, listens, found] using occupied
        rw [← document_eq registered found]
        exact .answers rfl attended
  · cases member

/-- Everything an instance puts on the bus is one of these. -/
theorem Coherent.publishes_of_mem {slot : Slot Conn Op Entry} (coherent : slot.Coherent)
    {event : SlotEvent Conn Op} {message : BusMessage Op}
    (member : message ∈ slot.publishes event) : Publishes slot event message := by
  have leaves : ∀ (room : ℕ) (conn : Conn), message ∈ slot.publishedBy room (·.remove conn) →
      Publishes slot event message := fun room conn =>
    publishes_of_presence fun _ => Room.changeAwareness_presence _ _ _
  cases event with
  | socketClosed conn =>
      simp only [publishes] at member
      split at member
      · exact leaves _ conn member
      · cases member
  | proceed conn =>
      simp only [publishes] at member
      split at member
      · cases member
      · exact leaves _ conn member
      · cases member
  | subscribed => exact requests_of_subscribed member
  | frame conn frame => exact coherent.publishes_of_frame member
  | bus received => exact coherent.publishes_of_bus member
  | expirePresence room ids =>
      have inPublished : message ∈ slot.publishedBy room (·.expirePresence ids) := member
      exact publishes_of_presence (fun _ => Room.changeAwareness_presence _ _ _) inPublished
  | connect conn => cases member
  | authenticate conn => cases member
  | closing conn => cases member
  | storeRead => cases member
  | loadRejected => cases member
  | loadResolved clientId => cases member
  | resume => cases member
  | unsubscribed room => cases member
  | destroyed room => cases member
  | writer room writing => cases member

omit [DecidableEq Conn] in
/-- Unless a client edits, only an answer carries anything. -/
theorem Publishes.carried {slot : Slot Conn Op Entry} {event : SlotEvent Conn Op}
    {message : BusMessage Op} (publishes : Publishes slot event message)
    (known : ∀ conn frame, event = .frame conn frame → frame.carried ⊆ slot.document) :
    message.carried = ∅ ∨ event = .bus .stateRequest ∧ message.carried = slot.document := by
  cases publishes with
  | presence entries => exact Or.inl rfl
  | requests isSubscribed => exact Or.inl rfl
  | answers isRequest attended => exact Or.inr ⟨isRequest, rfl⟩
  | edits conn frame update isFrame fresh =>
      have nothing : (Doc.mk slot.document).event frame.carried = none :=
        Doc.event_eq_none_of_subset (known conn frame isFrame)
      exact absurd (fresh.symm.trans nothing) nofun

end Slot

end CollabEditor.Instance

namespace CollabEditor.Cluster

open CollabEditor.Library CollabEditor.Yjs CollabEditor.Persistence CollabEditor.Rooms
open CollabEditor.Instance

universe u v w

variable {Conn : Type v} {Op : Type u} {Entry : Type w} [DecidableEq Conn] [DecidableEq Op]
  [Causality Op] {n : ℕ}

/-! ### What an event of one instance leaves of the others -/

variable {setup : Setup Op Entry} {before after : Cluster n Conn Op Entry} {server : Fin n}
  {event : SlotEvent Conn Op}

/-- Only the end of a load registers a room. -/
theorem Handles.registered (handles : Handles setup before after server event)
    {other : Fin n} (notSubscribed : other = server → event ≠ .subscribed)
    (registered : (after.slots other).registered.isSome) :
    (before.slots other).registered.isSome := by
  by_cases here : other = server
  · subst here
    obtain ⟨room, isRoom⟩ := Option.isSome_iff_exists.mp registered
    rcases Slot.registered_of_step handles.stepped isRoom with was | ⟨isSubscribed, -⟩
    · exact Option.isSome_iff_exists.mpr ⟨room, was⟩
    · exact absurd isSubscribed (notSubscribed rfl)
  · rw [← handles.others other here]
    exact registered

theorem Handles.document (handles : Handles setup before after server event)
    (coherent : before.Coherent) {other : Fin n}
    (was : (before.slots other).registered.isSome)
    (registered : (after.slots other).registered.isSome) :
    (before.slots other).document ⊆ (after.slots other).document := by
  by_cases here : other = server
  · subst here
    obtain ⟨room, isRoom⟩ := Option.isSome_iff_exists.mp was
    show (before.slot other).document ⊆ (after.slot other).document
    exact (coherent_slot coherent other).document_of_step handles.stepped isRoom registered
  · rw [handles.others other here]

/-- A published message is on its way to the other subscribers. -/
theorem Handles.carries (handles : Handles setup before after server event)
    {message : BusMessage Op} (publishes : message ∈ (before.slot server).publishes event)
    {other : Fin n} (elsewhere : other ≠ server) (subscribed : before.subscribed other = true) :
    (other, message) ∈ after.inFlight :=
  (handles.inFlight _).mpr
    (Or.inr ⟨message, publishes, mem_copies.mpr ⟨elsewhere, subscribed, rfl⟩⟩)

theorem Handles.carriedTo (handles : Handles setup before after server event)
    (other : Fin n) : before.carriedTo other ⊆ after.carriedTo other := by
  intro op member
  obtain ⟨message, inFlight, carried⟩ := mem_carriedTo.mp member
  exact mem_carriedTo.mpr ⟨message, (handles.inFlight _).mpr (Or.inl inFlight), carried⟩

/-- Apart from the end of a load, a document is given what the event brings. -/
theorem Handles.document_subset (handles : Handles setup before after server event)
    (coherent : before.Coherent) (notSubscribed : event ≠ .subscribed) :
    (after.slots server).document ⊆ (before.slots server).document ∪ event.offered := by
  show (after.slot server).document ⊆ (before.slot server).document ∪ event.offered
  exact (coherent_slot coherent server).document_subset_of_step handles.stepped notSubscribed

end CollabEditor.Cluster
