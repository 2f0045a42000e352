import CollabEditor.Cluster.Exchange

/-!
Owns the hand-off of a document from an instance that has it open to one that
opens it. The opener reads the store before it subscribes, so what the holder
accepted in between reaches it only as the answer to its state request.

Assumes what `Cluster.Relay` does: a shared store, and a bus that delivers.
-/

namespace CollabEditor

open CollabEditor.Library CollabEditor.Yjs CollabEditor.Persistence CollabEditor.Rooms
open CollabEditor.Instance

universe u v w

variable {Conn : Type v} {Op : Type u} {Entry : Type w} [DecidableEq Conn] [DecidableEq Op]
  [Causality Op] {n : ℕ}

namespace Instance.Slot

/-- What the documents of all rooms were given. -/
def received (slot : Slot Conn Op Entry) : Update Op :=
  mergeUpdates (slot.objects.map fun object => object.room.doc.received)

omit [DecidableEq Conn] [Causality Op] in
private theorem mem_received {slot : Slot Conn Op Entry} {op : Op} : op ∈ slot.received ↔
    ∃ (room : ℕ) (object : RoomObject Conn Op), slot.objects[room]? = some object ∧
      op ∈ object.room.doc.received := by
  unfold received
  rw [mem_mergeUpdates]
  constructor
  · rintro ⟨update, member, inUpdate⟩
    obtain ⟨object, inObjects, rfl⟩ := List.mem_map.mp member
    obtain ⟨room, found⟩ := List.mem_iff_getElem?.mp inObjects
    exact ⟨room, object, found, inUpdate⟩
  · rintro ⟨room, object, found, inDoc⟩
    exact ⟨_, List.mem_map.mpr ⟨object, List.mem_of_getElem? found, rfl⟩, inDoc⟩

private theorem received_of_step {setup : Setup Op Entry} {before after : Slot Conn Op Entry}
    {event : SlotEvent Conn Op} (stepped : before.step setup event = some after) :
    before.received ⊆ after.received := by
  intro op member
  obtain ⟨room, object, found, inDoc⟩ := mem_received.mp member
  obtain ⟨object', found', moves⟩ := moves_of_step stepped found
  obtain ⟨given, -, doc⟩ := moves.gives
  exact mem_received.mpr ⟨room, object', found', doc ▸ Finset.mem_union_left _ inDoc⟩

private theorem length_of_step {setup : Setup Op Entry} {before after : Slot Conn Op Entry}
    {event : SlotEvent Conn Op} (stepped : before.step setup event = some after)
    (once : ∀ clientId, event = .loadResolved clientId → before.objects = []) :
    before.objects.length ≤ 1 → after.objects.length ≤ 1 := by
  intro atMost
  rcases objects_of_step stepped with ⟨room, f, objects, -⟩ |
    ⟨clientId, _, _, isLoad, -, -, objects⟩
  · rw [objects, List.length_modify]
    exact atMost
  · rw [objects, once clientId isLoad]
    exact Nat.le_refl 1

omit [DecidableEq Conn] [Causality Op] in
/-- An instance that has made one room and has a client in it holds all that
its rooms were given in that one. -/
theorem Coherent.received_of_attended {slot : Slot Conn Op Entry} (coherent : slot.Coherent)
    (attended : slot.attended) (atMost : slot.objects.length ≤ 1) :
    ∃ room, slot.registered = some room ∧ slot.received ⊆ slot.document := by
  obtain ⟨isOpen, -⟩ := coherent.attended_iff.mp attended
  obtain ⟨room, registered⟩ := Option.isSome_iff_exists.mp isOpen
  obtain ⟨-, object, found, -⟩ := coherent.current room registered
  refine ⟨room, registered, fun op member => ?_⟩
  obtain ⟨room', object', found', inDoc⟩ := mem_received.mp member
  obtain ⟨inside, -⟩ := List.getElem?_eq_some_iff.mp found
  obtain ⟨inside', -⟩ := List.getElem?_eq_some_iff.mp found'
  obtain rfl : room' = room := by omega
  obtain rfl := Option.some.inj (found.symm.trans found')
  rw [document_eq registered found]
  exact inDoc

end Instance.Slot

/-- A cluster, with what the holder had accepted when the opener's open
resolved and what it has published since. -/
structure Handoff (n : ℕ) (Conn : Type v) (Op : Type u) (Entry : Type w) where
  cluster : Cluster n Conn Op Entry
  accepted : Option (Update Op)

namespace Handoff

/-- Instances that have just started, over any store. -/
def Initial (state : Handoff n Conn Op Entry) : Prop :=
  (∃ entry, ∀ server, state.cluster.slots server = Slot.initial entry) ∧
    (∀ server, state.cluster.subscribed server = false) ∧ state.cluster.inFlight = [] ∧
    state.accepted = none

/-- The observation after an event. -/
def acceptedAfter (holder opener : Fin n) (state : Handoff n Conn Op Entry) :
    ClusterEvent n Conn Op → Option (Update Op)
  | .runs server .subscribed =>
      if server = opener then some (state.cluster.slots holder).received else state.accepted
  | .runs server event =>
      if server = holder then state.accepted.map fun accepted => accepted ∪
        mergeUpdates (((state.cluster.slot holder).publishes event).map BusMessage.carried)
      else state.accepted
  | _ => state.accepted

def step (setup : Setup Op Entry) (holder opener : Fin n) (state : Handoff n Conn Op Entry)
    (event : ClusterEvent n Conn Op) : Option (Handoff n Conn Op Entry) :=
  (state.cluster.step setup event).map fun cluster =>
    ⟨cluster, state.acceptedAfter holder opener event⟩

/-- The holder opens the document once. -/
def OpensOnce (holder : Fin n) (state : Handoff n Conn Op Entry) :
    ClusterEvent n Conn Op → Prop
  | .runs server (.loadResolved _) =>
      server = holder → (state.cluster.slots holder).objects.length = 0
  | _ => True

/-- The opener's state request is sent to the holder and finds it with a client,
unless the opener has what the holder accepted, or it is on its way. -/
def Answered (holder opener : Fin n) (state : Handoff n Conn Op Entry) :
    ClusterEvent n Conn Op → Prop
  | .runs server .subscribed => server = opener → state.cluster.subscribed holder = true ∨
      (state.cluster.slots holder).received ⊆
        (state.cluster.slots opener).upcoming ∪ state.cluster.carriedTo opener
  | .deliver index => state.cluster.inFlight[index]? = some (holder, .stateRequest) →
      (state.cluster.slots holder).attended = true ∨ state.accepted.getD ∅ ⊆
        (state.cluster.slots opener).document ∪ state.cluster.carriedTo opener
  | _ => True

/-- The opener has an operation, or it is on its way, or the holder will send it. -/
def Reaches (holder opener : Fin n) (cluster : Cluster n Conn Op Entry) (op : Op) : Prop :=
  op ∈ (cluster.slots opener).document ∨ op ∈ cluster.carriedTo opener ∨
    (holder, .stateRequest) ∈ cluster.inFlight ∧ op ∈ (cluster.slots holder).received

/-- The invariant of a hand-off. -/
structure Sound (holder opener : Fin n) (state : Handoff n Conn Op Entry) : Prop where
  coherent : state.cluster.Coherent
  once : (state.cluster.slots holder).objects.length ≤ 1
  listens : (state.cluster.slots opener).registered.isSome →
    state.cluster.subscribed opener = true
  reaches : (state.cluster.slots opener).registered.isSome → ∀ op ∈ state.accepted.getD ∅,
    Reaches holder opener state.cluster op

omit [DecidableEq Conn] [Causality Op] in
private theorem sound_initial {holder opener : Fin n} {state : Handoff n Conn Op Entry}
    (initial : state.Initial) : Sound holder opener state := by
  obtain ⟨⟨entry, fresh⟩, -, -, -⟩ := initial
  refine ⟨fun server => ?_, ?_, ?_, ?_⟩
  · rw [fresh]
    exact Slot.coherent_initial entry
  · rw [fresh]
    exact Nat.zero_le 1
  · rw [fresh]
    exact nofun
  · rw [fresh]
    exact nofun

end Handoff

namespace Cluster

/-! ### What an event of one instance leaves -/

section Handled

variable {setup : Setup Op Entry} {before after : Cluster n Conn Op Entry} {server : Fin n}
  {event : SlotEvent Conn Op}

private theorem Handles.received (handles : Handles setup before after server event)
    (other : Fin n) : (before.slots other).received ⊆ (after.slots other).received := by
  by_cases here : other = server
  · subst here
    show (before.slot other).received ⊆ (after.slot other).received
    exact Slot.received_of_step handles.stepped
  · rw [handles.others other here]

private theorem Handles.length (handles : Handles setup before after server event) {other : Fin n}
    (once : other = server → ∀ clientId, event = .loadResolved clientId →
      (before.slots other).objects = []) (atMost : (before.slots other).objects.length ≤ 1) :
    (after.slots other).objects.length ≤ 1 := by
  by_cases here : other = server
  · subst here
    show (after.slot other).objects.length ≤ 1
    exact Slot.length_of_step handles.stepped (once rfl) atMost
  · rw [handles.others other here]
    exact atMost

end Handled

end Cluster

namespace Handoff

variable {setup : Setup Op Entry} {holder opener : Fin n}

/-- What reaches the opener still does after an event of an instance. -/
theorem Reaches.handled {before after : Cluster n Conn Op Entry} {server : Fin n}
    {event : SlotEvent Conn Op} {op : Op} (reaches : Reaches holder opener before op)
    (handles : Cluster.Handles setup before after server event) (coherent : before.Coherent)
    (was : (before.slots opener).registered.isSome)
    (registered : (after.slots opener).registered.isSome) :
    Reaches holder opener after op := by
  rcases reaches with inDocument | inFlight | ⟨requested, held⟩
  · exact Or.inl (handles.document coherent was registered inDocument)
  · exact Or.inr (Or.inl (handles.carriedTo opener inFlight))
  · exact Or.inr (Or.inr ⟨(handles.inFlight _).mpr (Or.inl requested),
      handles.received holder held⟩)

omit [DecidableEq Conn] [Causality Op] in
/-- What reaches the opener when a message is taken off the bus, unless the
message was what brings it. -/
theorem Reaches.taken {cluster : Cluster n Conn Op Entry} {op : Op} {index : ℕ}
    {receiver : Fin n} {message : BusMessage Op} (reaches : Reaches holder opener cluster op)
    (found : cluster.inFlight[index]? = some (receiver, message)) :
    Reaches holder opener { cluster with inFlight := cluster.inFlight.eraseIdx index } op ∨
      receiver = opener ∧ op ∈ message.carried ∨
      receiver = holder ∧ message = .stateRequest ∧ op ∈ (cluster.slots holder).received := by
  rcases reaches with inDocument | inFlight | ⟨requested, held⟩
  · exact Or.inl (Or.inl inDocument)
  · rcases Cluster.mem_carriedTo_eraseIdx found inFlight with stays | arriving
    · exact Or.inl (Or.inr (Or.inl stays))
    · exact Or.inr (Or.inl arriving)
  · rcases (Cluster.mem_inFlight_iff found).mp requested with arriving | stays
    · cases arriving
      exact Or.inr (Or.inr ⟨rfl, rfl, held⟩)
    · exact Or.inl (Or.inr (Or.inr ⟨stays, held⟩))

omit [DecidableEq Conn] [Causality Op] in
/-- What the holder's answer need not bring stays when a message for another
instance is taken off the bus. -/
theorem reaches_taken_of_covered {cluster : Cluster n Conn Op Entry} {op : Op} {index : ℕ}
    {receiver : Fin n} {message : BusMessage Op}
    (covered : op ∈ (cluster.slots opener).document ∪ cluster.carriedTo opener)
    (found : cluster.inFlight[index]? = some (receiver, message)) (other : receiver ≠ opener) :
    Reaches holder opener { cluster with inFlight := cluster.inFlight.eraseIdx index } op := by
  rcases Finset.mem_union.mp covered with inDocument | inFlight
  · exact Or.inl inDocument
  · rcases Cluster.mem_carriedTo_eraseIdx found inFlight with stays | ⟨arriving, -⟩
    · exact Or.inr (Or.inl stays)
    · exact absurd arriving other

private theorem mem_acceptedAfter {state : Handoff n Conn Op Entry} {server : Fin n}
    {event : SlotEvent Conn Op} {op : Op}
    (member : op ∈ (state.acceptedAfter holder opener (.runs server event)).getD ∅) :
    (event = .subscribed ∧ server = opener ∧ op ∈ (state.cluster.slots holder).received) ∨
      op ∈ state.accepted.getD ∅ ∨ server = holder ∧
        ∃ message ∈ (state.cluster.slot holder).publishes event, op ∈ message.carried := by
  unfold acceptedAfter at member
  split at member
  · next isRun =>
      cases isRun
      split at member
      · next isOpener => exact Or.inl ⟨rfl, isOpener, member⟩
      · exact Or.inr (Or.inl member)
  · next isRun =>
      cases isRun
      split at member
      · next isHolder =>
          cases accepted : state.accepted with
          | none => simp [accepted] at member
          | some known =>
              rw [accepted, Option.map_some, Option.getD_some] at member
              rcases Finset.mem_union.mp member with before | published
              · exact Or.inr (Or.inl before)
              · obtain ⟨update, inList, carried⟩ := mem_mergeUpdates.mp published
                obtain ⟨message, publishes, rfl⟩ := List.mem_map.mp inList
                exact Or.inr (Or.inr ⟨isHolder, message, publishes, carried⟩)
      · exact Or.inr (Or.inl member)
  · exact Or.inr (Or.inl member)

private theorem Sound.reaches_of_runs {state : Handoff n Conn Op Entry}
    (sound : Sound holder opener state)
    (different : holder ≠ opener) {after : Cluster n Conn Op Entry} {server : Fin n}
    {event : SlotEvent Conn Op} (answered : state.Answered holder opener (.runs server event))
    (handles : Cluster.Handles setup state.cluster after server event)
    (registered : (after.slots opener).registered.isSome) {op : Op}
    (member : op ∈ (state.acceptedAfter holder opener (.runs server event)).getD ∅) :
    Reaches holder opener after op := by
  by_cases opens : event = .subscribed ∧ server = opener
  · obtain ⟨rfl, rfl⟩ := opens
    have isAccepted : op ∈ (state.cluster.slots holder).received := by
      simpa [acceptedAfter] using member
    have requests := Slot.publishes_of_subscribed handles.stepped
    have document := (Cluster.coherent_slot sound.coherent server).document_of_subscribed
      handles.stepped
    rcases answered rfl with subscribed | covered
    · exact Or.inr (Or.inr ⟨handles.carries requests different subscribed,
        handles.received holder isAccepted⟩)
    · rcases Finset.mem_union.mp (covered isAccepted) with upcoming | inFlight
      · exact Or.inl (document.symm.subset upcoming)
      · exact Or.inr (Or.inl (handles.carriedTo server inFlight))
  · have was := handles.registered
      (fun same isSubscribed => opens ⟨isSubscribed, same.symm⟩) registered
    rcases mem_acceptedAfter member with ⟨isSubscribed, isOpener, -⟩ | before |
      ⟨rfl, message, publishes, carried⟩
    · exact absurd ⟨isSubscribed, isOpener⟩ opens
    · exact (sound.reaches was op before).handled handles sound.coherent was registered
    · have inFlight := handles.carries publishes (Ne.symm different) (sound.listens was)
      exact Or.inr (Or.inl (Cluster.mem_carriedTo.mpr ⟨message, inFlight, carried⟩))

omit [DecidableEq Conn] [Causality Op] in
private theorem Sound.reaches_of_drops {state : Handoff n Conn Op Entry}
    (sound : Sound holder opener state) (different : holder ≠ opener) {index : ℕ}
    {receiver : Fin n} {message : BusMessage Op}
    (answered : state.Answered holder opener (.deliver index))
    (found : state.cluster.inFlight[index]? = some (receiver, message))
    (deaf : (state.cluster.slots receiver).listener = none)
    (registered : (state.cluster.slots opener).registered.isSome) {op : Op}
    (member : op ∈ state.accepted.getD ∅) : Reaches holder opener
      { state.cluster with inFlight := state.cluster.inFlight.eraseIdx index } op := by
  rcases (sound.reaches registered op member).taken found with
    stays | ⟨rfl, -⟩ | ⟨rfl, rfl, -⟩
  · exact stays
  · obtain ⟨room, isRoom⟩ := Option.isSome_iff_exists.mp registered
    have listens := ((sound.coherent receiver).current room isRoom).1
    exact absurd (deaf.symm.trans listens) nofun
  · rcases answered found with attended | covered
    · simp [Slot.attended, deaf] at attended
    · exact reaches_taken_of_covered (covered member) found different

private theorem Sound.reaches_of_receives {state : Handoff n Conn Op Entry}
    (sound : Sound holder opener state) (different : holder ≠ opener) {index : ℕ}
    {receiver : Fin n} {message : BusMessage Op} {after : Cluster n Conn Op Entry}
    (answered : state.Answered holder opener (.deliver index))
    (found : state.cluster.inFlight[index]? = some (receiver, message))
    (handles : Cluster.Handles setup
      { state.cluster with inFlight := state.cluster.inFlight.eraseIdx index } after receiver
      (.bus message)) (registered : (after.slots opener).registered.isSome) {op : Op}
    (member : op ∈ state.accepted.getD ∅) : Reaches holder opener after op := by
  have was : (state.cluster.slots opener).registered.isSome :=
    handles.registered (fun _ => nofun) registered
  have kept : ∀ {op}, Reaches holder opener
      { state.cluster with inFlight := state.cluster.inFlight.eraseIdx index } op →
      Reaches holder opener after op :=
    fun reaches => reaches.handled handles sound.coherent was registered
  rcases (sound.reaches was op member).taken found with
    stays | ⟨rfl, carried⟩ | ⟨rfl, rfl, held⟩
  · exact kept stays
  · obtain ⟨room, isRoom⟩ := Option.isSome_iff_exists.mp was
    have document := (Cluster.coherent_slot sound.coherent receiver).document_of_bus
      handles.stepped isRoom
    exact Or.inl (document ▸ Finset.mem_union_right _ carried)
  · rcases answered found with attended | covered
    · obtain ⟨room, isRoom, all⟩ :=
        (sound.coherent receiver).received_of_attended attended sound.once
      have coherent := Cluster.coherent_slot sound.coherent receiver
      have answer := coherent.publishes_answer isRoom attended
      have inFlight := handles.carries answer (Ne.symm different) (sound.listens was)
      exact Or.inr (Or.inl (Cluster.mem_carriedTo.mpr ⟨_, inFlight, all held⟩))
    · exact kept (reaches_taken_of_covered (covered member) found different)

private theorem Sound.step {state state' : Handoff n Conn Op Entry}
    (sound : Sound holder opener state)
    (different : holder ≠ opener) {event : ClusterEvent n Conn Op}
    (once : state.OpensOnce holder event) (answered : state.Answered holder opener event)
    (stepped : state.step setup holder opener event = some state') :
    Sound holder opener state' := by
  obtain ⟨after, stepped', rfl⟩ := Option.map_eq_some_iff.mp stepped
  have coherent := sound.coherent.step stepped'
  cases Cluster.acts_of_step stepped' with
  | runs server event notBus ready handles =>
      refine ⟨coherent, ?_, fun registered => ?_, fun registered op member => ?_⟩
      · refine handles.length (fun same clientId isLoad => ?_) sound.once
        subst isLoad
        exact List.length_eq_zero_iff.mp (once same.symm)
      · dsimp only at registered ⊢
        rw [handles.subscribed]
        by_cases opens : event = .subscribed ∧ server = opener
        · exact opens.2 ▸ ready opens.1
        · exact sound.listens (handles.registered
            (fun same isSubscribed => opens ⟨isSubscribed, same.symm⟩) registered)
      · exact sound.reaches_of_runs different answered handles registered member
  | subscribes server result =>
      subst result
      refine ⟨coherent, sound.once, fun registered => ?_, sound.reaches⟩
      dsimp only
      rw [Function.update_apply]
      split
      · rfl
      · exact sound.listens registered
  | unsubscribes server deaf result =>
      subst result
      refine ⟨coherent, sound.once, fun registered => ?_, sound.reaches⟩
      dsimp only
      rw [Function.update_apply]
      split
      · next same =>
          subst same
          obtain ⟨room, isRoom⟩ := Option.isSome_iff_exists.mp registered
          have listens := ((sound.coherent opener).current room isRoom).1
          exact absurd (deaf.symm.trans listens) nofun
      · exact sound.listens registered
  | drops index receiver message found deaf result =>
      subst result
      exact ⟨coherent, sound.once, sound.listens, fun registered op member =>
        sound.reaches_of_drops different answered found deaf registered member⟩
  | receives index receiver message found handles =>
      refine ⟨coherent, ?_, fun registered => ?_, fun registered op member => ?_⟩
      · exact handles.length (fun _ _ => nofun) sound.once
      · dsimp only at registered ⊢
        rw [handles.subscribed]
        exact sound.listens (handles.registered (fun _ => nofun) registered)
      · exact sound.reaches_of_receives different answered found handles registered member

end Handoff

/-- In every run whose state requests are answered or not needed, the opener's
document holds, once the bus is drained, all that the holder had accepted when
the open resolved. -/
theorem handed_off (setup : Setup Op Entry) {holder opener : Fin n} (different : holder ≠ opener)
    {state : Handoff n Conn Op Entry}
    (reached : ReachedWhen (Handoff.step setup holder opener)
      (fun state event => state.OpensOnce holder event ∧ state.Answered holder opener event)
      Handoff.Initial state)
    {accepted : Update Op} (resolved : state.accepted = some accepted)
    (drained : state.cluster.inFlight = []) {room : ℕ} {object : RoomObject Conn Op}
    (registered : (state.cluster.slots opener).registered = some room)
    (found : (state.cluster.slots opener).objects[room]? = some object) :
    accepted ⊆ object.room.doc.received ∧ integrate accepted ⊆ object.room.doc.integrated := by
  have sound : Handoff.Sound holder opener state :=
    reached.invariant (Handoff.Sound holder opener) (fun _ => Handoff.sound_initial)
      fun _ _ _ sound allowed stepped => sound.step different allowed.1 allowed.2 stepped
  have isOpen : (state.cluster.slots opener).registered.isSome := by
    rw [registered]
    rfl
  have held : accepted ⊆ object.room.doc.received := by
    intro op member
    have inAccepted : op ∈ state.accepted.getD ∅ := by
      rw [resolved]
      exact member
    rcases sound.reaches isOpen op inAccepted with inDocument | inFlight | ⟨requested, -⟩
    · rw [← Slot.document_eq registered found]
      exact inDocument
    · obtain ⟨message, onBus, -⟩ := Cluster.mem_carriedTo.mp inFlight
      rw [drained] at onBus
      cases onBus
    · rw [drained] at requested
      cases requested
  exact ⟨held, integrate_mono held⟩

/-! ### Two instances -/

namespace Handoff

instance (holder : Fin n) (state : Handoff n Conn Op Entry) :
    ∀ event, Decidable (state.OpensOnce holder event)
  | .runs server (.loadResolved _) => inferInstanceAs (Decidable (server = holder → _))
  | .runs _ (.connect _) | .runs _ (.authenticate _) | .runs _ (.closing _)
  | .runs _ (.socketClosed _) | .runs _ .storeRead | .runs _ .loadRejected
  | .runs _ .subscribed | .runs _ .resume | .runs _ (.proceed _) | .runs _ (.frame _ _)
  | .runs _ (.bus _) | .runs _ (.expirePresence _ _) | .runs _ (.unsubscribed _)
  | .runs _ (.destroyed _) | .runs _ (.writer _ _) | .subscribe _ | .unsubscribe _
  | .deliver _ => isTrue trivial

instance (holder opener : Fin n) (state : Handoff n Conn Op Entry) :
    ∀ event, Decidable (state.Answered holder opener event)
  | .runs server .subscribed => inferInstanceAs (Decidable (server = opener → _ ∨ _))
  | .deliver index => inferInstanceAs (Decidable
      (state.cluster.inFlight[index]? = some (holder, .stateRequest) → _ ∨ _))
  | .runs _ (.connect _) | .runs _ (.authenticate _) | .runs _ (.closing _)
  | .runs _ (.socketClosed _) | .runs _ .storeRead | .runs _ .loadRejected
  | .runs _ (.loadResolved _) | .runs _ .resume | .runs _ (.proceed _) | .runs _ (.frame _ _)
  | .runs _ (.bus _) | .runs _ (.expirePresence _ _) | .runs _ (.unsubscribed _)
  | .runs _ (.destroyed _) | .runs _ (.writer _ _) | .subscribe _ | .unsubscribe _ =>
      isTrue trivial

/-- Two instances that have just started, with nothing stored. -/
def start : Handoff 2 ℕ ItemId (Option (MemoryDocumentStore.Entry ItemId)) :=
  ⟨⟨fun _ => Slot.initial none, none, fun _ => false, []⟩, none⟩

private theorem start_initial : start.Initial :=
  ⟨⟨none, fun _ => rfl⟩, fun _ => rfl, rfl, rfl⟩

/-- A visitor of the holder types, and the opener has read the store. -/
def typedThenRead : List (ClusterEvent 2 ℕ ItemId) :=
  (visits 0 ++ [SlotEvent.loadResolved 7]).map (.runs 0) ++ [.subscribe 0] ++
    [.runs 0 .subscribed, .runs 0 .resume, .runs 0 (.proceed 0),
      .runs 0 (.frame 0 (.sync (.update {⟨7, 0⟩})))] ++
    (visits 1 ++ [SlotEvent.loadResolved 8]).map (.runs 1) ++ [.subscribe 1]

end Handoff

/-- The holder's visitor stays, so the state request is answered. -/
theorem handed_off_answered :
    ∃ state : Handoff 2 ℕ ItemId (Option (MemoryDocumentStore.Entry ItemId)),
      ∃ object, (state.cluster.slots 1).objects[0]? = some object ∧
        {⟨7, 0⟩} ⊆ object.room.doc.received := by
  obtain ⟨state, reached, drained, resolved, registered, isOpen⟩ := exists_reachedWhen_of_runWhen
    (Handoff.step memorySetup 0 1)
    (fun state event => state.OpensOnce 0 event ∧ state.Answered 0 1 event)
    Handoff.Initial Handoff.start
    (Handoff.typedThenRead ++
      [.runs 1 .subscribed, .deliver 0, .runs 1 .resume, .runs 1 (.proceed 1), .deliver 0])
    (fun state => state.cluster.inFlight = [] ∧ state.accepted = some {⟨7, 0⟩} ∧
      (state.cluster.slots 1).registered = some 0 ∧ (state.cluster.slots 1).objects[0]?.isSome)
    Handoff.start_initial (by decide)
  obtain ⟨object, found⟩ := Option.isSome_iff_exists.mp isOpen
  exact ⟨state, object, found,
    (handed_off memorySetup (by decide) reached resolved drained registered found).1⟩

/-- The holder's last client leaves between the opener's read of the store and
its state request: the edit reaches the store, but not the opener. -/
theorem handed_off_lost :
    ∃ state : Handoff 2 ℕ ItemId (Option (MemoryDocumentStore.Entry ItemId)),
      ReachedWhen (Handoff.step memorySetup 0 1) (fun state event => state.OpensOnce 0 event)
        Handoff.Initial state ∧
      state.cluster.inFlight = [] ∧ state.accepted = some {⟨7, 0⟩} ∧
      (memorySetup.store.load state.cluster.entry).content = {⟨7, 0⟩} ∧
      (∀ object ∈ (state.cluster.slots 0).objects, object.teardown = .destroyed) ∧
      (state.cluster.slots 1).registered = some 0 ∧
      (state.cluster.slots 1).objects.map (fun object =>
        (object.room.doc.received, object.writer.unstored)) = [(∅, [])] :=
  exists_reachedWhen_of_runWhen (Handoff.step memorySetup 0 1)
    (fun state event => state.OpensOnce 0 event) Handoff.Initial Handoff.start
    (Handoff.typedThenRead ++ [.runs 0 (.socketClosed 0), .runs 1 .subscribed, .deliver 0,
        .unsubscribe 0] ++ (tearsDown 0).map (.runs 0) ++ [.runs 1 .resume, .runs 1 (.proceed 1)])
    (fun state => state.cluster.inFlight = [] ∧ state.accepted = some {⟨7, 0⟩} ∧
      (memorySetup.store.load state.cluster.entry).content = {⟨7, 0⟩} ∧
      (∀ object ∈ (state.cluster.slots 0).objects, object.teardown = .destroyed) ∧
      (state.cluster.slots 1).registered = some 0 ∧
      (state.cluster.slots 1).objects.map (fun object =>
        (object.room.doc.received, object.writer.unstored)) = [(∅, [])])
    Handoff.start_initial (by decide)

end CollabEditor
