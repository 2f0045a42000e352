import CollabEditor.Library.Transition
import CollabEditor.Rooms.Room

/-!
Owns what a room's origins decide over whole runs: which of the operations a
room integrates are handed to the sink and the bus. The origin is that of the
transaction that integrates an operation, which for a held operation need not
be the one that delivered it.
-/

namespace CollabEditor.Rooms

open CollabEditor.Library CollabEditor.Yjs

universe u v

/-- A call a room receives. -/
inductive RoomEvent (Client : Type v) (Op : Type u) where
  | hydrate (state : Update Op)
  | add (client : Client)
  | remove (client : Client)
  | sync (client : Client) (message : SyncMessage Op)
  | awareness (client : Client) (entries : List AwarenessEntry)
  | receive (message : BusMessage Op)
  | expirePresence (ids : List ℕ)

/-- A room with everything `hydrate` and bus updates delivered to it so far,
and everything it has recorded and published. -/
structure Ledger (Client : Type v) (Op : Type u) where
  room : Room Client Op
  delivered : Update Op
  recorded : Update Op
  published : Update Op

variable {Client : Type v} {Op : Type u} [DecidableEq Client] [DecidableEq Op] [Causality Op]

namespace RoomEvent

def perform (room : Room Client Op) : RoomEvent Client Op → Outcome Client Op
  | .hydrate state => room.hydrate state
  | .add client => room.add client
  | .remove client => room.remove client
  | .sync client message => room.handleSync client message
  | .awareness client entries => room.handleAwareness client entries
  | .receive message => room.receive message
  | .expirePresence ids => room.expirePresence ids

/-- The transaction on the document an event runs, if it runs one. -/
def transaction : RoomEvent Client Op → Option (Update Op × Origin Client)
  | .hydrate state => some (state, .hydrate)
  | .sync client (.step2 content) | .sync client (.update content) =>
      some (content, .client client)
  | .receive (.update content) => some (content, .remote)
  | _ => none

def delivers : RoomEvent Client Op → Update Op
  | .hydrate state => state
  | .receive message => message.carried
  | _ => ∅

end RoomEvent

namespace Ledger

def start (clientId : ℕ) : Ledger Client Op := ⟨Room.new clientId, ∅, ∅, ∅⟩

def next (ledger : Ledger Client Op) (event : RoomEvent Client Op) : Ledger Client Op where
  room := (event.perform ledger.room).1
  delivered := ledger.delivered ∪ event.delivers
  recorded := ledger.recorded ∪ mergeUpdates (Rooms.recorded (event.perform ledger.room).2)
  published := ledger.published ∪
    mergeUpdates ((Rooms.published (event.perform ledger.room).2).map BusMessage.carried)

/-- Everything the room integrated and that neither `hydrate` nor a bus update
delivered has been recorded and published. -/
def Saved (ledger : Ledger Client Op) : Prop :=
  ∀ op ∈ ledger.room.doc.integrated, op ∉ ledger.delivered →
    op ∈ ledger.recorded ∧ op ∈ ledger.published

/-- A hydration or a bus update supplies the last missing predecessor only of
held operations that `hydrate` or the bus delivered as well. -/
def UnlocksOnlyDelivered (ledger : Ledger Client Op) : RoomEvent Client Op → Prop
  | .hydrate content | .receive (.update content) =>
      ∀ op ∈ ledger.room.doc.pending, Integrable (ledger.room.doc.received ∪ content) op →
        op ∈ ledger.delivered ∪ content
  | _ => True

end Ledger

/-! ### One event -/

private theorem RoomEvent.perform_of_transaction {event : RoomEvent Client Op} {content : Update Op}
    {origin : Origin Client} (runs : event.transaction = some (content, origin))
    (room : Room Client Op) : event.perform room = room.applyUpdate content origin := by
  cases event with
  | hydrate state =>
      cases runs
      rfl
  | sync client message =>
      cases message with
      | step1 vector => cases runs
      | step2 update =>
          cases runs
          rfl
      | update update =>
          cases runs
          rfl
  | receive message =>
      cases message with
      | update update =>
          cases runs
          rfl
      | awareness entries => cases runs
      | stateRequest => cases runs
  | add client => cases runs
  | remove client => cases runs
  | awareness client entries => cases runs
  | expirePresence ids => cases runs

private theorem Room.recorded_add (room : Room Client Op) (client : Client) :
    recorded (room.add client).2 = [] := by
  unfold Room.add recorded
  dsimp only
  by_cases nobody : room.awareness.states.keys = []
  · rw [if_pos nobody]
    rfl
  · rw [if_neg nobody]
    rfl

/-- An event without a transaction leaves the document alone and records
nothing. -/
theorem RoomEvent.perform_of_no_transaction {event : RoomEvent Client Op}
    (runsNone : event.transaction = none) (room : Room Client Op) :
    (event.perform room).1.doc = room.doc ∧ recorded (event.perform room).2 = [] := by
  have presence : ∀ (before : Room Client Op) (changed : Awareness × AwarenessChange)
      (origin : Origin Client), before.doc = room.doc →
      (before.changeAwareness changed origin).1.doc = room.doc ∧
        recorded (before.changeAwareness changed origin).2 = [] :=
    fun before changed origin same =>
      ⟨(before.changeAwareness_doc changed origin).1.trans same,
        recorded_of_presence (before.changeAwareness_presence changed origin)⟩
  cases event with
  | hydrate state => cases runsNone
  | add client => exact ⟨rfl, room.recorded_add client⟩
  | remove client => exact presence _ _ _ rfl
  | sync client message =>
      cases message with
      | step1 vector => exact ⟨rfl, rfl⟩
      | step2 update => cases runsNone
      | update update => cases runsNone
  | awareness client entries => exact presence _ _ _ rfl
  | receive message =>
      refine ⟨?_, room.recorded_receive message⟩
      cases message with
      | update update => cases runsNone
      | awareness entries => exact (presence _ _ _ rfl).1
      | stateRequest => rfl
  | expirePresence ids => exact presence _ _ _ rfl

namespace Ledger

/-- Whatever was recorded is part of the document. -/
def RecordedIntegrated (ledger : Ledger Client Op) : Prop :=
  ledger.recorded ⊆ ledger.room.doc.integrated

private theorem recordedIntegrated_next {ledger : Ledger Client Op}
    (recordedIntegrated : ledger.RecordedIntegrated) (event : RoomEvent Client Op) :
    (ledger.next event).RecordedIntegrated := by
  unfold RecordedIntegrated next
  cases runs : event.transaction with
  | none =>
      obtain ⟨sameDoc, nothing⟩ := event.perform_of_no_transaction runs ledger.room
      rw [sameDoc, nothing, mergeUpdates_nil, Finset.union_empty]
      exact recordedIntegrated
  | some transaction =>
      obtain ⟨content, origin⟩ := transaction
      have performed := event.perform_of_transaction runs ledger.room
      have events : mergeUpdates (Rooms.recorded (event.perform ledger.room).2) ⊆
          ledger.room.doc.fresh content := by
        rw [performed, Room.recorded_applyUpdate, mergeUpdates_subset]
        intro update member
        split at member
        · rw [← Doc.event_getD]
          simp [Option.mem_toList.mp member]
        · cases member
      rw [performed] at events ⊢
      rw [Room.applyUpdate_room, Doc.integrated_apply]
      exact Finset.union_subset_union recordedIntegrated events

/-- What one transaction changes, by whether it is a client's. -/
theorem next_of_transaction {event : RoomEvent Client Op} {content : Update Op}
    {origin : Origin Client} (runs : event.transaction = some (content, origin))
    (ledger : Ledger Client Op) :
    (ledger.next event).room.doc.integrated =
        ledger.room.doc.integrated ∪ ledger.room.doc.fresh content ∧
      (origin ≠ .hydrate ∧ origin ≠ .remote →
        (ledger.next event).recorded = ledger.recorded ∪ ledger.room.doc.fresh content ∧
        (ledger.next event).published = ledger.published ∪ ledger.room.doc.fresh content) ∧
      (¬ (origin ≠ .hydrate ∧ origin ≠ .remote) →
        (ledger.next event).recorded = ledger.recorded ∧
        (ledger.next event).published = ledger.published) := by
  have performed := event.perform_of_transaction runs ledger.room
  unfold next
  simp only [performed, Room.recorded_applyUpdate, Room.published_applyUpdate,
    Room.applyUpdate_room, Doc.integrated_apply, true_and]
  constructor
  · intro ofClient
    simp only [if_pos ofClient, ← Doc.event_getD]
    cases ledger.room.doc.event content with
    | none => simp
    | some fresh => simp [BusMessage.carried]
  · intro notOfClient
    simp only [if_neg notOfClient]
    simp

/-- What was saved stays saved; what a step newly integrates is to be shown saved. -/
theorem Saved.next {ledger : Ledger Client Op} (saved : ledger.Saved)
    {event : RoomEvent Client Op}
    (fresh : ∀ op ∈ (ledger.next event).room.doc.integrated,
      op ∉ ledger.room.doc.integrated → op ∉ (ledger.next event).delivered →
        op ∈ (ledger.next event).recorded ∧ op ∈ (ledger.next event).published) :
    (ledger.next event).Saved := by
  intro op integrated notDelivered
  by_cases old : op ∈ ledger.room.doc.integrated
  · have before := saved op old
      fun delivered => notDelivered (Finset.mem_union_left _ delivered)
    exact ⟨Finset.mem_union_left _ before.1, Finset.mem_union_left _ before.2⟩
  · exact fresh op integrated old notDelivered

omit [DecidableEq Client] in
/-- An event that is neither a hydration nor a bus update has nothing to unlock. -/
theorem unlocksOnlyDelivered_of_ne {ledger : Ledger Client Op} {event : RoomEvent Client Op}
    (notDelivery : ∀ content origin, event.transaction = some (content, origin) →
      origin ≠ .hydrate ∧ origin ≠ .remote) : ledger.UnlocksOnlyDelivered event := by
  unfold UnlocksOnlyDelivered
  split
  · exact absurd rfl (notDelivery _ _ rfl).1
  · exact absurd rfl (notDelivery _ _ rfl).2
  · trivial

omit [DecidableEq Client] [DecidableEq Op] [Causality Op] in
/-- A hydration or a bus update delivers its content. -/
theorem delivery_cases {event : RoomEvent Client Op} {content : Update Op}
    {origin : Origin Client} (runs : event.transaction = some (content, origin))
    (delivery : ¬ (origin ≠ .hydrate ∧ origin ≠ .remote)) :
    event = .hydrate content ∨ event = .receive (.update content) := by
  cases event with
  | hydrate state =>
      cases runs
      exact Or.inl rfl
  | receive message =>
      cases message with
      | update update =>
          cases runs
          exact Or.inr rfl
      | awareness entries => cases runs
      | stateRequest => cases runs
  | sync client message =>
      cases message with
      | step1 vector => cases runs
      | step2 update =>
          cases runs
          exact absurd ⟨nofun, nofun⟩ delivery
      | update update =>
          cases runs
          exact absurd ⟨nofun, nofun⟩ delivery
  | add client => cases runs
  | remove client => cases runs
  | awareness client entries => cases runs
  | expirePresence ids => cases runs

private theorem delivered_of_delivery {event : RoomEvent Client Op} {content : Update Op}
    {origin : Origin Client} (runs : event.transaction = some (content, origin))
    (delivery : ¬ (origin ≠ .hydrate ∧ origin ≠ .remote)) (ledger : Ledger Client Op) :
    (ledger.next event).delivered = ledger.delivered ∪ content ∧
      (ledger.UnlocksOnlyDelivered event ↔
        ∀ op ∈ ledger.room.doc.pending, Integrable (ledger.room.doc.received ∪ content) op →
          op ∈ ledger.delivered ∪ content) := by
  rcases delivery_cases runs delivery with rfl | rfl
  · exact ⟨rfl, Iff.rfl⟩
  · exact ⟨rfl, Iff.rfl⟩

/-- A delivery keeps everything saved exactly if whatever it unlocks was
delivered too. -/
theorem saved_delivery_iff {ledger : Ledger Client Op}
    (recordedIntegrated : ledger.RecordedIntegrated) (saved : ledger.Saved)
    {event : RoomEvent Client Op} {content : Update Op} {origin : Origin Client}
    (runs : event.transaction = some (content, origin))
    (delivery : ¬ (origin ≠ .hydrate ∧ origin ≠ .remote)) :
    (ledger.next event).Saved ↔ ledger.UnlocksOnlyDelivered event := by
  obtain ⟨grows, -, notOfClient⟩ := next_of_transaction runs ledger
  obtain ⟨recorded, -⟩ := notOfClient delivery
  obtain ⟨delivered, unlocksOnly⟩ := delivered_of_delivery runs delivery ledger
  rw [unlocksOnly]
  constructor
  · intro savedAfter op pending integrable
    by_contra notDelivered
    obtain ⟨-, notIntegrated⟩ := Finset.mem_sdiff.mp pending
    have fresh : op ∈ ledger.room.doc.fresh content :=
      Doc.mem_fresh.mpr ⟨integrable, notIntegrated⟩
    have wasRecorded := (savedAfter op (grows ▸ Finset.mem_union_right _ fresh)
      (delivered ▸ notDelivered)).1
    rw [recorded] at wasRecorded
    exact notIntegrated (recordedIntegrated wasRecorded)
  · intro unlocks
    refine saved.next fun op integrated notBefore notDelivered => ?_
    rw [grows, Finset.mem_union] at integrated
    rw [delivered] at notDelivered
    have fresh := integrated.resolve_left notBefore
    rcases Finset.mem_union.mp (Doc.fresh_subset _ _ fresh) with given | pending
    · exact absurd (Finset.mem_union_right _ given) notDelivered
    · exact absurd (unlocks op pending (Doc.mem_fresh.mp fresh).1) notDelivered

/-- What one event needs to keep everything saved, exactly. -/
theorem saved_next_iff {ledger : Ledger Client Op}
    (recordedIntegrated : ledger.RecordedIntegrated) (saved : ledger.Saved)
    (event : RoomEvent Client Op) :
    (ledger.next event).Saved ↔ ledger.UnlocksOnlyDelivered event := by
  cases runs : event.transaction with
  | none =>
      obtain ⟨sameDoc, -⟩ := event.perform_of_no_transaction runs ledger.room
      have unlocks : ledger.UnlocksOnlyDelivered event :=
        unlocksOnlyDelivered_of_ne fun content origin same =>
          absurd (runs.symm.trans same) nofun
      refine iff_of_true (saved.next fun op integrated notBefore _ => ?_) unlocks
      exact absurd (by simpa [next, sameDoc] using integrated) notBefore
  | some transaction =>
      obtain ⟨content, origin⟩ := transaction
      by_cases byClient : origin ≠ .hydrate ∧ origin ≠ .remote
      · obtain ⟨grows, ofClient, -⟩ := next_of_transaction runs ledger
        obtain ⟨recorded, published⟩ := ofClient byClient
        have unlocks : ledger.UnlocksOnlyDelivered event := by
          refine unlocksOnlyDelivered_of_ne fun content' origin' same => ?_
          cases runs.symm.trans same
          exact byClient
        refine iff_of_true (saved.next fun op integrated notBefore _ => ?_) unlocks
        rw [grows, Finset.mem_union] at integrated
        rw [recorded, published]
        have fresh := integrated.resolve_left notBefore
        exact ⟨Finset.mem_union_right _ fresh, Finset.mem_union_right _ fresh⟩
      · exact saved_delivery_iff recordedIntegrated saved runs byClient

/-! ### Whole runs -/

/-- One step of a run: every call is possible in every state. -/
def step (ledger : Ledger Client Op) (event : RoomEvent Client Op) :
    Option (Ledger Client Op) :=
  some (ledger.next event)

/-- A room has everything its clients contributed recorded and published at
every moment of a run exactly when no hydration and no bus update of that run
unlocks a held operation which only a client delivered. -/
theorem saved_along_iff (clientId : ℕ) (events : List (RoomEvent Client Op)) :
    Along step Saved (start clientId : Ledger Client Op) events ↔
      Meets step UnlocksOnlyDelivered (start clientId : Ledger Client Op) events := by
  refine along_iff_meets Saved RecordedIntegrated ?_ ?_ ?_ ?_ events
  · intro ledger event ledger' recordedIntegrated stepped
    cases stepped
    exact recordedIntegrated_next recordedIntegrated event
  · intro ledger event ledger' recordedIntegrated saved stepped
    cases stepped
    exact saved_next_iff recordedIntegrated saved event
  · exact Finset.empty_subset _
  · intro op integrated
    simp [start, Room.new] at integrated

end Ledger

/-- A client's second operation arrives ahead of its first, which the bus then
brings: the second is integrated under the bus's origin and reaches neither the
sink nor the bus. -/
theorem unlocked_by_bus_lost :
    ¬ ∀ events : List (RoomEvent Unit ItemId),
      Along Ledger.step Ledger.Saved (Ledger.start 0 : Ledger Unit ItemId) events := by
  intro claimed
  have run := claimed [.add (), .sync () (.update {⟨7, 1⟩}), .receive (.update {⟨7, 0⟩})]
  have saved := ((run.2 _ rfl).2 _ rfl).2 _ rfl
  have recorded := (saved ⟨7, 1⟩ (by decide) (by decide)).1
  exact absurd recorded (by decide)

end CollabEditor.Rooms
