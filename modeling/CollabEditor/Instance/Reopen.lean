import CollabEditor.Instance.Registry

/-!
Owns what a reopened document shows on an instance without a broker. A room is
made from one read of the store, so it holds what the earlier rooms accepted
when their writers have nothing left to store at that read.

Assumes of the store what `Persistence.DocumentStore` promises. Does not own
documents that other instances write to as well.
-/

namespace CollabEditor.Instance

open CollabEditor.Library CollabEditor.Yjs CollabEditor.Persistence CollabEditor.Rooms
open CollabEditor.Ws (integrated_dispatch)

universe u v w

variable {Conn : Type v} {Op : Type u} {Entry : Type w} [DecidableEq Conn] [DecidableEq Op]
  [Causality Op]

/-- No broker is configured and the store's operations succeed. -/
def SlotEvent.Local : SlotEvent Conn Op → Prop
  | .bus _ | .loadRejected | .writer _ .appendRejected | .writer _ .compactRejected => False
  | _ => True

instance : ∀ event : SlotEvent Conn Op, Decidable event.Local
  | .bus _ | .loadRejected | .writer _ .appendRejected | .writer _ .compactRejected =>
      isFalse id
  | .writer _ .timerFired | .writer _ .startWrite | .writer _ .appendStored
  | .writer _ .appendResolved | .writer _ .compactStored | .writer _ .compactResolved
  | .connect _ | .authenticate _ | .closing _ | .socketClosed _ | .storeRead | .loadResolved _
  | .subscribed | .resume | .proceed _ | .frame _ _ | .expirePresence _ _ | .unsubscribed _
  | .destroyed _ => isTrue trivial

namespace Slot

/-- What `load` would read now. -/
def content (setup : Setup Op Entry) (slot : Slot Conn Op Entry) : Update Op :=
  (setup.store.load slot.entry).content

/-- A read of the store finds no room with something it has not stored. -/
def ReadsAll (setup : Setup Op Entry) (slot : Slot Conn Op Entry) : SlotEvent Conn Op → Prop
  | .storeRead => ∀ object ∈ slot.objects,
      mergeUpdates object.writer.unstored ∪ object.room.doc.pending ⊆ slot.content setup
  | _ => True

instance (setup : Setup Op Entry) (slot : Slot Conn Op Entry) :
    ∀ event, Decidable (slot.ReadsAll setup event)
  | .storeRead => inferInstanceAs (Decidable (∀ object ∈ slot.objects,
      mergeUpdates object.writer.unstored ∪ object.room.doc.pending ⊆ slot.content setup))
  | .connect _ | .authenticate _ | .closing _ | .socketClosed _ | .loadRejected
  | .loadResolved _ | .subscribed | .resume | .proceed _ | .frame _ _ | .bus _
  | .expirePresence _ _ | .unsubscribed _ | .destroyed _ | .writer _ _ => isTrue trivial

/-- What a document's rooms have accepted is stored or on its way there, and a
room that is loading or open holds what the earlier ones accepted. -/
structure Restored (setup : Setup Op Entry) (slot : Slot Conn Op Entry) : Prop where
  stored : ∀ (room : ℕ) object, slot.objects[room]? = some object →
    object.room.doc.integrated ⊆ slot.content setup ∪ mergeUpdates object.writer.unstored
  read : ∀ loaded waiters, slot.opening = some ⟨.read loaded, waiters⟩ →
    loaded.content ⊆ slot.content setup ∧ ∀ (room : ℕ) object,
      slot.objects[room]? = some object → object.room.doc.received ⊆ loaded.content
  subscribing : ∀ room state waiters, slot.opening = some ⟨.subscribing room state, waiters⟩ →
    state.getD ∅ ⊆ slot.content setup ∧
      (∀ object, slot.objects[room]? = some object → object.room.doc = Doc.empty) ∧
      ∀ earlier < room, ∀ object, slot.objects[earlier]? = some object →
        object.room.doc.received ⊆ state.getD ∅
  current : ∀ room object, slot.registered = some room → slot.objects[room]? = some object →
    ∀ earlier < room, ∀ object', slot.objects[earlier]? = some object' →
      object'.room.doc.received ⊆ object.room.doc.received

omit [DecidableEq Conn] in
private theorem restored_initial (setup : Setup Op Entry) (entry : Entry) :
    (initial entry : Slot Conn Op Entry).Restored setup where
  stored := nofun
  read := nofun
  subscribing := nofun
  current := nofun

/-- An event that cannot fail takes nothing out of the store. -/
theorem content_of_step {setup : Setup Op Entry} {before after : Slot Conn Op Entry}
    {event : SlotEvent Conn Op} (succeeds : event.Local)
    (stepped : before.step setup event = some after) :
    before.content setup ⊆ after.content setup := by
  rcases entry_of_step stepped with same | ⟨room, object, writing, writer, rfl, -, wrote⟩
  · unfold content
    rw [same]
  · have notRejected : writing ≠ .appendRejected := by
      rintro rfl
      exact succeeds
    obtain ⟨batch, -, gains⟩ := DocumentWriter.step_unstored notRejected wrote
    unfold content
    rw [gains]
    exact Finset.subset_union_left

omit [DecidableEq Conn] [DecidableEq Op] [Causality Op] in
/-- Without a broker only the room that is open or loading is given anything. -/
theorem Coherent.gives {before after : Slot Conn Op Entry} (coherent : before.Coherent)
    {event : SlotEvent Conn Op} (succeeds : event.Local) {room : ℕ} {given : Update Op}
    (gives : Gives before after event room given) : given = ∅ ∨
      before.registered = some room ∨
      ∃ state waiters, before.opening = some ⟨.subscribing room (some state), waiters⟩ ∧
        after.opening = some ⟨.opened room, waiters⟩ := by
  cases gives with
  | nothing => exact Or.inl rfl
  | hydrated content waiters opening opening' =>
      exact Or.inr (Or.inr ⟨given, waiters, opening, opening'⟩)
  | framed conn message isFrame ready joined =>
      exact Or.inr (Or.inl (coherent.registered_of_joined joined))
  | received message isBus listens =>
      subst isBus
      exact succeeds.elim

private theorem Restored.stored_of_moves {setup : Setup Op Entry}
    {before after : Slot Conn Op Entry}
    (restored : before.Restored setup) {event : SlotEvent Conn Op} (succeeds : event.Local)
    (grows : before.content setup ⊆ after.content setup) {room : ℕ}
    {object object' : RoomObject Conn Op} (found : before.objects[room]? = some object)
    (moves : Moves setup before after event room object object') :
    object'.room.doc.integrated ⊆
      after.content setup ∪ mergeUpdates object'.writer.unstored := by
  have kept : object.room.doc.integrated ⊆
      after.content setup ∪ mergeUpdates object.writer.unstored :=
    (restored.stored room object found).trans (Finset.union_subset_union_left grows)
  -- a call that hands nothing to the sink and leaves the document as it is
  have quiet : ∀ outcome : Outcome Conn Op, outcome.1.doc = object.room.doc →
      (object.perform setup outcome).room.doc.integrated ⊆ after.content setup ∪
        mergeUpdates (object.perform setup outcome).writer.unstored := by
    intro outcome sameDoc
    rw [object.perform_unstored, mergeUpdates_append, RoomObject.perform, sameDoc]
    exact kept.trans (Finset.union_subset_union_right Finset.subset_union_left)
  cases moves with
  | idles => exact kept
  | enters conns isOpen =>
      dsimp only
      rw [doc_enter]
      exact kept
  | leaves conn stays => exact quiet _ (object.room.doc_remove conn)
  | closes conn last => exact quiet _ (object.room.doc_remove conn)
  | hydrates content waiters opening opening' =>
      obtain ⟨fromStore, isNew, -⟩ := restored.subscribing room _ waiters opening
      refine (Doc.integrated_subset _).trans ?_
      rw [RoomObject.perform, Room.hydrate, Room.applyUpdate_room, Doc.received_apply,
        isNew object found]
      refine Finset.union_subset (Finset.empty_subset _) ?_
      exact (fromStore.trans grows).trans Finset.subset_union_left
  | frames conn message isFrame ready joined =>
      rw [object.perform_unstored, mergeUpdates_append, RoomObject.perform,
        integrated_dispatch, ← Finset.union_assoc]
      exact Finset.union_subset_union_left kept
  | receives message isBus listens =>
      subst isBus
      exact succeeds.elim
  | expires ids => exact quiet _ (object.room.doc_expirePresence ids)
  | destroys leaving =>
      rw [RoomObject.destroy, DocumentWriter.close_unstored]
      exact kept
  | ends ticket flushing resolved => exact kept
  | writes writing writer isWriter stepped =>
      subst isWriter
      have notRejected : writing ≠ .appendRejected := by
        rintro rfl
        exact succeeds
      obtain ⟨batch, leaves, gains⟩ := DocumentWriter.step_unstored notRejected stepped
      have stored := restored.stored room object found
      have gains' : after.content setup = before.content setup ∪ mergeUpdates batch := gains
      rw [leaves, mergeUpdates_append, ← Finset.union_assoc, ← gains'] at stored
      exact stored

/-- While no room is registered, only a load that ends changes a document. -/
theorem Coherent.doc_of_moves {setup : Setup Op Entry} {before after : Slot Conn Op Entry}
    (coherent : before.Coherent) {event : SlotEvent Conn Op} (succeeds : event.Local)
    {room : ℕ} {object object' : RoomObject Conn Op}
    (moves : Moves setup before after event room object object')
    (unregistered : before.registered ≠ some room)
    (loading : ∀ waiters, after.opening ≠ some ⟨.opened room, waiters⟩) :
    object'.room.doc = object.room.doc := by
  obtain ⟨given, gives, doc⟩ := moves.gives
  rcases coherent.gives succeeds gives with rfl | registered | ⟨_, waiters, -, opened⟩
  · rw [doc]
    simp [Doc.apply]
  · exact absurd registered unregistered
  · exact absurd opened (loading waiters)

private theorem Restored.read_of_step {setup : Setup Op Entry} {before after : Slot Conn Op Entry}
    (coherent : before.Coherent) (restored : before.Restored setup)
    {event : SlotEvent Conn Op} (succeeds : event.Local) (reads : before.ReadsAll setup event)
    (stepped : before.step setup event = some after) {loaded : LoadedDocument Op}
    {waiters : List Conn} (opening : after.opening = some ⟨.read loaded, waiters⟩) :
    loaded.content ⊆ after.content setup ∧ ∀ (room : ℕ) object,
      after.objects[room]? = some object → object.room.doc.received ⊆ loaded.content := by
  have grows := content_of_step succeeds stepped
  have atRead : before.registered = none ∧ loaded.content ⊆ before.content setup ∧
      ∀ (room : ℕ) object, before.objects[room]? = some object →
        object.room.doc.received ⊆ loaded.content := by
    rcases progress_of_step stepped opening with
      ⟨⟨progress, waiters'⟩, opening, rfl⟩ | ⟨rfl, rfl, waiters', opening⟩
    · exact ⟨(coherent.loading _ opening).2.2.1, restored.read loaded waiters' opening⟩
    · refine ⟨(coherent.loading _ opening).2.2.1, Finset.Subset.refl _, ?_⟩
      intro room object found op received
      have missing := reads object (List.mem_of_getElem? found)
      by_cases integrated : op ∈ object.room.doc.integrated
      · rcases Finset.mem_union.mp (restored.stored room object found integrated) with
          stored | unstored
        · exact stored
        · exact missing (Finset.mem_union_left _ unstored)
      · exact missing (Finset.mem_union_right _ (Finset.mem_sdiff.mpr ⟨received, integrated⟩))
  obtain ⟨unregistered, fromStore, earlier⟩ := atRead
  refine ⟨fromStore.trans grows, fun room object' found' => ?_⟩
  rcases origin_of_step stepped found' with
    ⟨object, found, moves⟩ | ⟨-, _, _, _, -, -, subscribing, -⟩
  · have same := coherent.doc_of_moves succeeds moves (unregistered ▸ nofun)
      (opening ▸ nofun)
    exact same ▸ earlier room object found
  · exact absurd (opening.symm.trans subscribing) nofun

private theorem Restored.subscribing_of_step {setup : Setup Op Entry}
    {before after : Slot Conn Op Entry} (coherent : before.Coherent)
    (restored : before.Restored setup) {event : SlotEvent Conn Op} (succeeds : event.Local)
    (stepped : before.step setup event = some after) {room : ℕ} {state : Option (Update Op)}
    {waiters : List Conn} (opening : after.opening = some ⟨.subscribing room state, waiters⟩) :
    state.getD ∅ ⊆ after.content setup ∧
      (∀ object, after.objects[room]? = some object → object.room.doc = Doc.empty) ∧
      ∀ earlier < room, ∀ object, after.objects[earlier]? = some object →
        object.room.doc.received ⊆ state.getD ∅ := by
  have grows := content_of_step succeeds stepped
  have still : ∀ {other : ℕ} {object object' : RoomObject Conn Op},
      before.registered = none → Moves setup before after event other object object' →
      object'.room.doc = object.room.doc := fun unregistered moves =>
    coherent.doc_of_moves succeeds moves (unregistered ▸ nofun) (opening ▸ nofun)
  rcases progress_of_step stepped opening with ⟨⟨progress, waiters'⟩, opening', rfl⟩ |
    ⟨clientId, loaded, waiters', opening', rfl, rfl, objects⟩
  · have unregistered := (coherent.loading _ opening').2.2.1
    obtain ⟨fromStore, isNew, older⟩ := restored.subscribing room state waiters' opening'
    have origin : ∀ (other : ℕ) object', after.objects[other]? = some object' →
        ∃ object, before.objects[other]? = some object ∧
          object'.room.doc = object.room.doc := by
      intro other object' found'
      rcases origin_of_step stepped found' with
        ⟨object, found, moves⟩ | ⟨-, _, _, _, -, isRead, -⟩
      · exact ⟨object, found, still unregistered moves⟩
      · exact absurd (opening'.symm.trans isRead) nofun
    refine ⟨fromStore.trans grows, fun object' found' => ?_,
      fun earlier before object' found' => ?_⟩
    · obtain ⟨object, found, same⟩ := origin room object' found'
      exact same.trans (isNew object found)
    · obtain ⟨object, found, same⟩ := origin earlier object' found'
      exact same ▸ older earlier before object found
  · have unregistered := (coherent.loading _ opening').2.2.1
    obtain ⟨fromStore, older⟩ := restored.read loaded waiters' opening'
    refine ⟨fromStore.trans grows, fun object' found' => ?_,
      fun earlier before object' found' => ?_⟩
    · rw [objects, List.getElem?_concat_length] at found'
      exact Option.some.inj found' ▸ rfl
    · rcases origin_of_step stepped found' with ⟨object, found, moves⟩ | ⟨absent, -⟩
      · exact still unregistered moves ▸ older earlier object found
      · have outside := List.getElem?_eq_none_iff.mp absent
        omega

private theorem Restored.current_of_step {setup : Setup Op Entry}
    {before after : Slot Conn Op Entry}
    (coherent : before.Coherent) (restored : before.Restored setup)
    {event : SlotEvent Conn Op} (succeeds : event.Local)
    (stepped : before.step setup event = some after) {room : ℕ}
    {object : RoomObject Conn Op} (registered : after.registered = some room)
    (found : after.objects[room]? = some object) {earlier : ℕ} (older : earlier < room)
    {object' : RoomObject Conn Op} (found' : after.objects[earlier]? = some object') :
    object'.room.doc.received ⊆ object.room.doc.received := by
  have notOpened : ∀ waiters, after.opening ≠ some ⟨.opened earlier, waiters⟩ := by
    intro waiters opened
    have isCurrent := ((coherent.step stepped).loading _ opened).2.2.1
    have same := Option.some.inj (registered.symm.trans isCurrent)
    omega
  have unchanged : ∀ {before' : RoomObject Conn Op}, before.objects[room]? = some before' →
      before.registered ≠ some earlier → ∃ before'', before.objects[earlier]? = some before'' ∧
        object'.room.doc = before''.room.doc := by
    intro before' foundBefore unregistered
    rcases origin_of_step stepped found' with ⟨before'', foundOlder, moves⟩ | ⟨absent, -⟩
    · exact ⟨before'', foundOlder,
        coherent.doc_of_moves succeeds moves unregistered notOpened⟩
    · obtain ⟨inside, -⟩ := List.getElem?_eq_some_iff.mp foundBefore
      have outside := List.getElem?_eq_none_iff.mp absent
      omega
  rcases registered_of_step stepped registered with
    wasRegistered | ⟨-, state, waiters, opening, opening', objects⟩
  · obtain ⟨-, before', foundBefore, -⟩ := coherent.current room wasRegistered
    have elsewhere : before.registered ≠ some earlier := by
      rw [wasRegistered]
      simp only [ne_eq, Option.some.injEq]
      omega
    obtain ⟨before'', foundOlder, same⟩ := unchanged foundBefore elsewhere
    obtain ⟨object'', found'', moves⟩ := moves_of_step stepped foundBefore
    obtain rfl := Option.some.inj (found.symm.trans found'')
    obtain ⟨given, -, doc⟩ := moves.gives
    have held := restored.current room before' wasRegistered foundBefore earlier older before''
      foundOlder
    rw [same, doc]
    exact held.trans Finset.subset_union_left
  · obtain ⟨unregistered, -, before', foundBefore, -⟩ := (coherent.loading _ opening).2.2
    obtain ⟨before'', foundOlder, same⟩ := unchanged foundBefore (unregistered ▸ nofun)
    obtain ⟨object'', found'', doc⟩ := hydrate_received setup before foundBefore state
    rw [objects] at found
    obtain rfl := Option.some.inj (found.symm.trans found'')
    have held := (restored.subscribing room state waiters opening).2.2 earlier older before''
      foundOlder
    rw [same, doc]
    exact held.trans Finset.subset_union_right

/-- The invariant survives every event that cannot fail. -/
theorem Restored.step {setup : Setup Op Entry} {before after : Slot Conn Op Entry}
    (coherent : before.Coherent) (restored : before.Restored setup)
    {event : SlotEvent Conn Op} (succeeds : event.Local) (reads : before.ReadsAll setup event)
    (stepped : before.step setup event = some after) : after.Restored setup where
  stored := fun room object' found' => by
    rcases origin_of_step stepped found' with
      ⟨object, found, moves⟩ | ⟨-, _, _, _, -, -, -, rfl⟩
    · exact restored.stored_of_moves succeeds (content_of_step succeeds stepped) found moves
    · rw [RoomObject.new, Room.new, Doc.integrated_empty]
      exact Finset.empty_subset _
  read := fun _ _ opening => restored.read_of_step coherent succeeds reads stepped opening
  subscribing := fun _ _ _ opening =>
    restored.subscribing_of_step coherent succeeds stepped opening
  current := fun _ _ registered found _ older _ found' =>
    restored.current_of_step coherent succeeds stepped registered found older found'

end Slot

/-- A room somebody has joined holds everything the earlier rooms of the
document were given, in every run in which each read of the store finds them
with nothing left to store. -/
theorem reopened_holds_earlier (setup : Setup Op Entry) {slot : Slot Conn Op Entry}
    (reached : ReachedWhen (Slot.step setup)
      (fun slot event => event.Local ∧ slot.ReadsAll setup event)
      (fun slot => ∃ entry, slot = Slot.initial entry) slot)
    {conn : Conn} {room : ℕ} (joined : slot.roomOf conn = some room)
    {object : RoomObject Conn Op} (found : slot.objects[room]? = some object) {earlier : ℕ}
    (older : earlier < room) {object' : RoomObject Conn Op}
    (found' : slot.objects[earlier]? = some object') :
    object'.room.doc.received ⊆ object.room.doc.received ∧
      object'.room.doc.integrated ⊆ object.room.doc.integrated := by
  have both : slot.Coherent ∧ slot.Restored setup := by
    refine reached.invariant (fun slot => slot.Coherent ∧ slot.Restored setup) ?_ ?_
    · rintro slot ⟨entry, rfl⟩
      exact ⟨Slot.coherent_initial entry, Slot.restored_initial setup entry⟩
    · rintro slot event slot' ⟨coherent, restored⟩ ⟨succeeds, reads⟩ stepped
      exact ⟨coherent.step stepped, restored.step coherent succeeds reads stepped⟩
  have registered := (both.1.entered conn room joined).1
  have held := both.2.current room object registered found earlier older object' found'
  exact ⟨held, Doc.integrated_subset_of_received ((Doc.integrated_subset _).trans held)⟩

/-- The document is opened again once its first room is gone. -/
theorem reopened_holds_earlier_sequential :
    ∃ slot : Slot ℕ ItemId (Option (MemoryDocumentStore.Entry ItemId)),
      ∃ object object', slot.objects[1]? = some object ∧ slot.objects[0]? = some object' ∧
        object'.room.doc.received = {⟨7, 0⟩} ∧
        object'.room.doc.received ⊆ object.room.doc.received := by
  obtain ⟨slot, reached, joined, isOpen, accepted⟩ := exists_reachedWhen_of_runWhen
    (Slot.step memorySetup) (fun slot event => event.Local ∧ slot.ReadsAll memorySetup event)
    (fun slot => ∃ entry, slot = Slot.initial entry) (Slot.initial none)
    (visits 0 ++ opens 0 ++ [.frame 0 (.sync (.update {⟨7, 0⟩})), .socketClosed 0] ++
      tearsDown 0 ++ visits 1 ++ opens 1)
    (fun slot => slot.roomOf 1 = some 1 ∧ slot.objects[1]?.isSome ∧
      slot.objects[0]?.map (fun object => object.room.doc.received) = some {⟨7, 0⟩})
    ⟨none, rfl⟩ (by decide)
  obtain ⟨object, found⟩ := Option.isSome_iff_exists.mp isOpen
  obtain ⟨object', found', received⟩ := Option.map_eq_some_iff.mp accepted
  exact ⟨slot, object, object', found, found', received,
    (reopened_holds_earlier memorySetup reached joined found (by decide) found').1⟩

/-- A visitor types and reloads the page: the store is read again before the
first room's batch is written, and the new room is empty. -/
theorem reload_while_flushing_loses :
    ∃ slot : Slot ℕ ItemId (Option (MemoryDocumentStore.Entry ItemId)),
      ReachedWhen (Slot.step memorySetup) (fun _ event => event.Local)
        (fun slot => ∃ entry, slot = Slot.initial entry) slot ∧
      slot.roomOf 1 = some 1 ∧
      slot.objects[0]?.map (fun object => object.room.doc.integrated) = some {⟨7, 0⟩} ∧
      slot.objects[1]?.map (fun object => object.room.doc.received) = some ∅ :=
  exists_reachedWhen_of_runWhen (Slot.step memorySetup) (fun _ event => event.Local)
    (fun slot => ∃ entry, slot = Slot.initial entry) (Slot.initial none)
    (visits 0 ++ opens 0 ++ [.frame 0 (.sync (.update {⟨7, 0⟩})), .socketClosed 0] ++
      visits 1 ++ tearsDown 0 ++ opens 1)
    (fun slot => slot.roomOf 1 = some 1 ∧
      slot.objects[0]?.map (fun object => object.room.doc.integrated) = some {⟨7, 0⟩} ∧
      slot.objects[1]?.map (fun object => object.room.doc.received) = some ∅)
    ⟨none, rfl⟩ (by decide)

end CollabEditor.Instance
