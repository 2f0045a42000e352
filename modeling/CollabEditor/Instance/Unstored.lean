import CollabEditor.Cluster.Exchange
import CollabEditor.Instance.Reopen
import CollabEditor.Instance.Settlement
import CollabEditor.Persistence.Conservation
import Mathlib.Tactic.Tauto

/-!
Owns where the operations are that the rooms of a document have integrated:
what an event integrates comes from a client and goes to a writer, was brought
by the bus or read from the store, or was held and is released by one of these.
-/

namespace CollabEditor

open CollabEditor.Library CollabEditor.Yjs CollabEditor.Persistence CollabEditor.Rooms
open CollabEditor.Ws (dispatch dispatch_doc integrated_dispatch)

universe u v w

variable {Conn : Type v} {Op : Type u} {Entry : Type w} [DecidableEq Conn] [DecidableEq Op]

/-! ### Writers -/

omit [DecidableEq Op] in
private theorem Persistence.DocumentWriter.unstored_finish (writer : DocumentWriter Op) :
    writer.finish.unstored = writer.queued.flatten ++ writer.pending := by
  simp [unstored, finish]

omit [DecidableEq Op] in
private theorem Persistence.DocumentWriter.unstored_appending {writer : DocumentWriter Op}
    {batch : List (Update Op)} (writing : writer.writing = some (.appending batch)) :
    writer.unstored = batch ++ (writer.queued.flatten ++ writer.pending) := by
  simp [unstored, writing, Write.unstored]

/-- What a writer has not stored it stores, keeps or drops. -/
theorem Persistence.DocumentWriter.step_accounts {store : DocumentStore Op Entry}
    {options : WriterOptions} {byteLength : Update Op → ℕ} {writer writer' : DocumentWriter Op}
    {entry entry' : Entry} {event : WriterEvent}
    (stepped : writer.step store options byteLength entry event = some (writer', entry')) :
    (store.load entry).content ⊆ (store.load entry').content ∧
      mergeUpdates writer.unstored ⊆ (store.load entry').content ∪
        mergeUpdates writer'.unstored ∪ mergeUpdates (writer.drops event) := by
  by_cases succeeds : event = .appendRejected
  · subst succeeds
    have same : entry' = entry := by
      cases fires_of_step stepped with
      | dropped batch writing closed => rfl
      | retried batch writing isOpen => rfl
    refine ⟨same ▸ Finset.Subset.refl _, fun op member => ?_⟩
    cases fires_of_step stepped with
    | dropped batch writing closed =>
        have drops : writer.drops .appendRejected = [mergeParts batch] := by
          simp [drops, writing, closed]
        rw [unstored_appending writing] at member
        rw [drops, unstored_finish]
        simp only [mergeUpdates_append, Finset.mem_union] at member
        simp only [mergeUpdates_cons, mergeUpdates_nil, mergeParts_eq, mergeUpdates_append,
          Finset.mem_union]
        tauto
    | retried batch writing isOpen =>
        obtain ⟨queued, -, pending⟩ := schedule_queue options { writer with
          pending := writer.pending ++ [mergeParts batch]
          pendingBytes := writer.pendingBytes + byteLength (mergeParts batch) }
        rw [unstored_appending writing] at member
        rw [unstored_finish, queued, pending]
        simp only [mergeUpdates_append, Finset.mem_union] at member
        simp only [mergeUpdates_cons, mergeParts_eq, mergeUpdates_append, Finset.mem_union]
        tauto
  · obtain ⟨batch, leaves, gains⟩ := step_unstored succeeds stepped
    rw [gains, leaves, mergeUpdates_append]
    constructor
    · exact Finset.subset_union_left
    · intro op member
      simp only [Finset.mem_union] at member ⊢
      tauto

variable [Causality Op]

/-! ### What is released -/

/-- The held operations that an update makes the document integrate. -/
def Yjs.Doc.unlocked (doc : Doc Op) (update : Update Op) : Update Op :=
  doc.fresh update ∩ doc.pending

/-- What a document has integrated after an update. -/
theorem Yjs.Doc.integrated_apply_subset {doc : Doc Op} {update bound : Update Op}
    (earlier : doc.integrated ⊆ bound) (given : update ⊆ bound)
    (unlocked : doc.unlocked update ⊆ bound) : (doc.apply update).integrated ⊆ bound := by
  rw [doc.integrated_apply]
  apply Finset.union_subset earlier
  intro op fresh
  rcases Finset.mem_union.mp (doc.fresh_subset update fresh) with inUpdate | held
  · exact given inUpdate
  · exact unlocked (Finset.mem_inter.mpr ⟨fresh, held⟩)

namespace Instance.Slot

/-- The held operations that the store or the bus makes a room integrate. -/
def unlocks (slot : Slot Conn Op Entry) : SlotEvent Conn Op → Update Op
  | .subscribed =>
      match slot.opening with
      | some ⟨.subscribing room (some content), _⟩ =>
          (slot.objects[room]?.map fun object => object.room.doc.unlocked content).getD ∅
      | _ => ∅
  | .bus message =>
      match slot.listener with
      | some room =>
          (slot.objects[room]?.map fun object => object.room.doc.unlocked message.carried).getD ∅
      | none => ∅
  | _ => ∅

/-- The held operations that are in the answer to a state request. -/
def exposes (slot : Slot Conn Op Entry) : SlotEvent Conn Op → Update Op
  | .bus .stateRequest => if slot.attended then (Doc.mk slot.document).pending else ∅
  | _ => ∅

/-- What the writers of a document's rooms have not stored. -/
def unstored (slot : Slot Conn Op Entry) : Update Op :=
  mergeUpdates (slot.objects.map fun object => mergeUpdates object.writer.unstored)

/-- What a writer drops at an event. -/
def drops (slot : Slot Conn Op Entry) : SlotEvent Conn Op → Update Op
  | .writer room event =>
      (slot.objects[room]?.map fun object => mergeUpdates (object.writer.drops event)).getD ∅
  | _ => ∅

omit [DecidableEq Conn] [Causality Op] in
private theorem unstored_subset {slot : Slot Conn Op Entry} {room : ℕ} {object : RoomObject Conn Op}
    (found : slot.objects[room]? = some object) :
    mergeUpdates object.writer.unstored ⊆ slot.unstored :=
  subset_mergeUpdates (List.mem_map.mpr ⟨object, List.mem_of_getElem? found, rfl⟩)

omit [DecidableEq Conn] [Causality Op] in
private theorem unstored_subset_iff {slot : Slot Conn Op Entry} {bound : Update Op} :
    slot.unstored ⊆ bound ↔ ∀ (room : ℕ) object, slot.objects[room]? = some object →
      mergeUpdates object.writer.unstored ⊆ bound := by
  constructor
  · intro sub room object found
    exact (unstored_subset found).trans sub
  · intro each
    apply mergeUpdates_subset.mpr
    intro update member
    obtain ⟨object, inObjects, rfl⟩ := List.mem_map.mp member
    obtain ⟨room, found⟩ := List.mem_iff_getElem?.mp inObjects
    exact each room object found

variable {setup : Setup Op Entry} {before after : Slot Conn Op Entry} {event : SlotEvent Conn Op}

/-! ### One event -/

/-- The store keeps what it has. -/
theorem content_subset_of_step (stepped : before.step setup event = some after) :
    before.content setup ⊆ after.content setup := by
  unfold content
  rcases entry_of_step stepped with same | ⟨room, object, writing, writer, -, -, wrote⟩
  · rw [same]
  · exact (DocumentWriter.step_accounts wrote).1

/-- What the writers have not stored they store, keep or drop. -/
theorem unstored_of_step (stepped : before.step setup event = some after) :
    before.unstored ⊆ after.content setup ∪ after.unstored ∪ before.drops event := by
  apply unstored_subset_iff.mpr
  intro room object found
  obtain ⟨object', found', moves⟩ := moves_of_step stepped found
  have here := unstored_subset found'
  -- whatever the writer still has is among what all of them have
  have kept : mergeUpdates object.writer.unstored ⊆ mergeUpdates object'.writer.unstored →
      mergeUpdates object.writer.unstored ⊆
        after.content setup ∪ after.unstored ∪ before.drops event := by
    intro sub op member
    exact Finset.mem_union_left _ (Finset.mem_union_right _ (here (sub member)))
  have performed : ∀ outcome : Outcome Conn Op, mergeUpdates object.writer.unstored ⊆
      mergeUpdates (object.perform setup outcome).writer.unstored := by
    intro outcome
    rw [object.perform_unstored, mergeUpdates_append]
    exact Finset.subset_union_left
  cases moves with
  | idles => exact kept (Finset.Subset.refl _)
  | enters conns isOpen => exact kept (Finset.Subset.refl _)
  | leaves conn stays => exact kept (performed _)
  | closes conn last => exact kept (performed _)
  | hydrates content waiters opening opening' => exact kept (performed _)
  | frames conn message isFrame ready joined => exact kept (performed _)
  | receives message isBus listens => exact kept (performed _)
  | expires ids => exact kept (performed _)
  | destroys leaving =>
      apply kept
      rw [RoomObject.destroy, DocumentWriter.close_unstored]
  | ends ticket flushing resolved => exact kept (Finset.Subset.refl _)
  | writes writing writer isWriter wrote =>
      have drops : before.drops event = mergeUpdates (object.writer.drops writing) := by
        simp [isWriter, Slot.drops, found]
      have accounts := (DocumentWriter.step_accounts wrote).2
      rw [drops]
      apply accounts.trans
      exact Finset.union_subset_union_left (Finset.union_subset_union_right here)

omit [DecidableEq Conn] [Causality Op] in
private theorem unstored_modifyObject (slot : Slot Conn Op Entry) (room : ℕ)
    {f : RoomObject Conn Op → RoomObject Conn Op}
    (same : ∀ object, (f object).writer = object.writer) :
    (slot.modifyObject room f).unstored = slot.unstored := by
  unfold unstored modifyObject
  congr 1
  apply List.ext_getElem?
  intro other
  rw [List.getElem?_map, List.getElem?_map, List.getElem?_modify]
  cases slot.objects[other]? with
  | none => rfl
  | some object =>
      by_cases here : room = other
      · simp [here, same]
      · simp [here]

/-- What the bus brings and what is read from the store goes to no writer. -/
theorem silent_of_step (stepped : before.step setup event = some after)
    (silent : event = .subscribed ∨ ∃ message, event = .bus message) :
    after.entry = before.entry ∧ after.unstored = before.unstored := by
  have nothing : ∀ (room : ℕ) (call : Room Conn Op → Outcome Conn Op),
      (∀ room, Rooms.recorded (call room).2 = []) →
        (before.modifyObject room fun object => object.perform setup (call object.room)).unstored =
          before.unstored := by
    intro room call silent
    apply unstored_modifyObject
    intro object
    rw [object.perform_of_nothing setup (silent object.room)]
  cases fires_of_step stepped with
  | registers room state waiters opening =>
      cases state with
      | none => exact ⟨rfl, rfl⟩
      | some content =>
          refine ⟨rfl, nothing room (·.hydrate content) fun room => ?_⟩
          exact room.recorded_applyUpdate content .hydrate
  | receives message room listens =>
      exact ⟨rfl, nothing room (·.receive message) fun room => room.recorded_receive message⟩
  | _ => simp at silent

/-- A bound on what the rooms have integrated still is one after an event, if it
bounds what the writers then have, what the event brings and what it unlocks. -/
theorem integrated_of_step (stepped : before.step setup event = some after) {bound : Update Op}
    (earlier : ∀ (room : ℕ) object, before.objects[room]? = some object →
      object.room.doc.integrated ⊆ bound)
    (recorded : after.unstored ⊆ bound)
    (read : ∀ room content waiters,
      before.opening = some ⟨.subscribing room (some content), waiters⟩ → content ⊆ bound)
    (brought : ∀ message, event = .bus message → message.carried ⊆ bound)
    (unlocked : before.unlocks event ⊆ bound) {room : ℕ} {object' : RoomObject Conn Op}
    (found' : after.objects[room]? = some object') : object'.room.doc.integrated ⊆ bound := by
  rcases origin_of_step stepped found' with ⟨object, found, moves⟩ | ⟨-, _, _, _, -, -, -, rfl⟩
  · have integrated := earlier room object found
    have writers := (unstored_subset found').trans recorded
    -- a call that leaves the document as it is
    have quiet : ∀ doc : Doc Op, doc = object.room.doc → doc.integrated ⊆ bound := by
      intro doc same
      exact same ▸ integrated
    cases moves with
    | idles => exact integrated
    | enters conns isOpen => exact quiet _ (doc_enter conns _)
    | leaves conn stays => exact quiet _ (object.room.doc_remove conn)
    | closes conn last => exact quiet _ (object.room.doc_remove conn)
    | hydrates content waiters opening opening' =>
        have isSubscribed : event = .subscribed := by
          rcases progress_of_step stepped opening' with ⟨load, opened, same⟩ | ⟨isSubscribed, -⟩
          · cases opening.symm.trans opened
            cases same
          · exact isSubscribed
        have unlocked : object.room.doc.unlocked content ⊆ bound := by
          simpa [isSubscribed, unlocks, opening, found] using unlocked
        exact Doc.integrated_apply_subset integrated (read room content waiters opening) unlocked
    | frames conn message isFrame ready joined =>
        rw [object.perform_unstored, mergeUpdates_append] at writers
        rw [RoomObject.perform, integrated_dispatch]
        exact Finset.union_subset integrated (Finset.subset_union_right.trans writers)
    | receives message isBus listens =>
        have unlocked : object.room.doc.unlocked message.carried ⊆ bound := by
          simpa [isBus, unlocks, listens, found] using unlocked
        rw [RoomObject.perform, object.room.doc_receive]
        exact Doc.integrated_apply_subset integrated (brought message isBus) unlocked
    | expires ids => exact quiet _ (object.room.doc_expirePresence ids)
    | destroys leaving => exact integrated
    | ends ticket flushing resolved => exact integrated
    | writes writing writer isWriter stepped => exact integrated
  · rw [RoomObject.new, Room.new, Doc.integrated_empty]
    exact Finset.empty_subset _

/-- The same bounds what the event puts on the bus. -/
theorem published_of_step (coherent : before.Coherent)
    (stepped : before.step setup event = some after) {bound : Update Op}
    (earlier : ∀ (room : ℕ) object, before.objects[room]? = some object →
      object.room.doc.integrated ⊆ bound)
    (recorded : after.unstored ⊆ bound) (exposed : before.exposes event ⊆ bound)
    {message : BusMessage Op} (member : message ∈ before.publishes event) :
    message.carried ⊆ bound := by
  cases coherent.publishes_of_mem member with
  | presence entries => exact Finset.empty_subset _
  | requests isSubscribed => exact Finset.empty_subset _
  | edits conn frame update isFrame fresh =>
      subst isFrame
      cases fires_of_step stepped with
      | frames conn frame ready room joined =>
          have registered := coherent.registered_of_joined joined
          obtain ⟨-, object, found, -⟩ := coherent.current room registered
          have found' := (objects_modifyObject before room room fun object =>
            object.perform setup (dispatch object.room conn frame)).trans
              (by rw [if_pos rfl, found, Option.map_some])
          have writers := (unstored_subset found').trans recorded
          rw [object.perform_unstored, mergeUpdates_append] at writers
          have integrated : (object.room.doc.apply frame.carried).integrated ⊆ bound := by
            rw [← (dispatch_doc object.room conn frame).1, integrated_dispatch]
            exact Finset.union_subset (earlier room object found)
              (Finset.subset_union_right.trans writers)
          have isFresh : update = object.room.doc.fresh frame.carried := by
            rw [document_eq registered found] at fresh
            rw [← Doc.event_getD, fresh, Option.getD_some]
          rw [BusMessage.carried, isFresh]
          exact Finset.sdiff_subset.trans integrated
  | answers isRequest attended =>
      subst isRequest
      obtain ⟨isOpen, -⟩ := coherent.attended_iff.mp attended
      obtain ⟨room, registered⟩ := Option.isSome_iff_exists.mp isOpen
      obtain ⟨-, object, found, -⟩ := coherent.current room registered
      have held : object.room.doc.pending ⊆ bound := by
        simpa [exposes, attended, document_eq registered found] using exposed
      rw [document_eq registered found]
      intro op received
      by_cases integrated : op ∈ object.room.doc.integrated
      · exact earlier room object found integrated
      · exact held (Finset.mem_sdiff.mpr ⟨received, integrated⟩)

omit [DecidableEq Conn] [DecidableEq Op] [Causality Op] in
private theorem mem_map_getD {object? : Option (RoomObject Conn Op)}
    {held : RoomObject Conn Op → Update Op} {op : Op} (member : op ∈ (object?.map held).getD ∅) :
    ∃ object, object? = some object ∧ op ∈ held object := by
  cases object? with
  | none => simp at member
  | some object => exact ⟨object, rfl, member⟩

/-- What is unlocked is integrated. -/
theorem unlocked_of_step (stepped : before.step setup event = some after) {op : Op}
    (member : op ∈ before.unlocks event) : ∃ (room : ℕ) (object' : RoomObject Conn Op),
      after.objects[room]? = some object' ∧ op ∈ object'.room.doc.integrated := by
  have fresh : ∀ {doc : Doc Op} {update : Update Op}, op ∈ doc.unlocked update →
      op ∈ (doc.apply update).integrated := by
    intro doc update unlocked
    exact (Finset.mem_sdiff.mp (Finset.mem_inter.mp unlocked).1).1
  cases fires_of_step stepped with
  | registers room state waiters opening =>
      cases state with
      | none => simp [unlocks, opening] at member
      | some content =>
          simp only [unlocks, opening] at member
          obtain ⟨object, found, unlocked⟩ := mem_map_getD member
          obtain ⟨object', found', doc⟩ := hydrate_received setup before found (some content)
          exact ⟨room, object', found', doc ▸ fresh unlocked⟩
  | receives message room listens =>
      simp only [unlocks, listens] at member
      obtain ⟨object, found, unlocked⟩ := mem_map_getD member
      have found' := (objects_modifyObject before room room fun object =>
        object.perform setup (object.room.receive message)).trans
          (by rw [if_pos rfl, found, Option.map_some])
      refine ⟨room, _, found', ?_⟩
      rw [RoomObject.perform, object.room.doc_receive]
      exact fresh unlocked
  | _ => simp [unlocks] at member

/-- What is exposed is in the answer. -/
theorem exposed_published (coherent : before.Coherent) {op : Op}
    (member : op ∈ before.exposes event) :
    ∃ message ∈ before.publishes event, op ∈ message.carried := by
  unfold exposes at member
  split at member
  · split at member
    · next attended =>
        obtain ⟨isOpen, -⟩ := coherent.attended_iff.mp attended
        obtain ⟨room, registered⟩ := Option.isSome_iff_exists.mp isOpen
        refine ⟨_, coherent.publishes_answer registered attended, ?_⟩
        exact (Finset.mem_sdiff.mp member).1
    · simp at member
  · simp at member

end Instance.Slot

end CollabEditor
