import CollabEditor.Instance.Events

/-!
Owns what an event of a slot does to one of its `Room` objects.
-/

namespace CollabEditor.Instance

open CollabEditor.Library CollabEditor.Yjs CollabEditor.Persistence CollabEditor.Rooms
open CollabEditor.Ws (dispatch dispatch_doc)

universe u v w

variable {Conn : Type v} {Op : Type u} {Entry : Type w} [DecidableEq Conn] [DecidableEq Op]
  [Causality Op]

namespace Slot

omit [DecidableEq Conn] [DecidableEq Op] [Causality Op] in
theorem objects_modifyObject (slot : Slot Conn Op Entry) (room other : ℕ)
    (f : RoomObject Conn Op → RoomObject Conn Op) :
    (slot.modifyObject room f).objects[other]? =
      if room = other then slot.objects[other]?.map f else slot.objects[other]? := by
  unfold modifyObject
  rw [List.getElem?_modify]
  split <;> simp

omit [Causality Op] in
/-- What `leave` does: the client goes, and with the last one the room. -/
theorem leave_cases (setup : Setup Op Entry) (slot : Slot Conn Op Entry) {room : ℕ}
    (conn : Conn) {object : RoomObject Conn Op} (found : slot.objects[room]? = some object) :
    ((∃ other ∈ object.room.clients, other ≠ conn) ∧
      slot.leave setup room conn = slot.modifyObject room fun object =>
        object.perform setup (object.room.remove conn)) ∨
    ((∀ other ∈ object.room.clients, other = conn) ∧
      slot.leave setup room conn = { slot.modifyObject room fun object =>
          { object.perform setup (object.room.remove conn) with teardown := .unsubscribing } with
        registered := none
        listener := none }) := by
  have removed : (slot.modifyObject room fun object =>
      object.perform setup (object.room.remove conn)).objects[room]? =
        some (object.perform setup (object.room.remove conn)) := by
    rw [objects_modifyObject, if_pos rfl, found, Option.map_some]
  have remaining : (object.perform setup (object.room.remove conn)).room.clientCount > 0 ↔
      ∃ other ∈ object.room.clients, other ≠ conn := by
    unfold Room.clientCount
    rw [gt_iff_lt, List.length_pos_iff_exists_mem]
    simp only [RoomObject.perform, Room.mem_clients_remove]
  unfold leave
  simp only [removed]
  split
  · next some => exact Or.inl ⟨remaining.mp some, rfl⟩
  · next none =>
      refine Or.inr ⟨fun other member => ?_, ?_⟩
      · by_contra different
        exact none (remaining.mpr ⟨other, member, different⟩)
      · simp [modifyObject, List.modify_modify_eq, Function.comp_def]

/-- What an event does to the object numbered `room`. -/
inductive Moves (setup : Setup Op Entry) (before after : Slot Conn Op Entry)
    (event : SlotEvent Conn Op) (room : ℕ) (object : RoomObject Conn Op) :
    RoomObject Conn Op → Prop where
  | idles : Moves setup before after event room object object
  | enters (conns : List Conn) (isOpen : before.registered = some room ∨
        ∃ waiters, before.opening = some ⟨.opened room, waiters⟩) :
      Moves setup before after event room object { object with
        room := conns.foldl (fun room conn => (room.add conn).1) object.room }
  | leaves (conn : Conn) (stays : ∃ other ∈ object.room.clients, other ≠ conn) :
      Moves setup before after event room object
        (object.perform setup (object.room.remove conn))
  | closes (conn : Conn) (last : ∀ other ∈ object.room.clients, other = conn) :
      Moves setup before after event room object
        { object.perform setup (object.room.remove conn) with teardown := .unsubscribing }
  | hydrates (content : Update Op) (waiters : List Conn)
      (opening : before.opening = some ⟨.subscribing room (some content), waiters⟩)
      (opening' : after.opening = some ⟨.opened room, waiters⟩) :
      Moves setup before after event room object
        (object.perform setup (object.room.hydrate content))
  | frames (conn : Conn) (message : Message Op) (isFrame : event = .frame conn message)
      (ready : ReadyState) (joined : before.connections conn = some ⟨ready, .joined room⟩) :
      Moves setup before after event room object
        (object.perform setup (dispatch object.room conn message))
  | receives (message : BusMessage Op) (isBus : event = .bus message)
      (listens : before.listener = some room) :
      Moves setup before after event room object
        (object.perform setup (object.room.receive message))
  | expires (ids : List ℕ) :
      Moves setup before after event room object
        (object.perform setup (object.room.expirePresence ids))
  | destroys (leaving : object.teardown = .unsubscribing) :
      Moves setup before after event room object object.destroy
  | ends (ticket : ℕ) (flushing : object.teardown = .flushing ticket)
      (resolved : object.writer.Resolved ticket) :
      Moves setup before after event room object { object with teardown := .destroyed }
  | writes (writing : WriterEvent) (writer : DocumentWriter Op)
      (isWriter : event = .writer room writing)
      (stepped : object.writer.step setup.store setup.writerOptions setup.byteLength
        before.entry writing = some (writer, after.entry)) :
      Moves setup before after event room object
        { object with writer := writer, settled := object.settled ++ object.writer.settles writing }

/-- No event brings a closed room back. -/
theorem Moves.alive {setup : Setup Op Entry} {before after : Slot Conn Op Entry}
    {event : SlotEvent Conn Op} {room : ℕ} {object object' : RoomObject Conn Op}
    (moves : Moves setup before after event room object object')
    (alive : object'.teardown = .alive) : object.teardown = .alive := by
  cases moves with
  | closes conn last => cases alive
  | destroys leaving => cases alive
  | ends ticket flushing resolved => cases alive
  | idles => exact alive
  | enters conns isOpen => exact alive
  | leaves conn stays => exact alive
  | hydrates content waiters opening opening' => exact alive
  | frames conn message isFrame ready joined => exact alive
  | receives message isBus listens => exact alive
  | expires ids => exact alive
  | writes writing writer isWriter stepped => exact alive

/-- An event that moves one object and leaves the others alone. -/
def MovesOne (setup : Setup Op Entry) (before after : Slot Conn Op Entry)
    (event : SlotEvent Conn Op) : Prop :=
  ∃ room f, after.objects = before.objects.modify room f ∧
    ∀ object, before.objects[room]? = some object →
      Moves setup before after event room object (f object)

private theorem movesOne_of_same {setup : Setup Op Entry} {before after : Slot Conn Op Entry}
    {event : SlotEvent Conn Op} (same : after.objects = before.objects) :
    MovesOne setup before after event :=
  ⟨0, id, by rw [same, List.modify_id], fun _ _ => .idles⟩

private theorem movesOne_leave {setup : Setup Op Entry} (before slot : Slot Conn Op Entry)
    {event : SlotEvent Conn Op} (same : slot.objects = before.objects) (room : ℕ)
    (conn : Conn) : MovesOne setup before (slot.leave setup room conn) event := by
  cases found : before.objects[room]? with
  | none =>
      refine ⟨room, fun object => object.perform setup (object.room.remove conn), ?_,
        fun object found' => absurd (found.symm.trans found') nofun⟩
      have nothing : (slot.modifyObject room fun object =>
          object.perform setup (object.room.remove conn)).objects[room]? = none := by
        rw [objects_modifyObject, if_pos rfl, same, found, Option.map_none]
      unfold leave
      simp only [nothing]
      rw [modifyObject, same]
  | some object =>
      have isObject : ∀ object', before.objects[room]? = some object' → object' = object :=
        fun object' found' => Option.some.inj (found'.symm.trans found)
      rcases leave_cases setup slot conn (same ▸ found) with ⟨stays, left⟩ | ⟨last, left⟩
      · refine ⟨room, _, by rw [left, modifyObject, same], fun object' found' => ?_⟩
        exact .leaves conn (isObject object' found' ▸ stays)
      · refine ⟨room, _, by rw [left, modifyObject, same], fun object' found' => ?_⟩
        exact .closes conn (isObject object' found' ▸ last)

/-- An event moves one object, or a load makes a new one. -/
theorem objects_of_step {setup : Setup Op Entry} {before after : Slot Conn Op Entry}
    {event : SlotEvent Conn Op} (stepped : before.step setup event = some after) :
    MovesOne setup before after event ∨
      ∃ clientId loaded waiters, event = .loadResolved clientId ∧
        before.opening = some ⟨.read loaded, waiters⟩ ∧
        after.opening = some ⟨.subscribing before.objects.length loaded.state, waiters⟩ ∧
        after.objects = before.objects ++ [RoomObject.new clientId loaded.pendingUpdates] := by
  have isObject : ∀ {room : ℕ} {object object' : RoomObject Conn Op},
      before.objects[room]? = some object → before.objects[room]? = some object' →
      object' = object :=
    fun found found' => Option.some.inj (found'.symm.trans found)
  cases fires_of_step stepped with
  | makes clientId loaded waiters opening =>
      exact Or.inr ⟨clientId, loaded, waiters, rfl, opening, rfl, rfl⟩
  | enters conn ready found isOpen room registered told notFailed =>
      exact Or.inl ⟨room, _, rfl, fun _ _ => .enters [conn] (Or.inl registered)⟩
  | resumes room waiters opening =>
      exact Or.inl ⟨room, _, rfl, fun _ _ => .enters waiters (Or.inr ⟨waiters, opening⟩)⟩
  | departs conn ready room found isOpen =>
      exact Or.inl (movesOne_leave before (before.setConnection conn _) rfl room conn)
  | withdraws conn ready room found gone =>
      exact Or.inl (movesOne_leave before (before.setStage [conn] .left) rfl room conn)
  | registers room state waiters opening =>
      cases state with
      | some content =>
          exact Or.inl ⟨room, _, rfl, fun _ _ => .hydrates content waiters opening rfl⟩
      | none => exact Or.inl (movesOne_of_same rfl)
  | frames conn message ready room found =>
      exact Or.inl ⟨room, _, rfl, fun _ _ => .frames conn message rfl ready found⟩
  | receives message room listens =>
      exact Or.inl ⟨room, _, rfl, fun _ _ => .receives message rfl listens⟩
  | expires room ids => exact Or.inl ⟨room, _, rfl, fun _ _ => .expires ids⟩
  | destroys room object found leaving =>
      refine Or.inl ⟨room, _, rfl, fun object' found' => .destroys ?_⟩
      exact isObject found found' ▸ leaving
  | ends room object found ticket flushing resolved =>
      refine Or.inl ⟨room, _, rfl, fun object' found' => ?_⟩
      obtain rfl := isObject found found'
      exact .ends ticket flushing resolved
  | writes room object found writing writer entry wrote =>
      refine Or.inl ⟨room, _, rfl, fun object' found' => ?_⟩
      obtain rfl := isObject found found'
      exact .writes writing writer rfl wrote
  | connects | awaits | starts | closing | closes | reads | rejects | fails | proceeds =>
      exact Or.inl (movesOne_of_same rfl)

/-- Every object is still there after an event, moved by it. -/
theorem moves_of_step {setup : Setup Op Entry} {before after : Slot Conn Op Entry}
    {event : SlotEvent Conn Op} (stepped : before.step setup event = some after) {room : ℕ}
    {object : RoomObject Conn Op} (found : before.objects[room]? = some object) :
    ∃ object', after.objects[room]? = some object' ∧
      Moves setup before after event room object object' := by
  rcases objects_of_step stepped with ⟨other, f, objects, moves⟩ | ⟨_, _, _, -, -, -, objects⟩
  · rw [objects, List.getElem?_modify]
    by_cases same : other = room
    · subst same
      exact ⟨f object, by simp [found], moves object found⟩
    · exact ⟨object, by simp [found, same], .idles⟩
  · obtain ⟨inside, -⟩ := List.getElem?_eq_some_iff.mp found
    exact ⟨object, by rw [objects, List.getElem?_append_left inside, found], .idles⟩

/-- An object that was not there before has just been made by a load. -/
theorem made_of_step {setup : Setup Op Entry} {before after : Slot Conn Op Entry}
    {event : SlotEvent Conn Op} (stepped : before.step setup event = some after) {room : ℕ}
    {object : RoomObject Conn Op} (absent : before.objects[room]? = none)
    (found : after.objects[room]? = some object) :
    ∃ clientId loaded waiters, event = .loadResolved clientId ∧
      before.opening = some ⟨.read loaded, waiters⟩ ∧
      after.opening = some ⟨.subscribing room loaded.state, waiters⟩ ∧
      object = RoomObject.new clientId loaded.pendingUpdates := by
  have outside : before.objects.length ≤ room := List.getElem?_eq_none_iff.mp absent
  rcases objects_of_step stepped with ⟨other, f, objects, -⟩ |
    ⟨clientId, loaded, waiters, isLoad, opening, opening', objects⟩
  · rw [objects, List.getElem?_modify, absent] at found
    cases found
  · rw [objects, List.getElem?_append_right outside, List.getElem?_singleton] at found
    split at found
    · next isLast =>
        have here : room = before.objects.length := by omega
        refine ⟨clientId, loaded, waiters, isLoad, opening, here ▸ opening', ?_⟩
        exact (Option.some.inj found).symm
    · cases found

/-- Where an object comes from. -/
theorem origin_of_step {setup : Setup Op Entry} {before after : Slot Conn Op Entry}
    {event : SlotEvent Conn Op} (stepped : before.step setup event = some after) {room : ℕ}
    {object' : RoomObject Conn Op} (found' : after.objects[room]? = some object') :
    (∃ object, before.objects[room]? = some object ∧
      Moves setup before after event room object object') ∨
    before.objects[room]? = none ∧ ∃ clientId loaded waiters,
      event = .loadResolved clientId ∧ before.opening = some ⟨.read loaded, waiters⟩ ∧
      after.opening = some ⟨.subscribing room loaded.state, waiters⟩ ∧
      object' = RoomObject.new clientId loaded.pendingUpdates := by
  cases found : before.objects[room]? with
  | none => exact Or.inr ⟨rfl, made_of_step stepped found found'⟩
  | some object =>
      obtain ⟨object'', found'', moves⟩ := moves_of_step stepped found
      obtain rfl := Option.some.inj (found'.symm.trans found'')
      exact Or.inl ⟨object, rfl, moves⟩

end Slot

/-! ### Documents and writers -/

namespace RoomObject

omit [DecidableEq Op] [Causality Op] in
private theorem foldl_record_unstored (options : WriterOptions) (byteLength : Update Op → ℕ)
    (updates : List (Update Op)) (writer : DocumentWriter Op) :
    (updates.foldl (DocumentWriter.record options byteLength) writer).unstored =
      writer.unstored ++ updates := by
  induction updates generalizing writer with
  | nil => simp
  | cons head tail inductionHypothesis =>
      rw [List.foldl_cons, inductionHypothesis, DocumentWriter.record_unstored,
        List.append_assoc, List.singleton_append]

omit [DecidableEq Conn] [Causality Op] in
theorem perform_unstored (setup : Setup Op Entry) (object : RoomObject Conn Op)
    (outcome : Outcome Conn Op) : (object.perform setup outcome).writer.unstored =
      object.writer.unstored ++ Rooms.recorded outcome.2 :=
  foldl_record_unstored setup.writerOptions setup.byteLength _ _

end RoomObject

theorem doc_enter (conns : List Conn) (room : Room Conn Op) :
    (conns.foldl (fun room conn => (room.add conn).1) room).doc = room.doc := by
  induction conns generalizing room with
  | nil => rfl
  | cons head tail inductionHypothesis => exact inductionHypothesis _

namespace Slot

/-- The operations an event hands to the document of the room. -/
inductive Gives (before after : Slot Conn Op Entry) (event : SlotEvent Conn Op) (room : ℕ) :
    Update Op → Prop where
  | nothing : Gives before after event room ∅
  | hydrated (content : Update Op) (waiters : List Conn)
      (opening : before.opening = some ⟨.subscribing room (some content), waiters⟩)
      (opening' : after.opening = some ⟨.opened room, waiters⟩) :
      Gives before after event room content
  | framed (conn : Conn) (message : Message Op) (isFrame : event = .frame conn message)
      (ready : ReadyState) (joined : before.connections conn = some ⟨ready, .joined room⟩) :
      Gives before after event room message.carried
  | received (message : BusMessage Op) (isBus : event = .bus message)
      (listens : before.listener = some room) :
      Gives before after event room message.carried

theorem Moves.gives {setup : Setup Op Entry} {before after : Slot Conn Op Entry}
    {event : SlotEvent Conn Op} {room : ℕ} {object object' : RoomObject Conn Op}
    (moves : Moves setup before after event room object object') :
    ∃ given, Gives before after event room given ∧
      object'.room.doc = object.room.doc.apply given := by
  have unchanged : object.room.doc = object.room.doc.apply ∅ := by
    simp [Doc.apply]
  cases moves with
  | hydrates content waiters opening opening' =>
      exact ⟨content, .hydrated content waiters opening opening', rfl⟩
  | frames conn message isFrame ready joined =>
      exact ⟨message.carried, .framed conn message isFrame ready joined,
        (dispatch_doc object.room conn message).1⟩
  | receives message isBus listens =>
      exact ⟨message.carried, .received message isBus listens, object.room.doc_receive message⟩
  | idles => exact ⟨∅, .nothing, unchanged⟩
  | enters conns isOpen => exact ⟨∅, .nothing, (doc_enter conns _).trans unchanged⟩
  | leaves conn stays => exact ⟨∅, .nothing, (object.room.doc_remove conn).trans unchanged⟩
  | closes conn last => exact ⟨∅, .nothing, (object.room.doc_remove conn).trans unchanged⟩
  | expires ids => exact ⟨∅, .nothing, (object.room.doc_expirePresence ids).trans unchanged⟩
  | destroys leaving => exact ⟨∅, .nothing, unchanged⟩
  | ends ticket flushing resolved => exact ⟨∅, .nothing, unchanged⟩
  | writes writing writer isWriter stepped => exact ⟨∅, .nothing, unchanged⟩

theorem hydrate_received (setup : Setup Op Entry) (slot : Slot Conn Op Entry) {room : ℕ}
    {object : RoomObject Conn Op} (found : slot.objects[room]? = some object)
    (state : Option (Update Op)) : ∃ object',
      (slot.hydrate setup room state).objects[room]? = some object' ∧
      object'.room.doc = object.room.doc.apply (state.getD ∅) := by
  cases state with
  | some content =>
      refine ⟨object.perform setup (object.room.hydrate content),
        (objects_modifyObject slot room room _).trans ?_, rfl⟩
      rw [if_pos rfl, found, Option.map_some]
  | none => exact ⟨object, found, by simp [Doc.apply]⟩

end Slot

end CollabEditor.Instance
