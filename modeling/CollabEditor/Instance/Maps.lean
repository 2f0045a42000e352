import CollabEditor.Instance.Lifecycle

/-!
Owns what an event of a slot does to the registry's maps, the bus's listener
and the store, and with it how a room leaves the map for good.
-/

namespace CollabEditor.Instance

open CollabEditor.Library CollabEditor.Yjs CollabEditor.Persistence CollabEditor.Rooms

universe u v w

variable {Conn : Type v} {Op : Type u} {Entry : Type w} [DecidableEq Conn] [DecidableEq Op]
  [Causality Op]

namespace Slot

/-- The registered room and the listener. -/
def maps (slot : Slot Conn Op Entry) : Option ℕ × Option ℕ := (slot.registered, slot.listener)

inductive Remaps (setup : Setup Op Entry) (before after : Slot Conn Op Entry)
    (event : SlotEvent Conn Op) : Prop where
  | keeps (maps : after.maps = before.maps) (opening : after.opening = before.opening)
  /-- A connection waits for a load, which may be its own. -/
  | waits (maps : after.maps = before.maps) (load : Load Conn Op)
      (opening : after.opening = some load)
      (progress : before.opening = none ∧ load.progress = .reading ∨
        ∃ earlier, before.opening = some earlier ∧ load.progress = earlier.progress)
  | reads (isRead : event = .storeRead) (maps : after.maps = before.maps)
      (waiters : List Conn) (opening : before.opening = some ⟨.reading, waiters⟩)
      (opening' : after.opening = some ⟨.read (setup.store.load before.entry), waiters⟩)
  | fails (isReject : event = .loadRejected) (maps : after.maps = before.maps)
      (waiters : List Conn) (opening' : after.opening = some ⟨.failed, waiters⟩)
  | makes (clientId : ℕ) (isResolve : event = .loadResolved clientId)
      (loaded : LoadedDocument Op) (waiters : List Conn)
      (opening : before.opening = some ⟨.read loaded, waiters⟩)
      (opening' : after.opening =
        some ⟨.subscribing before.objects.length loaded.state, waiters⟩)
      (objects : after.objects =
        before.objects ++ [RoomObject.new clientId loaded.pendingUpdates])
      (maps : after.maps = (before.registered, some before.objects.length))
  | registers (isSubscribed : event = .subscribed) (room : ℕ) (state : Option (Update Op))
      (waiters : List Conn) (opening : before.opening = some ⟨.subscribing room state, waiters⟩)
      (opening' : after.opening = some ⟨.opened room, waiters⟩)
      (objects : after.objects = (before.hydrate setup room state).objects)
      (maps : after.maps = (some room, before.listener))
  | resumes (maps : after.maps = before.maps) (opening' : after.opening = none)
  /-- The last client of a room has left. -/
  | closes (conn : Conn) (room : ℕ) (inRoom : before.roomOf conn = some room)
      (maps : after.maps = (none, none)) (opening : after.opening = before.opening)
      (retired : after.Retired room)

private theorem remaps_leave {setup : Setup Op Entry} (before slot : Slot Conn Op Entry)
    {event : SlotEvent Conn Op} {room : ℕ} {conn : Conn} (maps : slot.maps = before.maps)
    (opening : slot.opening = before.opening) (inRoom : before.roomOf conn = some room) :
    Remaps setup before (slot.leave setup room conn) event := by
  cases found : slot.objects[room]? with
  | none =>
      have nothing : (slot.modifyObject room fun object =>
          object.perform setup (object.room.remove conn)).objects[room]? = none := by
        rw [objects_modifyObject, if_pos rfl, found, Option.map_none]
      unfold leave
      simp only [nothing]
      exact .keeps maps opening
  | some object =>
      rcases leave_cases setup slot conn found with ⟨-, left⟩ | ⟨-, left⟩
      · rw [left]
        exact .keeps maps opening
      · have closed : (slot.leave setup room conn).objects[room]? = some
            { object.perform setup (object.room.remove conn) with
              teardown := .unsubscribing } := by
          rw [left]
          exact (objects_modifyObject slot room room _).trans (by simp [found])
        refine .closes conn room inRoom ?_ ?_ ⟨_, closed, nofun⟩
        · rw [left]
          rfl
        · rw [left]
          exact opening

private theorem remaps_of_step {setup : Setup Op Entry} {before after : Slot Conn Op Entry}
    {event : SlotEvent Conn Op} (stepped : before.step setup event = some after) :
    Remaps setup before after event := by
  cases fires_of_step stepped with
  | awaits conn ready found isOpen load opening unregistered =>
      exact .waits rfl _ rfl (Or.inr ⟨load, opening, rfl⟩)
  | starts conn ready found isOpen idle unregistered =>
      exact .waits rfl _ rfl (Or.inl ⟨idle, rfl⟩)
  | reads waiters opening => exact .reads rfl rfl waiters opening rfl
  | rejects progress waiters opening early => exact .fails rfl rfl waiters rfl
  | makes clientId loaded waiters opening =>
      exact .makes clientId rfl loaded waiters opening rfl rfl rfl
  | registers room state waiters opening =>
      refine .registers rfl room state waiters opening rfl rfl ?_
      cases state <;> rfl
  | resumes room waiters opening => exact .resumes rfl rfl
  | fails waiters opening => exact .resumes rfl rfl
  | departs conn ready room found isOpen =>
      exact remaps_leave before (before.setConnection conn _) rfl rfl (roomOf_eq found)
  | withdraws conn ready room found gone =>
      exact remaps_leave before (before.setStage [conn] .left) rfl rfl (roomOf_eq found)
  | connects | enters | closing | closes | proceeds | frames | receives | expires | destroys
  | ends | writes => exact .keeps rfl rfl

/-- How a load in flight got where it is. -/
theorem progress_of_step {setup : Setup Op Entry} {before after : Slot Conn Op Entry}
    {event : SlotEvent Conn Op} (stepped : before.step setup event = some after)
    {load : Load Conn Op} (opening : after.opening = some load) :
    (∃ earlier, before.opening = some earlier ∧ load.progress = earlier.progress) ∨
      match load.progress with
      | .reading => before.opening = none
      | .read loaded => event = .storeRead ∧ loaded = setup.store.load before.entry ∧
          ∃ waiters, before.opening = some ⟨.reading, waiters⟩
      | .subscribing room state => ∃ clientId loaded waiters,
          before.opening = some ⟨.read loaded, waiters⟩ ∧ room = before.objects.length ∧
          state = loaded.state ∧
          after.objects = before.objects ++ [RoomObject.new clientId loaded.pendingUpdates]
      | .opened room => event = .subscribed ∧
          ∃ state waiters, before.opening = some ⟨.subscribing room state, waiters⟩
      | .failed => event = .loadRejected := by
  cases remaps_of_step stepped with
  | keeps maps same => exact Or.inl ⟨load, same.symm.trans opening, rfl⟩
  | closes conn room inRoom maps same retired =>
      exact Or.inl ⟨load, same.symm.trans opening, rfl⟩
  | waits maps other same progress =>
      obtain rfl := Option.some.inj (opening.symm.trans same)
      rcases progress with ⟨none, reading⟩ | earlier
      · right
        rw [reading]
        exact none
      · exact Or.inl earlier
  | reads isRead maps waiters opened same =>
      obtain rfl := Option.some.inj (opening.symm.trans same)
      exact Or.inr ⟨isRead, rfl, waiters, opened⟩
  | fails isReject maps waiters same =>
      obtain rfl := Option.some.inj (opening.symm.trans same)
      exact Or.inr isReject
  | makes clientId isResolve loaded waiters opened same objects maps =>
      obtain rfl := Option.some.inj (opening.symm.trans same)
      exact Or.inr ⟨clientId, loaded, waiters, opened, rfl, rfl, objects⟩
  | registers isSubscribed room state waiters opened same objects maps =>
      obtain rfl := Option.some.inj (opening.symm.trans same)
      exact Or.inr ⟨isSubscribed, state, waiters, opened⟩
  | resumes maps none => exact absurd (opening.symm.trans none) nofun

/-- How a room came to be registered. -/
theorem registered_of_step {setup : Setup Op Entry} {before after : Slot Conn Op Entry}
    {event : SlotEvent Conn Op} (stepped : before.step setup event = some after) {room : ℕ}
    (registered : after.registered = some room) : before.registered = some room ∨
      event = .subscribed ∧ ∃ state waiters,
        before.opening = some ⟨.subscribing room state, waiters⟩ ∧
        after.opening = some ⟨.opened room, waiters⟩ ∧
        after.objects = (before.hydrate setup room state).objects := by
  have kept : after.maps = before.maps → before.registered = some room :=
    fun maps => (congrArg Prod.fst maps).symm.trans registered
  cases remaps_of_step stepped with
  | keeps maps opening => exact Or.inl (kept maps)
  | waits maps load opening progress => exact Or.inl (kept maps)
  | reads isRead maps waiters opening opening' => exact Or.inl (kept maps)
  | fails isReject maps waiters opening' => exact Or.inl (kept maps)
  | makes clientId isResolve loaded waiters opening opening' objects maps =>
      exact Or.inl ((congrArg Prod.fst maps).symm.trans registered)
  | registers isSubscribed other state waiters opening opening' objects maps =>
      obtain rfl := Option.some.inj ((congrArg Prod.fst maps).symm.trans registered)
      exact Or.inr ⟨isSubscribed, state, waiters, opening, opening', objects⟩
  | resumes maps opening' => exact Or.inl (kept maps)
  | closes conn other inRoom maps opening retired =>
      exact absurd ((congrArg Prod.fst maps).symm.trans registered) nofun

omit [Causality Op] in
private theorem entry_leave (setup : Setup Op Entry) (slot : Slot Conn Op Entry) (room : ℕ)
    (conn : Conn) : (slot.leave setup room conn).entry = slot.entry := by
  unfold leave
  dsimp only
  split
  · split <;> rfl
  · rfl

/-- Only a writer changes the document's entry in the store. -/
theorem entry_of_step {setup : Setup Op Entry} {before after : Slot Conn Op Entry}
    {event : SlotEvent Conn Op} (stepped : before.step setup event = some after) :
    after.entry = before.entry ∨ ∃ room object writing writer, event = .writer room writing ∧
      before.objects[room]? = some object ∧
      object.writer.step setup.store setup.writerOptions setup.byteLength before.entry writing =
        some (writer, after.entry) := by
  cases fires_of_step stepped with
  | writes room object found writing writer entry wrote =>
      exact Or.inr ⟨room, object, writing, writer, rfl, found, wrote⟩
  | departs conn ready room found isOpen => exact Or.inl (entry_leave setup _ room conn)
  | withdraws conn ready room found gone => exact Or.inl (entry_leave setup _ room conn)
  | registers room state waiters opening => cases state <;> exact Or.inl rfl
  | connects | enters | awaits | starts | closing | closes | reads | rejects | makes | resumes
  | fails | proceeds | frames | receives | expires | destroys | ends => exact Or.inl rfl

/-- A registered room stays registered until a leave retires it. -/
theorem registered_or_retired_of_step {before after : Slot Conn Op Entry}
    (coherent : before.Coherent) {setup : Setup Op Entry} {event : SlotEvent Conn Op}
    (stepped : before.step setup event = some after) {room : ℕ}
    (registered : before.registered = some room) :
    after.registered = some room ∨ after.Retired room := by
  have kept : after.maps = before.maps → after.registered = some room :=
    fun maps => (congrArg Prod.fst maps).trans registered
  cases remaps_of_step stepped with
  | keeps maps opening => exact Or.inl (kept maps)
  | waits maps load opening progress => exact Or.inl (kept maps)
  | reads isRead maps waiters opening opening' => exact Or.inl (kept maps)
  | fails isReject maps waiters opening' => exact Or.inl (kept maps)
  | makes clientId isResolve loaded waiters opening opening' objects maps =>
      exact Or.inl ((congrArg Prod.fst maps).trans registered)
  | registers isSubscribed other state waiters opening opening' objects maps =>
      have unregistered := (coherent.loading _ opening).2.2.1
      exact absurd (registered.symm.trans unregistered) nofun
  | resumes maps opening' => exact Or.inl (kept maps)
  | closes conn other inRoom maps opening retired =>
      have isCurrent := (coherent.entered conn other inRoom).1
      obtain rfl := Option.some.inj (registered.symm.trans isCurrent)
      exact Or.inr retired

end Slot

end CollabEditor.Instance
