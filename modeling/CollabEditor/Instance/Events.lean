import CollabEditor.Instance.Slot

/-!
Owns the branches of a slot's step function. Every invariant of a slot is
proved by going through them.
-/

namespace CollabEditor.Instance.Slot

open CollabEditor.Library CollabEditor.Yjs CollabEditor.Persistence CollabEditor.Rooms
open CollabEditor.Ws (dispatch)

universe u v w

variable {Conn : Type v} {Op : Type u} {Entry : Type w} [DecidableEq Conn] [DecidableEq Op]
  [Causality Op]

/-- The branch an event takes, with its guards and the slot it leaves. -/
inductive Fires (setup : Setup Op Entry) (before : Slot Conn Op Entry) :
    SlotEvent Conn Op → Slot Conn Op Entry → Prop where
  | connects (conn : Conn) (absent : before.connections conn = none) :
      Fires setup before (.connect conn) (before.setConnection conn ⟨.opened, .unauthenticated⟩)
  | enters (conn : Conn) (ready : ReadyState)
      (found : before.connections conn = some ⟨ready, .unauthenticated⟩)
      (isOpen : ready ≠ .closed) (room : ℕ) (registered : before.registered = some room)
      (told : ∀ other waiters, before.opening ≠ some ⟨.opened other, waiters⟩)
      (notFailed : ∀ waiters, before.opening ≠ some ⟨.failed, waiters⟩) :
      Fires setup before (.authenticate conn) (before.enter room [conn])
  | awaits (conn : Conn) (ready : ReadyState)
      (found : before.connections conn = some ⟨ready, .unauthenticated⟩)
      (isOpen : ready ≠ .closed) (load : Load Conn Op) (opening : before.opening = some load)
      (unregistered : before.registered = none) :
      Fires setup before (.authenticate conn) { before.setStage [conn] .waiting with
        opening := some { load with waiters := load.waiters ++ [conn] } }
  | starts (conn : Conn) (ready : ReadyState)
      (found : before.connections conn = some ⟨ready, .unauthenticated⟩)
      (isOpen : ready ≠ .closed) (idle : before.opening = none)
      (unregistered : before.registered = none) :
      Fires setup before (.authenticate conn) { before.setStage [conn] .waiting with
        opening := some ⟨.reading, [conn]⟩ }
  | closing (conn : Conn) (stage : JoinStage)
      (found : before.connections conn = some ⟨.opened, stage⟩) :
      Fires setup before (.closing conn) (before.setConnection conn ⟨.closing, stage⟩)
  | departs (conn : Conn) (ready : ReadyState) (room : ℕ)
      (found : before.connections conn = some ⟨ready, .joined room⟩) (isOpen : ready ≠ .closed) :
      Fires setup before (.socketClosed conn)
        ((before.setConnection conn ⟨.closed, .left⟩).leave setup room conn)
  | closes (conn : Conn) (ready : ReadyState) (stage : JoinStage)
      (found : before.connections conn = some ⟨ready, stage⟩) (isOpen : ready ≠ .closed)
      (outside : ∀ room, stage ≠ .joined room) :
      Fires setup before (.socketClosed conn) (before.setConnection conn ⟨.closed, stage⟩)
  | reads (waiters : List Conn) (opening : before.opening = some ⟨.reading, waiters⟩) :
      Fires setup before .storeRead { before with
        opening := some ⟨.read (setup.store.load before.entry), waiters⟩ }
  | rejects (progress : Progress Op) (waiters : List Conn)
      (opening : before.opening = some ⟨progress, waiters⟩)
      (early : progress = .reading ∨ ∃ loaded, progress = .read loaded) :
      Fires setup before .loadRejected { before with opening := some ⟨.failed, waiters⟩ }
  | makes (clientId : ℕ) (loaded : LoadedDocument Op) (waiters : List Conn)
      (opening : before.opening = some ⟨.read loaded, waiters⟩) :
      Fires setup before (.loadResolved clientId) { before with
        objects := before.objects ++ [RoomObject.new clientId loaded.pendingUpdates]
        listener := some before.objects.length
        opening := some ⟨.subscribing before.objects.length loaded.state, waiters⟩ }
  | registers (room : ℕ) (state : Option (Update Op)) (waiters : List Conn)
      (opening : before.opening = some ⟨.subscribing room state, waiters⟩) :
      Fires setup before .subscribed { before.hydrate setup room state with
        registered := some room
        opening := some ⟨.opened room, waiters⟩ }
  | resumes (room : ℕ) (waiters : List Conn)
      (opening : before.opening = some ⟨.opened room, waiters⟩) :
      Fires setup before .resume { before.enter room waiters with opening := none }
  | fails (waiters : List Conn) (opening : before.opening = some ⟨.failed, waiters⟩) :
      Fires setup before .resume { before with
        opening := none
        connections := fun conn =>
          if conn ∈ waiters then (before.connections conn).map fun connection =>
            ⟨if connection.readyState = .closed then .closed else .closing, .left⟩
          else before.connections conn }
  | proceeds (conn : Conn) (room : ℕ)
      (found : before.connections conn = some ⟨.opened, .added room⟩) :
      Fires setup before (.proceed conn) (before.setStage [conn] (.joined room))
  | withdraws (conn : Conn) (ready : ReadyState) (room : ℕ)
      (found : before.connections conn = some ⟨ready, .added room⟩) (gone : ready ≠ .opened) :
      Fires setup before (.proceed conn)
        ((before.setStage [conn] .left).leave setup room conn)
  | frames (conn : Conn) (message : Message Op) (ready : ReadyState) (room : ℕ)
      (found : before.connections conn = some ⟨ready, .joined room⟩) :
      Fires setup before (.frame conn message) (before.modifyObject room fun object =>
        object.perform setup (dispatch object.room conn message))
  | receives (message : BusMessage Op) (room : ℕ) (listens : before.listener = some room) :
      Fires setup before (.bus message) (before.modifyObject room fun object =>
        object.perform setup (object.room.receive message))
  | expires (room : ℕ) (ids : List ℕ) :
      Fires setup before (.expirePresence room ids) (before.modifyObject room fun object =>
        object.perform setup (object.room.expirePresence ids))
  | destroys (room : ℕ) (object : RoomObject Conn Op)
      (found : before.objects[room]? = some object)
      (leaving : object.teardown = .unsubscribing) :
      Fires setup before (.unsubscribed room) (before.modifyObject room .destroy)
  | ends (room : ℕ) (object : RoomObject Conn Op)
      (found : before.objects[room]? = some object) (ticket : ℕ)
      (flushing : object.teardown = .flushing ticket)
      (resolved : object.writer.Resolved ticket) :
      Fires setup before (.destroyed room) (before.modifyObject room fun object =>
        { object with teardown := .destroyed })
  | writes (room : ℕ) (object : RoomObject Conn Op)
      (found : before.objects[room]? = some object) (writing : WriterEvent)
      (writer : DocumentWriter Op) (entry : Entry)
      (wrote : object.writer.step setup.store setup.writerOptions setup.byteLength
        before.entry writing = some (writer, entry)) :
      Fires setup before (.writer room writing) { before.modifyObject room fun object =>
          { object with
            writer := writer
            settled := object.settled ++ object.writer.settles writing } with
        entry := entry }

private theorem fires_of_join {setup : Setup Op Entry} {before after : Slot Conn Op Entry}
    {conn : Conn}
    {ready : ReadyState} (found : before.connections conn = some ⟨ready, .unauthenticated⟩)
    (isOpen : ready ≠ .closed) (joined : before.join conn = some after) :
    Fires setup before (.authenticate conn) after := by
  unfold join at joined
  split at joined
  · cases joined
  · cases joined
  · next room registered told notFailed =>
      cases joined
      exact .enters conn ready found isOpen room registered
        (fun other waiters opening => told other waiters opening)
        (fun waiters opening => notFailed waiters opening)
  · next load _ _ opening unregistered =>
      cases joined
      exact .awaits conn ready found isOpen load opening unregistered
  · next idle unregistered =>
      cases joined
      exact .starts conn ready found isOpen idle unregistered

private theorem fires_of_load {setup : Setup Op Entry} {before after : Slot Conn Op Entry}
    {event : SlotEvent Conn Op} (loaded : before.load setup event = some after) :
    Fires setup before event after := by
  cases event with
  | storeRead =>
      simp only [load] at loaded
      split at loaded
      · next waiters opening =>
          cases loaded
          exact .reads waiters opening
      · cases loaded
  | loadRejected =>
      simp only [load] at loaded
      split at loaded
      · next waiters opening =>
          cases loaded
          exact .rejects _ waiters opening (Or.inl rfl)
      · next document waiters opening =>
          cases loaded
          exact .rejects _ waiters opening (Or.inr ⟨document, rfl⟩)
      · cases loaded
  | loadResolved clientId =>
      simp only [load] at loaded
      split at loaded
      · next document waiters opening =>
          cases loaded
          exact .makes clientId document waiters opening
      · cases loaded
  | subscribed =>
      simp only [load] at loaded
      split at loaded
      · next room state waiters opening =>
          cases loaded
          exact .registers room state waiters opening
      · cases loaded
  | _ => cases loaded

private theorem fires_of_socketClosed {setup : Setup Op Entry} {before after : Slot Conn Op Entry}
    {conn : Conn} (closed : before.socketClosed setup conn = some after) :
    Fires setup before (.socketClosed conn) after := by
  unfold socketClosed at closed
  split at closed
  · cases closed
  · next ready room isOpen found =>
      cases closed
      exact .departs conn ready room found isOpen
  · next ready stage isOpen outside found =>
      cases closed
      exact .closes conn ready stage found isOpen outside
  · cases closed

private theorem fires_of_resume {setup : Setup Op Entry} {before after : Slot Conn Op Entry}
    (resumed : before.resume = some after) : Fires setup before .resume after := by
  unfold resume at resumed
  split at resumed
  · next room waiters opening =>
      cases resumed
      exact .resumes room waiters opening
  · next waiters opening =>
      cases resumed
      exact .fails waiters opening
  · cases resumed

private theorem fires_of_proceed {setup : Setup Op Entry} {before after : Slot Conn Op Entry}
    {conn : Conn} (proceeded : before.proceed setup conn = some after) :
    Fires setup before (.proceed conn) after := by
  unfold proceed at proceeded
  split at proceeded
  · next room found =>
      cases proceeded
      exact .proceeds conn room found
  · next ready room gone found =>
      cases proceeded
      exact .withdraws conn ready room found gone
  · cases proceeded

/-- The end of a room's teardown. -/
theorem fires_of_destroyed {setup : Setup Op Entry} {before after : Slot Conn Op Entry}
    {room : ℕ} (stepped : before.step setup (.destroyed room) = some after) :
    Fires setup before (.destroyed room) after := by
  simp only [step] at stepped
  split at stepped
  · next object found =>
      split at stepped
      · next ticket flushing =>
          split at stepped
          · next resolved =>
              cases stepped
              exact .ends room object found ticket flushing resolved
          · cases stepped
      · cases stepped
  · cases stepped

/-- An event that does something takes one of the branches. -/
theorem fires_of_step {setup : Setup Op Entry} {before after : Slot Conn Op Entry}
    {event : SlotEvent Conn Op} (stepped : before.step setup event = some after) :
    Fires setup before event after := by
  cases event with
  | connect conn =>
      simp only [step] at stepped
      split at stepped
      · next absent =>
          cases stepped
          exact .connects conn absent
      · cases stepped
  | authenticate conn =>
      simp only [step] at stepped
      split at stepped
      · next found => exact fires_of_join found (by simp) stepped
      · next found => exact fires_of_join found (by simp) stepped
      · cases stepped
  | closing conn =>
      simp only [step] at stepped
      split at stepped
      · next stage found =>
          cases stepped
          exact .closing conn stage found
      · cases stepped
  | socketClosed conn => exact fires_of_socketClosed stepped
  | storeRead => exact fires_of_load stepped
  | loadRejected => exact fires_of_load stepped
  | loadResolved clientId => exact fires_of_load stepped
  | subscribed => exact fires_of_load stepped
  | resume => exact fires_of_resume stepped
  | proceed conn => exact fires_of_proceed stepped
  | frame conn message =>
      simp only [step] at stepped
      split at stepped
      · next ready room found =>
          cases stepped
          exact .frames conn message ready room found
      · cases stepped
  | bus message =>
      simp only [step] at stepped
      split at stepped
      · next room listens =>
          cases stepped
          exact .receives message room listens
      · cases stepped
  | expirePresence room ids =>
      cases stepped
      exact .expires room ids
  | unsubscribed room =>
      simp only [step] at stepped
      split at stepped
      · next object found =>
          obtain ⟨leaving, result⟩ := Option.ite_none_right_eq_some.mp stepped
          cases result
          exact .destroys room object found leaving
      · cases stepped
  | destroyed room => exact fires_of_destroyed stepped
  | writer room writing =>
      simp only [step] at stepped
      split at stepped
      · next object found =>
          obtain ⟨⟨writer, entry⟩, wrote, rfl⟩ := Option.map_eq_some_iff.mp stepped
          exact .writes room object found writing writer entry wrote
      · cases stepped

end CollabEditor.Instance.Slot
