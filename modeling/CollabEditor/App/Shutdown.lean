import CollabEditor.Instance.Registry
import CollabEditor.Instance.Settlement

/-!
Owns `app.ts`'s `close()`, from the sockets it closes to the point where it
closes the store. A room is flushed by one of two paths: the `leave` of its
last client, which nothing awaits, or `closeAll`, which takes the rooms still
in the map once every socket is closed.

Assumes what `Instance.Slot` does of the store and the bus. Does not own the
process being killed before `close()` is through.
-/

namespace CollabEditor

open CollabEditor.Library CollabEditor.Yjs CollabEditor.Persistence CollabEditor.Rooms
open CollabEditor.Instance

universe u v w x

/-- How far `close()` has come. -/
inductive Phase where
  | running
  /-- `wss.close()` was called; its callback has not run. -/
  | closingSockets
  /-- `rooms.closeAll()` was called. -/
  | closingRooms
deriving DecidableEq

structure App (Doc : Type x) (Conn : Type v) (Op : Type u) (Entry : Type w) where
  documents : Documents Doc Conn Op Entry
  /-- `Gateway.clients`. -/
  clients : List (Doc × Conn)
  phase : Phase
  /-- The rooms `closeAll` took, and how far it has come with each. -/
  closing : Doc → Option (ℕ × Teardown)

inductive AppEvent (Doc : Type x) (Conn : Type v) (Op : Type u) where
  | document (doc : Doc) (event : SlotEvent Conn Op)
  /-- SIGTERM. -/
  | close
  /-- The callback of `wss.close()`. -/
  | socketsClosed
  /-- `bus.unsubscribe` resolves in `closeAll`. -/
  | unsubscribed (doc : Doc)
  /-- `sink.close()` resolves in `closeAll`. -/
  | destroyed (doc : Doc)

variable {Doc : Type x} {Conn : Type v} {Op : Type u} {Entry : Type w} [DecidableEq Doc]
  [DecidableEq Conn]

/-- A closed WebSocket server accepts nobody. -/
def Phase.accepts (phase : Phase) : SlotEvent Conn Op → Bool
  | .connect _ => phase = .running
  | _ => true

namespace App

def Initial (app : App Doc Conn Op Entry) : Prop :=
  Documents.Initial app.documents ∧ app.clients = [] ∧ app.phase = .running ∧
    app.closing = fun _ => none

/-- `Gateway.clients` after an event of a document. -/
def clientsAfter (app : App Doc Conn Op Entry) (doc : Doc) :
    SlotEvent Conn Op → List (Doc × Conn)
  | .connect conn => app.clients ++ [(doc, conn)]
  | .socketClosed conn => app.clients.filter (· ≠ (doc, conn))
  | _ => app.clients

/-- `client.close(..)` for every client of the gateway. -/
def closeSockets (app : App Doc Conn Op Entry) (doc : Doc) : Slot Conn Op Entry :=
  { app.documents doc with
    connections := fun conn => ((app.documents doc).connections conn).map fun connection =>
      if (doc, conn) ∈ app.clients ∧ connection.readyState = .opened then
        { connection with readyState := .closing }
      else connection }

/-- `closeAll`, up to its awaits. -/
def clearRooms (slot : Slot Conn Op Entry) : Slot Conn Op Entry :=
  { slot with
    registered := none
    listener := if slot.registered.isSome then none else slot.listener }

def closeWriter (object : RoomObject Conn Op) : RoomObject Conn Op :=
  { object with writer := object.writer.close }

def step [DecidableEq Op] [Causality Op] (setup : Setup Op Entry) (app : App Doc Conn Op Entry) :
    AppEvent Doc Conn Op → Option (App Doc Conn Op Entry)
  | .document doc event =>
      if app.phase.accepts event then
        (Documents.step setup app.documents (doc, event)).map fun documents => { app with
          documents := documents
          clients := app.clientsAfter doc event }
      else none
  | .close =>
      if app.phase = .running then some { app with
        documents := app.closeSockets
        phase := .closingSockets }
      else none
  | .socketsClosed =>
      if app.phase = .closingSockets ∧ app.clients = [] then some { app with
        documents := fun doc => clearRooms (app.documents doc)
        phase := .closingRooms
        closing := fun doc => (app.documents doc).registered.map (·, .unsubscribing) }
      else none
  | .unsubscribed doc =>
      match app.closing doc with
      | some (room, .unsubscribing) =>
          match (app.documents doc).objects[room]? with
          | some object => some { app with
              documents := Function.update app.documents doc
                ((app.documents doc).modifyObject room closeWriter)
              closing := Function.update app.closing doc
                (some (room, .flushing (closeWriter object).writer.ticket)) }
          | none => none
      | _ => none
  | .destroyed doc =>
      match app.closing doc with
      | some (room, .flushing ticket) =>
          match (app.documents doc).objects[room]? with
          | some object =>
              if object.writer.Resolved ticket then some { app with
                closing := Function.update app.closing doc (some (room, .destroyed)) }
              else none
          | none => none
      | _ => none

/-- `closeAll` has flushed every room it took, so `store.close()` is next. -/
def RoomsClosed (app : App Doc Conn Op Entry) : Prop :=
  app.phase = .closingRooms ∧
    ∀ doc room progress, app.closing doc = some (room, progress) → progress = .destroyed

end App

namespace AppEvent

/-- The store's appends succeed. -/
def Succeeds : AppEvent Doc Conn Op → Prop
  | .document _ (.writer _ .appendRejected) => False
  | _ => True

omit [DecidableEq Doc] [DecidableEq Conn] in
private theorem Succeeds.not_rejected {doc : Doc} {event : SlotEvent Conn Op}
    (succeeds : (document doc event).Succeeds) (room : ℕ) :
    event ≠ .writer room .appendRejected := by
  rintro rfl
  exact succeeds

end AppEvent

/-! ### While there are sockets -/

/-- A document before `closeAll`: a room with something recorded is registered
until a leave retires it. -/
structure Serving (slot : Slot Conn Op Entry) : Prop where
  coherent : slot.Coherent
  accounted : ∀ (room : ℕ) object, slot.objects[room]? = some object → Slot.Accounted object
  kept : ∀ (room : ℕ) object, slot.objects[room]? = some object →
    object.teardown = .alive → object.recorded ≠ [] → slot.registered = some room
  outside : ∀ conn connection, slot.connections conn = some connection →
    connection.readyState = .closed → ∀ room, connection.stage ≠ .joined room

omit [DecidableEq Conn] in
private theorem serving_initial (entry : Entry) :
    Serving (Slot.initial entry : Slot Conn Op Entry) where
  coherent := Slot.coherent_initial entry
  accounted := nofun
  kept := nofun
  outside := nofun

/-- No event lets a connection join whose socket is closed. -/
theorem outside_of_step [DecidableEq Op] [Causality Op] {setup : Setup Op Entry}
    {before after : Slot Conn Op Entry}
    {event : SlotEvent Conn Op} (stepped : before.step setup event = some after)
    (outside : ∀ conn connection, before.connections conn = some connection →
      connection.readyState = .closed → ∀ room, connection.stage ≠ .joined room)
    {conn : Conn} {connection' : Connection}
    (found' : after.connections conn = some connection')
    (closed : connection'.readyState = .closed) (room : ℕ) :
    connection'.stage ≠ .joined room := by
  intro joined
  rcases Slot.connection_of_step stepped found' with ⟨-, fresh⟩ | ⟨connection, found, follows⟩
  · exact absurd (fresh.symm.trans joined) nofun
  · obtain rfl := follows.joins closed room joined
    exact outside conn connection found closed room joined

private theorem Serving.step [DecidableEq Op] [Causality Op] {setup : Setup Op Entry}
    {before after : Slot Conn Op Entry} (serving : Serving before) {event : SlotEvent Conn Op}
    (succeeds : ∀ room, event ≠ .writer room .appendRejected)
    (stepped : before.step setup event = some after) : Serving after where
  coherent := serving.coherent.step stepped
  outside := fun _ _ found' closed room =>
    outside_of_step stepped serving.outside found' closed room
  accounted := fun room object' found' => by
    rcases Slot.origin_of_step stepped found' with
      ⟨object, found, moves⟩ | ⟨-, _, _, _, -, -, -, rfl⟩
    · refine moves.accounted (serving.accounted room object found) succeeds ?_
      intro conn ready joined
      have registered := serving.coherent.registered_of_joined joined
      obtain ⟨-, current, isCurrent, alive, -⟩ := serving.coherent.current room registered
      obtain rfl := Option.some.inj (found.symm.trans isCurrent)
      exact alive
    · exact Slot.accounted_new _ _
  kept := fun room object' found' alive something => by
    rcases Slot.origin_of_step stepped found' with
      ⟨object, found, moves⟩ | ⟨-, _, _, _, -, -, -, rfl⟩
    · have registered : before.registered = some room := by
        by_contra unregistered
        have silent : ∀ conn ready,
            before.connections conn ≠ some ⟨ready, .joined room⟩ :=
          fun conn ready joined => unregistered (serving.coherent.registered_of_joined joined)
        obtain ⟨-, same⟩ := moves.writer_drains succeeds silent
        have still := same ▸ something
        exact unregistered (serving.kept room object found (moves.alive alive) still)
      rcases Slot.registered_or_retired_of_step serving.coherent stepped registered with
        still | ⟨object'', found'', gone⟩
      · exact still
      · obtain rfl := Option.some.inj (found'.symm.trans found'')
        exact absurd alive gone
    · exact absurd rfl something

/-! ### Once every socket is closed -/

/-- A document after `closeAll`, which took the room of `task`: nothing more is
recorded. -/
structure Stopped (slot : Slot Conn Op Entry) (task : Option (ℕ × Teardown)) : Prop where
  closed : ∀ conn connection, slot.connections conn = some connection →
    connection.readyState = .closed ∧ ∀ room, connection.stage ≠ .joined room
  accounted : ∀ (room : ℕ) object, slot.objects[room]? = some object → Slot.Accounted object
  taken : ∀ (room : ℕ) object, slot.objects[room]? = some object →
    object.teardown = .alive → object.recorded ≠ [] → ∃ progress, task = some (room, progress)
  flushing : ∀ room ticket, task = some (room, .flushing ticket) → ∃ object,
    slot.objects[room]? = some object ∧
      object.writer.pending = [] ∧ object.writer.ticket = ticket
  flushed : ∀ room, task = some (room, .destroyed) → ∃ object,
    slot.objects[room]? = some object ∧ object.writer.unsettled = []

private theorem Stopped.step [DecidableEq Op] [Causality Op] {setup : Setup Op Entry}
    {before after : Slot Conn Op Entry}
    {task : Option (ℕ × Teardown)} (stopped : Stopped before task)
    {event : SlotEvent Conn Op} (succeeds : ∀ room, event ≠ .writer room .appendRejected)
    (refused : ∀ conn, event ≠ .connect conn)
    (stepped : before.step setup event = some after) : Stopped after task := by
  have silent : ∀ (room : ℕ) conn ready,
      before.connections conn ≠ some ⟨ready, .joined room⟩ :=
    fun room conn ready joined => (stopped.closed conn _ joined).2 room rfl
  refine ⟨?_, ?_, ?_, ?_, ?_⟩
  · intro conn connection' found'
    rcases Slot.connection_of_step stepped found' with
      ⟨connects, -⟩ | ⟨connection, found, follows⟩
    · exact absurd connects (refused conn)
    · have isClosed := follows.stays (stopped.closed conn connection found).1
      refine ⟨isClosed, outside_of_step stepped ?_ found' isClosed⟩
      exact fun conn connection found _ => (stopped.closed conn connection found).2
  · intro room object' found'
    rcases Slot.origin_of_step stepped found' with
      ⟨object, found, moves⟩ | ⟨-, _, _, _, -, -, -, rfl⟩
    · exact moves.accounted (stopped.accounted room object found) succeeds
        fun conn ready joined => absurd joined (silent room conn ready)
    · exact Slot.accounted_new _ _
  · intro room object' found' alive something
    rcases Slot.origin_of_step stepped found' with
      ⟨object, found, moves⟩ | ⟨-, _, _, _, -, -, -, rfl⟩
    · obtain ⟨-, same⟩ := moves.writer_drains succeeds (silent room)
      exact stopped.taken room object found (moves.alive alive) (same ▸ something)
    · exact absurd rfl something
  · intro room ticket isTask
    obtain ⟨object, found, empty, isTicket⟩ := stopped.flushing room ticket isTask
    obtain ⟨object', found', moves⟩ := Slot.moves_of_step stepped found
    obtain ⟨drains, -⟩ := moves.writer_drains succeeds (silent room)
    exact ⟨object', found', (drains.pending empty).1, (drains.pending empty).2.trans isTicket⟩
  · intro room isTask
    obtain ⟨object, found, empty⟩ := stopped.flushed room isTask
    obtain ⟨object', found', moves⟩ := Slot.moves_of_step stepped found
    obtain ⟨drains, -⟩ := moves.writer_drains succeeds (silent room)
    exact ⟨object', found', drains.unsettled empty⟩

section

omit [DecidableEq Conn]

/-- `closeAll` takes a document's registered room when no socket is open. -/
theorem Serving.clearRooms {slot : Slot Conn Op Entry} (serving : Serving slot)
    (closed : ∀ conn connection, slot.connections conn = some connection →
      connection.readyState = .closed) :
    Stopped (App.clearRooms slot) (slot.registered.map (·, .unsubscribing)) where
  closed := fun conn connection found =>
    ⟨closed conn connection found,
      serving.outside conn connection found (closed conn connection found)⟩
  accounted := serving.accounted
  taken := fun room object found alive something => by
    rw [serving.kept room object found alive something]
    exact ⟨.unsubscribing, rfl⟩
  flushing := fun room ticket isTask => by
    obtain ⟨other, -, same⟩ := Option.map_eq_some_iff.mp isTask
    cases same
  flushed := fun room isTask => by
    obtain ⟨other, -, same⟩ := Option.map_eq_some_iff.mp isTask
    cases same

private theorem accounted_closeWriter {object : RoomObject Conn Op}
    (accounted : Slot.Accounted object) : Slot.Accounted (App.closeWriter object) := by
  obtain ⟨pending, unsettled⟩ := drains_close object.writer
  refine ⟨?_, fun ticket flushing => ?_, fun destroyed => unsettled (accounted.destroyed destroyed)⟩
  · rw [App.closeWriter, DocumentWriter.close_unsettled]
    exact accounted.recorded
  · obtain ⟨empty, isTicket⟩ := accounted.flushing ticket flushing
    exact ⟨(pending empty).1, (pending empty).2.trans isTicket⟩

/-- `closeAll` closes the writer of the room it took. -/
theorem Stopped.closeWriter {slot : Slot Conn Op Entry} {room : ℕ}
    (stopped : Stopped slot (some (room, .unsubscribing))) {object : RoomObject Conn Op}
    (found : slot.objects[room]? = some object) :
    Stopped (slot.modifyObject room App.closeWriter)
      (some (room, .flushing (App.closeWriter object).writer.ticket)) := by
  have objects := slot.objects_modifyObject room
  have origin : ∀ {other : ℕ} {object' : RoomObject Conn Op},
      (slot.modifyObject room App.closeWriter).objects[other]? = some object' →
      ∃ before, slot.objects[other]? = some before ∧
        (object' = before ∨ object' = App.closeWriter before) := by
    intro other object' found'
    rw [objects] at found'
    split at found'
    · obtain ⟨before, foundBefore, rfl⟩ := Option.map_eq_some_iff.mp found'
      exact ⟨before, foundBefore, Or.inr rfl⟩
    · exact ⟨object', found', Or.inl rfl⟩
  refine ⟨stopped.closed, fun other object' found' => ?_,
    fun other object' found' alive something => ?_, fun other ticket isTask => ?_, nofun⟩
  · obtain ⟨before, foundBefore, rfl | rfl⟩ := origin found'
    · exact stopped.accounted other object' foundBefore
    · exact accounted_closeWriter (stopped.accounted other before foundBefore)
  · obtain ⟨before, foundBefore, rfl | rfl⟩ := origin found'
    · obtain ⟨progress, isTask⟩ := stopped.taken other object' foundBefore alive something
      cases isTask
      exact ⟨_, rfl⟩
    · obtain ⟨progress, isTask⟩ := stopped.taken other before foundBefore alive something
      cases isTask
      exact ⟨_, rfl⟩
  · cases isTask
    refine ⟨App.closeWriter object, ?_, DocumentWriter.flush_pending, rfl⟩
    rw [objects, if_pos rfl, found, Option.map_some]

/-- The write that `closeAll` waits for is done. -/
theorem Stopped.destroyed {slot : Slot Conn Op Entry} {room ticket : ℕ}
    (stopped : Stopped slot (some (room, .flushing ticket))) {object : RoomObject Conn Op}
    (found : slot.objects[room]? = some object) (resolved : object.writer.Resolved ticket) :
    Stopped slot (some (room, .destroyed)) := by
  refine ⟨stopped.closed, stopped.accounted, fun other object' found' alive something => ?_,
    nofun, fun other isTask => ?_⟩
  · obtain ⟨progress, isTask⟩ := stopped.taken other object' found' alive something
    cases isTask
    exact ⟨_, rfl⟩
  · cases isTask
    obtain ⟨object', found', empty, isTicket⟩ := stopped.flushing room ticket rfl
    obtain rfl := Option.some.inj (found.symm.trans found')
    exact ⟨object, found, DocumentWriter.unsettled_eq_nil empty (isTicket ▸ resolved)⟩

end

/-! ### The whole server -/

namespace App

/-- A client whose socket is not closed is one of the gateway's. -/
def Tracked (app : App Doc Conn Op Entry) : Prop :=
  ∀ doc conn connection, (app.documents doc).connections conn = some connection →
    connection.readyState ≠ .closed → (doc, conn) ∈ app.clients

/-- What holds of every document, before and after `closeAll`. -/
def Sound (app : App Doc Conn Op Entry) : Prop :=
  if app.phase = .closingRooms then ∀ doc, Stopped (app.documents doc) (app.closing doc)
  else (∀ doc, Serving (app.documents doc)) ∧ app.Tracked ∧ ∀ doc, app.closing doc = none

omit [DecidableEq Doc] [DecidableEq Conn] in
private theorem sound_initial {app : App Doc Conn Op Entry} (initial : app.Initial) :
    app.Sound := by
  obtain ⟨fresh, -, running, idle⟩ := initial
  unfold Sound
  rw [running, if_neg nofun]
  refine ⟨fun doc => ?_, fun doc conn connection found => ?_, fun doc => by rw [idle]⟩
  · obtain ⟨entry, isInitial⟩ := fresh doc
    exact isInitial ▸ serving_initial entry
  · obtain ⟨entry, isInitial⟩ := fresh doc
    rw [isInitial] at found
    cases found

private theorem mem_clientsAfter {app : App Doc Conn Op Entry} {doc other : Doc} {conn : Conn}
    {event : SlotEvent Conn Op} (member : (other, conn) ∈ app.clients)
    (open' : other = doc → event ≠ .socketClosed conn) :
    (other, conn) ∈ app.clientsAfter doc event := by
  cases event with
  | connect joining => exact List.mem_append_left _ member
  | socketClosed leaving =>
      refine List.mem_filter.mpr ⟨member, ?_⟩
      rw [decide_eq_true_eq]
      rintro same
      cases same
      exact open' rfl rfl
  | _ => exact member

/-- An event of one document keeps the gateway's clients what they are. -/
theorem Tracked.step [DecidableEq Op] [Causality Op] {app : App Doc Conn Op Entry}
    (tracked : app.Tracked) {setup : Setup Op Entry} {doc : Doc} {event : SlotEvent Conn Op}
    {slot : Slot Conn Op Entry} (stepped : (app.documents doc).step setup event = some slot) :
    Tracked { app with
      documents := Function.update app.documents doc slot
      clients := app.clientsAfter doc event } := by
  intro other conn connection' found' isOpen
  dsimp only at found' ⊢
  by_cases here : other = doc
  · subst here
    rw [Function.update_self] at found'
    rcases Slot.connection_of_step stepped found' with
      ⟨rfl, -⟩ | ⟨connection, found, follows⟩
    · exact List.mem_append_right _ (List.mem_singleton.mpr rfl)
    · have member := tracked other conn connection found
        fun closed => isOpen (follows.stays closed)
      exact mem_clientsAfter member fun _ isClosed => isOpen (follows.closes isClosed)
  · rw [Function.update_of_ne here] at found'
    exact mem_clientsAfter (tracked other conn connection' found' isOpen)
      fun same => absurd same here

/-- What closing its socket changes of a connection. -/
theorem connection_closeSockets {app : App Doc Conn Op Entry} {doc : Doc} {conn : Conn}
    {connection' : Connection} (found' : (app.closeSockets doc).connections conn =
      some connection') : ∃ connection, (app.documents doc).connections conn = some connection ∧
        connection'.stage = connection.stage ∧
        (connection'.readyState = .closed ↔ connection.readyState = .closed) := by
  obtain ⟨connection, found, rfl⟩ := Option.map_eq_some_iff.mp found'
  refine ⟨connection, found, ?_⟩
  split
  · next both => exact ⟨rfl, by simp [both.2]⟩
  · exact ⟨rfl, Iff.rfl⟩

private theorem stage_closeSockets (app : App Doc Conn Op Entry) (doc : Doc) (conn : Conn) :
    ((app.closeSockets doc).connections conn).map Connection.stage =
      (app.documents doc).stageOf conn := by
  unfold closeSockets Slot.stageOf
  rw [Option.map_map]
  refine congrArg (fun stage => ((app.documents doc).connections conn).map stage) ?_
  funext connection
  dsimp only [Function.comp_apply]
  split <;> rfl

private theorem serving_closeSockets {app : App Doc Conn Op Entry} {doc : Doc}
    (serving : Serving (app.documents doc)) : Serving (app.closeSockets doc) where
  coherent := by
    refine serving.coherent.unchanged (Slot.unchanged_connections _ (fun conn => ?_) fun conn => ?_)
    · exact Eq.congr_left (app.stage_closeSockets doc conn)
    · exact congrArg (·.bind JoinStage.room?) (app.stage_closeSockets doc conn)
  accounted := serving.accounted
  kept := serving.kept
  outside := fun conn connection' found' closed room => by
    obtain ⟨connection, found, stage, isClosed⟩ := connection_closeSockets found'
    rw [stage]
    exact serving.outside conn connection found (isClosed.mp closed) room

private theorem Tracked.closeSockets {app : App Doc Conn Op Entry} (tracked : app.Tracked) :
    Tracked { app with documents := app.closeSockets, phase := .closingSockets } := by
  intro doc conn connection' found' isOpen
  obtain ⟨connection, found, -, isClosed⟩ := connection_closeSockets found'
  exact tracked doc conn connection found fun closed => isOpen (isClosed.mpr closed)

private theorem Sound.document [DecidableEq Op] [Causality Op] {setup : Setup Op Entry}
    {app : App Doc Conn Op Entry} (sound : app.Sound) {doc : Doc} {event : SlotEvent Conn Op}
    (accepted : app.phase.accepts event)
    (succeeds : ∀ room, event ≠ .writer room .appendRejected) {slot : Slot Conn Op Entry}
    (stepped : (app.documents doc).step setup event = some slot) :
    Sound { app with
      documents := Function.update app.documents doc slot
      clients := app.clientsAfter doc event } := by
  unfold Sound at sound ⊢
  dsimp only
  split at sound
  · next stopping =>
      rw [if_pos stopping]
      intro other
      by_cases here : other = doc
      · subst here
        rw [Function.update_self]
        refine (sound other).step succeeds ?_ stepped
        rintro conn rfl
        rw [stopping] at accepted
        cases accepted
      · rw [Function.update_of_ne here]
        exact sound other
  · next serving =>
      rw [if_neg serving]
      obtain ⟨documents, tracked, idle⟩ := sound
      refine ⟨fun other => ?_, tracked.step stepped, idle⟩
      by_cases here : other = doc
      · subst here
        rw [Function.update_self]
        exact (documents other).step succeeds stepped
      · rw [Function.update_of_ne here]
        exact documents other

omit [DecidableEq Conn] in
/-- Updating one document and the task on it. -/
theorem stopped_update {app : App Doc Conn Op Entry} (doc : Doc) {slot : Slot Conn Op Entry}
    {task : Option (ℕ × Teardown)}
    (stopped : ∀ doc, Stopped (app.documents doc) (app.closing doc))
    (updated : Stopped slot task) (other : Doc) :
    Stopped (Function.update app.documents doc slot other)
      (Function.update app.closing doc task other) := by
  by_cases here : other = doc
  · subst here
    rw [Function.update_self, Function.update_self]
    exact updated
  · rw [Function.update_of_ne here, Function.update_of_ne here]
    exact stopped other

/-- `close()` sends every socket its close frame. -/
theorem Sound.close {app : App Doc Conn Op Entry} (sound : app.Sound)
    (running : app.phase = .running) :
    Sound { app with documents := app.closeSockets, phase := .closingSockets } := by
  unfold Sound at sound ⊢
  rw [running, if_neg nofun] at sound
  rw [if_neg nofun]
  obtain ⟨documents, tracked, idle⟩ := sound
  exact ⟨fun doc => serving_closeSockets (documents doc), tracked.closeSockets, idle⟩

omit [DecidableEq Doc] [DecidableEq Conn] in
/-- With every client gone, `closeAll` takes the registered rooms. -/
theorem Sound.socketsClosed {app : App Doc Conn Op Entry} (sound : app.Sound)
    (phase : app.phase = .closingSockets) (nobody : app.clients = []) :
    Sound { app with
      documents := fun doc => clearRooms (app.documents doc)
      phase := .closingRooms
      closing := fun doc => (app.documents doc).registered.map (·, .unsubscribing) } := by
  unfold Sound at sound ⊢
  rw [phase, if_neg nofun] at sound
  rw [if_pos rfl]
  obtain ⟨documents, tracked, -⟩ := sound
  refine fun doc => (documents doc).clearRooms fun conn connection found => ?_
  by_contra isOpen
  have member := tracked doc conn connection found isOpen
  rw [nobody] at member
  cases member

omit [DecidableEq Doc] [DecidableEq Conn] in
/-- Only `closeAll` has tasks. -/
theorem Sound.stopping {app : App Doc Conn Op Entry} (sound : app.Sound) {doc : Doc}
    {task : ℕ × Teardown} (isTask : app.closing doc = some task) :
    app.phase = .closingRooms ∧ ∀ doc, Stopped (app.documents doc) (app.closing doc) := by
  unfold Sound at sound
  split at sound
  · next phase => exact ⟨phase, sound⟩
  · exact absurd ((sound.2.2 doc).symm.trans isTask) nofun

omit [DecidableEq Conn] in
/-- One of its tasks moves on. -/
theorem Sound.advance {app : App Doc Conn Op Entry} (sound : app.Sound) {doc : Doc}
    {task : ℕ × Teardown} (isTask : app.closing doc = some task) {slot : Slot Conn Op Entry}
    {task' : ℕ × Teardown}
    (updated : Stopped (app.documents doc) (some task) → Stopped slot (some task')) :
    Sound { app with
      documents := Function.update app.documents doc slot
      closing := Function.update app.closing doc (some task') } := by
  obtain ⟨phase, stopped⟩ := sound.stopping isTask
  unfold Sound
  rw [if_pos phase]
  exact stopped_update doc stopped (updated (isTask ▸ stopped doc))

private theorem Sound.step [DecidableEq Op] [Causality Op] {setup : Setup Op Entry}
    {app app' : App Doc Conn Op Entry}
    (sound : app.Sound) {event : AppEvent Doc Conn Op} (succeeds : event.Succeeds)
    (stepped : app.step setup event = some app') : app'.Sound := by
  cases event with
  | document doc event =>
      simp only [App.step] at stepped
      split at stepped
      · next accepted =>
          obtain ⟨documents, taken, rfl⟩ := Option.map_eq_some_iff.mp stepped
          obtain ⟨slot, stepped', rfl⟩ := Option.map_eq_some_iff.mp taken
          exact sound.document accepted succeeds.not_rejected stepped'
      · cases stepped
  | close =>
      simp only [App.step] at stepped
      split at stepped
      · next running =>
          cases stepped
          exact sound.close running
      · cases stepped
  | socketsClosed =>
      simp only [App.step] at stepped
      split at stepped
      · next both =>
          cases stepped
          exact sound.socketsClosed both.1 both.2
      · cases stepped
  | unsubscribed doc =>
      simp only [App.step] at stepped
      split at stepped
      · next room isTask =>
          split at stepped
          · next object found =>
              cases stepped
              exact sound.advance isTask fun stopped => stopped.closeWriter found
          · cases stepped
      · cases stepped
  | destroyed doc =>
      simp only [App.step] at stepped
      split at stepped
      · next room ticket isTask =>
          split at stepped
          · next object found =>
              split at stepped
              · next resolved =>
                  cases stepped
                  have advanced := sound.advance isTask
                    fun stopped => stopped.destroyed found resolved
                  rw [Function.update_eq_self] at advanced
                  exact advanced
              · cases stepped
          · cases stepped
      · cases stepped

end App

/-- When `close()` reaches `store.close()`, the append of every recorded update
has settled exactly if the rooms whose `leave` is not finished have nothing
left to write: `closeAll` has seen to all others. -/
theorem recorded_settled_iff [DecidableEq Op] [Causality Op] (setup : Setup Op Entry)
    {app : App Doc Conn Op Entry}
    (reached : ReachedWhen (App.step setup) (fun _ event => event.Succeeds) App.Initial app)
    (closed : app.RoomsClosed) :
    (∀ doc (room : ℕ) object, (app.documents doc).objects[room]? = some object →
      object.recorded = object.settled) ↔
    ∀ doc (room : ℕ) object, (app.documents doc).objects[room]? = some object →
      object.Leaving → object.writer.unsettled = [] := by
  have sound : app.Sound := reached.invariant App.Sound (fun _ => App.sound_initial)
    fun _ _ _ sound succeeds stepped => sound.step succeeds stepped
  obtain ⟨phase, finished⟩ := closed
  unfold App.Sound at sound
  rw [if_pos phase] at sound
  have settled_iff : ∀ doc (room : ℕ) object,
      (app.documents doc).objects[room]? = some object →
      (object.recorded = object.settled ↔ object.writer.unsettled = []) := by
    intro doc room object found
    rw [((sound doc).accounted room object found).recorded]
    exact List.append_right_eq_self
  constructor
  · intro settled doc room object found leaving
    exact (settled_iff doc room object found).mp (settled doc room object found)
  · intro leaves doc room object found
    rw [settled_iff doc room object found]
    cases teardown : object.teardown with
    | unsubscribing => exact leaves doc room object found (Or.inl teardown)
    | flushing ticket => exact leaves doc room object found (Or.inr ⟨ticket, teardown⟩)
    | destroyed => exact ((sound doc).accounted room object found).destroyed teardown
    | alive =>
        by_contra something
        have recorded : object.recorded ≠ [] := by
          rw [((sound doc).accounted room object found).recorded]
          exact fun nothing => something (List.append_eq_nil_iff.mp nothing).2
        obtain ⟨progress, isTask⟩ := (sound doc).taken room object found teardown recorded
        obtain rfl := finished doc room progress isTask
        obtain ⟨object', found', empty⟩ := (sound doc).flushed room isTask
        obtain rfl := Option.some.inj (found.symm.trans found')
        exact something empty

/-! ### SIGTERM with one document open -/

instance : ∀ event : AppEvent Doc Conn Op, Decidable event.Succeeds
  | .document _ (.writer _ event) =>
      match event with
      | .appendRejected => isFalse id
      | .timerFired | .startWrite | .appendStored | .appendResolved | .compactStored
      | .compactResolved | .compactRejected => isTrue trivial
  | .document _ (.connect _) | .document _ (.authenticate _) | .document _ (.closing _)
  | .document _ (.socketClosed _) | .document _ .storeRead | .document _ .loadRejected
  | .document _ (.loadResolved _) | .document _ .subscribed | .document _ .resume
  | .document _ (.proceed _) | .document _ (.frame _ _) | .document _ (.bus _)
  | .document _ (.expirePresence _ _) | .document _ (.unsubscribed _)
  | .document _ (.destroyed _) | .close | .socketsClosed | .unsubscribed _
  | .destroyed _ => isTrue trivial

namespace App

/-- A server that has just started, with nothing stored. -/
def start : App Unit ℕ ItemId (Option (MemoryDocumentStore.Entry ItemId)) :=
  ⟨fun _ => Slot.initial none, [], .running, fun _ => none⟩

private theorem start_initial : start.Initial :=
  ⟨fun _ => ⟨none, rfl⟩, rfl, rfl, rfl⟩

/-- One visitor has typed something when the process is told to stop. -/
def typedThenTerminated : List (AppEvent Unit ℕ ItemId) :=
  (visits 0 ++ opens 0 ++
    [SlotEvent.frame 0 (.sync (.update {(⟨7, 0⟩ : ItemId)}))]).map (.document ()) ++
    [.close, .document () (.socketClosed 0)]

private theorem roomsClosed_of_none
    {app : App Unit ℕ ItemId (Option (MemoryDocumentStore.Entry ItemId))}
    (phase : app.phase = .closingRooms) (none : app.closing () = none) : app.RoomsClosed :=
  ⟨phase, fun _ _ _ isTask => absurd (none.symm.trans isTask) nofun⟩

end App

/-- The leave of the last client ends before the callback of `wss.close()`. -/
theorem recorded_settled_after_leave :
    ∃ app : App Unit ℕ ItemId (Option (MemoryDocumentStore.Entry ItemId)),
      app.RoomsClosed ∧ (app.documents ()).objects.map RoomObject.recorded = [[{⟨7, 0⟩}]] ∧
        ∀ doc (room : ℕ) object, (app.documents doc).objects[room]? = some object →
          object.recorded = object.settled := by
  obtain ⟨app, reached, phase, none, recorded, gone⟩ := exists_reachedWhen_of_runWhen
    (App.step memorySetup) (fun _ event => event.Succeeds) App.Initial App.start
    (App.typedThenTerminated ++ (tearsDown 0).map (.document ()) ++ [.socketsClosed])
    (fun app => app.phase = .closingRooms ∧ app.closing () = none ∧
      (app.documents ()).objects.map RoomObject.recorded = [[{⟨7, 0⟩}]] ∧
      ∀ object ∈ (app.documents ()).objects, object.teardown = .destroyed)
    App.start_initial (by decide)
  have closed := App.roomsClosed_of_none phase none
  refine ⟨app, closed, recorded, (recorded_settled_iff memorySetup reached closed).mpr ?_⟩
  intro doc room object found leaving
  have destroyed := gone object (List.mem_of_getElem? found)
  rcases leaving with unsubscribing | ⟨ticket, flushing⟩
  · exact absurd (destroyed.symm.trans unsubscribing) nofun
  · exact absurd (destroyed.symm.trans flushing) nofun

/-- `closeAll` finds no room and resolves at once, while the only room is still
being torn down by the leave of its client. -/
theorem recorded_lost_on_shutdown :
    ∃ app : App Unit ℕ ItemId (Option (MemoryDocumentStore.Entry ItemId)),
      ReachedWhen (App.step memorySetup) (fun _ event => event.Succeeds) App.Initial app ∧
      app.RoomsClosed ∧ (app.documents ()).objects.map (fun object =>
        (object.recorded, object.settled)) = [([{⟨7, 0⟩}], [])] := by
  obtain ⟨app, reached, phase, none, lost⟩ := exists_reachedWhen_of_runWhen
    (App.step memorySetup) (fun _ event => event.Succeeds) App.Initial App.start
    (App.typedThenTerminated ++ [.socketsClosed])
    (fun app => app.phase = .closingRooms ∧ app.closing () = none ∧
      (app.documents ()).objects.map (fun object =>
        (object.recorded, object.settled)) = [([{⟨7, 0⟩}], [])])
    App.start_initial (by decide)
  exact ⟨app, reached, App.roomsClosed_of_none phase none, lost⟩

end CollabEditor
