import CollabEditor.Cluster.Messages
import CollabEditor.Instance.Maps

/-!
Owns a server instance: a slot for every document, of which any may take the
next step, over the bus its registry was given. `publish` throws for an id that
does not fit the frame's length byte; of what it throws out of, only `load` is
followed.
-/

namespace CollabEditor.Instance

open CollabEditor.Library CollabEditor.Yjs CollabEditor.Persistence CollabEditor.Rooms

universe u v w x

variable {Conn : Type v} {Op : Type u} {Entry : Type w}

/-- The bus of a `RoomRegistry`. -/
inductive Bus where
  /-- `NO_BUS`. -/
  | noBus
  /-- A `RedisDocumentBus`. -/
  | redis (instanceId : JsString)
deriving DecidableEq

namespace Bus

/-- `publish` does not throw: it encodes the state request with its origin. -/
def Publishes : Bus → Prop
  | .noBus => True
  | .redis instanceId => (Cluster.Wire.encodeBusMessage ⟨.stateRequest, instanceId, []⟩).isSome

/-- There is no broker, or the id has at most 255 UTF-8 bytes. -/
def Fits : Bus → Prop
  | .noBus => True
  | .redis instanceId => (Cluster.Wire.originBytes instanceId).length ≤ 255

instance : ∀ bus : Bus, Decidable bus.Publishes
  | .noBus => isTrue trivial
  | .redis _ => inferInstanceAs (Decidable (_ = true))

private theorem publishes_iff_fits (bus : Bus) : bus.Publishes ↔ bus.Fits := by
  cases bus with
  | noBus => exact Iff.rfl
  | redis instanceId =>
      have encodes := Cluster.Wire.encodeBusMessage_eq_none_iff ⟨.stateRequest, instanceId, []⟩
      exact Option.isSome_iff_ne_none.trans ((not_congr encodes).trans not_lt)

end Bus

namespace Slot

/-- What a run of one document leaves true of its registry entries. -/
structure Lawful (slot : Slot Conn Op Entry) : Prop where
  /-- A client that was added and not removed is in the registered room. -/
  entered : ∀ conn room, slot.roomOf conn = some room → slot.registered = some room ∧
    ∃ object, slot.objects[room]? = some object ∧ conn ∈ object.room.clients
  /-- A room's clients are such, and a room that is not registered has none. -/
  clients : ∀ (room : ℕ) object, slot.objects[room]? = some object →
    (∀ conn ∈ object.room.clients, slot.roomOf conn = some room) ∧
      (slot.registered ≠ some room → object.room.clients = [])
  /-- With no load and no join in flight, a room and a listener are kept for
  exactly the documents somebody has joined. -/
  kept : slot.opening = none → (∀ conn room, slot.stageOf conn ≠ some (.added room)) →
    (slot.registered.isSome ↔ ∃ conn room, slot.stageOf conn = some (.joined room)) ∧
      slot.listener = slot.registered

private theorem Coherent.lawful {slot : Slot Conn Op Entry} (coherent : slot.Coherent) :
    slot.Lawful where
  entered := coherent.entered
  clients := fun room object found => by
    refine ⟨fun conn => coherent.clients room object conn found, fun unregistered => ?_⟩
    rw [List.eq_nil_iff_forall_not_mem]
    intro conn member
    have inRoom := coherent.clients room object conn found member
    exact unregistered (coherent.entered conn room inRoom).1
  kept := fun idle through => by
    refine ⟨?_, coherent.idle idle⟩
    constructor
    · intro isRegistered
      obtain ⟨room, registered⟩ := Option.isSome_iff_exists.mp isRegistered
      obtain ⟨-, object, found, -, occupied⟩ := coherent.current room registered
      have nonempty : object.room.clients ≠ [] := fun empty => occupied empty idle
      obtain ⟨conn, member⟩ := List.exists_mem_of_ne_nil _ nonempty
      have inRoom := coherent.clients room object conn found member
      obtain ⟨stage, isStage, isRoom⟩ := Option.bind_eq_some_iff.mp inRoom
      cases stage with
      | joined other => exact ⟨conn, other, isStage⟩
      | added other => exact absurd isStage (through conn other)
      | unauthenticated => cases isRoom
      | waiting => cases isRoom
      | left => cases isRoom
    · rintro ⟨conn, room, joined⟩
      have inRoom : slot.roomOf conn = some room := by simp [roomOf, joined, JoinStage.room?]
      rw [(coherent.entered conn room inRoom).1]
      rfl

/-- A closed room is not registered and has no clients. -/
theorem Retired.empty {slot : Slot Conn Op Entry} {room : ℕ} (retired : slot.Retired room)
    (coherent : slot.Coherent) : slot.registered ≠ some room ∧
      ∀ object, slot.objects[room]? = some object → object.room.clients = [] := by
  obtain ⟨object, found, gone⟩ := retired
  have unregistered : slot.registered ≠ some room := by
    intro registered
    obtain ⟨-, object', found', alive, -⟩ := coherent.current room registered
    obtain rfl := Option.some.inj (found.symm.trans found')
    exact gone alive
  exact ⟨unregistered, fun object' found' =>
    (coherent.lawful.clients room object' found').2 unregistered⟩

end Slot

variable [DecidableEq Conn] [DecidableEq Op] [Causality Op]

namespace Slot

/-- An event on an instance with a bus. Where `publish` throws, `requestState`
does; no other code that publishes is run there. -/
def stepOn (bus : Bus) (setup : Setup Op Entry) (slot : Slot Conn Op Entry)
    (event : SlotEvent Conn Op) : Option (Slot Conn Op Entry) :=
  if bus.Publishes then slot.step setup event
  else
    match event with
    | .subscribed => slot.requestThrows setup
    | event => if slot.publishes event = [] then slot.step setup event else none

private theorem stepOn_of_publishes {bus : Bus} (publishes : bus.Publishes)
    (setup : Setup Op Entry) :
    (stepOn bus setup : Slot Conn Op Entry → _ → _) = step setup := by
  funext slot event
  exact if_pos publishes

theorem coherent_of_reached {setup : Setup Op Entry} {before after : Slot Conn Op Entry}
    (coherent : before.Coherent) (reached : Reached (step setup) (· = before) after) :
    after.Coherent :=
  reached.invariant Coherent (fun _ same => same ▸ coherent)
    fun _ _ _ holds _ stepped => holds.step stepped

private theorem registered_or_retired_of_reached {setup : Setup Op Entry}
    {before after : Slot Conn Op Entry} (coherent : before.Coherent) {room : ℕ}
    (current : before.registered = some room ∨ before.Retired room)
    (reached : Reached (step setup) (· = before) after) :
    after.registered = some room ∨ after.Retired room := by
  have both := reached.invariant
    (fun slot => slot.Coherent ∧ (slot.registered = some room ∨ slot.Retired room))
    (fun _ same => same ▸ ⟨coherent, current⟩)
    (fun slot event slot' holds _ stepped => by
      refine ⟨holds.1.step stepped, ?_⟩
      rcases holds.2 with registered | retired
      · exact registered_or_retired_of_step holds.1 stepped registered
      · exact Or.inr (retired.step stepped))
  exact both.2

end Slot

/-- The documents of one server instance. -/
abbrev Documents (Doc : Type x) (Conn : Type v) (Op : Type u) (Entry : Type w) :=
  Doc → Slot Conn Op Entry

variable {Doc : Type x} [DecidableEq Doc]

namespace Documents

/-- An instance that has just started, over any store. -/
def Initial (documents : Documents Doc Conn Op Entry) : Prop :=
  ∀ doc, ∃ entry, documents doc = Slot.initial entry

/-- An event of a document, on a bus that can publish. -/
def step (setup : Setup Op Entry) (documents : Documents Doc Conn Op Entry)
    (event : Doc × SlotEvent Conn Op) : Option (Documents Doc Conn Op Entry) :=
  stepAt (Slot.step setup) documents event

/-- An event of a document, on any bus. -/
def stepOn (bus : Bus) (setup : Setup Op Entry) (documents : Documents Doc Conn Op Entry)
    (event : Doc × SlotEvent Conn Op) : Option (Documents Doc Conn Op Entry) :=
  stepAt (Slot.stepOn bus setup) documents event

end Documents

/-- In a run from `earlier` over `documents` to `later`, a document's clients are
in its one registered room, a room and a listener are kept only while somebody
uses them, and a room taken out of the map never has a client again. -/
def Documents.Lifecycle (earlier documents later : Documents Doc Conn Op Entry) (doc : Doc) :
    Prop :=
  (documents doc).Lawful ∧ ∀ room, (earlier doc).registered = some room →
    (documents doc).registered ≠ some room → (later doc).registered ≠ some room ∧
      ∀ object, (later doc).objects[room]? = some object → object.room.clients = []

/-- On a bus that can publish the lifecycle holds of every run. -/
theorem registry_lifecycle (setup : Setup Op Entry)
    {earlier documents later : Documents Doc Conn Op Entry}
    (start : Reached (Documents.step setup) Documents.Initial earlier)
    (between : Reached (Documents.step setup) (· = earlier) documents)
    (after : Reached (Documents.step setup) (· = documents) later) (doc : Doc) :
    Documents.Lifecycle earlier documents later doc := by
  have component : ∀ {before after : Documents Doc Conn Op Entry},
      Reached (Documents.step setup) (· = before) after →
      Reached (Slot.step setup) (· = before doc) (after doc) :=
    fun reached => ReachedWhen.component doc (fun _ same => congrFun same doc) reached
  have coherent : (earlier doc).Coherent := by
    have reached : Reached (Slot.step setup) (fun slot => ∃ entry, slot = Slot.initial entry)
        (earlier doc) := ReachedWhen.component doc (fun _ initial => initial doc) start
    refine reached.invariant Slot.Coherent ?_ fun _ _ _ holds _ stepped => holds.step stepped
    rintro slot ⟨entry, rfl⟩
    exact Slot.coherent_initial entry
  have coherent' := Slot.coherent_of_reached coherent (component between)
  refine ⟨coherent'.lawful, fun room registered unregistered => ?_⟩
  have retired := (Slot.registered_or_retired_of_reached coherent (Or.inl registered)
    (component between)).resolve_left unregistered
  have retired' : (later doc).Retired room :=
    (component after).invariant (fun slot => slot.Retired room) (fun _ same => same ▸ retired)
      fun _ _ _ holds _ stepped => holds.step stepped
  exact retired'.empty (Slot.coherent_of_reached coherent' (component after))

/-! ### A bus that cannot publish -/

private theorem Slot.stepOn_of_throws {bus : Bus} (throws : ¬bus.Publishes) (setup : Setup Op Entry)
    (slot : Slot Conn Op Entry) (event : SlotEvent Conn Op) (other : event ≠ .subscribed)
    (silent : slot.publishes event = []) :
    slot.stepOn bus setup event = slot.step setup event := by
  unfold stepOn
  rw [if_neg throws]
  split
  · exact absurd rfl other
  · exact if_pos silent

/-- A visitor gets a document's load as far as the call of `bus.subscribe`. -/
theorem Slot.exists_subscribing {bus : Bus} (throws : ¬bus.Publishes) (setup : Setup Op Entry)
    (conn : Conn) (entry : Entry) : ∃ slot : Slot Conn Op Entry,
      Reached (stepOn bus setup) (· = initial entry) slot ∧ slot.Coherent ∧
        ∃ room state waiters, slot.opening = some ⟨.subscribing room state, waiters⟩ := by
  have goesOn : ∀ {before after : Slot Conn Op Entry} (event : SlotEvent Conn Op),
      event ≠ .subscribed → before.publishes event = [] → before.step setup event = some after →
      Reached (stepOn bus setup) (· = initial entry) before ∧ before.Coherent →
      Reached (stepOn bus setup) (· = initial entry) after ∧ after.Coherent := by
    intro before after event other silent stepped earlier
    have taken := (stepOn_of_throws throws setup before event other silent).trans stepped
    exact ⟨.next earlier.1 trivial taken, earlier.2.step stepped⟩
  have connected := goesOn (.connect conn) (by simp) rfl rfl ⟨.start rfl, coherent_initial entry⟩
  have waits := goesOn (.authenticate conn) (by simp) rfl
    (by simp only [step, setConnection, initial, Function.update_self, join]; rfl) connected
  have read := goesOn .storeRead (by simp) rfl rfl waits
  have made := goesOn (.loadResolved 0) (by simp) rfl rfl read
  exact ⟨_, made.1, made.2, _, _, _, rfl⟩

/-- The load rejects after `rooms.set`: its room stays, and nobody is in it. -/
theorem Slot.Coherent.not_lawful {slot thrown after : Slot Conn Op Entry}
    (coherent : slot.Coherent) {setup : Setup Op Entry} {room : ℕ} {state : Option (Update Op)}
    {waiters : List Conn} (opening : slot.opening = some ⟨.subscribing room state, waiters⟩)
    (throws : slot.requestThrows setup = some thrown) (resumed : thrown.resume = some after) :
    ¬after.Lawful := by
  intro lawful
  simp only [requestThrows, opening, Option.some.injEq] at throws
  subst throws
  simp only [resume, Option.some.injEq] at resumed
  subst resumed
  have outside := (coherent.nobody (coherent.loading _ opening).2.2.1).1
  obtain ⟨-, connections⟩ := slot.unchanged_hydrate setup room state
  -- a waiter gives up, and everybody else is where they were
  have nobody : ∀ conn other stage, stage.room? = some other → ((if conn ∈ waiters then
      ((slot.hydrate setup room state).connections conn).map fun connection =>
        (⟨if connection.readyState = .closed then .closed else .closing, .left⟩ : Connection)
      else (slot.hydrate setup room state).connections conn).map Connection.stage) ≠
        some stage := by
    intro conn other stage inRoom here
    rw [connections] at here
    split at here
    · simp only [Option.map_map, Option.map_eq_some_iff] at here
      obtain ⟨_, _, rfl⟩ := here
      cases inRoom
    · have isRoom : slot.roomOf conn = some other :=
        Option.bind_eq_some_iff.mpr ⟨stage, here, inRoom⟩
      exact absurd ((outside conn).symm.trans isRoom) nofun
  have kept := lawful.kept rfl fun conn other => nobody conn other _ rfl
  obtain ⟨conn, other, joined⟩ := kept.1.mp rfl
  exact nobody conn other _ rfl joined

/-- Where `publish` throws, a visitor who opens a document leaves a registered
room that nobody has joined. -/
theorem Slot.exists_not_lawful {bus : Bus} (throws : ¬bus.Publishes) (setup : Setup Op Entry)
    (conn : Conn) (entry : Entry) :
    ∃ slot : Slot Conn Op Entry,
      Reached (stepOn bus setup) (· = initial entry) slot ∧ ¬slot.Lawful := by
  obtain ⟨slot, reached, coherent, room, state, waiters, opening⟩ :=
    exists_subscribing throws setup conn entry
  have thrown : slot.requestThrows setup = some { slot.hydrate setup room state with
      registered := some room
      opening := some ⟨.failed, waiters⟩ } := by
    simp only [requestThrows, opening]
  have later : Reached (stepOn bus setup) (· = initial entry) _ :=
    .next (l := .subscribed) reached trivial ((if_neg throws).trans thrown)
  have taken := stepOn_of_throws throws setup { slot.hydrate setup room state with
    registered := some room
    opening := some ⟨.failed, waiters⟩ } .resume (by simp) rfl
  exact ⟨_, .next (l := .resume) later trivial (taken.trans rfl),
    coherent.not_lawful opening thrown rfl⟩

private theorem Documents.exists_not_lawful {bus : Bus} (throws : ¬bus.Publishes)
    (setup : Setup Op Entry) (doc : Doc) (conn : Conn) (entry : Entry) :
    ∃ documents : Documents Doc Conn Op Entry,
      Reached (stepOn bus setup) Initial documents ∧ ¬(documents doc).Lawful := by
  obtain ⟨slot, reached, notLawful⟩ := Slot.exists_not_lawful throws setup conn entry
  let started : Documents Doc Conn Op Entry := fun _ => Slot.initial entry
  have start : Initial started := fun _ => ⟨entry, rfl⟩
  have opened : Reached (stepOn bus setup) (· = started) _ := Reached.update started doc reached
  refine ⟨_, ReachedWhen.trans (.start start) opened, fun lawful => notLawful ?_⟩
  rwa [Function.update_self] at lawful

/-- The lifecycle holds of every run exactly where the bus can publish: there is no
broker, or the id fits. -/
theorem registry_lifecycle_iff [Inhabited Conn] [Inhabited Entry] [Inhabited Doc]
    (setup : Setup Op Entry) (bus : Bus) :
    bus.Fits ↔ ∀ earlier documents later : Documents Doc Conn Op Entry,
      Reached (Documents.stepOn bus setup) Documents.Initial earlier →
      Reached (Documents.stepOn bus setup) (· = earlier) documents →
      Reached (Documents.stepOn bus setup) (· = documents) later →
      ∀ doc, Documents.Lifecycle earlier documents later doc := by
  rw [← bus.publishes_iff_fits]
  constructor
  · intro publishes earlier documents later start between after doc
    have same : (Documents.stepOn bus setup : Documents Doc Conn Op Entry → _ → _) =
        Documents.step setup := by
      funext documents event
      exact congrArg (stepAt · documents event) (Slot.stepOn_of_publishes publishes setup)
    rw [same] at start between after
    exact registry_lifecycle setup start between after doc
  · intro lifecycle
    by_contra throws
    obtain ⟨documents, reached, notLawful⟩ :=
      Documents.exists_not_lawful throws setup (default : Doc) (default : Conn) (default : Entry)
    exact notLawful (lifecycle _ _ _ reached (.start rfl) (.start rfl) default).1

/-- An in-memory store under the default configuration. -/
def memorySetup : Setup ItemId (Option (MemoryDocumentStore.Entry ItemId)) :=
  ⟨MemoryDocumentStore.store, ⟨500, 64 * 1024, 200⟩, fun update => update.card⟩

/-- The events of somebody who opens a document, up to the read of the store. -/
def visits (conn : ℕ) : List (SlotEvent ℕ ItemId) :=
  [.connect conn, .authenticate conn, .storeRead]

/-- The rest of the open, and the join. -/
def opens (conn : ℕ) : List (SlotEvent ℕ ItemId) :=
  [.loadResolved 7, .subscribed, .resume, .proceed conn]

/-- The events that flush and destroy a room nobody is left in. -/
def tearsDown (room : ℕ) : List (SlotEvent ℕ ItemId) :=
  [.unsubscribed room, .writer room .startWrite, .writer room .appendStored,
    .writer room .appendResolved, .destroyed room]

/-- An id of 256 letters is one too long for its length byte. -/
theorem registry_lifecycle_long_id :
    ¬∀ earlier documents later :
        Documents Unit ℕ ItemId (Option (MemoryDocumentStore.Entry ItemId)),
      Reached (Documents.stepOn (.redis (Utf16.encode (List.replicate 256 'a'))) memorySetup)
        Documents.Initial earlier →
      Reached (Documents.stepOn (.redis (Utf16.encode (List.replicate 256 'a'))) memorySetup)
        (· = earlier) documents →
      Reached (Documents.stepOn (.redis (Utf16.encode (List.replicate 256 'a'))) memorySetup)
        (· = documents) later →
      ∀ doc, Documents.Lifecycle earlier documents later doc := by
  intro lifecycle
  have throws : ¬(Bus.redis (Utf16.encode (List.replicate 256 'a'))).Publishes := by
    decide +kernel
  obtain ⟨documents, reached, notLawful⟩ :=
    Documents.exists_not_lawful throws memorySetup () (0 : ℕ) none
  exact notLawful (lifecycle _ _ _ reached (.start rfl) (.start rfl) ()).1

end CollabEditor.Instance
