import CollabEditor.Cluster.RedisBus
import CollabEditor.Library.Transition

/-!
Owns the opening of rooms by `RoomRegistry` over the bus and the stored bytes:
joins that share an attempt, the points at which an attempt can fail, and what a
failed one leaves in the maps of the registry and of the bus.

Code between two awaits is one event. What a settled attempt triggers runs
before anything else can call `join`.
-/

set_option autoImplicit false

namespace CollabEditor.Cluster.Wire

open CollabEditor.Library

universe u v

/-- What the maps hold for one document. -/
structure Entries where
  /-- `rooms.get(documentId)`. -/
  room : Option ℕ
  /-- `opening.has(documentId)`. -/
  opening : Bool
  /-- The room behind the listener of its channel. -/
  listener : Option ℕ
deriving DecidableEq

/-- How far `load` has come. -/
inductive LoadStage where
  /-- `store.load` was called. -/
  | reading
  /-- The room was made and `bus.subscribe` called. -/
  | subscribing (room : ℕ) (state : Option (List UInt8))
deriving DecidableEq

/-- An entry of `opening`: how many joins await it, and what the maps held
before the first of them. -/
structure Attempt where
  stage : LoadStage
  waiters : ℕ
  before : Entries
deriving DecidableEq

/-- `RoomRegistry` in its process. -/
structure Registry (Doc : Type u) (Presence : Type v) where
  process : Process Doc Presence
  rooms : JsString → Option ℕ
  opening : JsString → Option Attempt
  /-- The attempts that were rejected, with what the maps held before each. -/
  failed : List (JsString × Entries)

inductive RegistryEvent (Doc : Type u) (Presence : Type v) where
  | join (documentId : JsString)
  /-- A client of the registered room leaves it. -/
  | leave (documentId : JsString)
  | loadRejected (documentId : JsString)
  | loadResolved (documentId : JsString) (state : Option (List UInt8))
  | subscribed (documentId : JsString)
  /-- The broker delivers a frame. -/
  | message (channel : JsString) (frame : List UInt8)
  /-- Clients change a room, or its presence times out. -/
  | roomChanges (room : ℕ) (doc : Doc) (presence : Presence)

variable {Doc : Type u} {Presence : Type v}

namespace Registry

def initial (instanceId : JsString) : Registry Doc Presence :=
  ⟨⟨⟨instanceId, fun _ => none⟩, []⟩, fun _ => none, fun _ => none, []⟩

def entries (registry : Registry Doc Presence) (documentId : JsString) : Entries where
  room := registry.rooms documentId
  opening := (registry.opening documentId).isSome
  listener := registry.process.bus.listeners (channelOf documentId)

def setOpening (registry : Registry Doc Presence) (documentId : JsString)
    (attempt : Option Attempt) : Registry Doc Presence :=
  { registry with opening := Function.update registry.opening documentId attempt }

def setObject (registry : Registry Doc Presence) (room : ℕ) (object : Room Doc Presence) :
    Registry Doc Presence :=
  { registry with
    process := { registry.process with objects := registry.process.objects.set room object } }

/-- The attempt is rejected, and so is every join that awaits it. -/
def reject (registry : Registry Doc Presence) (documentId : JsString) (attempt : Attempt) :
    Registry Doc Presence :=
  { registry.setOpening documentId none with
    failed := registry.failed ++ [(documentId, attempt.before)] }

/-- `join`: into the registered room, onto an attempt, or into one of its own. -/
def join (registry : Registry Doc Presence) (documentId : JsString) : Registry Doc Presence :=
  match registry.rooms documentId with
  | some room =>
      match registry.process.objects[room]? with
      | some object => registry.setObject room { object with clientCount := object.clientCount + 1 }
      | none => registry
  | none =>
      match registry.opening documentId with
      | some attempt =>
          registry.setOpening documentId (some { attempt with waiters := attempt.waiters + 1 })
      | none =>
          registry.setOpening documentId (some ⟨.reading, 1, registry.entries documentId⟩)

/-- `leave`, up to its first await. -/
def leave (registry : Registry Doc Presence) (documentId : JsString) :
    Option (Registry Doc Presence) :=
  (registry.rooms documentId).bind fun room =>
    (registry.process.objects[room]?).bind fun object =>
      if object.clientCount = 0 then none
      else
        let removed := registry.setObject room { object with clientCount := object.clientCount - 1 }
        if object.clientCount > 1 then some removed
        else some { removed with
          rooms := Function.update registry.rooms documentId none
          process := { removed.process with
            bus := registry.process.bus.unsubscribe documentId } }

/-- `load` once the store has answered: the room, and its subscription. -/
def onLoaded (yjs : Yjs Doc Presence) (registry : Registry Doc Presence) (documentId : JsString)
    (attempt : Attempt) (state : Option (List UInt8)) : Registry Doc Presence :=
  let room := registry.process.objects.length
  { registry.setOpening documentId (some { attempt with stage := .subscribing room state }) with
    process :=
      { bus := registry.process.bus.subscribe documentId room
        objects := registry.process.objects ++ [Room.new yjs] } }

/-- `hydrate`, if there is something stored. -/
def hydrate (yjs : Yjs Doc Presence) (doc : Doc) : Option (List UInt8) → Attempted Doc
  | some state => yjs.applyUpdate doc state
  | none => ⟨doc, false⟩

/-- `load` once the broker has answered: hydrating, registering and asking other
instances. Each waiting join adds its client. -/
def onSubscribed (yjs : Yjs Doc Presence) (registry : Registry Doc Presence)
    (documentId : JsString) (attempt : Attempt) (room : ℕ) (state : Option (List UInt8))
    (object : Room Doc Presence) : Registry Doc Presence :=
  let hydrated := hydrate yjs object.doc state
  if hydrated.threw then
    (registry.setObject room { object with doc := hydrated.state }).reject documentId attempt
  else
    let registered :=
      { registry with rooms := Function.update registry.rooms documentId (some room) }
    match Room.requestState registry.process.bus.instanceId with
    | none =>
        (registered.setObject room { object with doc := hydrated.state }).reject documentId attempt
    | some _ =>
        (registered.setObject room { object with
          doc := hydrated.state
          clientCount := object.clientCount + attempt.waiters }).setOpening documentId none

def step (yjs : Yjs Doc Presence) (registry : Registry Doc Presence) :
    RegistryEvent Doc Presence → Option (Registry Doc Presence)
  | .join documentId => some (registry.join documentId)
  | .leave documentId => registry.leave documentId
  | .loadRejected documentId =>
      match registry.opening documentId with
      | some ⟨.reading, waiters, before⟩ =>
          some (registry.reject documentId ⟨.reading, waiters, before⟩)
      | _ => none
  | .loadResolved documentId state =>
      match registry.opening documentId with
      | some ⟨.reading, waiters, before⟩ =>
          some (registry.onLoaded yjs documentId ⟨.reading, waiters, before⟩ state)
      | _ => none
  | .subscribed documentId =>
      match registry.opening documentId with
      | some ⟨.subscribing room state, waiters, before⟩ =>
          (registry.process.objects[room]?).map
            (registry.onSubscribed yjs documentId ⟨.subscribing room state, waiters, before⟩ room
              state)
      | _ => none
  | .message channel frame =>
      let delivered := onMessage yjs registry.process channel frame
      if delivered.escaped then none else some { registry with process := delivered.process }
  | .roomChanges room doc presence =>
      (registry.process.objects[room]?).map fun object =>
        registry.setObject room { object with doc := doc, presence := presence }

/-! ### What a failed attempt leaves -/

/-- If the event rejects an attempt, the maps hold what they held before it. -/
def LeavesNoTrace (yjs : Yjs Doc Presence) (registry : Registry Doc Presence)
    (event : RegistryEvent Doc Presence) : Prop :=
  ∀ registry', registry.step yjs event = some registry' → ∀ documentId before,
    registry'.failed = registry.failed ++ [(documentId, before)] →
      registry'.entries documentId = before

/-- An attempt that has made its room goes through: what is stored is an update,
and the id of the instance fits into a frame. -/
def Completes (yjs : Yjs Doc Presence) (registry : Registry Doc Presence)
    (event : RegistryEvent Doc Presence) : Prop :=
  ∀ documentId, event = .subscribed documentId → ∀ attempt room state object,
    registry.opening documentId = some attempt → attempt.stage = .subscribing room state →
      registry.process.objects[room]? = some object →
        (hydrate yjs object.doc state).threw = false ∧
          (originBytes registry.process.bus.instanceId).length ≤ 255

/-- Messages reach only rooms that are open or being opened. -/
def NoOrphans (registry : Registry Doc Presence) : Prop :=
  ∀ documentId, (registry.entries documentId).listener ≠ none →
    (registry.entries documentId).room ≠ none ∨ (registry.entries documentId).opening = true

/-! ### One document at a time -/

/-- What registry and bus hold for one document, with the attempt itself. -/
structure Held where
  room : Option ℕ
  attempt : Option Attempt
  listener : Option ℕ

def Held.entries (held : Held) : Entries := ⟨held.room, held.attempt.isSome, held.listener⟩

def held (registry : Registry Doc Presence) (documentId : JsString) : Held :=
  ⟨registry.rooms documentId, registry.opening documentId,
    registry.process.bus.listeners (channelOf documentId)⟩

/-- What an event does to the document it is about, and to the number of rooms
that have been made, unless it ends an attempt that has subscribed. -/
inductive Held.Moves (made : ℕ) (held : Held) : ℕ → Held → Prop where
  | stays : Moves made held made held
  | shares (attempt : Attempt) (waiters : ℕ) (opening : held.attempt = some attempt) :
      Moves made held made { held with attempt := some { attempt with waiters := waiters } }
  | opens (absent : held.room = none) (idle : held.attempt = none) :
      Moves made held made { held with attempt := some ⟨.reading, 1, held.entries⟩ }
  | closes (registered : held.room ≠ none) :
      Moves made held made { held with room := none, listener := none }
  | rejects (attempt : Attempt) (opening : held.attempt = some attempt)
      (reading : attempt.stage = .reading) : Moves made held made { held with attempt := none }
  | loads (attempt : Attempt) (state : Option (List UInt8)) (opening : held.attempt = some attempt)
      (reading : attempt.stage = .reading) :
      Moves made held (made + 1) { held with
        attempt := some { attempt with stage := .subscribing made state }
        listener := some made }

private theorem Held.Moves.made_le {made made' : ℕ} {held held' : Held}
    (moves : held.Moves made made' held') : made ≤ made' := by
  cases moves with
  | loads => exact Nat.le_succ made
  | _ => exact Nat.le_refl made

/-- What is held while an attempt is under way: what was there before it, until
it subscribes. -/
structure Held.Sound (made : ℕ) (held : Held) : Prop where
  bounded : ∀ room, held.listener = some room → room < made
  alone : held.attempt ≠ none → held.room = none
  before : ∀ attempt, held.attempt = some attempt →
    attempt.before.room = none ∧ attempt.before.opening = false
  reading : ∀ attempt, held.attempt = some attempt → attempt.stage = .reading →
    attempt.before.listener = held.listener
  subscribing : ∀ attempt room state, held.attempt = some attempt →
    attempt.stage = .subscribing room state →
      held.listener = some room ∧ attempt.before.listener ≠ some room

/-- Without an attempt there is only the number of the listener's room to check. -/
theorem Held.sound_of_idle {made : ℕ} {held : Held}
    (bounded : ∀ room, held.listener = some room → room < made) (idle : held.attempt = none) :
    held.Sound made := by
  have absurdly : ∀ attempt, held.attempt ≠ some attempt := by
    intro attempt opening
    exact Option.some_ne_none attempt (opening.symm.trans idle)
  exact ⟨bounded, fun some => absurd idle some, fun attempt opening =>
    absurd opening (absurdly attempt), fun attempt opening => absurd opening (absurdly attempt),
    fun attempt _ _ opening => absurd opening (absurdly attempt)⟩

private theorem Held.Sound.moves {made made' : ℕ} {held held' : Held} (sound : held.Sound made)
    (moves : held.Moves made made' held') : held'.Sound made' := by
  cases moves with
  | stays => exact sound
  | shares attempt waiters opening =>
      have alone := sound.alone (by rw [opening]; exact Option.some_ne_none attempt)
      refine ⟨sound.bounded, fun _ => alone, ?_, ?_, ?_⟩
      · intro shared isShared
        cases isShared
        exact sound.before attempt opening
      · intro shared isShared reading
        cases isShared
        exact sound.reading attempt opening reading
      · intro shared room state isShared subscribing
        cases isShared
        exact sound.subscribing attempt room state opening subscribing
  | opens absent none =>
      refine ⟨sound.bounded, fun _ => absent, ?_, ?_, ?_⟩
      · intro attempt isAttempt
        cases isAttempt
        refine ⟨absent, ?_⟩
        show held.attempt.isSome = false
        rw [none, Option.isSome_none]
      · intro attempt isAttempt _
        cases isAttempt
        rfl
      · intro attempt room state isAttempt subscribing
        cases isAttempt
        cases subscribing
  | closes registered =>
      have idle : held.attempt = none := by
        by_contra some
        exact registered (sound.alone some)
      exact sound_of_idle (fun room isRoom => by cases isRoom) idle
  | rejects attempt opening reading => exact sound_of_idle sound.bounded rfl
  | loads attempt state opening reading =>
      have alone := sound.alone (by rw [opening]; exact Option.some_ne_none attempt)
      refine ⟨?_, fun _ => alone, ?_, ?_, ?_⟩
      · intro room isRoom
        cases isRoom
        omega
      · intro loading isLoading
        cases isLoading
        exact sound.before attempt opening
      · intro loading isLoading stillReading
        cases isLoading
        cases stillReading
      · intro loading room other isLoading subscribing
        cases isLoading
        cases subscribing
        refine ⟨rfl, fun same => ?_⟩
        have earlier := sound.bounded made (by
          rw [← sound.reading attempt opening reading]
          exact same)
        omega

/-- The listener of a document belongs to its room, or to an attempt that has
subscribed. -/
def Held.Owned (held : Held) : Prop :=
  held.listener ≠ none → held.room ≠ none ∨
    ∃ attempt room state, held.attempt = some attempt ∧ attempt.stage = .subscribing room state

private theorem Held.Owned.moves {made made' : ℕ} {held held' : Held} (owned : held.Owned)
    (sound : held.Sound made) (moves : held.Moves made made' held') : held'.Owned := by
  cases moves with
  | stays => exact owned
  | shares attempt waiters opening =>
      intro listens
      rcases owned listens with registered | ⟨other, room, state, isOther, subscribing⟩
      · exact Or.inl registered
      · obtain rfl := Option.some.inj (opening.symm.trans isOther)
        exact Or.inr ⟨_, room, state, rfl, subscribing⟩
  | opens absent idle =>
      intro listens
      rcases owned listens with registered | ⟨other, room, state, isOther, -⟩
      · exact absurd absent registered
      · exact absurd (isOther.symm.trans idle) (Option.some_ne_none other)
  | closes registered => exact fun listens => absurd rfl listens
  | rejects attempt opening reading =>
      intro listens
      rcases owned listens with registered | ⟨other, room, state, isOther, subscribing⟩
      · exact absurd (sound.alone (by rw [opening]; exact Option.some_ne_none attempt)) registered
      · obtain rfl := Option.some.inj (opening.symm.trans isOther)
        cases reading.symm.trans subscribing
  | loads attempt state opening reading => exact fun _ => Or.inr ⟨_, made, state, rfl, rfl⟩

variable {yjs : Yjs Doc Presence} {registry registry' : Registry Doc Presence}
  {documentId : JsString}

private theorem channelOf_injective {first second : JsString}
    (same : channelOf first = channelOf second) :
    first = second :=
  List.append_cancel_left same

/-- An event changes what is held for one document only. -/
structure Touches (registry registry' : Registry Doc Presence) (documentId : JsString) : Prop where
  others : ∀ other, other ≠ documentId → registry'.held other = registry.held other
  moves : (registry.held documentId).Moves registry.process.objects.length
    registry'.process.objects.length (registry'.held documentId)

/-- The three maps are updated for one document. -/
theorem held_of_updates {room : Option ℕ} {attempt : Option Attempt} {listener : Option ℕ}
    (rooms : registry'.rooms = Function.update registry.rooms documentId room)
    (opening : registry'.opening = Function.update registry.opening documentId attempt)
    (listeners : registry'.process.bus.listeners =
      Function.update registry.process.bus.listeners (channelOf documentId) listener) :
    registry'.held documentId = ⟨room, attempt, listener⟩ ∧
      ∀ other, other ≠ documentId → registry'.held other = registry.held other := by
  constructor
  · unfold held
    rw [rooms, opening, listeners, Function.update_self, Function.update_self,
      Function.update_self]
  · intro other different
    unfold held
    rw [rooms, opening, listeners, Function.update_of_ne different,
      Function.update_of_ne different,
      Function.update_of_ne fun same => different (channelOf_injective same)]

private theorem held_setOpening (registry : Registry Doc Presence) (documentId : JsString)
    (attempt : Option Attempt) :
    (registry.setOpening documentId attempt).held documentId =
        { registry.held documentId with attempt := attempt } ∧
      ∀ other, other ≠ documentId →
        (registry.setOpening documentId attempt).held other = registry.held other :=
  held_of_updates (Function.update_eq_self _ _).symm rfl (Function.update_eq_self _ _).symm

private theorem held_setObject (registry : Registry Doc Presence) (room : ℕ)
    (object : Room Doc Presence) :
    (registry.setObject room object).held = registry.held ∧
      (registry.setObject room object).process.objects.length = registry.process.objects.length :=
  ⟨rfl, List.length_set⟩

/-- An event that leaves the maps alone touches any document. -/
theorem touches_of_held (same : registry'.held = registry.held)
    (made : registry'.process.objects.length = registry.process.objects.length) :
    Touches registry registry' documentId := by
  refine ⟨fun other _ => by rw [same], ?_⟩
  rw [same, made]
  exact .stays

private theorem touches_of_updates {room : Option ℕ} {attempt : Option Attempt}
    {listener : Option ℕ} (rooms : registry'.rooms = Function.update registry.rooms documentId room)
    (opening : registry'.opening = Function.update registry.opening documentId attempt)
    (listeners : registry'.process.bus.listeners =
      Function.update registry.process.bus.listeners (channelOf documentId) listener)
    (moves : (registry.held documentId).Moves registry.process.objects.length
      registry'.process.objects.length ⟨room, attempt, listener⟩) :
    Touches registry registry' documentId := by
  obtain ⟨self, others⟩ := held_of_updates rooms opening listeners
  refine ⟨others, ?_⟩
  rw [self]
  exact moves

private theorem touches_setOpening {attempt : Option Attempt}
    (moves : (registry.held documentId).Moves registry.process.objects.length
      registry.process.objects.length { registry.held documentId with attempt := attempt }) :
    Touches registry (registry.setOpening documentId attempt) documentId :=
  touches_of_updates (Function.update_eq_self _ _).symm rfl (Function.update_eq_self _ _).symm
    moves

private theorem touches_join (registry : Registry Doc Presence) (documentId : JsString) :
    Touches registry (registry.join documentId) documentId := by
  unfold join
  split
  · split
    · next object _ =>
        obtain ⟨held, made⟩ := registry.held_setObject _ { object with
          clientCount := object.clientCount + 1 }
        exact touches_of_held held made
    · exact touches_of_held rfl rfl
  · next absent =>
      split
      · next attempt opening => exact touches_setOpening (.shares attempt _ opening)
      · next idle => exact touches_setOpening (.opens absent idle)

/-- The last client to leave takes the room and the listener with it. -/
theorem touches_leave (left : registry.leave documentId = some registry') :
    Touches registry registry' documentId ∧ registry'.failed = registry.failed := by
  obtain ⟨room, registered, left⟩ := Option.bind_eq_some_iff.mp left
  obtain ⟨object, -, left⟩ := Option.bind_eq_some_iff.mp left
  obtain ⟨-, left⟩ := Option.ite_none_left_eq_some.mp left
  obtain ⟨held, made⟩ := registry.held_setObject room { object with
    clientCount := object.clientCount - 1 }
  dsimp only at left
  split at left
  · cases left
    exact ⟨touches_of_held held made, rfl⟩
  · cases left
    refine ⟨touches_of_updates rfl (Function.update_eq_self _ _).symm rfl ?_, rfl⟩
    show (registry.held documentId).Moves _ (registry.setObject room _).process.objects.length _
    rw [made]
    refine .closes fun absent => ?_
    exact Option.some_ne_none room (registered.symm.trans absent)

private theorem touches_onLoaded {attempt : Attempt}
    (opening : registry.opening documentId = some attempt)
    (reading : attempt.stage = .reading) (yjs : Yjs Doc Presence)
    (state : Option (List UInt8)) :
    Touches registry (registry.onLoaded yjs documentId attempt state) documentId := by
  have made : (registry.onLoaded yjs documentId attempt state).process.objects.length =
      registry.process.objects.length + 1 := List.length_append
  refine touches_of_updates (Function.update_eq_self _ _).symm rfl rfl ?_
  rw [made]
  exact .loads attempt state opening reading

private theorem held_registered (registry : Registry Doc Presence) (documentId : JsString)
    (room : ℕ) :
    ({ registry with rooms := Function.update registry.rooms documentId (some room) } :
        Registry Doc Presence).held documentId =
        { registry.held documentId with room := some room } ∧
      ∀ other, other ≠ documentId →
        ({ registry with rooms := Function.update registry.rooms documentId (some room) } :
          Registry Doc Presence).held other = registry.held other :=
  held_of_updates rfl (Function.update_eq_self _ _).symm (Function.update_eq_self _ _).symm

/-- How an attempt that has made its room comes out: it completes and the room is
registered, or it is rejected and the listener stays. -/
inductive Ends (registry : Registry Doc Presence) (documentId : JsString) (attempt : Attempt)
    (completes : Prop) (registry' : Registry Doc Presence) : Prop where
  | opened (room : ℕ) (through : completes)
      (self : registry'.held documentId =
        { registry.held documentId with room := some room, attempt := none })
      (sameFailed : registry'.failed = registry.failed)
  | rejected (stuck : ¬ completes) (idle : (registry'.held documentId).attempt = none)
      (sameListener :
        (registry'.held documentId).listener = (registry.held documentId).listener)
      (failed : registry'.failed = registry.failed ++ [(documentId, attempt.before)])

private theorem ends_onSubscribed (yjs : Yjs Doc Presence) (registry : Registry Doc Presence)
    (documentId : JsString) (attempt : Attempt) (room : ℕ) (state : Option (List UInt8))
    (object : Room Doc Presence) :
    (∀ other, other ≠ documentId →
      (registry.onSubscribed yjs documentId attempt room state object).held other =
        registry.held other) ∧
    (registry.onSubscribed yjs documentId attempt room state object).process.objects.length =
      registry.process.objects.length ∧
    Ends registry documentId attempt
      ((hydrate yjs object.doc state).threw = false ∧
        (originBytes registry.process.bus.instanceId).length ≤ 255)
      (registry.onSubscribed yjs documentId attempt room state object) := by
  obtain ⟨registered, unregistered⟩ := registry.held_registered documentId room
  have long := encodeBusMessage_eq_none_iff ⟨.stateRequest, registry.process.bus.instanceId, []⟩
  unfold onSubscribed
  dsimp only
  split
  · next refused =>
      obtain ⟨self, others⟩ := held_setOpening (registry.setObject room { object with
        doc := (hydrate yjs object.doc state).state }) documentId none
      refine ⟨others, List.length_set, .rejected (fun both => ?_) ?_ ?_ rfl⟩
      · exact Bool.false_ne_true (both.1.symm.trans refused)
      · exact congrArg Held.attempt self
      · exact (congrArg Held.listener self).trans rfl
  · next accepted =>
      split
      · next unpublished =>
          obtain ⟨self, others⟩ := held_setOpening (({ registry with
            rooms := Function.update registry.rooms documentId (some room) } :
              Registry Doc Presence).setObject room { object with
                doc := (hydrate yjs object.doc state).state }) documentId none
          refine ⟨fun other different => ?_, List.length_set, .rejected (fun both => ?_) ?_ ?_ rfl⟩
          · exact (others other different).trans (unregistered other different)
          · exact absurd both.2 (Nat.not_le.mpr (long.mp unpublished))
          · exact congrArg Held.attempt self
          · exact (congrArg Held.listener self).trans rfl
      · next frame published =>
          obtain ⟨self, others⟩ := held_setOpening (({ registry with
            rooms := Function.update registry.rooms documentId (some room) } :
              Registry Doc Presence).setObject room { object with
                doc := (hydrate yjs object.doc state).state
                clientCount := object.clientCount + attempt.waiters }) documentId none
          have fits : (originBytes registry.process.bus.instanceId).length ≤ 255 := by
            refine Nat.not_lt.mp fun exceeds => ?_
            exact Option.some_ne_none frame (published.symm.trans (long.mpr exceeds))
          refine ⟨fun other different => ?_, List.length_set,
            .opened room ⟨Bool.eq_false_iff.mpr accepted, fits⟩ (self.trans ?_) rfl⟩
          · exact (others other different).trans (unregistered other different)
          · show { Registry.held { registry with
              rooms := Function.update registry.rooms documentId (some room) } documentId with
                attempt := none } = _
            rw [registered]

/-- What an event does, by what it finds. -/
inductive Fires (yjs : Yjs Doc Presence) (registry : Registry Doc Presence) :
    RegistryEvent Doc Presence → Registry Doc Presence → Prop where
  | quiet (event : RegistryEvent Doc Presence) (registry' : Registry Doc Presence)
      (documentId : JsString) (notSubscribed : ∀ documentId, event ≠ .subscribed documentId)
      (touches : Touches registry registry' documentId)
      (sameFailed : registry'.failed = registry.failed) : Fires yjs registry event registry'
  | rejects (documentId : JsString) (attempt : Attempt)
      (opening : registry.opening documentId = some attempt) (reading : attempt.stage = .reading) :
      Fires yjs registry (.loadRejected documentId) (registry.reject documentId attempt)
  | ends (documentId : JsString) (attempt : Attempt) (room : ℕ) (state : Option (List UInt8))
      (object : Room Doc Presence) (opening : registry.opening documentId = some attempt)
      (subscribing : attempt.stage = .subscribing room state)
      (found : registry.process.objects[room]? = some object) :
      Fires yjs registry (.subscribed documentId)
        (registry.onSubscribed yjs documentId attempt room state object)

private theorem join_failed (registry : Registry Doc Presence) (documentId : JsString) :
    (registry.join documentId).failed = registry.failed := by
  unfold join
  split
  · split
    · rfl
    · rfl
  · split
    · rfl
    · rfl

private theorem fires_of_step {event : RegistryEvent Doc Presence}
    (stepped : registry.step yjs event = some registry') : Fires yjs registry event registry' := by
  cases event with
  | join documentId =>
      cases stepped
      exact .quiet _ _ documentId (fun _ same => by cases same)
        (registry.touches_join documentId) (registry.join_failed documentId)
  | leave documentId =>
      obtain ⟨touches, same⟩ := touches_leave stepped
      exact .quiet _ _ documentId (fun _ same => by cases same) touches same
  | loadRejected documentId =>
      dsimp only [step] at stepped
      split at stepped
      · next waiters before opening =>
          cases stepped
          exact .rejects documentId ⟨.reading, waiters, before⟩ opening rfl
      · cases stepped
  | loadResolved documentId state =>
      dsimp only [step] at stepped
      split at stepped
      · next waiters before opening =>
          cases stepped
          exact .quiet _ _ documentId (fun _ same => by cases same)
            (touches_onLoaded opening rfl yjs state) rfl
      · cases stepped
  | subscribed documentId =>
      dsimp only [step] at stepped
      split at stepped
      · next room state waiters before opening =>
          obtain ⟨object, found, rfl⟩ := Option.map_eq_some_iff.mp stepped
          exact .ends documentId ⟨.subscribing room state, waiters, before⟩ room state object
            opening rfl found
      · cases stepped
  | message channel frame =>
      obtain ⟨bus, made⟩ := onMessage_keeps yjs registry.process channel frame
      obtain ⟨-, taken⟩ := Option.ite_none_left_eq_some.mp stepped
      cases taken
      refine .quiet _ _ channel (fun _ same => by cases same) (touches_of_held ?_ made) rfl
      funext documentId
      show (⟨_, _, (onMessage yjs registry.process channel frame).process.bus.listeners _⟩ : Held) =
        _
      rw [bus]
      rfl
  | roomChanges room doc presence =>
      obtain ⟨object, -, rfl⟩ := Option.map_eq_some_iff.mp stepped
      obtain ⟨held, made⟩ := registry.held_setObject room { object with
        doc := doc, presence := presence }
      exact .quiet _ _ [] (fun _ same => by cases same) (touches_of_held held made) rfl

/-! ### Along a run -/

def Sound (registry : Registry Doc Presence) : Prop :=
  ∀ documentId, (registry.held documentId).Sound registry.process.objects.length

private theorem sound_initial (instanceId : JsString) :
    (initial instanceId : Registry Doc Presence).Sound := by
  intro documentId
  refine ⟨?_, fun some => absurd rfl some, ?_, ?_, ?_⟩
  · intro _ none
    cases none
  · intro _ none
    cases none
  · intro _ none
    cases none
  · intro _ _ _ none
    cases none

private theorem Touches.sound (touches : Touches registry registry' documentId)
    (sound : registry.Sound) :
    registry'.Sound := by
  have grows := touches.moves.made_le
  intro other
  by_cases same : other = documentId
  · rw [same]
    exact (sound documentId).moves touches.moves
  · rw [touches.others other same]
    obtain ⟨bounded, alone, before, reading, subscribing⟩ := sound other
    exact ⟨fun room isRoom => Nat.lt_of_lt_of_le (bounded room isRoom) grows, alone, before,
      reading, subscribing⟩

private theorem touches_reject {attempt : Attempt}
    (opening : registry.opening documentId = some attempt) (reading : attempt.stage = .reading) :
    Touches registry (registry.reject documentId attempt) documentId := by
  have touches := touches_setOpening (.rejects attempt opening reading)
  exact ⟨touches.others, touches.moves⟩

private theorem sound_step {event : RegistryEvent Doc Presence} (sound : registry.Sound)
    (stepped : registry.step yjs event = some registry') : registry'.Sound := by
  cases fires_of_step stepped with
  | quiet _ _ documentId notSubscribed touches sameFailed => exact touches.sound sound
  | rejects documentId attempt opening reading => exact (touches_reject opening reading).sound sound
  | ends documentId attempt room state object opening subscribing found =>
      obtain ⟨others, made, outcome⟩ :=
        ends_onSubscribed yjs registry documentId attempt room state object
      intro other
      rw [made]
      by_cases same : other = documentId
      · rw [same]
        cases outcome with
        | opened room through self sameFailed =>
            rw [self]
            exact Held.sound_of_idle (sound documentId).bounded rfl
        | rejected stuck idle sameListener failed =>
            refine Held.sound_of_idle (fun room listens => ?_) idle
            exact (sound documentId).bounded room (sameListener.symm.trans listens)
      · rw [others other same]
        exact sound other

/-- An attempt that has not subscribed leaves the maps as they were before it. -/
theorem entries_reject {attempt : Attempt}
    (sound : (registry.held documentId).Sound registry.process.objects.length)
    (opening : registry.opening documentId = some attempt) (reading : attempt.stage = .reading) :
    (registry.reject documentId attempt).entries documentId = attempt.before := by
  obtain ⟨-, alone, earlier, unread, -⟩ := sound
  obtain ⟨noRoom, notOpening⟩ := earlier attempt opening
  have isAttempt : registry.opening documentId ≠ none := by
    rw [opening]
    exact Option.some_ne_none attempt
  have absent : registry.rooms documentId = none := alone isAttempt
  have listener : attempt.before.listener =
      registry.process.bus.listeners (channelOf documentId) := unread attempt opening reading
  obtain ⟨self, -⟩ := registry.held_setOpening documentId none
  show ((registry.setOpening documentId none).held documentId).entries = _
  rw [self]
  show (⟨registry.rooms documentId, false, registry.process.bus.listeners _⟩ : Entries) = _
  rw [absent, ← noRoom, ← notOpening, ← listener]

/-- An event leaves no trace of a failed attempt exactly when it is not one that
ends an attempt which has made its room. -/
theorem leavesNoTrace_iff {event : RegistryEvent Doc Presence} (sound : registry.Sound)
    (stepped : registry.step yjs event = some registry') :
    registry.LeavesNoTrace yjs event ↔ registry.Completes yjs event := by
  have single : registry.LeavesNoTrace yjs event ↔ ∀ documentId before,
      registry'.failed = registry.failed ++ [(documentId, before)] →
        registry'.entries documentId = before :=
    @forall_of_step _ _ (step yjs) _ _ event stepped _
  rw [single]
  cases fires_of_step stepped with
  | quiet _ _ documentId notSubscribed touches sameFailed =>
      refine iff_of_true (fun other before rejected => ?_) fun other same =>
        absurd same (notSubscribed other)
      rw [sameFailed] at rejected
      exact absurd (congrArg List.length rejected) (by simp)
  | rejects documentId attempt opening reading =>
      refine iff_of_true (fun other before rejected => ?_) fun other same => by cases same
      obtain ⟨rfl, rfl⟩ := Prod.mk.inj (List.singleton_inj.mp (List.append_cancel_left rejected))
      exact entries_reject (sound documentId) opening reading
  | ends documentId attempt room state object opening subscribing found =>
      have completes : registry.Completes yjs (.subscribed documentId) ↔
          (hydrate yjs object.doc state).threw = false ∧
            (originBytes registry.process.bus.instanceId).length ≤ 255 := by
        constructor
        · intro completes
          exact completes documentId rfl attempt room state object opening subscribing found
        · rintro both other same attempt' room' state' object' opening' subscribing' found'
          cases same
          obtain rfl := Option.some.inj (opening.symm.trans opening')
          cases subscribing.symm.trans subscribing'
          obtain rfl := Option.some.inj (found.symm.trans found')
          exact both
      rw [completes]
      obtain ⟨-, -, outcome⟩ := ends_onSubscribed yjs registry documentId attempt room state object
      cases outcome with
      | opened room through self sameFailed =>
          refine iff_of_true (fun other before rejected => ?_) through
          rw [sameFailed] at rejected
          exact absurd (congrArg List.length rejected) (by simp)
      | rejected stuck idle sameListener failed =>
          refine iff_of_false (fun restores => ?_) stuck
          obtain ⟨subscribed, fresh⟩ :=
            (sound documentId).subscribing attempt room state opening subscribing
          have restored := congrArg Entries.listener (restores documentId attempt.before failed)
          exact fresh (restored.symm.trans (sameListener.trans subscribed))

/-- While attempts complete, every listener has an owner. -/
theorem owned_step {event : RegistryEvent Doc Presence} (sound : registry.Sound)
    (owned : ∀ documentId, (registry.held documentId).Owned)
    (completes : registry.Completes yjs event)
    (stepped : registry.step yjs event = some registry') :
    ∀ documentId, (registry'.held documentId).Owned := by
  have touched : ∀ documentId, Touches registry registry' documentId →
      ∀ other, (registry'.held other).Owned := by
    intro documentId touches other
    by_cases same : other = documentId
    · rw [same]
      exact (owned documentId).moves (sound documentId) touches.moves
    · rw [touches.others other same]
      exact owned other
  cases fires_of_step stepped with
  | quiet _ _ documentId notSubscribed touches sameFailed => exact touched documentId touches
  | rejects documentId attempt opening reading =>
      exact touched documentId (touches_reject opening reading)
  | ends documentId attempt room state object opening subscribing found =>
      obtain ⟨others, -, outcome⟩ :=
        ends_onSubscribed yjs registry documentId attempt room state object
      intro other
      by_cases same : other = documentId
      · rw [same]
        cases outcome with
        | opened room through self sameFailed =>
            rw [self]
            exact fun _ => Or.inl (Option.some_ne_none room)
        | rejected stuck idle sameListener failed =>
            exact absurd (completes documentId rfl attempt room state object opening subscribing
              found) stuck
      · rw [others other same]
        exact owned other

private theorem owned_initial (instanceId documentId : JsString) :
    ((initial instanceId : Registry Doc Presence).held documentId).Owned :=
  fun listens => absurd rfl listens

private theorem noOrphans_of_owned (owned : ∀ documentId, (registry.held documentId).Owned) :
    registry.NoOrphans := by
  intro documentId listens
  rcases owned documentId listens with registered | ⟨attempt, -, -, opening, -⟩
  · exact Or.inl registered
  · refine Or.inr ?_
    show (registry.opening documentId).isSome = true
    rw [show registry.opening documentId = some attempt from opening, Option.isSome_some]

/-- Failed attempts leave the maps of registry and bus as they were exactly in the
runs in which every attempt that has made its room completes; and in these no
message reaches a room that is neither open nor being opened. -/
theorem leavesNoTrace_run_iff (yjs : Yjs Doc Presence) (instanceId : JsString)
    (events : List (RegistryEvent Doc Presence)) :
    (Meets (step yjs) (LeavesNoTrace yjs) (initial instanceId) events ↔
      Meets (step yjs) (Completes yjs) (initial instanceId) events) ∧
    (Meets (step yjs) (Completes yjs) (initial instanceId) events →
      Along (step yjs) NoOrphans (initial instanceId) events) := by
  constructor
  · exact meets_congr Sound (fun _ _ _ sound stepped => sound_step sound stepped)
      (fun _ _ _ sound stepped => leavesNoTrace_iff sound stepped) (sound_initial instanceId) events
  · intro meets
    have along := along_of_meets
      (fun registry : Registry Doc Presence =>
        registry.Sound ∧ ∀ documentId, (registry.held documentId).Owned)
      (fun _ _ _ both completes stepped =>
        ⟨sound_step both.1 stepped, owned_step both.1 both.2 completes stepped⟩)
      ⟨sound_initial instanceId, owned_initial instanceId⟩ events meets
    exact along.mono fun _ both => noOrphans_of_owned both.2

/-- What is stored is no update: the open fails, and its listener stays. -/
theorem hydrate_leaves_listener :
    ¬ ∀ (instanceId : JsString) (events : List (RegistryEvent Unit Unit)),
      Meets (step emptyYjs) (LeavesNoTrace emptyYjs) (initial instanceId) events := by
  intro traceless
  have meets := traceless (Utf16.encode ['a']) [.join (Utf16.encode ['d']),
    .loadResolved (Utf16.encode ['d']) (some [255]), .subscribed (Utf16.encode ['d'])]
  obtain ⟨-, meets⟩ := meets _ rfl
  obtain ⟨-, meets⟩ := meets _ rfl
  obtain ⟨restores, -⟩ := meets _ rfl
  have restored := restores _ rfl (Utf16.encode ['d']) ⟨none, false, none⟩ rfl
  revert restored
  decide

end Registry

end CollabEditor.Cluster.Wire
