import CollabEditor.Instance.Objects

/-!
Owns the lifetime of a document's rooms on one instance. The windows between a
room being registered, its waiters being added and the last leave taking it out
of the map are what the invariant names: a registered room without clients has
waiters that are about to be added.
-/

namespace CollabEditor.Instance

open CollabEditor.Library CollabEditor.Yjs CollabEditor.Persistence CollabEditor.Rooms
open CollabEditor.Ws (dispatch dispatch_doc)

universe u v w

variable {Conn : Type v} {Op : Type u} {Entry : Type w}

namespace Slot

def stageOf (slot : Slot Conn Op Entry) (conn : Conn) : Option JoinStage :=
  (slot.connections conn).map Connection.stage

/-- The room a connection's client has been added to and not yet removed from. -/
def roomOf (slot : Slot Conn Op Entry) (conn : Conn) : Option ℕ :=
  (slot.stageOf conn).bind JoinStage.room?

private theorem stageOf_eq {slot : Slot Conn Op Entry} {conn : Conn} {ready : ReadyState}
    {stage : JoinStage} (found : slot.connections conn = some ⟨ready, stage⟩) :
    slot.stageOf conn = some stage := by
  rw [stageOf, found]
  rfl

theorem roomOf_eq {slot : Slot Conn Op Entry} {conn : Conn} {ready : ReadyState}
    {stage : JoinStage} (found : slot.connections conn = some ⟨ready, stage⟩) :
    slot.roomOf conn = stage.room? := by
  rw [roomOf, stageOf_eq found]
  rfl

/-- What a load in flight has done to the maps. -/
def Loads (slot : Slot Conn Op Entry) : Progress Op → Prop
  | .reading | .read _ | .failed => slot.registered = none ∧ slot.listener = none
  | .subscribing room _ => slot.registered = none ∧ slot.listener = some room ∧
      ∃ object, slot.objects[room]? = some object ∧ object.teardown = .alive ∧
        object.room.clients = []
  | .opened room => slot.registered = some room ∧
      ∃ object, slot.objects[room]? = some object ∧ object.room.clients = []

/-- The lifecycle invariant. -/
structure Coherent (slot : Slot Conn Op Entry) : Prop where
  waiting : ∀ conn, slot.stageOf conn = some .waiting →
    ∃ load, slot.opening = some load ∧ conn ∈ load.waiters
  entered : ∀ conn room, slot.roomOf conn = some room → slot.registered = some room ∧
    ∃ object, slot.objects[room]? = some object ∧ conn ∈ object.room.clients
  clients : ∀ room object conn, slot.objects[room]? = some object →
    conn ∈ object.room.clients → slot.roomOf conn = some room
  current : ∀ room, slot.registered = some room → slot.listener = some room ∧
    ∃ object, slot.objects[room]? = some object ∧ object.teardown = .alive ∧
      (object.room.clients = [] → slot.opening ≠ none)
  loading : ∀ load, slot.opening = some load → load.waiters ≠ [] ∧
    (∀ conn ∈ load.waiters, slot.stageOf conn = some .waiting) ∧ slot.Loads load.progress
  idle : slot.opening = none → slot.listener = slot.registered

theorem coherent_initial (entry : Entry) :
    (initial entry : Slot Conn Op Entry).Coherent where
  waiting := nofun
  entered := nofun
  clients := nofun
  current := nofun
  loading := nofun
  idle := fun _ => rfl

/-- A client that may send frames is in the registered room. -/
theorem Coherent.registered_of_joined {slot : Slot Conn Op Entry} (coherent : slot.Coherent)
    {conn : Conn} {ready : ReadyState} {room : ℕ}
    (joined : slot.connections conn = some ⟨ready, .joined room⟩) :
    slot.registered = some room :=
  (coherent.entered conn room (roomOf_eq joined)).1

/-! ### Views of an updated slot -/

private theorem stageOf_setConnection [DecidableEq Conn] (slot : Slot Conn Op Entry)
    (conn other : Conn)
    (connection : Connection) : (slot.setConnection conn connection).stageOf other =
      if other = conn then some connection.stage else slot.stageOf other := by
  unfold stageOf setConnection
  by_cases same : other = conn
  · simp [same]
  · simp [same]

private theorem stageOf_setStage [DecidableEq Conn] (slot : Slot Conn Op Entry) (conns : List Conn)
    (stage : JoinStage) (other : Conn) : (slot.setStage conns stage).stageOf other =
      if other ∈ conns then (slot.stageOf other).map fun _ => stage
      else slot.stageOf other := by
  unfold stageOf setStage
  by_cases member : other ∈ conns
  · simp [member, Function.comp_def]
  · simp [member]

private theorem mem_clients_enter [DecidableEq Op] [Causality Op] [DecidableEq Conn]
    (conns : List Conn) (room : Room Conn Op) (conn : Conn) :
    conn ∈ (conns.foldl (fun room conn => (room.add conn).1) room).clients ↔
      conn ∈ conns ∨ conn ∈ room.clients := by
  induction conns generalizing room with
  | nil => simp
  | cons head tail inductionHypothesis =>
      rw [List.foldl_cons, inductionHypothesis, room.mem_clients_add, List.mem_cons]
      tauto

/-- Two objects that differ in nothing the lifecycle depends on. -/
def SameOutline (before after : RoomObject Conn Op) : Prop :=
  (∀ conn, conn ∈ after.room.clients ↔ conn ∈ before.room.clients) ∧
    (after.teardown = .alive ↔ before.teardown = .alive)

private theorem SameOutline.nil_iff {before after : RoomObject Conn Op}
    (same : SameOutline before after) :
    after.room.clients = [] ↔ before.room.clients = [] := by
  simp only [List.eq_nil_iff_forall_not_mem]
  exact forall_congr' fun conn => not_congr (same.1 conn)

/-- A change the lifecycle does not depend on. -/
structure Unchanged (before after : Slot Conn Op Entry) : Prop where
  waits : ∀ conn, after.stageOf conn = some .waiting ↔ before.stageOf conn = some .waiting
  rooms : ∀ conn, after.roomOf conn = before.roomOf conn
  registered : after.registered = before.registered
  opening : after.opening = before.opening
  listener : after.listener = before.listener
  forward : ∀ (room : ℕ) object, before.objects[room]? = some object →
    ∃ object', after.objects[room]? = some object' ∧ SameOutline object object'
  backward : ∀ (room : ℕ) object', after.objects[room]? = some object' →
    ∃ object, before.objects[room]? = some object ∧ SameOutline object object'

theorem Unchanged.refl (slot : Slot Conn Op Entry) : Unchanged slot slot :=
  ⟨fun _ => Iff.rfl, fun _ => rfl, rfl, rfl, rfl,
    fun _ object found => ⟨object, found, fun _ => Iff.rfl, Iff.rfl⟩,
    fun _ object found => ⟨object, found, fun _ => Iff.rfl, Iff.rfl⟩⟩

private theorem Unchanged.loads {before after : Slot Conn Op Entry}
    (unchanged : Unchanged before after)
    {progress : Progress Op} (loads : before.Loads progress) : after.Loads progress := by
  cases progress with
  | subscribing room state =>
      obtain ⟨noRoom, listens, object, found, alive, empty⟩ := loads
      obtain ⟨object', found', same⟩ := unchanged.forward room object found
      exact ⟨unchanged.registered.trans noRoom, unchanged.listener.trans listens, object',
        found', same.2.mpr alive, same.nil_iff.mpr empty⟩
  | opened room =>
      obtain ⟨registered, object, found, empty⟩ := loads
      obtain ⟨object', found', same⟩ := unchanged.forward room object found
      exact ⟨unchanged.registered.trans registered, object', found', same.nil_iff.mpr empty⟩
  | reading => exact ⟨unchanged.registered.trans loads.1, unchanged.listener.trans loads.2⟩
  | read loaded => exact ⟨unchanged.registered.trans loads.1, unchanged.listener.trans loads.2⟩
  | failed => exact ⟨unchanged.registered.trans loads.1, unchanged.listener.trans loads.2⟩

theorem Coherent.unchanged {before after : Slot Conn Op Entry} (coherent : before.Coherent)
    (unchanged : Unchanged before after) : after.Coherent where
  waiting := fun conn waits => by
    rw [unchanged.opening]
    exact coherent.waiting conn ((unchanged.waits conn).mp waits)
  entered := fun conn room inRoom => by
    rw [unchanged.rooms] at inRoom
    obtain ⟨registered, object, found, member⟩ := coherent.entered conn room inRoom
    obtain ⟨object', found', same⟩ := unchanged.forward room object found
    exact ⟨unchanged.registered.trans registered, object', found', (same.1 conn).mpr member⟩
  clients := fun room object' conn found' member => by
    obtain ⟨object, found, same⟩ := unchanged.backward room object' found'
    rw [unchanged.rooms]
    exact coherent.clients room object conn found ((same.1 conn).mp member)
  current := fun room registered => by
    rw [unchanged.registered] at registered
    obtain ⟨listens, object, found, alive, empty⟩ := coherent.current room registered
    obtain ⟨object', found', same⟩ := unchanged.forward room object found
    refine ⟨unchanged.listener.trans listens, object', found', same.2.mpr alive, fun none => ?_⟩
    rw [unchanged.opening]
    exact empty (same.nil_iff.mp none)
  loading := fun load opening => by
    rw [unchanged.opening] at opening
    obtain ⟨nonempty, waiting, loads⟩ := coherent.loading load opening
    exact ⟨nonempty, fun conn member => (unchanged.waits conn).mpr (waiting conn member),
      unchanged.loads loads⟩
  idle := fun none => by
    rw [unchanged.opening] at none
    rw [unchanged.listener, unchanged.registered]
    exact coherent.idle none

private theorem unchanged_modifyObject (slot : Slot Conn Op Entry) (room : ℕ)
    {f : RoomObject Conn Op → RoomObject Conn Op}
    (same : ∀ object, slot.objects[room]? = some object → SameOutline object (f object)) :
    Unchanged slot (slot.modifyObject room f) := by
  have refl : ∀ object : RoomObject Conn Op, SameOutline object object :=
    fun object => ⟨fun _ => Iff.rfl, Iff.rfl⟩
  refine ⟨fun _ => Iff.rfl, fun _ => rfl, rfl, rfl, rfl, ?_, ?_⟩
  · intro other object found
    rw [objects_modifyObject]
    split
    · next equal =>
        subst equal
        exact ⟨f object, by simp [found], same object found⟩
    · exact ⟨object, found, refl object⟩
  · intro other object' found'
    rw [objects_modifyObject] at found'
    split at found'
    · next equal =>
        subst equal
        obtain ⟨object, found, rfl⟩ := Option.map_eq_some_iff.mp found'
        exact ⟨object, found, same object found⟩
    · exact ⟨object', found', refl object'⟩

/-- The slot of an unchanged one with another entry in the store. -/
theorem Unchanged.withEntry {before after : Slot Conn Op Entry}
    (unchanged : Unchanged before after) (entry : Entry) :
    Unchanged before { after with entry := entry } :=
  ⟨unchanged.waits, unchanged.rooms, unchanged.registered, unchanged.opening,
    unchanged.listener, unchanged.forward, unchanged.backward⟩

/-! ### Entering, waiting and leaving -/

/-- While a client is in a room no load is in flight. -/
theorem Coherent.opening_eq_none {slot : Slot Conn Op Entry} (coherent : slot.Coherent)
    {conn : Conn} {room : ℕ} (inRoom : slot.roomOf conn = some room) : slot.opening = none := by
  obtain ⟨registered, object, found, member⟩ := coherent.entered conn room inRoom
  cases opening : slot.opening with
  | none => rfl
  | some load =>
      obtain ⟨-, -, loads⟩ := coherent.loading load opening
      have unregistered : ∀ {other : Option ℕ}, slot.registered = none ∧ slot.listener = other →
          False := by
        intro other both
        exact absurd (registered.symm.trans both.1) nofun
      cases progress : load.progress with
      | reading => exact (unregistered (progress ▸ loads)).elim
      | read loaded => exact (unregistered (progress ▸ loads)).elim
      | failed => exact (unregistered (progress ▸ loads)).elim
      | subscribing other state =>
          rw [progress] at loads
          exact (unregistered ⟨loads.1, loads.2.1⟩).elim
      | opened other =>
          rw [progress] at loads
          obtain ⟨registered', object', found', empty⟩ := loads
          obtain rfl := Option.some.inj (registered.symm.trans registered')
          obtain rfl := Option.some.inj (found.symm.trans found')
          rw [empty] at member
          cases member

/-- Everybody who waits for the room, and nobody else, is added to it. -/
theorem Coherent.enter [DecidableEq Op] [Causality Op] [DecidableEq Conn]
    {slot : Slot Conn Op Entry} (coherent : slot.Coherent) {room : ℕ}
    {conns : List Conn} (registered : slot.registered = some room)
    (outside : ∀ conn ∈ conns, slot.stageOf conn ≠ none ∧ slot.roomOf conn = none)
    (waiters : ∀ conn, slot.stageOf conn = some .waiting → conn ∈ conns)
    (nonempty : conns ≠ []) : Coherent { slot.enter room conns with opening := none } := by
  have stage : ∀ conn, ({ slot.enter room conns with opening := none } :
      Slot Conn Op Entry).stageOf conn =
        if conn ∈ conns then some (.added room) else slot.stageOf conn := by
    intro conn
    refine (stageOf_setStage slot conns (.added room) conn).trans ?_
    by_cases member : conn ∈ conns
    · obtain ⟨stage, found⟩ := Option.ne_none_iff_exists'.mp (outside conn member).1
      simp [member, found]
    · simp [member]
  have inRoom : ∀ conn, ({ slot.enter room conns with opening := none } :
      Slot Conn Op Entry).roomOf conn =
        if conn ∈ conns then some room else slot.roomOf conn := by
    intro conn
    unfold roomOf
    rw [stage]
    split <;> rfl
  have objects : ∀ other, ({ slot.enter room conns with opening := none } :
      Slot Conn Op Entry).objects[other]? = _ := fun other =>
    objects_modifyObject (slot.setStage conns (.added room)) room other _
  obtain ⟨listens, object, found, alive, -⟩ := coherent.current room registered
  have entered : ({ slot.enter room conns with opening := none } :
      Slot Conn Op Entry).objects[room]? = some { object with
        room := conns.foldl (fun room conn => (room.add conn).1) object.room } := by
    rw [objects, if_pos rfl, setStage, found, Option.map_some]
  refine ⟨?_, ?_, ?_, ?_, nofun, fun _ => listens.trans registered.symm⟩
  · intro conn waits
    rw [stage] at waits
    split at waits
    · cases waits
    · next away => exact absurd (waiters conn waits) away
  · intro conn other isIn
    rw [inRoom] at isIn
    have isCurrent : room = other := by
      split at isIn
      · exact Option.some.inj isIn
      · exact Option.some.inj (registered.symm.trans (coherent.entered conn other isIn).1)
    subst isCurrent
    refine ⟨registered, _, entered, ?_⟩
    rw [mem_clients_enter]
    split at isIn
    · next member => exact Or.inl member
    · right
      obtain ⟨-, object', found', member⟩ := coherent.entered conn room isIn
      obtain rfl := Option.some.inj (found.symm.trans found')
      exact member
  · intro other object' conn found' member
    rw [inRoom]
    rw [objects, setStage] at found'
    split at found'
    · next same =>
        subst same
        rw [found] at found'
        cases found'
        rw [mem_clients_enter] at member
        split
        · rfl
        · next away => exact coherent.clients room object conn found (member.resolve_left away)
    · next different =>
        have elsewhere := coherent.clients other object' conn found' member
        have isCurrent := (coherent.entered conn other elsewhere).1
        exact absurd (Option.some.inj (registered.symm.trans isCurrent)) different
  · intro other registered'
    obtain rfl : room = other := Option.some.inj (registered.symm.trans registered')
    refine ⟨listens, _, entered, alive, ?_⟩
    intro empty
    obtain ⟨conn, member⟩ := List.exists_mem_of_ne_nil conns nonempty
    have added := (mem_clients_enter conns object.room conn).mpr (Or.inl member)
    rw [empty] at added
    cases added

/-- A connection starts to wait for a load. -/
theorem Coherent.wait [DecidableEq Conn] {slot : Slot Conn Op Entry} (coherent : slot.Coherent)
    {conn : Conn} {load : Load Conn Op} (unregistered : slot.registered = none)
    (outside : slot.stageOf conn ≠ none ∧ slot.roomOf conn = none)
    (nonempty : load.waiters ≠ [])
    (waiters : ∀ other, other ∈ load.waiters ↔ other = conn ∨ slot.stageOf other = some .waiting)
    (loads : slot.Loads load.progress) :
    Coherent { slot.setStage [conn] .waiting with opening := some load } := by
  have stage : ∀ other, ({ slot.setStage [conn] .waiting with opening := some load } :
      Slot Conn Op Entry).stageOf other =
        if other = conn then some .waiting else slot.stageOf other := by
    intro other
    refine (stageOf_setStage slot [conn] .waiting other).trans ?_
    by_cases same : other = conn
    · obtain ⟨stage, found⟩ := Option.ne_none_iff_exists'.mp outside.1
      simp [same, found]
    · simp [same]
  have rooms : ∀ other, ({ slot.setStage [conn] .waiting with opening := some load } :
      Slot Conn Op Entry).roomOf other = slot.roomOf other := by
    intro other
    unfold roomOf
    rw [stage]
    split
    · next same =>
        subst same
        exact outside.2.symm
    · rfl
  refine ⟨?_, ?_, ?_, ?_, ?_, nofun⟩
  · intro other waits
    rw [stage] at waits
    refine ⟨load, rfl, (waiters other).mpr ?_⟩
    split at waits
    · next same => exact Or.inl same
    · exact Or.inr waits
  · intro other room inRoom
    rw [rooms] at inRoom
    exact coherent.entered other room inRoom
  · intro room object other found member
    rw [rooms]
    exact coherent.clients room object other found member
  · intro room registered
    exact absurd (unregistered.symm.trans registered) nofun
  · intro load' same
    cases same
    refine ⟨nonempty, fun other member => ?_, ?_⟩
    · rw [stage]
      split
      · rfl
      · next different => exact ((waiters other).mp member).resolve_left different
    · cases progress : load.progress <;> exact progress ▸ loads

/-- Whom an object still holds once `conn` has left its room. -/
theorem Coherent.clients_remove {slot : Slot Conn Op Entry} (coherent : slot.Coherent)
    {remove : RoomObject Conn Op → RoomObject Conn Op} {conn client : Conn} {room other : ℕ}
    {object : RoomObject Conn Op} (inRoom : slot.roomOf conn = some room)
    (found : (slot.modifyObject room remove).objects[other]? = some object)
    (removes : ∀ object, ∀ client ∈ (remove object).room.clients,
      client ∈ object.room.clients ∧ client ≠ conn)
    (member : client ∈ object.room.clients) :
    client ≠ conn ∧ slot.roomOf client = some other := by
  rw [objects_modifyObject] at found
  split at found
  · next same =>
      subst same
      obtain ⟨before, foundBefore, rfl⟩ := Option.map_eq_some_iff.mp found
      obtain ⟨wasInside, notConn⟩ := removes before client member
      exact ⟨notConn, coherent.clients room before client foundBefore wasInside⟩
  · next different =>
      have entered := coherent.clients other object client found member
      refine ⟨?_, entered⟩
      rintro rfl
      exact different (Option.some.inj (inRoom.symm.trans entered))

/-- A connection leaves its room, and the last one takes the registration along. -/
theorem Coherent.leave [DecidableEq Op] [DecidableEq Conn] {slot : Slot Conn Op Entry}
    (coherent : slot.Coherent)
    (setup : Setup Op Entry) {conn : Conn} {room : ℕ} (inRoom : slot.roomOf conn = some room)
    {connections : Conn → Option Connection}
    (stage : ∀ other, (connections other).map Connection.stage =
      if other = conn then some .left else slot.stageOf other) :
    ({ slot with connections := connections }.leave setup room conn).Coherent := by
  obtain ⟨registered, object, found, -⟩ := coherent.entered conn room inRoom
  have notLoading := coherent.opening_eq_none inRoom
  obtain ⟨listens, object', found', alive, -⟩ := coherent.current room registered
  obtain rfl := Option.some.inj (found.symm.trans found')
  have rooms : ∀ other, ((connections other).map Connection.stage).bind JoinStage.room? =
      if other = conn then none else slot.roomOf other := by
    intro other
    rw [stage]
    split <;> rfl
  have nobodyWaits : ∀ other, (connections other).map Connection.stage ≠ some .waiting := by
    intro other waits
    rw [stage] at waits
    split at waits
    · cases waits
    · obtain ⟨load, opening, -⟩ := coherent.waiting other waits
      exact absurd (notLoading.symm.trans opening) nofun
  -- whoever is still in a room was in it before, so it is the registered one
  have stayed : ∀ other current,
      ((connections other).map Connection.stage).bind JoinStage.room? = some current →
        current = room ∧ other ∈ object.room.clients ∧ other ≠ conn := by
    intro other current entered
    rw [rooms] at entered
    split at entered
    · cases entered
    · next notConn =>
        obtain ⟨isCurrent, object', found', inside⟩ := coherent.entered other current entered
        obtain rfl := Option.some.inj (registered.symm.trans isCurrent)
        obtain rfl := Option.some.inj (found.symm.trans found')
        exact ⟨rfl, inside, notConn⟩
  have removes : ∀ (object : RoomObject Conn Op),
      ∀ client ∈ (object.perform setup (object.room.remove conn)).room.clients,
        client ∈ object.room.clients ∧ client ≠ conn :=
    fun object client => (object.room.mem_clients_remove conn client).mp
  have belongs : ∀ other client, client ≠ conn ∧ slot.roomOf client = some other →
      ((connections client).map Connection.stage).bind JoinStage.room? = some other := by
    intro other client remains
    rw [rooms, if_neg remains.1, remains.2]
  rcases leave_cases setup { slot with connections := connections } conn found with
    ⟨⟨stays, member, different⟩, left⟩ | ⟨last, left⟩
  · rw [left]
    have remains := (objects_modifyObject { slot with connections := connections } room room
      fun object => object.perform setup (object.room.remove conn)).trans
        (by rw [if_pos rfl, found, Option.map_some])
    refine ⟨fun other waits => absurd waits (nobodyWaits other), ?_, ?_, ?_, ?_, ?_⟩
    · intro other current entered
      obtain ⟨rfl, inside⟩ := stayed other current entered
      exact ⟨registered, _, remains, (object.room.mem_clients_remove conn other).mpr inside⟩
    · exact fun other object' client found' member =>
        belongs other client (coherent.clients_remove inRoom found' removes member)
    · intro current isCurrent
      obtain rfl := Option.some.inj (registered.symm.trans isCurrent)
      refine ⟨listens, _, remains, alive, ?_⟩
      intro empty
      have still := (object.room.mem_clients_remove conn stays).mpr ⟨member, different⟩
      rw [show (object.room.remove conn).1.clients = [] from empty] at still
      cases still
    · intro load opening
      exact absurd (notLoading.symm.trans opening) nofun
    · exact fun _ => listens.trans registered.symm
  · rw [left]
    refine ⟨fun other waits => absurd waits (nobodyWaits other), ?_, ?_, nofun, ?_,
      fun _ => rfl⟩
    · intro other current entered
      obtain ⟨-, inside, notConn⟩ := stayed other current entered
      exact absurd (last other inside) notConn
    · exact fun other object' client found' member =>
        belongs other client (coherent.clients_remove inRoom found' removes member)
    · intro load opening
      exact absurd (notLoading.symm.trans opening) nofun

/-! ### The load -/

theorem Coherent.nobody {slot : Slot Conn Op Entry} (coherent : slot.Coherent)
    (unregistered : slot.registered = none) :
    (∀ conn, slot.roomOf conn = none) ∧
      ∀ (room : ℕ) object, slot.objects[room]? = some object → object.room.clients = [] := by
  have outside : ∀ conn, slot.roomOf conn = none := by
    intro conn
    cases inRoom : slot.roomOf conn with
    | none => rfl
    | some room =>
        exact absurd (unregistered.symm.trans (coherent.entered conn room inRoom).1) nofun
  refine ⟨outside, fun room object found => ?_⟩
  rw [List.eq_nil_iff_forall_not_mem]
  intro conn member
  exact absurd ((outside conn).symm.trans (coherent.clients room object conn found member)) nofun

theorem unchanged_hydrate [DecidableEq Op] [Causality Op] [DecidableEq Conn]
    (slot : Slot Conn Op Entry) (setup : Setup Op Entry) (room : ℕ)
    (state : Option (Update Op)) : Unchanged slot (slot.hydrate setup room state) ∧
      (slot.hydrate setup room state).connections = slot.connections := by
  cases state with
  | some content =>
      refine ⟨unchanged_modifyObject slot room fun _ _ => ?_, rfl⟩
      exact ⟨fun _ => Iff.rfl, Iff.rfl⟩
  | none => exact ⟨Unchanged.refl slot, rfl⟩

/-- A load that goes on while nobody is in a room. -/
theorem Coherent.advance {before after : Slot Conn Op Entry} (coherent : before.Coherent)
    {load : Load Conn Op} {progress : Progress Op} (opening : before.opening = some load)
    (unregistered : before.registered = none)
    (connections : after.connections = before.connections)
    (opening' : after.opening = some ⟨progress, load.waiters⟩) (loads : after.Loads progress)
    (empty : ∀ (room : ℕ) object, after.objects[room]? = some object →
      object.room.clients = [])
    (current : ∀ room, after.registered = some room → after.listener = some room ∧
      ∃ object, after.objects[room]? = some object ∧ object.teardown = .alive) :
    after.Coherent := by
  obtain ⟨nonempty, waiting, -⟩ := coherent.loading load opening
  have outside := (coherent.nobody unregistered).1
  have stage : ∀ conn, after.stageOf conn = before.stageOf conn := by
    intro conn
    simp only [stageOf, connections]
  have rooms : ∀ conn, after.roomOf conn = none := by
    intro conn
    rw [roomOf, stage]
    exact outside conn
  refine ⟨?_, ?_, ?_, ?_, ?_, ?_⟩
  · intro conn waits
    rw [stage] at waits
    obtain ⟨load', same, member⟩ := coherent.waiting conn waits
    obtain rfl := Option.some.inj (opening.symm.trans same)
    exact ⟨_, opening', member⟩
  · intro conn room inRoom
    exact absurd ((rooms conn).symm.trans inRoom) nofun
  · intro room object conn found member
    rw [empty room object found] at member
    cases member
  · intro room registered
    obtain ⟨listens, object, found, alive⟩ := current room registered
    exact ⟨listens, object, found, alive, fun _ none => absurd (opening'.symm.trans none) nofun⟩
  · intro load' same
    obtain rfl := Option.some.inj (opening'.symm.trans same)
    exact ⟨nonempty, fun conn member => (stage conn).trans (waiting conn member), loads⟩
  · intro none
    exact absurd (opening'.symm.trans none) nofun

/-- A load goes on without touching the maps. -/
theorem Coherent.progresses {slot : Slot Conn Op Entry} (coherent : slot.Coherent)
    {load : Load Conn Op} {progress : Progress Op} (opening : slot.opening = some load)
    (unregistered : slot.registered = none ∧ slot.listener = none)
    (loads : ∀ other : Slot Conn Op Entry, other.registered = none ∧ other.listener = none →
      other.Loads progress) :
    Coherent { slot with opening := some ⟨progress, load.waiters⟩ } := by
  refine coherent.advance opening unregistered.1 rfl rfl (loads _ unregistered)
    (coherent.nobody unregistered.1).2 fun room registered => ?_
  exact absurd (unregistered.1.symm.trans registered) nofun

/-- A load makes its room and subscribes. -/
theorem Coherent.makes {slot : Slot Conn Op Entry} (coherent : slot.Coherent) (clientId : ℕ)
    {loaded : LoadedDocument Op} {waiters : List Conn}
    (opening : slot.opening = some ⟨.read loaded, waiters⟩) :
    Coherent { slot with
      objects := slot.objects ++ [RoomObject.new clientId loaded.pendingUpdates]
      listener := some slot.objects.length
      opening := some ⟨.subscribing slot.objects.length loaded.state, waiters⟩ } := by
  have unregistered := (coherent.loading _ opening).2.2
  have added : ∀ (room : ℕ) object, (slot.objects ++
      [RoomObject.new clientId loaded.pendingUpdates])[room]? = some object →
      object.room.clients = [] := by
    intro room object found
    rcases List.mem_append.mp (List.mem_of_getElem? found) with old | new
    · obtain ⟨index, foundOld⟩ := List.mem_iff_getElem?.mp old
      exact (coherent.nobody unregistered.1).2 index object foundOld
    · rw [List.mem_singleton.mp new]
      rfl
  refine coherent.advance opening unregistered.1 rfl rfl
    ⟨unregistered.1, rfl, _, List.getElem?_concat_length .., rfl, rfl⟩ added ?_
  intro room registered
  exact absurd (unregistered.1.symm.trans registered) nofun

/-- A load registers its room. -/
theorem Coherent.registers [DecidableEq Op] [Causality Op] [DecidableEq Conn]
    {slot : Slot Conn Op Entry} (coherent : slot.Coherent)
    (setup : Setup Op Entry) {room : ℕ} {state : Option (Update Op)} {waiters : List Conn}
    (opening : slot.opening = some ⟨.subscribing room state, waiters⟩) :
    Coherent { slot.hydrate setup room state with
      registered := some room
      opening := some ⟨.opened room, waiters⟩ } := by
  obtain ⟨unregistered, listens, object, found, alive, empty⟩ :=
    (coherent.loading _ opening).2.2
  obtain ⟨unchanged, connections⟩ := slot.unchanged_hydrate setup room state
  obtain ⟨object', found', same⟩ := unchanged.forward room object found
  refine coherent.advance opening unregistered connections rfl
    ⟨rfl, object', found', same.nil_iff.mpr empty⟩ ?_ ?_
  · exact ((coherent.unchanged unchanged).nobody
      (unchanged.registered.trans unregistered)).2
  · intro other isCurrent
    cases isCurrent
    exact ⟨unchanged.listener.trans listens, object', found', same.2.mpr alive⟩

/-- The waiters of a load that failed are turned away. -/
theorem Coherent.fails [DecidableEq Conn] {slot : Slot Conn Op Entry} (coherent : slot.Coherent)
    {waiters : List Conn} (opening : slot.opening = some ⟨.failed, waiters⟩) :
    Coherent { slot with
      opening := none
      connections := fun conn =>
        if conn ∈ waiters then (slot.connections conn).map fun connection =>
          ⟨if connection.readyState = .closed then .closed else .closing, .left⟩
        else slot.connections conn } := by
  obtain ⟨-, waiting, unregistered, silent⟩ := coherent.loading _ opening
  obtain ⟨outside, nobody⟩ := coherent.nobody unregistered
  refine ⟨?_, ?_, ?_, ?_, nofun, fun _ => silent.trans unregistered.symm⟩
  · intro conn waits
    unfold stageOf at waits
    dsimp only at waits
    split at waits
    · simp [Option.map_map, Function.comp_def] at waits
    · next notWaiter =>
        obtain ⟨load, same, member⟩ := coherent.waiting conn waits
        obtain rfl := Option.some.inj (opening.symm.trans same)
        exact absurd member notWaiter
  · intro conn room inRoom
    unfold roomOf stageOf at inRoom
    dsimp only at inRoom
    split at inRoom
    · cases found : slot.connections conn <;> simp [found, JoinStage.room?] at inRoom
    · exact absurd ((outside conn).symm.trans inRoom) nofun
  · intro room object conn found member
    rw [nobody room object found] at member
    cases member
  · intro room registered
    exact absurd (unregistered.symm.trans registered) nofun

/-! ### One event -/

/-- A client joins the registered room. -/
theorem Coherent.joins [DecidableEq Op] [Causality Op] [DecidableEq Conn]
    {slot : Slot Conn Op Entry} (coherent : slot.Coherent) {conn : Conn}
    (outside : slot.stageOf conn ≠ none ∧ slot.roomOf conn = none) {room : ℕ}
    (registered : slot.registered = some room)
    (told : ∀ other waiters, slot.opening ≠ some ⟨.opened other, waiters⟩) :
    (slot.enter room [conn]).Coherent := by
  have notLoading : slot.opening = none := by
    cases opening : slot.opening with
    | none => rfl
    | some load =>
        obtain ⟨-, -, loads⟩ := coherent.loading load opening
        obtain ⟨progress, waiters⟩ := load
        cases progress with
        | opened other => exact (told other waiters opening).elim
        | reading | read loaded | failed | subscribing other state =>
            exact absurd (registered.symm.trans loads.1) nofun
  have nobodyWaits : ∀ other, slot.stageOf other = some .waiting → other ∈ [conn] := by
    intro other waits
    obtain ⟨load, opening, -⟩ := coherent.waiting other waits
    exact absurd (notLoading.symm.trans opening) nofun
  have entered := coherent.enter registered (by simpa using outside) nobodyWaits
    (List.cons_ne_nil _ _)
  have kept : (slot.enter room [conn]).opening = none := notLoading
  rw [← kept] at entered
  exact entered

/-- Connections change without anyone entering, waiting or leaving. -/
theorem unchanged_connections (slot : Slot Conn Op Entry)
    {connections : Conn → Option Connection}
    (waits : ∀ conn, (connections conn).map Connection.stage = some .waiting ↔
      slot.stageOf conn = some .waiting)
    (rooms : ∀ conn, ((connections conn).map Connection.stage).bind JoinStage.room? =
      slot.roomOf conn) : Unchanged slot { slot with connections := connections } :=
  ⟨waits, rooms, rfl, rfl, rfl, (Unchanged.refl slot).forward, (Unchanged.refl slot).backward⟩

/-- One connection goes to a stage that waits and is in a room as before. -/
theorem unchanged_setConnection [DecidableEq Conn] (slot : Slot Conn Op Entry) {conn : Conn}
    {connection : Connection}
    (waits : connection.stage = .waiting ↔ slot.stageOf conn = some .waiting)
    (room : connection.stage.room? = slot.roomOf conn) :
    Unchanged slot (slot.setConnection conn connection) := by
  have stage := slot.stageOf_setConnection conn
  refine unchanged_connections slot (fun other => ?_) (fun other => ?_)
  · refine Iff.trans (Eq.congr_left (stage other connection)) ?_
    split
    · next same =>
        subst same
        simpa using waits
    · rfl
  · refine (congrArg (·.bind JoinStage.room?) (stage other connection)).trans ?_
    split
    · next same =>
        subst same
        simpa using room
    · rfl

/-- A connection that has not authenticated is in no room. -/
theorem outside_of_unauthenticated {slot : Slot Conn Op Entry} {conn : Conn} {ready : ReadyState}
    (found : slot.connections conn = some ⟨ready, .unauthenticated⟩) :
    slot.stageOf conn ≠ none ∧ slot.roomOf conn = none := by
  rw [stageOf_eq found, roomOf_eq found]
  exact ⟨Option.some_ne_none _, rfl⟩

/-- Who waits for the load in flight is one of its waiters. -/
theorem Coherent.mem_waiters {slot : Slot Conn Op Entry} (coherent : slot.Coherent)
    {load : Load Conn Op} (opening : slot.opening = some load) (conn : Conn) :
    conn ∈ load.waiters ↔ slot.stageOf conn = some .waiting := by
  constructor
  · exact (coherent.loading load opening).2.1 conn
  · intro waits
    obtain ⟨load', same, member⟩ := coherent.waiting conn waits
    obtain rfl := Option.some.inj (opening.symm.trans same)
    exact member

/-- A connection waits for the load in flight. -/
theorem Coherent.awaits [DecidableEq Conn] {slot : Slot Conn Op Entry} (coherent : slot.Coherent)
    {conn : Conn}
    (outside : slot.stageOf conn ≠ none ∧ slot.roomOf conn = none) {load : Load Conn Op}
    (opening : slot.opening = some load) (unregistered : slot.registered = none) :
    Coherent { slot.setStage [conn] .waiting with
      opening := some { load with waiters := load.waiters ++ [conn] } } := by
  have loads := (coherent.loading load opening).2.2
  refine coherent.wait unregistered outside (by simp) (fun other => ?_) loads
  rw [List.mem_append, List.mem_singleton, or_comm, coherent.mem_waiters opening]

/-- A connection starts a load. -/
theorem Coherent.starts [DecidableEq Conn] {slot : Slot Conn Op Entry} (coherent : slot.Coherent)
    {conn : Conn} (outside : slot.stageOf conn ≠ none ∧ slot.roomOf conn = none)
    (idle : slot.opening = none) (unregistered : slot.registered = none) :
    Coherent { slot.setStage [conn] .waiting with opening := some ⟨.reading, [conn]⟩ } := by
  refine coherent.wait unregistered outside (List.cons_ne_nil _ _)
    (fun other => ?_) ⟨unregistered, (coherent.idle idle).trans unregistered⟩
  rw [List.mem_singleton]
  refine ⟨Or.inl, fun either => either.resolve_right fun waits => ?_⟩
  obtain ⟨load, same, -⟩ := coherent.waiting other waits
  exact absurd (idle.symm.trans same) nofun

/-- A load that is over lets its waiters in. -/
theorem Coherent.resumes [DecidableEq Op] [Causality Op] [DecidableEq Conn]
    {slot : Slot Conn Op Entry} (coherent : slot.Coherent) {room : ℕ}
    {waiters : List Conn} (opening : slot.opening = some ⟨.opened room, waiters⟩) :
    Coherent { slot.enter room waiters with opening := none } := by
  obtain ⟨nonempty, waiting, registered, -⟩ := coherent.loading _ opening
  refine coherent.enter registered (fun conn member => ?_)
    (fun conn => (coherent.mem_waiters opening conn).mpr) nonempty
  simp [waiting conn member, roomOf, JoinStage.room?]

/-- The socket of a connection changes, but not what it waits for or is in. -/
theorem Coherent.sameStage [DecidableEq Conn] {slot : Slot Conn Op Entry} (coherent : slot.Coherent)
    {conn : Conn}
    {ready : ReadyState} {stage : JoinStage} (found : slot.connections conn = some ⟨ready, stage⟩)
    (later : ReadyState) : (slot.setConnection conn ⟨later, stage⟩).Coherent := by
  refine coherent.unchanged (slot.unchanged_setConnection ?_ ?_)
  · simp [stageOf_eq found]
  · exact (roomOf_eq found).symm

/-- `Connection.room` is set. -/
theorem Coherent.proceeds [DecidableEq Conn] {slot : Slot Conn Op Entry} (coherent : slot.Coherent)
    {conn : Conn}
    {ready : ReadyState} {room : ℕ} (found : slot.connections conn = some ⟨ready, .added room⟩) :
    (slot.setStage [conn] (.joined room)).Coherent := by
  have stage := slot.stageOf_setStage [conn] (.joined room)
  have here := stageOf_eq found
  refine coherent.unchanged (slot.unchanged_connections (fun other => ?_) fun other => ?_)
  · refine Iff.trans (Eq.congr_left (stage other)) ?_
    by_cases same : other = conn <;> simp [same, here]
  · refine (congrArg (·.bind JoinStage.room?) (stage other)).trans ?_
    by_cases same : other = conn <;> simp [same, here, roomOf, JoinStage.room?]

/-- A room's call that keeps who is in it and how far its teardown is. -/
theorem Coherent.modifies {slot : Slot Conn Op Entry} (coherent : slot.Coherent) (room : ℕ)
    {f : RoomObject Conn Op → RoomObject Conn Op}
    (same : ∀ object, slot.objects[room]? = some object → SameOutline object (f object)) :
    (slot.modifyObject room f).Coherent :=
  coherent.unchanged (slot.unchanged_modifyObject room same)

theorem Coherent.step [DecidableEq Op] [Causality Op] [DecidableEq Conn]
    {slot slot' : Slot Conn Op Entry} (coherent : slot.Coherent)
    {setup : Setup Op Entry} {event : SlotEvent Conn Op}
    (stepped : slot.step setup event = some slot') : slot'.Coherent := by
  cases fires_of_step stepped with
  | connects conn absent =>
      refine coherent.unchanged (slot.unchanged_setConnection ?_ ?_)
      · simp [stageOf, absent]
      · simp [roomOf, stageOf, absent, JoinStage.room?]
  | enters conn ready found isOpen room registered told notFailed =>
      exact coherent.joins (outside_of_unauthenticated found) registered told
  | awaits conn ready found isOpen load opening unregistered =>
      exact coherent.awaits (outside_of_unauthenticated found) opening unregistered
  | starts conn ready found isOpen idle unregistered =>
      exact coherent.starts (outside_of_unauthenticated found) idle unregistered
  | closing conn stage found => exact coherent.sameStage found .closing
  | departs conn ready room found isOpen =>
      exact coherent.leave setup (roomOf_eq found) fun other =>
        slot.stageOf_setConnection conn other _
  | closes conn ready stage found isOpen outside => exact coherent.sameStage found .closed
  | reads waiters opening =>
      exact coherent.progresses opening (coherent.loading _ opening).2.2 fun _ both => both
  | rejects progress waiters opening early =>
      have unregistered : slot.registered = none ∧ slot.listener = none := by
        have loads := (coherent.loading _ opening).2.2
        rcases early with rfl | ⟨loaded, rfl⟩
        · exact loads
        · exact loads
      exact coherent.progresses opening unregistered fun _ both => both
  | makes clientId loaded waiters opening => exact coherent.makes clientId opening
  | registers room state waiters opening => exact coherent.registers setup opening
  | resumes room waiters opening => exact coherent.resumes opening
  | fails waiters opening => exact coherent.fails opening
  | proceeds conn room found => exact coherent.proceeds found
  | withdraws conn ready room found gone =>
      refine coherent.leave setup (roomOf_eq found) fun other => ?_
      refine (slot.stageOf_setStage [conn] .left other).trans ?_
      by_cases same : other = conn <;> simp [same, stageOf_eq found]
  | frames conn message ready room found =>
      refine coherent.modifies room fun object _ => ⟨fun other => ?_, Iff.rfl⟩
      rw [RoomObject.perform, (dispatch_doc object.room conn message).2]
  | receives message room listens =>
      exact coherent.modifies room fun object _ =>
        ⟨fun other => (object.room.informs_receive message other).member, Iff.rfl⟩
  | expires room ids =>
      exact coherent.modifies room fun object _ =>
        ⟨fun other => (object.room.informs_changeAwareness _ _ other).member, Iff.rfl⟩
  | destroys room object found leaving =>
      refine coherent.modifies room fun object' found' => ⟨fun _ => Iff.rfl, ?_⟩
      obtain rfl := Option.some.inj (found.symm.trans found')
      simp [RoomObject.destroy, leaving]
  | ends room object found ticket flushing resolved =>
      refine coherent.modifies room fun object' found' => ⟨fun _ => Iff.rfl, ?_⟩
      obtain rfl := Option.some.inj (found.symm.trans found')
      simp [flushing]
  | writes room object found writing writer entry wrote =>
      refine coherent.unchanged ((slot.unchanged_modifyObject room ?_).withEntry entry)
      exact fun object _ => ⟨fun _ => Iff.rfl, Iff.rfl⟩

/-! ### Rooms that were closed -/

/-- A room that a `leave` has taken out of the map. -/
def Retired (slot : Slot Conn Op Entry) (room : ℕ) : Prop :=
  ∃ object, slot.objects[room]? = some object ∧ object.teardown ≠ .alive

theorem Retired.step [DecidableEq Op] [Causality Op] [DecidableEq Conn]
    {slot slot' : Slot Conn Op Entry} {room : ℕ} (retired : slot.Retired room)
    {setup : Setup Op Entry} {event : SlotEvent Conn Op}
    (stepped : slot.step setup event = some slot') : slot'.Retired room := by
  obtain ⟨object, found, gone⟩ := retired
  obtain ⟨object', found', moves⟩ := moves_of_step stepped found
  exact ⟨object', found', fun alive => gone (moves.alive alive)⟩

end Slot

end CollabEditor.Instance
