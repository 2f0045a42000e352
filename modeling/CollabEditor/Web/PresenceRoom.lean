import CollabEditor.Web.PresenceInvariant

/-!
Owns what the room's calls do to the invariant of presence: a client joins, a
frame is handled, and a client leaves.
-/

namespace CollabEditor.Web

open CollabEditor.Library CollabEditor.Yjs CollabEditor.Rooms

universe u

variable {Op : Type u}

namespace PresenceNet

variable {net after : PresenceNet Op}

/-! ### One call of the room -/

/-- A call that sets no state changes no owner. -/
theorem owner_unclaimed (presence : Presence ℕ Op) {event : RoomEvent ℕ Op}
    (unclaimed : presence.claimed event = []) :
    (fun id => if id ∈ presence.claimed event then Presence.source event
      else presence.owner id) = presence.owner := by
  funext id
  rw [unclaimed]
  exact if_neg List.not_mem_nil

private theorem serve_add [DecidableEq Op] [Causality Op] {socket : ℕ}
    (served : net.serve (.add socket) = some after) : socket ∉ net.server.joined ∧ after = net.tell
      ⟨(net.server.room.add socket).1, net.server.owner, socket :: net.server.joined⟩
      (net.server.room.add socket).2 := by
  obtain ⟨server, stepped, rfl⟩ := Option.map_eq_some_iff.mp served
  obtain ⟨enabled, isServer⟩ := Option.ite_none_right_eq_some.mp stepped
  rw [owner_unclaimed net.server rfl] at isServer
  rw [← Option.some.inj isServer]
  exact ⟨enabled, rfl⟩

private theorem serve_remove [DecidableEq Op] [Causality Op] {socket : ℕ}
    (served : net.serve (.remove socket) = some after) :
    socket ∈ net.server.room.clients ∧ after = net.tell
      ⟨(net.server.room.remove socket).1, net.server.owner, net.server.joined⟩
      (net.server.room.remove socket).2 := by
  obtain ⟨server, stepped, rfl⟩ := Option.map_eq_some_iff.mp served
  obtain ⟨enabled, isServer⟩ := Option.ite_none_right_eq_some.mp stepped
  rw [owner_unclaimed net.server rfl] at isServer
  rw [← Option.some.inj isServer]
  exact ⟨enabled, rfl⟩

/-- A frame of one entry makes its sender the owner of the id if it sets it. -/
theorem serve_awareness [DecidableEq Op] [Causality Op] {socket : ℕ} {entry : AwarenessEntry}
    (served : net.serve (.awareness socket [entry]) = some after) :
    socket ∈ net.server.room.clients ∧ after = net.tell
      ⟨(net.server.room.handleAwareness socket [entry]).1,
        fun id => if id ∈ net.server.room.awareness.sets [entry] then some socket
          else net.server.owner id, net.server.joined⟩
      (net.server.room.handleAwareness socket [entry]).2 := by
  obtain ⟨server, stepped, rfl⟩ := Option.map_eq_some_iff.mp served
  obtain ⟨enabled, isServer⟩ := Option.ite_none_right_eq_some.mp stepped
  rw [← Option.some.inj isServer]
  exact ⟨enabled, rfl⟩

/-! ### Joining -/

section Join

variable {socket : ℕ}

/-- What the adding of a client changes: it is shown what the room holds, and nobody
else hears anything. -/
structure Joins (net after : PresenceNet Op) (socket : ℕ) : Prop where
  opened : (net.opener socket).isSome
  notGone : socket ∉ net.gone
  notJoined : socket ∉ net.server.joined
  up : after.up = net.up
  peers : after.peers = net.peers
  current : after.current = net.current
  openers : after.opener = net.opener
  gone : after.gone = net.gone
  joined : after.server.joined = socket :: net.server.joined
  owner : after.server.owner = net.server.owner
  awareness : after.server.room.awareness = net.server.room.awareness
  clients : ∀ other, other ∈ after.server.room.clients ↔
    other ∈ net.server.room.clients ∨ other = socket
  down : ∀ other, other ≠ socket → after.down other = net.down other
  told : ∀ told ∈ (after.down socket).flatten,
    told.clientId ∈ net.server.room.awareness.states ∧
      told.clock = (net.roomSlot told.clientId).clock
  view : ∀ peer id, id ≠ peer → (after.view peer socket).slot id =
    if id ∈ net.server.room.awareness.states then
      ((net.peers peer).slot id).hear false (net.server.room.awareness.entryOf id)
    else (net.peers peer).slot id

theorem Sane.joins [DecidableEq Op] [Causality Op] (sane : net.Sane)
    (opened : (net.opener socket).isSome)
    (notGone : socket ∉ net.gone) (served : net.serve (.add socket) = some after) :
    net.Joins after socket := by
  obtain ⟨names, clocks, owners, orders, hears⟩ := sane
  obtain ⟨notJoined, rfl⟩ := serve_add served
  have notMember : socket ∉ net.server.room.clients :=
    fun member => notJoined ((names.members socket).mp member).1
  have clients : (net.server.room.add socket).1.clients = net.server.room.clients ++ [socket] :=
    if_neg notMember
  have waiting := hears.waiting socket notJoined
  refine {
    opened := opened
    notGone := notGone
    notJoined := notJoined
    up := rfl
    peers := rfl
    current := rfl
    openers := rfl
    gone := rfl
    joined := rfl
    owner := rfl
    awareness := rfl
    clients := fun other => ?_
    down := fun other different => ?_
    told := fun entry isTold => ?_
    view := fun peer id remote => ?_ }
  · show other ∈ (net.server.room.add socket).1.clients ↔ _
    rw [clients, List.mem_append, List.mem_singleton]
  · show net.down other ++ presenceTo other (net.server.room.add socket).2 = net.down other
    rw [Room.presenceTo_add, if_neg fun both => different both.1, List.append_nil]
  · rcases (mem_down_tell net _ _ socket entry).mp isTold with before | new
    · rw [waiting] at before
      cases before
    · obtain ⟨present, shows⟩ := Room.entry_of_snapshot net.server.room socket socket new
      exact ⟨present, congrArg AwarenessEntry.clock shows⟩
  · have unheard : (net.view peer socket).slot id = (net.peers peer).slot id := by
      rw [names.slot_view socket remote, waiting]
      rfl
    rw [slot_view_tell net _ _ (names.peers peer) socket remote, unheard]
    exact Room.hearAll_snapshot net.server.room socket _ id

variable (joins : net.Joins after socket)
include joins

private theorem Joins.roomSlot (id : ℕ) : after.roomSlot id = net.roomSlot id := by
  unfold PresenceNet.roomSlot
  rw [joins.awareness]

private theorem Joins.ownSlot (id : ℕ) : after.ownSlot id = net.ownSlot id := by
  unfold PresenceNet.ownSlot
  rw [joins.peers]

private theorem Joins.view_of_ne (peer : ℕ) {other : ℕ} (different : other ≠ socket) :
    after.view peer other = net.view peer other := by
  unfold PresenceNet.view
  rw [joins.peers, joins.down other different]

private theorem Joins.newest {id : ℕ} (newest : after.Newest id) : net.Newest id := by
  obtain ⟨from_, owner, current, empty⟩ := newest
  rw [joins.owner] at owner
  rw [joins.current] at current
  rw [joins.up] at empty
  exact ⟨from_, owner, current, empty⟩

private theorem Joins.names (names : net.Names) : after.Names where
  peers := joins.peers ▸ names.peers
  opened := by
    rw [joins.current, joins.openers]
    exact names.opened
  notRoom := by
    rw [joins.openers, PresenceNet.roomId, joins.awareness]
    exact names.notRoom
  members other := by
    rw [joins.clients, joins.joined, joins.gone, names.members, List.mem_cons]
    constructor
    · rintro (before | rfl)
      · exact ⟨Or.inr before.1, before.2⟩
      · exact ⟨Or.inl rfl, joins.notGone⟩
    · rintro ⟨rfl | before, notEnded⟩
      · exact Or.inr rfl
      · exact Or.inl ⟨before, notEnded⟩
  joined other isMember := by
    rw [joins.openers]
    rw [joins.joined] at isMember
    rcases List.mem_cons.mp isMember with rfl | before
    · exact joins.opened
    · exact names.joined other before
  up := by
    rw [joins.up, joins.openers]
    exact names.up

private theorem Joins.clocks (clocks : net.Clocks) (owners : net.Owners) : after.Clocks := by
  refine ⟨fun id other => ?_, fun other queued member => ?_, fun other told member => ?_⟩
  · rw [joins.roomSlot, joins.ownSlot]
    rw [PresenceNet.roomId, joins.awareness] at other
    exact clocks.room id other
  · rw [joins.ownSlot]
    exact clocks.up other queued (joins.up ▸ member)
  · rw [joins.ownSlot]
    by_cases same : other = socket
    · subst same
      obtain ⟨present, clock⟩ := joins.told told member
      have notRoom : told.clientId ≠ net.roomId := by
        intro isRoom
        rw [isRoom, Awareness.mem_states_iff] at present
        exact present owners.room
      rw [clock]
      exact clocks.room told.clientId notRoom
    · rw [joins.down other same] at member
      exact clocks.down other told member

private theorem Joins.owners (owners : net.Owners) : after.Owners where
  room := by
    rw [joins.roomSlot, PresenceNet.roomId, joins.awareness]
    exact owners.room
  known id present := by
    rw [joins.awareness]
    exact owners.known id (joins.roomSlot id ▸ present)
  joined id other owner := by
    rw [joins.owner] at owner
    rw [joins.joined]
    exact List.mem_cons_of_mem _ (owners.joined id other owner)
  owned id present := by
    obtain ⟨from_, isMember, owner, opener⟩ := owners.owned id (joins.roomSlot id ▸ present)
    refine ⟨from_, (joins.clients from_).mpr (Or.inl isMember), ?_, ?_⟩
    · rw [joins.owner, owner]
    · rw [joins.openers, opener]

private theorem Joins.orders (orders : net.Orders) : after.Orders := by
  constructor
  · rw [joins.current, joins.openers, joins.up]
    exact orders.queues
  · intro peer
    rw [joins.current, joins.openers, joins.up, joins.owner, joins.roomSlot]
    exact orders.stale peer

private theorem Joins.upToDate {peer : ℕ} (upToDate : net.UpToDate peer) : after.UpToDate peer := by
  intro now current notGone
  rw [joins.current] at current
  rw [joins.gone] at notGone
  have latest := upToDate now current notGone
  unfold Latest at latest ⊢
  rw [joins.up, joins.ownSlot, joins.roomSlot, joins.owner]
  exact latest

/-- Who has not been in the room has seen nobody. -/
theorem Joins.stateless (hears : net.Hears) {peer id : ℕ} (current : net.current peer = some socket)
    (remote : id ≠ peer) : ((net.peers peer).slot id).state = none := by
  refine hears.unheard peer (fun now isCurrent => ?_) id remote
  have same : now = socket := Option.some.inj (isCurrent.symm.trans current)
  exact same ▸ joins.notJoined

/-- What the one who joins shows then, the room holds. -/
theorem Joins.agrees_self (hears : net.Hears) {peer id : ℕ}
    (current : net.current peer = some socket) (remote : id ≠ peer)
    (present : ((after.view peer socket).slot id).state ≠ none) :
    (net.roomSlot id).state ≠ none ∧
      ((after.view peer socket).slot id).clock = (net.roomSlot id).clock := by
  have absent := joins.stateless hears current remote
  rw [joins.view peer id remote] at present ⊢
  split at present
  · next listed =>
      rw [if_pos listed]
      have roomState := (Awareness.mem_states_iff _ id).mp listed
      refine ⟨roomState, ?_⟩
      by_cases accepts : ((net.peers peer).slot id).Accepts
          (net.server.room.awareness.entryOf id)
      · obtain ⟨state, isState⟩ := Option.ne_none_iff_exists'.mp roomState
        rw [Slot.hear_some isState (Slot.clock_lt_of_accepts roomState accepts)]
        rfl
      · rw [Slot.hear_of_not_accepts accepts] at present
        exact absurd absent present
  · exact absurd absent present

/-- The one who joins shows everything that will stay. -/
theorem Joins.complete_self (allowed : net.GetsThrough (.join socket)) {peer id : ℕ}
    (current : net.current peer = some socket) (remote : id ≠ peer)
    (present : (net.roomSlot id).state ≠ none) (newest : net.Newest id) :
    ((after.view peer socket).slot id).state ≠ none := by
  have listed : id ∈ net.server.room.awareness.states :=
    (Awareness.mem_states_iff _ id).mpr present
  have newer := allowed peer current id listed remote newest
  obtain ⟨state, isState⟩ := Option.ne_none_iff_exists'.mp present
  rw [joins.view peer id remote, if_pos listed]
  intro absent
  rw [Slot.hear_some isState newer] at absent
  cases absent

private theorem Joins.hears (allowed : net.GetsThrough (.join socket)) (hears : net.Hears) :
    after.Hears where
  waiting other unjoined := by
    rw [joins.joined] at unjoined
    have different : other ≠ socket := fun same => unjoined (same ▸ List.mem_cons_self)
    rw [joins.down other different]
    exact hears.waiting other fun before => unjoined (List.mem_cons_of_mem _ before)
  unheard peer unjoined := by
    rw [joins.current, joins.joined] at unjoined
    rw [joins.peers]
    exact hears.unheard peer fun now current before =>
      unjoined now current (List.mem_cons_of_mem _ before)
  agrees peer other current isMember id remote present := by
    rw [joins.current] at current
    rw [joins.roomSlot]
    by_cases same : other = socket
    · subst same
      exact joins.agrees_self hears current remote present
    · rw [joins.view_of_ne peer same] at present ⊢
      exact hears.agrees peer other current
        (((joins.clients other).mp isMember).resolve_right same) id remote present
  complete peer other current isMember id remote present newest := by
    rw [joins.current] at current
    rw [joins.roomSlot] at present
    have newest := joins.newest newest
    by_cases same : other = socket
    · subst same
      exact joins.complete_self allowed current remote present newest
    · rw [joins.view_of_ne peer same]
      exact hears.complete peer other current
        (((joins.clients other).mp isMember).resolve_right same) id remote present newest

/-- A client that joins leaves everything sound. -/
theorem Joins.sound (sound : net.Sound) (allowed : net.GetsThrough (.join socket)) :
    after.Sound := by
  obtain ⟨⟨names, clocks, owners, orders, hears⟩, upToDate⟩ := sound
  exact ⟨⟨joins.names names, joins.clocks clocks owners, joins.owners owners,
    joins.orders orders, joins.hears allowed hears⟩, fun peer => joins.upToDate (upToDate peer)⟩

end Join

/-! ### Handling a frame -/

section Handle

variable {socket : ℕ} {entry : AwarenessEntry} {rest : List AwarenessEntry}

/-- What the handling of a frame with one entry changes. -/
structure Handled (net after : PresenceNet Op) (socket : ℕ) (entry : AwarenessEntry)
    (rest : List AwarenessEntry) : Prop where
  member : socket ∈ net.server.room.clients
  opener : net.opener socket = some entry.clientId
  up : net.up socket = entry :: rest
  remaining : after.up = Function.update net.up socket rest
  peers : after.peers = net.peers
  current : after.current = net.current
  openers : after.opener = net.opener
  gone : after.gone = net.gone
  joined : after.server.joined = net.server.joined
  clients : after.server.room.clients = net.server.room.clients
  roomId : after.roomId = net.roomId
  slots : ∀ id, after.roomSlot id =
    if entry.clientId = id then (net.roomSlot id).hear false entry else net.roomSlot id
  known : ∀ id, (after.roomSlot id).state ≠ none →
    (after.server.room.awareness.clocks.lookup id).isSome
  owner : ∀ id, after.server.owner id =
    if (net.roomSlot entry.clientId).Accepts entry ∧ entry.state ≠ none ∧ id = entry.clientId
    then some socket else net.server.owner id
  told : ∀ other, ∀ told ∈ (after.down other).flatten, told ∈ (net.down other).flatten ∨
    told.clientId = entry.clientId ∧ told.clock = (after.roomSlot entry.clientId).clock
  untold : ∀ other, other ∉ net.server.room.clients → after.down other = net.down other
  views : ∀ peer other, net.current peer = some other → other ∈ net.server.room.clients →
    ∀ id, id ≠ peer → (after.view peer other).slot id =
      if (net.roomSlot entry.clientId).Accepts entry ∧ id = entry.clientId ∧
          (entry.state ≠ none ∨
            (net.server.room.awareness.clocks.lookup entry.clientId).isSome)
      then ((net.view peer other).slot id).hear false entry else (net.view peer other).slot id

/-- Everybody in the room but the sender is told. -/
theorem mem_audience_client {room : Room ℕ Op} {other : ℕ} :
    other ∈ room.audience (.client socket) ↔ other ∈ room.clients ∧ other ≠ socket := by
  unfold Room.audience
  rw [List.mem_filter, decide_eq_true_eq]
  exact and_congr_right fun _ => not_congr
    ⟨fun same => (Origin.client.inj same).symm, fun same => congrArg Origin.client same.symm⟩

private theorem awareness_handleAwareness (room : Room ℕ Op) :
    (room.handleAwareness socket [entry]).1.awareness = room.awareness.heard [entry] :=
  Room.changeAwareness_awareness _ _ _

private theorem slot_handleAwareness {room : Room ℕ Op}
    (notRoom : entry.clientId ≠ room.awareness.clientId)
    (id : ℕ) : (room.handleAwareness socket [entry]).1.awareness.slot id =
      if entry.clientId = id then (room.awareness.slot id).hear false entry
      else room.awareness.slot id := by
  rw [awareness_handleAwareness, Awareness.slot_heard_one]
  split
  · next same => rw [← same, decide_eq_false notRoom]
  · rfl

/-- A client other than the sender hears the entry itself, if the room lists it. -/
theorem hearAll_handleAwareness {room : Room ℕ Op}
    (notRoom : entry.clientId ≠ room.awareness.clientId) {other : ℕ}
    (isClient : other ∈ room.clients) (different : other ≠ socket) (slot : Slot) (id : ℕ) :
    slot.hearAll false ((presenceTo other (room.handleAwareness socket [entry]).2).flatten.filter
        fun told => told.clientId = id) =
      if (room.awareness.slot entry.clientId).Accepts entry ∧ id = entry.clientId ∧
          (entry.state ≠ none ∨ (room.awareness.clocks.lookup entry.clientId).isSome)
      then slot.hear false entry else slot := by
  have accepts := room.awareness.accepts_iff entry
  have told := Room.hearAll_told room (room.awareness.applyUpdate [entry])
    (.client socket) (mem_audience_client.mpr ⟨isClient, different⟩) slot id
  have listed := room.awareness.mem_all_applyUpdate entry id
  rw [accepts] at listed
  refine told.trans ?_
  by_cases isListed : id ∈ (room.awareness.applyUpdate [entry]).2.all
  · have all := listed.mp isListed
    rw [if_pos isListed, if_pos all, all.2.1]
    exact congrArg (slot.hear false) (Awareness.entryOf_heard_one (accepts.mpr all.1) notRoom)
  · rw [if_neg isListed, if_neg fun all => isListed (listed.mpr all)]

private theorem presenceTo_handleAwareness_untold {room : Room ℕ Op} {other : ℕ}
    (untold : ¬ (other ∈ room.clients ∧ other ≠ socket)) :
    presenceTo other (room.handleAwareness socket [entry]).2 = [] :=
  Room.presenceTo_untold _ _ _ fun member => untold (mem_audience_client.mp member)

/-- What a client in the room is told, the room holds of the sender's id. -/
theorem entry_of_handleAwareness {room : Room ℕ Op} {other : ℕ} {told : AwarenessEntry}
    (isTold : told ∈ (presenceTo other (room.handleAwareness socket [entry]).2).flatten) :
    told.clientId = entry.clientId ∧ told.clock =
      ((room.handleAwareness socket [entry]).1.awareness.slot entry.clientId).clock := by
  obtain ⟨listed, shows⟩ := Room.entry_of_told room
    (room.awareness.applyUpdate [entry]) (.client socket) other isTold
  have isId : told.clientId = entry.clientId :=
    ((room.awareness.mem_all_applyUpdate entry told.clientId).mp listed).2.1
  refine ⟨isId, ?_⟩
  rw [shows, awareness_handleAwareness, isId]
  rfl

theorem Sane.handled [DecidableEq Op] [Causality Op] (sane : net.Sane)
    (up : net.up socket = entry :: rest)
    (served : (net.popped socket rest).serve (.awareness socket [entry]) = some after) :
    net.Handled after socket entry rest := by
  obtain ⟨names, clocks, owners, orders, hears⟩ := sane
  obtain ⟨member, rfl⟩ := serve_awareness served
  have opener := names.up socket entry (by rw [up]; exact List.mem_cons_self)
  have notRoom := names.notRoom socket entry.clientId opener
  refine {
    member := member
    opener := opener
    up := up
    remaining := rfl
    peers := rfl
    current := rfl
    openers := rfl
    gone := rfl
    joined := rfl
    clients := (Room.changeAwareness_doc _ _ _).2
    roomId := (congrArg Awareness.clientId (awareness_handleAwareness _)).trans
      (Awareness.clientId_heard _ _)
    slots := slot_handleAwareness notRoom
    known := fun id present => ?_
    owner := fun id => ?_
    told := fun other told isTold =>
      ((mem_down_tell _ _ _ other _).mp isTold).imp_right entry_of_handleAwareness
    untold := fun other notClient => ?_
    views := fun peer other current isClient id remote => ?_ }
  · have kept := Awareness.known_heard_one owners.known entry id
    rw [← @awareness_handleAwareness Op socket entry] at kept
    exact kept present
  · have sets := net.server.room.awareness.mem_sets_one entry id
    rw [net.server.room.awareness.accepts_iff entry] at sets
    by_cases isSet : id ∈ net.server.room.awareness.sets [entry]
    · exact (if_pos isSet).trans (if_pos (sets.mp isSet)).symm
    · exact (if_neg isSet).trans (if_neg fun all => isSet (sets.mpr all)).symm
  · show net.down other ++
      presenceTo other (net.server.room.handleAwareness socket [entry]).2 = net.down other
    rw [presenceTo_handleAwareness_untold fun both => notClient both.1, List.append_nil]
  · refine (slot_view_tell (net.popped socket rest) _ _ (names.peers peer) other remote).trans ?_
    by_cases isSender : other = socket
    · have notId : id ≠ entry.clientId := by
        intro same
        have isPeer := names.opened peer other current
        rw [isSender, opener] at isPeer
        exact remote (same.trans (Option.some.inj isPeer))
      show ((net.view peer other).slot id).hearAll false
        ((presenceTo other (net.server.room.handleAwareness socket [entry]).2).flatten.filter
          fun told => told.clientId = id) = _
      rw [presenceTo_handleAwareness_untold fun both => both.2 isSender,
        if_neg fun all => notId all.2.1]
      rfl
    · exact hearAll_handleAwareness notRoom isClient isSender _ id

/-- What a handled frame does to the room: it is ignored, it sets a value of its
sender, or it takes the value away. -/
inductive Effects (net after : PresenceNet Op) (socket : ℕ) (entry : AwarenessEntry) : Prop where
  | ignored (rejects : ¬ (net.roomSlot entry.clientId).Accepts entry)
      (slot : after.roomSlot entry.clientId = net.roomSlot entry.clientId)
      (owner : after.server.owner entry.clientId = net.server.owner entry.clientId)
  | sets (state : String) (isState : entry.state = some state)
      (accepts : (net.roomSlot entry.clientId).Accepts entry)
      (slot : after.roomSlot entry.clientId = ⟨entry.clock, some state⟩)
      (owner : after.server.owner entry.clientId = some socket)
  | takes (isNone : entry.state = none) (accepts : (net.roomSlot entry.clientId).Accepts entry)
      (absent : (after.roomSlot entry.clientId).state = none)

variable (handled : net.Handled after socket entry rest)
include handled

private theorem Handled.effects : net.Effects after socket entry := by
  have here : after.roomSlot entry.clientId = (net.roomSlot entry.clientId).hear false entry :=
    (handled.slots _).trans (if_pos rfl)
  by_cases accepts : (net.roomSlot entry.clientId).Accepts entry
  · cases isState : entry.state with
    | some state =>
        have isSome : entry.state ≠ none :=
          Option.ne_none_iff_exists'.mpr ⟨state, isState⟩
        refine .sets state isState accepts ?_ ?_
        · rw [here, Slot.hear_some isState (Slot.clock_lt_of_accepts isSome accepts)]
        · rw [handled.owner, if_pos ⟨accepts, isSome, rfl⟩]
    | none =>
        exact .takes isState accepts (by
          rw [here, Slot.state_hear_none isState (Slot.clock_le_of_accepts accepts)])
  · refine .ignored accepts ?_ ?_
    · rw [here, Slot.hear_of_not_accepts accepts]
    · rw [handled.owner, if_neg fun all => accepts all.1]

private theorem Handled.ownSlot (id : ℕ) : after.ownSlot id = net.ownSlot id := by
  unfold PresenceNet.ownSlot
  rw [handled.peers]

private theorem Handled.queued {other : ℕ} {queued : AwarenessEntry}
    (member : queued ∈ after.up other) :
    queued ∈ net.up other := by
  rw [handled.remaining] at member
  by_cases same : other = socket
  · subst same
    rw [Function.update_self] at member
    rw [handled.up]
    exact List.mem_cons_of_mem _ member
  · rwa [Function.update_of_ne same] at member

private theorem Handled.up_of_ne {other : ℕ} (different : other ≠ socket) :
    after.up other = net.up other := by
  rw [handled.remaining, Function.update_of_ne different]

private theorem Handled.up_self : after.up socket = rest := by
  rw [handled.remaining, Function.update_self]

private theorem Handled.slot_of_ne {id : ℕ} (different : id ≠ entry.clientId) :
    after.roomSlot id = net.roomSlot id :=
  (handled.slots id).trans (if_neg (Ne.symm different))

private theorem Handled.owner_of_ne {id : ℕ} (different : id ≠ entry.clientId) :
    after.server.owner id = net.server.owner id :=
  (handled.owner id).trans (if_neg fun all => different all.2.2)

/-- The frame came from the provider of its id. -/
theorem Handled.eq_of_current (names : net.Names) {peer : ℕ}
    (current : net.current peer = some socket) : peer = entry.clientId :=
  Option.some.inj ((names.opened peer socket current).symm.trans handled.opener)

private theorem Handled.names (names : net.Names) : after.Names where
  peers := handled.peers ▸ names.peers
  opened := by
    rw [handled.current, handled.openers]
    exact names.opened
  notRoom := by
    rw [handled.openers, handled.roomId]
    exact names.notRoom
  members := by
    rw [handled.clients, handled.joined, handled.gone]
    exact names.members
  joined := by
    rw [handled.joined, handled.openers]
    exact names.joined
  up other queued member := by
    rw [handled.openers]
    exact names.up other queued (handled.queued member)

private theorem Handled.clocks (names : net.Names) (clocks : net.Clocks) : after.Clocks := by
  have notRoom := names.notRoom socket entry.clientId handled.opener
  have bound := (clocks.up socket entry (by rw [handled.up]; exact List.mem_cons_self)).1
  have room : ∀ id, id ≠ net.roomId → (after.roomSlot id).clock ≤ (net.ownSlot id).clock := by
    intro id other
    rw [handled.slots]
    split
    · next same =>
        subst same
        exact Slot.clock_hear_le (clocks.room _ other) bound
    · exact clocks.room id other
  refine ⟨fun id other => ?_, fun other queued member => ?_, fun other told member => ?_⟩
  · rw [handled.ownSlot]
    exact room id (handled.roomId ▸ other)
  · rw [handled.ownSlot]
    exact clocks.up other queued (handled.queued member)
  · rw [handled.ownSlot]
    rcases handled.told other told member with before | ⟨isId, isClock⟩
    · exact clocks.down other told before
    · rw [isClock, isId]
      exact room entry.clientId notRoom

private theorem Handled.owners (names : net.Names) (owners : net.Owners) : after.Owners := by
  have notRoom := names.notRoom socket entry.clientId handled.opener
  refine ⟨?_, handled.known, fun id other owner => ?_, fun id present => ?_⟩
  · rw [handled.roomId, handled.slot_of_ne (Ne.symm notRoom)]
    exact owners.room
  · rw [handled.joined]
    rw [handled.owner] at owner
    split at owner
    · rw [← Option.some.inj owner]
      exact ((names.members socket).mp handled.member).1
    · exact owners.joined id other owner
  · rw [handled.clients, handled.openers]
    by_cases same : id = entry.clientId
    · subst same
      cases handled.effects with
      | ignored rejects slot owner =>
          rw [slot] at present
          rw [owner]
          exact owners.owned _ present
      | sets state isState accepts slot owner =>
          exact ⟨socket, handled.member, owner, handled.opener⟩
      | takes isNone accepts absent => exact absurd absent present
    · rw [handled.slot_of_ne same] at present
      rw [handled.owner_of_ne same]
      exact owners.owned id present

private theorem Handled.orders (orders : net.Orders) : after.Orders := by
  refine ⟨?_, ?_⟩
  · rw [handled.current, handled.openers]
    intro peer now older current opener different earlier isEarlier later isLater
    exact orders.queues peer now older current opener different earlier
      (handled.queued isEarlier) later (handled.queued isLater)
  · rw [handled.current, handled.openers]
    intro peer now older current owner present opener different earlier isEarlier
    have before := handled.queued isEarlier
    by_cases same : peer = entry.clientId
    · subst same
      cases handled.effects with
      | ignored rejects slot sameOwner =>
          rw [slot] at present ⊢
          rw [sameOwner] at owner
          exact orders.stale _ now older current owner present opener different earlier before
      | sets state isState accepts slot isOwner =>
          -- What was sent on an older socket is no newer than the value just set.
          have here : now = socket := Option.some.inj (owner.symm.trans isOwner)
          subst here
          have inOrder := orders.queues _ now older current opener different earlier before entry
            (by rw [handled.up]; exact List.mem_cons_self)
          rw [slot]
          rintro (newer | ⟨sameClock, isNone, -⟩)
          · exact Nat.not_lt.mpr inOrder.1 newer
          · have absent := (inOrder.2 sameClock.symm).mp isNone
            rw [isState] at absent
            cases absent
      | takes isNone accepts absent => exact absurd absent present
    · rw [handled.slot_of_ne same] at present ⊢
      rw [handled.owner_of_ne same] at owner
      exact orders.stale peer now older current owner present opener different earlier before

/-- The last frame of the current socket is the one that the room then shows. -/
theorem Handled.latest_self (clocks : net.Clocks) (names : net.Names)
    (allowed : net.GetsThrough (.handle socket))
    (current : net.current entry.clientId = some socket)
    (latest : net.Latest entry.clientId socket) : after.Latest entry.clientId socket := by
  unfold Latest at latest ⊢
  rw [handled.ownSlot, handled.up_self]
  rw [handled.up] at latest
  cases rest with
  | nil =>
      obtain ⟨shows, sameClock⟩ := latest
      have only : net.up socket = [entry] := handled.up
      cases handled.effects with
      | ignored rejects slot owner =>
          cases isState : entry.state with
          | some state =>
              have isSome : entry.state ≠ none :=
                Option.ne_none_iff_exists'.mpr ⟨state, isState⟩
              exact absurd (Or.inl (allowed entry only isSome current).1) rejects
          | none =>
              have roomBound := clocks.room entry.clientId
                (names.notRoom socket entry.clientId handled.opener)
              rw [← sameClock isState] at roomBound
              refine iff_of_false (fun present => present (shows.mp isState)) fun both => ?_
              rw [slot] at both
              exact rejects (Slot.accepts_none isState roomBound both.1)
      | sets state isState accepts slot owner =>
          refine iff_of_true (fun absent => ?_) ⟨?_, owner⟩
          · exact Option.some_ne_none state (isState.symm.trans (shows.mpr absent))
          · rw [slot]
            exact Option.some_ne_none state
      | takes isNone accepts absent =>
          exact iff_of_false (fun present => present (shows.mp isNone)) fun both => both.1 absent
  | cons next others =>
      rw [List.getLast?_cons_cons] at latest
      exact latest

private theorem Handled.upToDate (names : net.Names) (clocks : net.Clocks) (orders : net.Orders)
    (allowed : net.GetsThrough (.handle socket)) (upToDate : ∀ peer, net.UpToDate peer)
    (peer : ℕ) : after.UpToDate peer := by
  intro now current notGone
  rw [handled.current] at current
  rw [handled.gone] at notGone
  have latest := upToDate peer now current notGone
  by_cases same : peer = entry.clientId
  · subst same
    by_cases here : now = socket
    · subst here
      exact handled.latest_self clocks names allowed current latest
    · -- A frame of a socket that was lost does not displace what the room shows.
      unfold Latest at latest ⊢
      rw [handled.ownSlot, handled.up_of_ne here]
      split
      · next nothing =>
          rw [nothing] at latest
          have stale : ∀ shown : (net.roomSlot entry.clientId).state ≠ none ∧
              net.server.owner entry.clientId = some now,
              ¬ (net.roomSlot entry.clientId).Accepts entry := fun shown =>
            orders.stale _ now socket current shown.2 shown.1 handled.opener (Ne.symm here) entry
              (by rw [handled.up]; exact List.mem_cons_self)
          cases handled.effects with
          | ignored rejects slot owner =>
              rw [slot, owner]
              exact latest
          | sets state isState accepts slot owner =>
              refine iff_of_false (fun present => stale (latest.mp present) accepts) fun both => ?_
              exact here (Option.some.inj (both.2.symm.trans owner))
          | takes isNone accepts absent =>
              exact iff_of_false (fun present => stale (latest.mp present) accepts)
                fun both => both.1 absent
      · next queued isLast =>
          rw [isLast] at latest
          exact latest
  · have notHere : now ≠ socket := fun isHere =>
      same (handled.eq_of_current names (isHere ▸ current))
    unfold Latest at latest ⊢
    rw [handled.ownSlot, handled.up_of_ne notHere, handled.slot_of_ne same,
      handled.owner_of_ne same]
    exact latest

/-- What has been seen of another id than that of the frame is as before. -/
theorem Handled.view_of_ne {peer other id : ℕ} (current : net.current peer = some other)
    (member : other ∈ net.server.room.clients) (remote : id ≠ peer)
    (different : id ≠ entry.clientId) :
    (after.view peer other).slot id = (net.view peer other).slot id :=
  (handled.views peer other current member id remote).trans
    (if_neg fun all => different all.2.1)

/-- The others see of the frame's id what the room then holds, or nothing. -/
theorem Handled.agrees (owners : net.Owners) (hears : net.Hears) {peer other : ℕ}
    (current : net.current peer = some other) (member : other ∈ net.server.room.clients)
    (remote : entry.clientId ≠ peer)
    (present : ((after.view peer other).slot entry.clientId).state ≠ none) :
    (after.roomSlot entry.clientId).state ≠ none ∧
      ((after.view peer other).slot entry.clientId).clock =
        (after.roomSlot entry.clientId).clock := by
  have agrees := hears.agrees peer other current member entry.clientId remote
  have view := handled.views peer other current member entry.clientId remote
  cases handled.effects with
  | ignored rejects slot owner =>
      rw [if_neg fun all => rejects all.1] at view
      rw [view] at present ⊢
      rw [slot]
      exact agrees present
  | sets state isState accepts slot owner =>
      have isSome : entry.state ≠ none :=
        Option.ne_none_iff_exists'.mpr ⟨state, isState⟩
      rw [if_pos ⟨accepts, rfl, Or.inl isSome⟩] at view
      rw [slot]
      refine ⟨Option.some_ne_none state, ?_⟩
      by_cases heard : ((net.view peer other).slot entry.clientId).Accepts entry
      · rw [view, Slot.hear_some isState (Slot.clock_lt_of_accepts isSome heard)]
      · -- Whoever had a state of the id had it with the clock of the room.
        rw [view, Slot.hear_of_not_accepts heard] at present
        refine absurd (Or.inl ?_) heard
        rw [(agrees present).2]
        exact Slot.clock_lt_of_accepts isSome accepts
  | takes isNone accepts absent =>
      refine absurd ?_ present
      rw [view]
      by_cases before : ((net.view peer other).slot entry.clientId).state = none
      · split
        · exact Slot.state_hear_none_of_none isNone before
        · exact before
      · obtain ⟨shown, sameClock⟩ := agrees before
        rw [if_pos ⟨accepts, rfl, Or.inr (owners.known _ shown)⟩]
        refine Slot.state_hear_none isNone ?_
        rw [sameClock]
        exact Slot.clock_le_of_accepts accepts

/-- The others see of the frame's id what will stay. -/
theorem Handled.complete (names : net.Names) (clocks : net.Clocks)
    (allowed : net.GetsThrough (.handle socket)) (upToDate : ∀ peer, net.UpToDate peer)
    (hears : net.Hears) {peer other : ℕ} (current : net.current peer = some other)
    (member : other ∈ net.server.room.clients) (remote : entry.clientId ≠ peer)
    (present : (after.roomSlot entry.clientId).state ≠ none)
    (newest : after.Newest entry.clientId) :
    ((after.view peer other).slot entry.clientId).state ≠ none := by
  have view := handled.views peer other current member entry.clientId remote
  obtain ⟨from_, isOwner, isCurrent, empty⟩ := newest
  rw [handled.current] at isCurrent
  -- If the frame was the last one of the current socket, it was not ignored.
  have only : from_ = socket → net.up socket = [entry] := by
    rintro rfl
    rw [handled.up_self] at empty
    rw [handled.up, empty]
  cases handled.effects with
  | ignored rejects slot owner =>
      rw [if_neg fun all => rejects all.1] at view
      rw [view]
      rw [slot] at present
      rw [owner] at isOwner
      have notHere : from_ ≠ socket := by
        rintro rfl
        have isOnly := only rfl
        cases isState : entry.state with
        | some state =>
            have isSome : entry.state ≠ none :=
              Option.ne_none_iff_exists'.mpr ⟨state, isState⟩
            exact rejects (Or.inl (allowed entry isOnly isSome isCurrent).1)
        | none =>
            have notGone := ((names.members from_).mp handled.member).2
            have latest := upToDate entry.clientId from_ isCurrent notGone
            unfold Latest at latest
            rw [isOnly] at latest
            have roomBound := clocks.room entry.clientId
              (names.notRoom from_ entry.clientId handled.opener)
            rw [← latest.2 isState] at roomBound
            exact rejects (Slot.accepts_none isState roomBound present)
      rw [handled.up_of_ne notHere] at empty
      exact hears.complete peer other current member entry.clientId remote present
        ⟨from_, isOwner, isCurrent, empty⟩
  | sets state isState accepts slot owner =>
      have isSome : entry.state ≠ none :=
        Option.ne_none_iff_exists'.mpr ⟨state, isState⟩
      have here : from_ = socket := Option.some.inj (isOwner.symm.trans owner)
      have isOnly := only here
      rw [here] at isCurrent
      have newer := (allowed entry isOnly isSome isCurrent).2 peer other current member
        (Ne.symm remote)
      rw [view, if_pos ⟨accepts, rfl, Or.inl isSome⟩, Slot.hear_some isState newer]
      exact Option.some_ne_none state
  | takes isNone accepts absent => exact absurd absent present

private theorem Handled.hears (names : net.Names) (clocks : net.Clocks) (owners : net.Owners)
    (allowed : net.GetsThrough (.handle socket)) (upToDate : ∀ peer, net.UpToDate peer)
    (hears : net.Hears) : after.Hears := by
  refine ⟨fun other unjoined => ?_, fun peer unjoined id remote => ?_,
    fun peer other current member id remote present => ?_,
    fun peer other current member id remote present newest => ?_⟩
  · rw [handled.joined] at unjoined
    have notClient : other ∉ net.server.room.clients :=
      fun member => unjoined ((names.members other).mp member).1
    rw [handled.untold other notClient]
    exact hears.waiting other unjoined
  · rw [handled.joined, handled.current] at unjoined
    rw [handled.peers]
    exact hears.unheard peer unjoined id remote
  · rw [handled.current] at current
    rw [handled.clients] at member
    by_cases same : id = entry.clientId
    · subst same
      exact handled.agrees owners hears current member remote present
    · rw [handled.view_of_ne current member remote same] at present ⊢
      rw [handled.slot_of_ne same]
      exact hears.agrees peer other current member id remote present
  · rw [handled.current] at current
    rw [handled.clients] at member
    by_cases same : id = entry.clientId
    · subst same
      exact handled.complete names clocks allowed upToDate hears current member remote present
        newest
    · rw [handled.view_of_ne current member remote same]
      rw [handled.slot_of_ne same] at present
      obtain ⟨from_, owner, isCurrent, empty⟩ := newest
      rw [handled.current] at isCurrent
      rw [handled.owner_of_ne same] at owner
      have notHere : from_ ≠ socket := fun isHere =>
        same (handled.eq_of_current names (isHere ▸ isCurrent))
      rw [handled.up_of_ne notHere] at empty
      exact hears.complete peer other current member id remote present
        ⟨from_, owner, isCurrent, empty⟩

/-- A frame that is handled leaves everything sound. -/
theorem Handled.sound (sound : net.Sound) (allowed : net.GetsThrough (.handle socket)) :
    after.Sound := by
  obtain ⟨⟨names, clocks, owners, orders, hears⟩, upToDate⟩ := sound
  exact ⟨⟨handled.names names, handled.clocks names clocks, handled.owners names owners,
    handled.orders orders, handled.hears names clocks owners allowed upToDate hears⟩,
    handled.upToDate names clocks orders allowed upToDate⟩

end Handle

/-! ### Leaving -/

section Leave

variable {socket : ℕ}

/-- What the removal of a client changes. -/
structure Left (net after : PresenceNet Op) (socket : ℕ) : Prop where
  member : socket ∈ net.server.room.clients
  up : after.up = net.up
  peers : after.peers = net.peers
  current : after.current = net.current
  openers : after.opener = net.opener
  gone : after.gone = socket :: net.gone
  joined : after.server.joined = net.server.joined
  owner : after.server.owner = net.server.owner
  clients : ∀ other, other ∈ after.server.room.clients ↔
    other ∈ net.server.room.clients ∧ other ≠ socket
  roomId : after.roomId = net.roomId
  remains : ∀ id, (after.roomSlot id).state ≠ none ↔
    (net.roomSlot id).state ≠ none ∧ id ∉ net.server.room.controlled socket
  clock : ∀ id, id ≠ net.roomId → (after.roomSlot id).clock = (net.roomSlot id).clock
  slots : ∀ id, (after.roomSlot id).state ≠ none → after.roomSlot id = net.roomSlot id
  known : ∀ id, (after.roomSlot id).state ≠ none →
    (after.server.room.awareness.clocks.lookup id).isSome
  told : ∀ other, ∀ told ∈ (after.down other).flatten, told ∈ (net.down other).flatten ∨
    told.clientId ≠ net.roomId ∧ told.clock = (net.roomSlot told.clientId).clock
  untold : ∀ other, other ∉ net.server.room.clients → after.down other = net.down other
  views : ∀ peer other, net.current peer = some other → other ∈ after.server.room.clients →
    ∀ id, id ≠ peer → (after.view peer other).slot id =
      if (net.roomSlot id).state ≠ none ∧ id ∈ net.server.room.controlled socket then
        ((net.view peer other).slot id).hear false ⟨id, (net.roomSlot id).clock, none⟩
      else (net.view peer other).slot id

private theorem mem_clients_remove (room : Room ℕ Op) (other : ℕ) :
    other ∈ (room.remove socket).1.clients ↔ other ∈ room.clients ∧ other ≠ socket := by
  rw [Room.clients_remove, List.mem_filter, decide_eq_true_eq]

private theorem awareness_remove (room : Room ℕ Op) : (room.remove socket).1.awareness =
    (room.awareness.removeStates (room.controlled socket)).1 :=
  Room.changeAwareness_awareness _ _ _

private theorem slot_remove (room : Room ℕ Op) {id : ℕ} (other : id ≠ room.awareness.clientId) :
    (room.remove socket).1.awareness.slot id =
      if id ∈ room.controlled socket then ⟨(room.awareness.slot id).clock, none⟩
      else room.awareness.slot id := by
  rw [awareness_remove]
  exact Awareness.slot_removeStates _ _ (Or.inl other)

/-- Everybody who stays is told of the states that went. -/
theorem hearAll_remove {room : Room ℕ Op}
    (notRoom : ∀ {id}, (room.awareness.slot id).state ≠ none → id ≠ room.awareness.clientId)
    {other : ℕ} (stays : other ∈ (room.remove socket).1.clients) (slot : Slot) (id : ℕ) :
    slot.hearAll false ((presenceTo other (room.remove socket).2).flatten.filter
        fun told => told.clientId = id) =
      if (room.awareness.slot id).state ≠ none ∧ id ∈ room.controlled socket then
        slot.hear false ⟨id, (room.awareness.slot id).clock, none⟩ else slot := by
  have audience : other ∈ ({ room with clients := room.clients.filter (· ≠ socket) } :
      Room ℕ Op).audience .disconnect := by
    rw [Room.clients_remove] at stays
    exact List.mem_filter.mpr ⟨stays, rfl⟩
  have heard := Room.hearAll_told _ (room.awareness.removeStates (room.controlled socket))
    .disconnect audience slot id
  have listed := room.awareness.mem_all_removeStates (room.controlled socket) id
  rw [Awareness.mem_states_iff] at listed
  refine heard.trans ?_
  by_cases isListed : id ∈ (room.awareness.removeStates (room.controlled socket)).2.all
  · have both := listed.mp isListed
    have slotOf := @slot_remove Op socket room _ (notRoom both.1)
    rw [if_pos both.2, awareness_remove] at slotOf
    rw [if_pos isListed, if_pos both]
    unfold Awareness.entryOf
    rw [slotOf]
  · rw [if_neg isListed, if_neg fun both => isListed (listed.mpr both)]

/-- What those who stay are told are the clocks of the states that went. -/
theorem entry_of_remove {room : Room ℕ Op}
    (notRoom : ∀ {id}, (room.awareness.slot id).state ≠ none → id ≠ room.awareness.clientId)
    {other : ℕ} {told : AwarenessEntry}
    (isTold : told ∈ (presenceTo other (room.remove socket).2).flatten) :
    told.clientId ≠ room.awareness.clientId ∧
      told.clock = (room.awareness.slot told.clientId).clock := by
  obtain ⟨listed, shows⟩ := Room.entry_of_told _ (room.awareness.removeStates
    (room.controlled socket)) .disconnect other isTold
  have present := (room.awareness.mem_all_removeStates
    (room.controlled socket) told.clientId).mp listed
  have remote := notRoom ((Awareness.mem_states_iff _ _).mp present.1)
  refine ⟨remote, ?_⟩
  have slotOf := @slot_remove Op socket room _ remote
  rw [if_pos present.2, awareness_remove] at slotOf
  have clock := congrArg Slot.clock slotOf
  exact (congrArg AwarenessEntry.clock shows).trans clock

private theorem presenceTo_remove_untold {room : Room ℕ Op} {other : ℕ}
    (notClient : other ∉ room.clients) :
    presenceTo other (room.remove socket).2 = [] := by
  refine Room.presenceTo_untold _ _ _ fun audience => ?_
  exact notClient (List.mem_filter.mp (List.mem_filter.mp audience).1).1

theorem Sane.left [DecidableEq Op] [Causality Op] (sane : net.Sane)
    (served : (net.ended socket).serve (.remove socket) = some after) :
    net.Left after socket := by
  obtain ⟨names, clocks, owners, orders, hears⟩ := sane
  obtain ⟨member, rfl⟩ := serve_remove served
  have remains : ∀ id, ((net.server.room.remove socket).1.awareness.slot id).state ≠ none ↔
      (net.roomSlot id).state ≠ none ∧ id ∉ net.server.room.controlled socket := by
    intro id
    rw [← Awareness.mem_states_iff, Room.mem_states_remove, Awareness.mem_states_iff]
  have notRoom : ∀ {id}, (net.roomSlot id).state ≠ none → id ≠ net.roomId := by
    rintro id present rfl
    exact present owners.room
  refine {
    member := member
    up := rfl
    peers := rfl
    current := rfl
    openers := rfl
    gone := rfl
    joined := rfl
    owner := rfl
    clients := mem_clients_remove net.server.room
    roomId := (congrArg Awareness.clientId (awareness_remove _)).trans
      (Awareness.clientId_removeStates _ _)
    remains := remains
    clock := fun id other => ?_
    slots := fun id present => ?_
    known := fun id present => ?_
    told := fun other entry isTold =>
      ((mem_down_tell _ _ _ other _).mp isTold).imp_right (entry_of_remove notRoom)
    untold := fun other notClient => ?_
    views := fun peer other current isClient id remote => ?_ }
  · refine (congrArg Slot.clock (slot_remove _ other)).trans ?_
    split <;> rfl
  · have both := (remains id).mp present
    exact (slot_remove _ (notRoom both.1)).trans (if_neg both.2)
  · have both := (remains id).mp present
    show ((net.server.room.remove socket).1.awareness.clocks.lookup id).isSome
    rw [awareness_remove]
    exact Awareness.known_removeStates _ _ (owners.known id both.1)
  · show net.down other ++ presenceTo other (net.server.room.remove socket).2 = net.down other
    rw [presenceTo_remove_untold notClient, List.append_nil]
  · refine (slot_view_tell (net.ended socket) _ _ (names.peers peer) other remote).trans ?_
    exact hearAll_remove notRoom isClient _ id

variable (left : net.Left after socket)
include left

private theorem Left.ownSlot (id : ℕ) : after.ownSlot id = net.ownSlot id := by
  unfold PresenceNet.ownSlot
  rw [left.peers]

private theorem Left.names (names : net.Names) : after.Names where
  peers := left.peers ▸ names.peers
  opened := by
    rw [left.current, left.openers]
    exact names.opened
  notRoom := by
    rw [left.openers, left.roomId]
    exact names.notRoom
  members other := by
    rw [left.clients, left.joined, left.gone, names.members, List.mem_cons]
    tauto
  joined := by
    rw [left.joined, left.openers]
    exact names.joined
  up := by
    rw [left.up, left.openers]
    exact names.up

private theorem Left.clocks (clocks : net.Clocks) : after.Clocks := by
  refine ⟨fun id other => ?_, fun other queued member => ?_, fun other told member => ?_⟩
  · rw [left.roomId] at other
    rw [left.ownSlot, left.clock id other]
    exact clocks.room id other
  · rw [left.ownSlot]
    exact clocks.up other queued (left.up ▸ member)
  · rw [left.ownSlot]
    rcases left.told other told member with before | ⟨notRoom, isClock⟩
    · exact clocks.down other told before
    · rw [isClock]
      exact clocks.room told.clientId notRoom

private theorem Left.owners (owners : net.Owners) (allowed : net.GetsThrough (.close socket)) :
    after.Owners := by
  refine ⟨?_, left.known, fun id other owner => ?_, fun id present => ?_⟩
  · by_contra present
    rw [left.roomId] at present
    exact ((left.remains _).mp present).1 owners.room
  · rw [left.joined]
    exact owners.joined id other (left.owner ▸ owner)
  · obtain ⟨before, notControlled⟩ := (left.remains id).mp present
    obtain ⟨from_, member, owner, opener⟩ := owners.owned id before
    -- Only states that came from others remain.
    have isState := (Awareness.mem_states_iff net.server.room.awareness id).mpr before
    have notSelf : from_ ≠ socket := fun same =>
      (allowed left.member id isState).1 notControlled (same ▸ owner)
    rw [left.owner, left.openers]
    exact ⟨from_, (left.clients from_).mpr ⟨member, notSelf⟩, owner, opener⟩

private theorem Left.orders (orders : net.Orders) : after.Orders := by
  refine ⟨?_, ?_⟩
  · rw [left.current, left.openers, left.up]
    exact orders.queues
  · rw [left.current, left.openers, left.up, left.owner]
    intro peer now older current owner present opener different earlier isEarlier
    have before := ((left.remains peer).mp present).1
    rw [left.slots peer present]
    exact orders.stale peer now older current owner before opener different earlier isEarlier

/-- A value that will stay is not taken. -/
theorem Left.remains_of_newest (allowed : net.GetsThrough (.close socket)) {id now : ℕ}
    (present : (net.roomSlot id).state ≠ none) (current : net.current id = some now)
    (owner : net.server.owner id = some now) (empty : net.up now = []) (notSelf : now ≠ socket) :
    (after.roomSlot id).state ≠ none := by
  rw [left.remains]
  refine ⟨present, fun controlled => ?_⟩
  have isState := (Awareness.mem_states_iff net.server.room.awareness id).mpr present
  have isOwner := (allowed left.member id isState).2 controlled ⟨now, owner, current, empty⟩
  exact notSelf (Option.some.inj (owner.symm.trans isOwner))

private theorem Left.upToDate (allowed : net.GetsThrough (.close socket))
    (upToDate : ∀ peer, net.UpToDate peer) (peer : ℕ) : after.UpToDate peer := by
  intro now current notGone
  rw [left.current] at current
  rw [left.gone, List.mem_cons, not_or] at notGone
  have latest := upToDate peer now current notGone.2
  unfold Latest at latest ⊢
  rw [left.ownSlot, left.up, left.owner]
  cases last : (net.up now).getLast? with
  | none =>
      rw [last] at latest
      have empty : net.up now = [] := List.getLast?_eq_none_iff.mp last
      refine latest.trans (and_congr_left fun owner => ⟨fun present => ?_, fun present => ?_⟩)
      · exact left.remains_of_newest allowed present current owner empty notGone.1
      · exact ((left.remains peer).mp present).1
  | some entry =>
      rw [last] at latest
      exact latest

private theorem Left.hears (names : net.Names) (hears : net.Hears) : after.Hears := by
  refine ⟨fun other unjoined => ?_, fun peer unjoined id remote => ?_,
    fun peer other current member id remote present => ?_,
    fun peer other current member id remote present newest => ?_⟩
  · rw [left.joined] at unjoined
    have notClient : other ∉ net.server.room.clients :=
      fun member => unjoined ((names.members other).mp member).1
    rw [left.untold other notClient]
    exact hears.waiting other unjoined
  · rw [left.joined, left.current] at unjoined
    rw [left.peers]
    exact hears.unheard peer unjoined id remote
  · rw [left.current] at current
    have before := ((left.clients other).mp member).1
    have agrees := hears.agrees peer other current before id remote
    have view := left.views peer other current member id remote
    by_cases goes : (net.roomSlot id).state ≠ none ∧ id ∈ net.server.room.controlled socket
    · -- What the room has let go of, nobody holds any longer.
      refine absurd ?_ present
      rw [view, if_pos goes]
      by_cases unseen : ((net.view peer other).slot id).state = none
      · exact Slot.state_hear_none_of_none rfl unseen
      · refine Slot.state_hear_none rfl ?_
        rw [(agrees unseen).2]
    · rw [if_neg goes] at view
      rw [view] at present ⊢
      obtain ⟨shown, sameClock⟩ := agrees present
      have remains := (left.remains id).mpr ⟨shown, fun controlled => goes ⟨shown, controlled⟩⟩
      rw [left.slots id remains]
      exact ⟨shown, sameClock⟩
  · rw [left.current] at current
    obtain ⟨before, notControlled⟩ := (left.remains id).mp present
    obtain ⟨from_, owner, isCurrent, empty⟩ := newest
    rw [left.views peer other current member id remote, if_neg fun both => notControlled both.2]
    rw [left.owner] at owner
    rw [left.current] at isCurrent
    rw [left.up] at empty
    exact hears.complete peer other current ((left.clients other).mp member).1 id remote before
      ⟨from_, owner, isCurrent, empty⟩

/-- A client that leaves leaves everything sound. -/
theorem Left.sound (sound : net.Sound) (allowed : net.GetsThrough (.close socket)) :
    after.Sound := by
  obtain ⟨⟨names, clocks, owners, orders, hears⟩, upToDate⟩ := sound
  exact ⟨⟨left.names names, left.clocks clocks, left.owners owners allowed,
    left.orders orders, left.hears names hears⟩, left.upToDate allowed upToDate⟩

end Leave

/-- A room that is opened again knows nobody, and nobody is in it. -/
theorem Sound.vacate (sound : net.Sound) : net.vacate.Sound := by
  unfold PresenceNet.vacate
  split
  · next empty =>
      obtain ⟨⟨names, clocks, owners, orders, hears⟩, upToDate⟩ := sound
      have nobody : ∀ socket, socket ∈ net.server.joined → socket ∈ net.gone := by
        intro socket joined
        by_contra notGone
        have member := (names.members socket).mpr ⟨joined, notGone⟩
        rw [empty] at member
        cases member
      refine ⟨⟨⟨names.peers, names.opened, names.notRoom, fun socket => ?_, names.joined,
        names.up⟩, ⟨fun id other => ?_, clocks.up, clocks.down⟩,
        ⟨rfl, fun _ present => absurd rfl present, fun _ _ owner => ?_,
          fun _ present => absurd rfl present⟩,
        ⟨orders.queues, fun _ _ _ _ owner => ?_⟩,
        ⟨hears.waiting, hears.unheard, fun _ _ _ member => ?_, fun _ _ _ member => ?_⟩⟩, ?_⟩
      · exact iff_of_false List.not_mem_nil fun both => both.2 (nobody socket both.1)
      · have bare : (Room.new net.roomId : Room ℕ Op).awareness.slot id = ⟨0, none⟩ :=
          Awareness.slot_observer other
        show ((Room.new net.roomId : Room ℕ Op).awareness.slot id).clock ≤ _
        rw [bare]
        exact Nat.zero_le _
      · cases owner
      · cases owner
      · cases member
      · cases member
      · intro peer now current notGone
        have latest := upToDate peer now current notGone
        unfold Latest at latest ⊢
        dsimp only
        split
        · next nothing =>
            rw [nothing] at latest
            refine iff_of_false (fun present => ?_) fun both => nomatch both.2
            exact notGone (nobody now (owners.joined peer now (latest.mp present).2))
        · next entry isLast =>
            rw [isLast] at latest
            exact latest
  · exact sound

end PresenceNet

end CollabEditor.Web
