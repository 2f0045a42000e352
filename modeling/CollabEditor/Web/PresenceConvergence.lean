import CollabEditor.Web.PresenceRoom

/-!
Owns the convergence of presence: in a run in which it gets through, the room
and everybody connected show exactly those who are there once everything is
delivered. A client that reconnects announces the clock it had, and does not
get through.
-/

namespace CollabEditor.Web

open CollabEditor.Library CollabEditor.Yjs CollabEditor.Rooms

universe u

variable {Op : Type u}

namespace PresenceNet

variable {net after : PresenceNet Op}

/-- An event on the room's side of a socket that has ended changes nothing else. -/
theorem Sound.ended (sound : net.Sound) {socket : ℕ}
    (outside : socket ∉ net.server.room.clients) : (net.ended socket).Sound := by
  obtain ⟨⟨names, clocks, owners, orders, hears⟩, upToDate⟩ := sound
  refine ⟨⟨⟨names.peers, names.opened, names.notRoom, fun other => ?_, names.joined, names.up⟩,
    ⟨clocks.room, clocks.up, clocks.down⟩,
    ⟨owners.room, owners.known, owners.joined, owners.owned⟩, ⟨orders.queues, orders.stale⟩,
    ⟨hears.waiting, hears.unheard, hears.agrees, hears.complete⟩⟩, fun peer =>
    (upToDate peer).of_own rfl (List.subset_cons_self _ _) rfl rfl rfl⟩
  show other ∈ net.server.room.clients ↔ other ∈ net.server.joined ∧ other ∉ socket :: net.gone
  rw [List.mem_cons, not_or]
  constructor
  · intro member
    have both := (names.members other).mp member
    exact ⟨both.1, fun same => outside (same ▸ member), both.2⟩
  · rintro ⟨joined, -, notGone⟩
    exact (names.members other).mpr ⟨joined, notGone⟩

/-- Every event that lets presence through leaves everything sound. -/
theorem sound_step [DecidableEq Op] [Causality Op] {event : PresenceEvent} (sound : net.Sound)
    (allowed : net.GetsThrough event) (stepped : net.step event = some after) : after.Sound := by
  cases event with
  | setLocalState peer state =>
      cases stepped
      exact sound.setLocalState peer state
  | connect peer socket =>
      obtain ⟨⟨notRoom, offline, fresh⟩, result⟩ := Option.ite_none_right_eq_some.mp stepped
      cases result
      exact sound.connect notRoom offline fresh
  | join socket =>
      obtain ⟨⟨opened, notGone⟩, served⟩ := Option.ite_none_right_eq_some.mp stepped
      exact (sound.toSane.joins opened notGone served).sound sound allowed
  | handle socket =>
      dsimp only [step] at stepped
      split at stepped
      · cases stepped
      · next entry rest up => exact (sound.toSane.handled up stepped).sound sound allowed
  | deliver socket =>
      dsimp only [step] at stepped
      split at stepped
      · next peer frame rest opener down =>
          obtain ⟨current, result⟩ := Option.ite_none_right_eq_some.mp stepped
          cases result
          exact sound.receive down current
      · cases stepped
  | lose peer =>
      obtain ⟨-, result⟩ := Option.ite_none_right_eq_some.mp stepped
      cases result
      exact sound.lose peer
  | close socket =>
      obtain ⟨-, taken⟩ := Option.ite_none_right_eq_some.mp stepped
      by_cases member : socket ∈ net.server.room.clients
      · rw [if_pos member] at taken
        obtain ⟨middle, served, rfl⟩ := Option.map_eq_some_iff.mp taken
        exact ((sound.toSane.left served).sound sound allowed).vacate
      · rw [if_neg member] at taken
        cases taken
        exact sound.ended member

/-- The room shows a client exactly when it is there. -/
theorem Sound.room_iff (sound : net.Sound) (settled : net.Settled) (id : ℕ) :
    (net.roomSlot id).state ≠ none ↔ net.IsPresent id := by
  have shows : ∀ {socket : ℕ}, net.current id = some socket →
      ((net.ownSlot id).state ≠ none ↔
        (net.roomSlot id).state ≠ none ∧ net.server.owner id = some socket) := by
    intro socket current
    have member := settled.joined id socket current
    have latest := sound.upToDate id socket current ((sound.names.members socket).mp member).2
    unfold Latest at latest
    rw [settled.up socket member] at latest
    exact latest
  constructor
  · intro present
    obtain ⟨socket, member, owner, opener⟩ := sound.owners.owned id present
    obtain ⟨peer, current⟩ := settled.live socket member
    have same : peer = id :=
      Option.some.inj ((sound.names.opened peer socket current).symm.trans opener)
    subst same
    refine ⟨by rw [current]; rfl, ?_⟩
    rw [Awareness.mem_states_iff]
    exact (shows current).mpr ⟨present, owner⟩
  · rintro ⟨connected, isState⟩
    obtain ⟨socket, current⟩ := Option.isSome_iff_exists.mp connected
    rw [Awareness.mem_states_iff] at isState
    exact ((shows current).mp isState).1

/-- What a connected client holds of another one is what the room shows. -/
theorem Sound.peer_iff (sound : net.Sound) (settled : net.Settled) {peer socket : ℕ}
    (current : net.current peer = some socket) {id : ℕ} (remote : id ≠ peer) :
    ((net.peers peer).slot id).state ≠ none ↔ (net.roomSlot id).state ≠ none := by
  have member := settled.joined peer socket current
  have view : net.view peer socket = net.peers peer := by
    unfold PresenceNet.view
    rw [settled.down socket member]
    rfl
  constructor
  · intro present
    exact (sound.hears.agrees peer socket current member id remote (view ▸ present)).1
  · intro present
    obtain ⟨connected, isState⟩ := (sound.room_iff settled id).mp present
    obtain ⟨theirs, isCurrent⟩ := Option.isSome_iff_exists.mp connected
    have joined := settled.joined id theirs isCurrent
    have latest := sound.upToDate id theirs isCurrent ((sound.names.members theirs).mp joined).2
    unfold Latest at latest
    rw [settled.up theirs joined] at latest
    rw [Awareness.mem_states_iff] at isState
    have newest : net.Newest id :=
      ⟨theirs, (latest.mp isState).2, isCurrent, settled.up theirs joined⟩
    exact view ▸ sound.hears.complete peer socket current member id remote present newest

/-- Sound and settled, presence has converged. -/
theorem Sound.converged (sound : net.Sound) (settled : net.Settled) : net.Converged := by
  intro id
  have room := sound.room_iff settled id
  refine ⟨by rw [Awareness.mem_states_iff]; exact room, fun peer connected => ?_⟩
  obtain ⟨socket, current⟩ := Option.isSome_iff_exists.mp connected
  by_cases same : id = peer
  · subst same
    exact ⟨fun isState => ⟨connected, isState⟩, And.right⟩
  · rw [Awareness.mem_states_iff]
    exact (sound.peer_iff settled current same).trans room

/-- In a run in which presence gets through, it has converged whenever
everything is delivered. -/
theorem presence_converges [DecidableEq Op] [Causality Op] {roomId : ℕ}
    (reached : ReachedWhen step GetsThrough (· = start roomId) net) (settled : net.Settled) :
    net.Converged := by
  refine Sound.converged ?_ settled
  refine ReachedWhen.invariant Sound ?_ (fun _ _ _ => sound_step) reached
  rintro net rfl
  exact sound_start roomId

/-! ### Runs that can be checked -/

instance (net : PresenceNet Op) (id : ℕ) : Decidable (net.Newest id) :=
  decidable_of_iff (∃ socket ∈ net.server.owner id, net.current id = some socket ∧
    net.up socket = []) (by simp only [Newest, Option.mem_def])

/-- `GetsThrough`, asked of the clients and the ids that the room knows. -/
def Passes (net : PresenceNet Op) : PresenceEvent → Prop
  | .handle socket =>
      ∀ entry ∈ net.up socket, net.up socket = [entry] → entry.state ≠ none →
        net.current entry.clientId = some socket →
          (net.server.room.awareness.slot entry.clientId).clock < entry.clock ∧
          ∀ other ∈ net.server.room.clients, ∀ peer ∈ net.opener other,
            net.current peer = some other → peer ≠ entry.clientId →
              ((net.view peer other).slot entry.clientId).clock < entry.clock
  | .join socket =>
      ∀ peer ∈ net.opener socket, net.current peer = some socket →
        ∀ id ∈ net.server.room.awareness.states.keys, id ≠ peer → net.Newest id →
          ((net.peers peer).slot id).clock < (net.server.room.awareness.slot id).clock
  | .close socket =>
      socket ∈ net.server.room.clients →
        ∀ id ∈ net.server.room.awareness.states.keys,
          (id ∉ net.server.room.controlled socket → net.server.owner id ≠ some socket) ∧
          (id ∈ net.server.room.controlled socket → net.Newest id →
            net.server.owner id = some socket)
  | _ => True

instance (net : PresenceNet Op) : ∀ event, Decidable (net.Passes event)
  | .handle socket => inferInstanceAs (Decidable (∀ entry ∈ net.up socket, _))
  | .join socket => inferInstanceAs (Decidable (∀ peer ∈ net.opener socket, _))
  | .close socket => inferInstanceAs (Decidable (socket ∈ net.server.room.clients → _))
  | .setLocalState _ _ | .connect _ _ | .deliver _ | .lose _ => isTrue trivial

/-- A provider is the opener of its socket, so whoever the room tells has been asked. -/
theorem getsThrough_of_passes (names : net.Names) {event : PresenceEvent}
    (passes : net.Passes event) : net.GetsThrough event := by
  cases event with
  | handle socket =>
      intro entry only isState current
      have member : entry ∈ net.up socket := by simp [only]
      obtain ⟨newer, others⟩ := passes entry member only isState current
      refine ⟨newer, fun peer other isCurrent inRoom different => ?_⟩
      exact others other inRoom peer (names.opened peer other isCurrent) isCurrent different
  | join socket =>
      intro peer isCurrent id member different newest
      exact passes peer (names.opened peer socket isCurrent) isCurrent id
        (AList.mem_keys.mp member) different newest
  | close socket =>
      intro inRoom id member
      exact passes inRoom id (AList.mem_keys.mp member)
  | setLocalState peer state => trivial
  | connect peer socket => trivial
  | deliver socket => trivial
  | lose peer => trivial

private theorem reached_of_passes [DecidableEq Op] [Causality Op] {roomId : ℕ}
    (reached : ReachedWhen step Passes (· = start roomId) net) :
    ReachedWhen step GetsThrough (· = start roomId) net := by
  have both : net.Sound ∧ ReachedWhen step GetsThrough (· = start roomId) net := by
    apply reached.invariant fun net =>
      net.Sound ∧ ReachedWhen step GetsThrough (· = start roomId) net
    · intro net isStart
      exact ⟨isStart ▸ sound_start roomId, .start isStart⟩
    · intro net event after before passes stepped
      have through := getsThrough_of_passes before.1.names passes
      exact ⟨sound_step before.1 through stepped, .next before.2 through stepped⟩
  exact both.2

/-- One client has stayed on its first socket, and another has come back on its
second. -/
theorem settled_of_two {net : PresenceNet ItemId}
    (current : net.current = Function.update (Function.update (Function.update
      (Function.update (fun _ => none) 1 (some 10)) 2 (some 20)) 1 none) 1 (some 11))
    (clients : net.server.room.clients = [20, 11])
    (delivered : ∀ socket ∈ [20, 11], net.up socket = [] ∧ net.down socket = []) :
    net.Settled := by
  have others : ∀ peer, peer ≠ 1 → peer ≠ 2 → net.current peer = none := by
    intro peer first second
    simp [current, first, second]
  have first : net.current 1 = some 11 := by rw [current, Function.update_self]
  have second : net.current 2 = some 20 := by simp [current]
  refine ⟨fun peer socket isCurrent => ?_, fun socket member => ?_,
    fun socket member => (delivered socket (clients ▸ member)).1,
    fun socket member => (delivered socket (clients ▸ member)).2⟩
  · rw [clients]
    by_cases isFirst : peer = 1
    · rw [isFirst, first] at isCurrent
      cases isCurrent
      simp
    · by_cases isSecond : peer = 2
      · rw [isSecond, second] at isCurrent
        cases isCurrent
        simp
      · rw [others peer isFirst isSecond] at isCurrent
        cases isCurrent
  · rw [clients] at member
    simp only [List.mem_cons, List.not_mem_nil, or_false] at member
    rcases member with rfl | rfl
    · exact ⟨2, second⟩
    · exact ⟨1, first⟩

/-- Two clients see each other; one is away for a while, in which both change their
state, and comes back to the room that the other one has kept open. -/
def revisit : List PresenceEvent :=
  [.setLocalState 1 (some "a"), .setLocalState 2 (some "b"), .connect 1 10, .connect 2 20,
    .join 10, .join 20, .handle 10, .deliver 20, .handle 20, .deliver 10, .lose 1,
    .setLocalState 2 (some "c"), .handle 20, .close 10, .deliver 20,
    .setLocalState 1 (some "d"), .connect 1 11, .join 11, .deliver 11, .handle 11, .deliver 20]

/-- Where `revisit` ends. -/
def revisited : PresenceNet ItemId := (runWhen step Passes (start 0) revisit).getD (start 0)

theorem presence_converges_revisit :
    revisited.IsPresent 1 ∧ revisited.IsPresent 2 ∧
      (revisited.peers 2).states.lookup 1 = some "d" ∧
      (revisited.peers 1).states.lookup 2 = some "c" ∧ revisited.Converged := by
  have reached : ReachedWhen step Passes (· = start 0) revisited :=
    reachedWhen_getD (start 0) revisit (start 0) (by decide +kernel)
  have settled : revisited.Settled := settled_of_two rfl rfl (by decide +kernel)
  exact ⟨⟨rfl, by decide +kernel⟩, ⟨rfl, by decide +kernel⟩, rfl, rfl,
    presence_converges (reached_of_passes reached) settled⟩

/-! ### A reconnect that does not get through -/

/-- Two clients are in a room; one loses its socket, the room removes it, and it
reconnects and announces itself with the clock it had. -/
def reconnect : List PresenceEvent :=
  [.setLocalState 1 (some "a"), .setLocalState 2 (some "b"), .connect 1 10, .connect 2 20,
    .join 10, .join 20, .handle 10, .deliver 20, .handle 20, .deliver 10, .lose 1, .close 10,
    .deliver 20, .connect 1 11, .join 11, .handle 11, .deliver 11]

/-- Where `reconnect` ends. -/
def reconnected : PresenceNet ItemId := (run step (start 0) reconnect).getD (start 0)

private theorem reconnected_settled : reconnected.Settled :=
  settled_of_two rfl rfl (by decide +kernel)

/-- Everything is delivered, and nobody shows the client that reconnected. -/
theorem reconnect_unseen :
    ¬ ∀ (roomId : ℕ) (net : PresenceNet ItemId), Reached step (· = start roomId) net →
      net.Settled → net.Converged := by
  intro converges
  have reached : Reached step (· = start 0) reconnected :=
    reachedWhen_getD (start 0) reconnect (start 0) rfl
  have shown := (converges 0 reconnected reached reconnected_settled 1).1
  have isPresent : reconnected.IsPresent 1 := ⟨rfl, by decide⟩
  have hidden : (1 : ℕ) ∉ reconnected.server.room.awareness.states := by decide
  exact hidden (shown.mpr isPresent)

end PresenceNet

end CollabEditor.Web
