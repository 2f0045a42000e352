import CollabEditor.Web.Presence

/-!
Owns what holds of presence in every state of a run in which it gets through:
who a socket belongs to, how the clocks of an id are ordered along its way,
whose values the room holds, and what the clients in the room have seen of it.
-/

namespace CollabEditor.Web

open CollabEditor.Library CollabEditor.Yjs CollabEditor.Rooms

universe u

variable {Op : Type u}

namespace PresenceNet

/-- The id of the room's own document. -/
abbrev roomId (net : PresenceNet Op) : ℕ := net.server.room.awareness.clientId

/-- What the room holds for an id. -/
abbrev roomSlot (net : PresenceNet Op) (id : ℕ) : Slot := net.server.room.awareness.slot id

/-- What a provider holds for itself. -/
abbrev ownSlot (net : PresenceNet Op) (peer : ℕ) : Slot := (net.peers peer).slot peer

/-- Who is who. -/
structure Names (net : PresenceNet Op) : Prop where
  peers : ∀ peer, (net.peers peer).clientId = peer
  opened : ∀ peer socket, net.current peer = some socket → net.opener socket = some peer
  notRoom : ∀ socket peer, net.opener socket = some peer → peer ≠ net.roomId
  members : ∀ socket, socket ∈ net.server.room.clients ↔
    socket ∈ net.server.joined ∧ socket ∉ net.gone
  joined : ∀ socket ∈ net.server.joined, (net.opener socket).isSome
  up : ∀ socket, ∀ entry ∈ net.up socket, net.opener socket = some entry.clientId

/-- No clock of an id is ahead of its own. -/
structure Clocks (net : PresenceNet Op) : Prop where
  room : ∀ id, id ≠ net.roomId → (net.roomSlot id).clock ≤ (net.ownSlot id).clock
  up : ∀ socket, ∀ entry ∈ net.up socket,
    entry.clock ≤ (net.ownSlot entry.clientId).clock ∧
      (entry.clock = (net.ownSlot entry.clientId).clock →
        (entry.state = none ↔ (net.ownSlot entry.clientId).state = none))
  down : ∀ socket, ∀ entry ∈ (net.down socket).flatten,
    entry.clock ≤ (net.ownSlot entry.clientId).clock

/-- Every state of the room is the value of a client in it. -/
structure Owners (net : PresenceNet Op) : Prop where
  room : (net.roomSlot net.roomId).state = none
  known : ∀ id, (net.roomSlot id).state ≠ none →
    (net.server.room.awareness.clocks.lookup id).isSome
  joined : ∀ id socket, net.server.owner id = some socket → socket ∈ net.server.joined
  owned : ∀ id, (net.roomSlot id).state ≠ none →
    ∃ socket ∈ net.server.room.clients, net.server.owner id = some socket ∧
      net.opener socket = some id

/-- An entry was sent no later than another one of its id. -/
def Before (earlier later : AwarenessEntry) : Prop :=
  earlier.clock ≤ later.clock ∧
    (earlier.clock = later.clock → (earlier.state = none ↔ later.state = none))

/-- What is still on its way from the sockets an id has lost cannot displace
what it sends on the one it has. -/
structure Orders (net : PresenceNet Op) : Prop where
  queues : ∀ peer socket older, net.current peer = some socket →
    net.opener older = some peer → older ≠ socket →
      ∀ earlier ∈ net.up older, ∀ later ∈ net.up socket, Before earlier later
  stale : ∀ peer socket older, net.current peer = some socket →
    net.server.owner peer = some socket → (net.roomSlot peer).state ≠ none →
      net.opener older = some peer → older ≠ socket →
        ∀ earlier ∈ net.up older, ¬ (net.roomSlot peer).Accepts earlier

/-- The last entry on its way shows the local state; with none on its way the
room holds a value of the socket exactly when there is a local state. -/
def Latest (net : PresenceNet Op) (peer socket : ℕ) : Prop :=
  match (net.up socket).getLast? with
  | none => (net.ownSlot peer).state ≠ none ↔
      (net.roomSlot peer).state ≠ none ∧ net.server.owner peer = some socket
  | some entry => (entry.state = none ↔ (net.ownSlot peer).state = none) ∧
      (entry.state = none → entry.clock = (net.ownSlot peer).clock)

/-- The same for the socket a provider has, while the server has not seen its
end. -/
def UpToDate (net : PresenceNet Op) (peer : ℕ) : Prop :=
  ∀ socket, net.current peer = some socket → socket ∉ net.gone → net.Latest peer socket

/-- What the clients in the room have seen, once what is told has arrived: only
states that the room holds, and all of those that will stay. -/
structure Hears (net : PresenceNet Op) : Prop where
  waiting : ∀ socket, socket ∉ net.server.joined → net.down socket = []
  unheard : ∀ peer, (∀ socket, net.current peer = some socket → socket ∉ net.server.joined) →
    ∀ id, id ≠ peer → ((net.peers peer).slot id).state = none
  agrees : ∀ peer socket, net.current peer = some socket → socket ∈ net.server.room.clients →
    ∀ id, id ≠ peer → ((net.view peer socket).slot id).state ≠ none →
      (net.roomSlot id).state ≠ none ∧
        ((net.view peer socket).slot id).clock = (net.roomSlot id).clock
  complete : ∀ peer socket, net.current peer = some socket → socket ∈ net.server.room.clients →
    ∀ id, id ≠ peer → (net.roomSlot id).state ≠ none → net.Newest id →
      ((net.view peer socket).slot id).state ≠ none

/-- All but that a provider is up to date. -/
structure Sane (net : PresenceNet Op) : Prop where
  names : net.Names
  clocks : net.Clocks
  owners : net.Owners
  orders : net.Orders
  hears : net.Hears

structure Sound (net : PresenceNet Op) : Prop extends net.Sane where
  upToDate : ∀ peer, net.UpToDate peer

/-! ### Small facts -/

variable {net : PresenceNet Op}

/-- Two providers do not share a socket. -/
theorem Names.current_inj (names : net.Names) {peer other socket : ℕ}
    (mine : net.current peer = some socket) (theirs : net.current other = some socket) :
    peer = other :=
  Option.some.inj ((names.opened peer socket mine).symm.trans (names.opened other socket theirs))

/-- What has been seen of another id, in terms of what was heard. -/
theorem Names.slot_view (names : net.Names) {peer id : ℕ} (socket : ℕ) (other : id ≠ peer) :
    (net.view peer socket).slot id = ((net.peers peer).slot id).hearAll false
      ((net.down socket).flatten.filter fun entry => entry.clientId = id) := by
  unfold view
  rw [Awareness.slot_heard, names.peers, decide_eq_false other]

/-- What is told reaches who it is for. -/
theorem slot_view_tell (net : PresenceNet Op) (server : Presence ℕ Op)
    (calls : List (Effect ℕ Op)) {peer : ℕ} (isPeer : (net.peers peer).clientId = peer)
    (socket : ℕ) {id : ℕ} (other : id ≠ peer) :
    ((net.tell server calls).view peer socket).slot id =
      ((net.view peer socket).slot id).hearAll false
        ((presenceTo socket calls).flatten.filter fun entry => entry.clientId = id) := by
  have view : (net.tell server calls).view peer socket =
      (net.view peer socket).heard (presenceTo socket calls).flatten := by
    show (net.peers peer).heard (net.down socket ++ presenceTo socket calls).flatten = _
    rw [List.flatten_append, Awareness.heard_append]
    rfl
  have viewId : (net.view peer socket).clientId = peer := by
    unfold PresenceNet.view
    rw [Awareness.clientId_heard, isPeer]
  rw [view, Awareness.slot_heard, viewId, decide_eq_false other]

theorem mem_down_tell (net : PresenceNet Op) (server : Presence ℕ Op)
    (calls : List (Effect ℕ Op)) (socket : ℕ) (entry : AwarenessEntry) :
    entry ∈ ((net.tell server calls).down socket).flatten ↔
      entry ∈ (net.down socket).flatten ∨ entry ∈ (presenceTo socket calls).flatten := by
  show entry ∈ (net.down socket ++ presenceTo socket calls).flatten ↔ _
  rw [List.flatten_append, List.mem_append]

private theorem sane_start (roomId : ℕ) : (start roomId : PresenceNet Op).Sane where
  names := {
    peers := fun _ => rfl
    opened := fun _ _ current => by cases current
    notRoom := fun _ _ opener => by cases opener
    members := fun _ => by simp [start, Presence.start, Room.new]
    joined := fun _ member => by cases member
    up := fun _ _ member => by cases member }
  clocks := {
    room := fun id other => by
      have empty : (start roomId : PresenceNet Op).roomSlot id = ⟨0, none⟩ :=
        Awareness.slot_observer other
      rw [empty]
      exact Nat.zero_le _
    up := fun _ _ member => by cases member
    down := fun _ _ member => by cases member }
  owners := {
    room := rfl
    known := fun _ present => absurd rfl present
    joined := fun _ _ owner => by cases owner
    owned := fun _ present => absurd rfl present }
  orders := {
    queues := fun _ _ _ current => by cases current
    stale := fun _ _ _ current => by cases current }
  hears := {
    waiting := fun _ _ => rfl
    unheard := fun _ _ _ other => Awareness.state_participant other
    agrees := fun _ _ current => by cases current
    complete := fun _ _ current => by cases current }

theorem sound_start (roomId : ℕ) : (start roomId : PresenceNet Op).Sound :=
  ⟨sane_start roomId, fun _ _ current => by cases current⟩

/-! ### Sending the own entry -/

section Announce

variable {peer socket : ℕ}

/-- The own entry of a provider is behind what its socket has to deliver. -/
def announced (net : PresenceNet Op) (peer socket : ℕ) : PresenceNet Op :=
  { net with
    up := Function.update net.up socket (net.up socket ++ [(net.peers peer).entryOf peer]) }

private theorem announce_of_current (current : net.current peer = some socket) :
    net.announce peer = net.announced peer socket := by
  unfold announce
  rw [current]
  rfl

private theorem announce_of_offline (offline : net.current peer = none) :
    net.announce peer = net := by
  unfold announce
  rw [offline]

private theorem up_announced_self : (net.announced peer socket).up socket =
    net.up socket ++ [(net.peers peer).entryOf peer] :=
  Function.update_self _ _ _

/-- The queue of every other socket is as it was. -/
theorem up_announced_of_ne {other : ℕ} (different : other ≠ socket) :
    (net.announced peer socket).up other = net.up other :=
  Function.update_of_ne different _ _

private theorem mem_up_announced {other : ℕ} {entry : AwarenessEntry}
    (member : entry ∈ (net.announced peer socket).up other) :
    entry ∈ net.up other ∨ other = socket ∧ entry = (net.peers peer).entryOf peer := by
  by_cases same : other = socket
  · subst same
    rw [up_announced_self, List.mem_append, List.mem_singleton] at member
    exact member.imp_right fun isNew => ⟨rfl, isNew⟩
  · rw [up_announced_of_ne same] at member
    exact Or.inl member

/-- A socket that a provider has lost is not the one it announces on. -/
theorem Names.ne_of_lost (names : net.Names) (current : net.current peer = some socket)
    {other now older : ℕ} (isCurrent : net.current other = some now)
    (isOpener : net.opener older = some other) (different : older ≠ now) : older ≠ socket := by
  rintro rfl
  have same : peer = other :=
    Option.some.inj ((names.opened peer older current).symm.trans isOpener)
  subst same
  exact different (Option.some.inj (current.symm.trans isCurrent))

variable (names : net.Names) (current : net.current peer = some socket)
include names current

private theorem Names.announced : (net.announced peer socket).Names where
  peers := names.peers
  opened := names.opened
  notRoom := names.notRoom
  members := names.members
  joined := names.joined
  up := by
    intro other entry member
    rcases mem_up_announced member with before | ⟨rfl, rfl⟩
    · exact names.up other entry before
    · exact names.opened peer other current

omit names current in
private theorem Clocks.announced (clocks : net.Clocks) : (net.announced peer socket).Clocks where
  room := clocks.room
  up := by
    intro other entry member
    rcases mem_up_announced member with before | ⟨rfl, rfl⟩
    · exact clocks.up other entry before
    · exact ⟨Nat.le_refl _, fun _ => Iff.rfl⟩
  down := clocks.down

private theorem Orders.announced (clocks : net.Clocks) (orders : net.Orders) :
    (net.announced peer socket).Orders where
  queues := by
    intro other now older isCurrent isOpener different earlier isEarlier later isLater
    have notHere := names.ne_of_lost current isCurrent isOpener different
    rcases mem_up_announced isEarlier with before | ⟨here, -⟩
    · rcases mem_up_announced isLater with beforeLater | ⟨rfl, rfl⟩
      · exact orders.queues other now older isCurrent isOpener different earlier before later
          beforeLater
      · have same : other = peer := names.current_inj isCurrent current
        have isId : earlier.clientId = peer :=
          (Option.some.inj ((names.up older earlier before).symm.trans isOpener)).trans same
        have bound := clocks.up older earlier before
        rw [isId] at bound
        exact bound
    · exact absurd here notHere
  stale := by
    intro other now older isCurrent isOwner present isOpener different earlier isEarlier
    rcases mem_up_announced isEarlier with before | ⟨here, -⟩
    · exact orders.stale other now older isCurrent isOwner present isOpener different earlier before
    · exact absurd here (names.ne_of_lost current isCurrent isOpener different)

omit names current in
private theorem Hears.announced (hears : net.Hears) : (net.announced peer socket).Hears where
  waiting := hears.waiting
  unheard := hears.unheard
  agrees := hears.agrees
  complete := by
    rintro other now isCurrent member id different present ⟨from_, isOwner, isCurrentId, empty⟩
    have notHere : from_ ≠ socket := by
      rintro rfl
      rw [up_announced_self] at empty
      exact List.append_ne_nil_of_right_ne_nil _ (List.cons_ne_nil _ _) empty
    rw [up_announced_of_ne notHere] at empty
    exact hears.complete other now isCurrent member id different present
      ⟨from_, isOwner, isCurrentId, empty⟩

omit names in
private theorem upToDate_announced : (net.announced peer socket).UpToDate peer := by
  intro now isCurrent _
  have here : now = socket := Option.some.inj (isCurrent.symm.trans current)
  subst here
  unfold Latest
  simp only [up_announced_self, List.getLast?_append, List.getLast?_singleton]
  exact ⟨Iff.rfl, fun _ => rfl⟩

private theorem UpToDate.announced {other : ℕ} (different : other ≠ peer)
    (upToDate : net.UpToDate other) : (net.announced peer socket).UpToDate other := by
  intro now isCurrent notGone
  have notHere : now ≠ socket := by
    rintro rfl
    exact different (names.current_inj isCurrent current)
  have before := upToDate now isCurrent notGone
  unfold Latest at before ⊢
  rw [up_announced_of_ne notHere]
  exact before

omit names in
/-- What is announced is up to date, and nothing else is disturbed. -/
theorem Sane.announced (sane : net.Sane) (others : ∀ other, other ≠ peer → net.UpToDate other) :
    (net.announced peer socket).Sound where
  names := sane.names.announced current
  clocks := sane.clocks.announced
  owners := ⟨sane.owners.room, sane.owners.known, sane.owners.joined, sane.owners.owned⟩
  orders := sane.orders.announced sane.names current sane.clocks
  hears := sane.hears.announced
  upToDate := by
    intro other
    by_cases same : other = peer
    · subst same
      exact upToDate_announced current
    · exact (others other same).announced sane.names current same

end Announce

private theorem Sane.announce (sane : net.Sane) {peer : ℕ}
    (others : ∀ other, other ≠ peer → net.UpToDate other) : (net.announce peer).Sound := by
  cases current : net.current peer with
  | none =>
      rw [announce_of_offline current]
      refine ⟨sane, fun other => ?_⟩
      by_cases same : other = peer
      · subst same
        intro socket isCurrent
        rw [current] at isCurrent
        cases isCurrent
      · exact others other same
  | some socket =>
      rw [announce_of_current current]
      exact sane.announced current others

/-! ### What a provider does on its own -/

private theorem slot_update (peers : ℕ → Awareness) (peer : ℕ) (awareness : Awareness)
    (other id : ℕ) :
    (Function.update peers peer awareness other).slot id =
      if other = peer then awareness.slot id else (peers other).slot id := by
  by_cases same : other = peer
  · subst same
    rw [Function.update_self, if_pos rfl]
  · rw [Function.update_of_ne same, if_neg same]

/-- Clocks stay in order while own clocks grow, and an own clock that does not
grow keeps its state or its absence. -/
theorem Clocks.grow {after : PresenceNet Op} (clocks : net.Clocks)
    (server : after.server = net.server) (up : after.up = net.up)
    (down : ∀ socket, ∀ entry ∈ (after.down socket).flatten, entry ∈ (net.down socket).flatten)
    (grows : ∀ id, (net.ownSlot id).clock ≤ (after.ownSlot id).clock)
    (changes : ∀ id, (net.ownSlot id).clock = (after.ownSlot id).clock →
      ((net.ownSlot id).state = none ↔ (after.ownSlot id).state = none)) : after.Clocks where
  room id other := by
    unfold roomId roomSlot at *
    rw [server] at other ⊢
    exact Nat.le_trans (clocks.room id other) (grows id)
  up socket entry member := by
    rw [up] at member
    obtain ⟨bound, shows⟩ := clocks.up socket entry member
    refine ⟨Nat.le_trans bound (grows entry.clientId), fun same => ?_⟩
    have reached : entry.clock = (net.ownSlot entry.clientId).clock :=
      Nat.le_antisymm bound (same ▸ grows entry.clientId)
    rw [shows reached]
    exact changes entry.clientId (reached.symm.trans same)
  down socket entry member :=
    Nat.le_trans (clocks.down socket entry (down socket entry member)) (grows entry.clientId)

/-- A provider changes its own entry, and only that. -/
theorem Sane.updateOwn (sane : net.Sane) {peer : ℕ} (awareness : Awareness)
    (sameId : awareness.clientId = peer)
    (remote : ∀ id, id ≠ peer → awareness.slot id = (net.peers peer).slot id)
    (grows : (net.ownSlot peer).clock ≤ (awareness.slot peer).clock)
    (changes : (net.ownSlot peer).clock = (awareness.slot peer).clock →
      ((net.ownSlot peer).state = none ↔ (awareness.slot peer).state = none)) :
    ({ net with peers := Function.update net.peers peer awareness } : PresenceNet Op).Sane := by
  obtain ⟨names, clocks, owners, orders, hears⟩ := sane
  have names' : ({ net with peers := Function.update net.peers peer awareness } :
      PresenceNet Op).Names := by
    refine ⟨fun other => ?_, names.opened, names.notRoom, names.members, names.joined, names.up⟩
    by_cases same : other = peer
    · subst same
      exact (congrArg Awareness.clientId (Function.update_self _ _ _)).trans sameId
    · exact (congrArg Awareness.clientId (Function.update_of_ne same _ _)).trans (names.peers other)
  -- What one provider holds for another id has not changed.
  have others : ∀ other id, id ≠ other →
      (Function.update net.peers peer awareness other).slot id = (net.peers other).slot id := by
    intro other id different
    rw [slot_update]
    split
    · next same =>
        subst same
        exact remote id different
    · rfl
  have views : ∀ other socket id, id ≠ other →
      (({ net with peers := Function.update net.peers peer awareness } :
        PresenceNet Op).view other socket).slot id = (net.view other socket).slot id := by
    intro other socket id different
    rw [names'.slot_view socket different, names.slot_view socket different, others other id
      different]
  have own : ∀ id, id = peer ∧ ({ net with
      peers := Function.update net.peers peer awareness } : PresenceNet Op).ownSlot id =
        awareness.slot peer ∨ ({ net with
      peers := Function.update net.peers peer awareness } : PresenceNet Op).ownSlot id =
        net.ownSlot id := by
    intro id
    have slots := slot_update net.peers peer awareness id id
    by_cases same : id = peer
    · rw [if_pos same] at slots
      exact Or.inl ⟨same, same ▸ slots⟩
    · rw [if_neg same] at slots
      exact Or.inr slots
  have clocks' : ({ net with peers := Function.update net.peers peer awareness } :
      PresenceNet Op).Clocks := by
    refine clocks.grow rfl rfl (fun _ _ member => member) (fun id => ?_) fun id => ?_
    · rcases own id with ⟨rfl, isNew⟩ | same
      · rw [isNew]
        exact grows
      · rw [same]
    · rcases own id with ⟨rfl, isNew⟩ | same
      · rw [isNew]
        exact changes
      · rw [same]
        exact fun _ => Iff.rfl
  refine ⟨names', clocks', ⟨owners.room, owners.known, owners.joined, owners.owned⟩,
    ⟨orders.queues, orders.stale⟩, ⟨hears.waiting, ?_, ?_, ?_⟩⟩
  · intro other unjoined id different
    rw [← hears.unheard other unjoined id different]
    exact congrArg Slot.state (others other id different)
  · intro other socket current member id different present
    rw [views other socket id different] at present ⊢
    exact hears.agrees other socket current member id different present
  · intro other socket current member id different present newest
    rw [views other socket id different]
    exact hears.complete other socket current member id different present newest

theorem UpToDate.of_own {after : PresenceNet Op} {peer : ℕ} (upToDate : net.UpToDate peer)
    (current : after.current peer = net.current peer) (gone : net.gone ⊆ after.gone)
    (up : after.up = net.up) (server : after.server = net.server)
    (own : after.ownSlot peer = net.ownSlot peer) : after.UpToDate peer := by
  intro socket isCurrent notGone
  have before := upToDate socket (current ▸ isCurrent) fun member => notGone (gone member)
  unfold Latest roomSlot at before ⊢
  rw [up, server, own]
  exact before

theorem Sound.setLocalState (sound : net.Sound) (peer : ℕ) (state : Option String) :
    (net.setLocalState peer state).Sound := by
  have sameId := sound.names.peers peer
  have slots := (net.peers peer).slot_setLocalState state
  have own : ((net.peers peer).setLocalState state).slot peer =
      ⟨(net.ownSlot peer).clock + 1, state⟩ := by
    rw [slots, sameId, if_pos rfl]
  have changed := sound.toSane.updateOwn ((net.peers peer).setLocalState state) sameId
    (fun id different => by rw [slots, sameId, if_neg different])
    (by rw [own]; exact Nat.le_succ _)
    (fun same => by
      rw [own] at same
      exact absurd same (Nat.ne_of_lt (Nat.lt_succ_self _)))
  refine changed.announce fun other different => ?_
  refine (sound.upToDate other).of_own rfl (List.Subset.refl _) rfl rfl ?_
  show (Function.update net.peers peer _ other).slot other = _
  rw [slot_update, if_neg different]

/-! ### Opening a socket -/

section Connect

variable {peer socket : ℕ}

/-- A new socket, on which nothing has been announced yet. -/
def attach (net : PresenceNet Op) (peer socket : ℕ) : PresenceNet Op :=
  { net with
    current := Function.update net.current peer (some socket)
    opener := Function.update net.opener socket (some peer) }

/-- The new socket of a provider belongs to nothing that is there already. -/
structure Fresh (net : PresenceNet Op) (peer socket : ℕ) : Prop where
  notRoom : peer ≠ net.roomId
  offline : net.current peer = none
  noQueue : net.up socket = []
  notJoined : socket ∉ net.server.joined
  notOwner : ∀ id, net.server.owner id ≠ some socket
  notCurrent : ∀ other, net.current other ≠ some socket

private theorem Sane.fresh (sane : net.Sane) (notRoom : peer ≠ net.roomId)
    (offline : net.current peer = none) (unopened : net.opener socket = none) :
    net.Fresh peer socket := by
  have notJoined : socket ∉ net.server.joined := by
    intro member
    have known := sane.names.joined socket member
    rw [unopened] at known
    cases known
  refine ⟨notRoom, offline, ?_, notJoined, ?_, ?_⟩
  · rw [List.eq_nil_iff_forall_not_mem]
    intro entry member
    rw [sane.names.up socket entry member] at unopened
    cases unopened
  · exact fun id owner => notJoined (sane.owners.joined id socket owner)
  · intro other current
    rw [sane.names.opened other socket current] at unopened
    cases unopened

/-- Nobody else's socket has changed. -/
theorem current_attach {other now : ℕ}
    (current : (net.attach peer socket).current other = some now) :
    other = peer ∧ now = socket ∨ other ≠ peer ∧ net.current other = some now := by
  change Function.update net.current peer (some socket) other = some now at current
  by_cases same : other = peer
  · subst same
    rw [Function.update_self] at current
    exact Or.inl ⟨rfl, (Option.some.inj current).symm⟩
  · rw [Function.update_of_ne same] at current
    exact Or.inr ⟨same, current⟩

/-- No other socket's provider has changed. -/
theorem opener_attach {other : ℕ} (different : other ≠ socket) :
    (net.attach peer socket).opener other = net.opener other :=
  Function.update_of_ne different _ _

variable (fresh : net.Fresh peer socket)
include fresh

private theorem Fresh.ne_of_queued {other : ℕ} {entry : AwarenessEntry}
    (member : entry ∈ net.up other) :
    other ≠ socket := by
  rintro rfl
  rw [fresh.noQueue] at member
  cases member

private theorem Fresh.names (names : net.Names) : (net.attach peer socket).Names where
  peers := names.peers
  opened other now current := by
    rcases current_attach current with ⟨rfl, rfl⟩ | ⟨-, before⟩
    · exact Function.update_self _ _ _
    · have different : now ≠ socket := by
        rintro rfl
        exact fresh.notCurrent other before
      exact (opener_attach different).trans (names.opened other now before)
  notRoom other owner opener := by
    by_cases same : other = socket
    · subst same
      have isPeer : (net.attach peer other).opener other = some peer := Function.update_self _ _ _
      exact Option.some.inj (isPeer.symm.trans opener) ▸ fresh.notRoom
    · exact names.notRoom other owner ((opener_attach same).symm.trans opener)
  members := names.members
  joined other member := by
    have different : other ≠ socket := fun same => fresh.notJoined (same ▸ member)
    exact (congrArg Option.isSome (opener_attach different)).trans (names.joined other member)
  up other entry member :=
    (opener_attach (fresh.ne_of_queued member)).trans (names.up other entry member)

private theorem Fresh.owners (owners : net.Owners) : (net.attach peer socket).Owners where
  room := owners.room
  known := owners.known
  joined := owners.joined
  owned id present := by
    obtain ⟨from_, member, owner, opener⟩ := owners.owned id present
    have different : from_ ≠ socket := fun same => fresh.notOwner id (same ▸ owner)
    exact ⟨from_, member, owner, (opener_attach different).trans opener⟩

private theorem Fresh.orders (orders : net.Orders) : (net.attach peer socket).Orders where
  queues other now older current opener different earlier isEarlier later isLater := by
    have notFresh := fresh.ne_of_queued isEarlier
    rcases current_attach current with ⟨rfl, rfl⟩ | ⟨-, before⟩
    · exact absurd rfl (fresh.ne_of_queued isLater)
    · exact orders.queues other now older before ((opener_attach notFresh).symm.trans opener)
        different earlier isEarlier later isLater
  stale other now older current owner present opener different earlier isEarlier := by
    have notFresh := fresh.ne_of_queued isEarlier
    rcases current_attach current with ⟨rfl, rfl⟩ | ⟨-, before⟩
    · exact absurd owner (fresh.notOwner other)
    · exact orders.stale other now older before owner present
        ((opener_attach notFresh).symm.trans opener) different earlier isEarlier

private theorem Fresh.hears (names : net.Names) (hears : net.Hears) :
    (net.attach peer socket).Hears where
  waiting := hears.waiting
  unheard other unjoined id different := by
    refine hears.unheard other (fun now current => ?_) id different
    refine unjoined now ?_
    have notPeer : other ≠ peer := by
      rintro rfl
      rw [fresh.offline] at current
      cases current
    exact (Function.update_of_ne notPeer _ _).trans current
  agrees other now current member id different present := by
    rcases current_attach current with ⟨rfl, rfl⟩ | ⟨-, before⟩
    · exact absurd ((names.members now).mp member).1 fresh.notJoined
    · exact hears.agrees other now before member id different present
  complete other now current member id different present newest := by
    obtain ⟨from_, owner, isCurrent, empty⟩ := newest
    rcases current_attach current with ⟨rfl, rfl⟩ | ⟨-, before⟩
    · exact absurd ((names.members now).mp member).1 fresh.notJoined
    · rcases current_attach isCurrent with ⟨-, rfl⟩ | ⟨-, isCurrentBefore⟩
      · exact absurd owner (fresh.notOwner id)
      · exact hears.complete other now before member id different present
          ⟨from_, owner, isCurrentBefore, empty⟩

private theorem Fresh.sane (sane : net.Sane) : (net.attach peer socket).Sane := by
  obtain ⟨names, clocks, owners, orders, hears⟩ := sane
  exact ⟨fresh.names names, ⟨clocks.room, clocks.up, clocks.down⟩, fresh.owners owners,
    fresh.orders orders, fresh.hears names hears⟩

/-- Nothing is announced, and the room holds nothing from the new socket. -/
theorem Fresh.upToDate (absent : peer ∉ (net.peers peer).states) :
    (net.attach peer socket).UpToDate peer := by
  intro now current _
  rcases current_attach current with ⟨-, rfl⟩ | ⟨different, -⟩
  · have own : (net.ownSlot peer).state = none := by
      by_contra present
      exact absent ((Awareness.mem_states_iff _ _).mpr present)
    have queue : (net.attach peer now).up now = [] := fresh.noQueue
    unfold Latest
    rw [queue]
    exact iff_of_false (fun present => present own) fun both => fresh.notOwner peer both.2
  · exact absurd rfl different

omit fresh in
theorem Sound.connect (sound : net.Sound) (notRoom : peer ≠ net.roomId)
    (offline : net.current peer = none) (unopened : net.opener socket = none) :
    (net.connect peer socket).Sound := by
  have fresh := sound.toSane.fresh notRoom offline unopened
  have attached := fresh.sane sound.toSane
  have others : ∀ other, other ≠ peer → (net.attach peer socket).UpToDate other :=
    fun other different => (sound.upToDate other).of_own (Function.update_of_ne different _ _)
      (List.Subset.refl _) rfl rfl rfl
  show (if peer ∈ (net.peers peer).states then (net.attach peer socket).announce peer
    else net.attach peer socket).Sound
  split
  · exact attached.announce others
  · next absent =>
      refine ⟨attached, fun other => ?_⟩
      by_cases same : other = peer
      · subst same
        exact fresh.upToDate absent
      · exact others other same

end Connect

/-! ### Losing a socket -/

section Lose

variable {peer : ℕ}

/-- Whoever still has a socket is another provider, and had it before. -/
theorem current_lose {other now : ℕ} (current : (net.lose peer).current other = some now) :
    other ≠ peer ∧ net.current other = some now := by
  have updated : Function.update net.current peer none other = some now := current
  by_cases same : other = peer
  · subst same
    rw [Function.update_self] at updated
    cases updated
  · rw [Function.update_of_ne same] at updated
    exact ⟨same, updated⟩

private theorem peers_lose_self : (net.lose peer).peers peer = ((net.peers peer).removeStates
    ((net.peers peer).states.keys.filter fun id => id ≠ peer)).1 :=
  Function.update_self _ _ _

private theorem peers_lose_of_ne {other : ℕ} (different : other ≠ peer) :
    (net.lose peer).peers other = net.peers other :=
  Function.update_of_ne different _ _

private theorem view_lose_of_ne {other : ℕ} (now : ℕ) (different : other ≠ peer) :
    (net.lose peer).view other now = net.view other now := by
  unfold view
  rw [peers_lose_of_ne different]
  rfl

/-- Nobody forgets a state of its own. -/
theorem ownSlot_lose (id : ℕ) : (net.lose peer).ownSlot id = net.ownSlot id := by
  by_cases same : id = peer
  · subst same
    have notListed : id ∉ (net.peers id).states.keys.filter fun other => other ≠ id :=
      fun member => of_decide_eq_true (List.mem_filter.mp member).2 rfl
    unfold ownSlot
    rw [peers_lose_self, Awareness.slot_removeStates _ _ (Or.inr notListed), if_neg notListed]
  · exact congrArg (fun awareness => awareness.slot id) (peers_lose_of_ne same)

/-- Who has lost its socket shows nobody else. -/
theorem Names.forgets (names : net.Names) {id : ℕ} (different : id ≠ peer) :
    (((net.lose peer).peers peer).slot id).state = none := by
  have remote : id ≠ (net.peers peer).clientId := by
    rw [names.peers]
    exact different
  rw [peers_lose_self, Awareness.slot_removeStates _ _ (Or.inl remote)]
  split
  · rfl
  · next notListed =>
      by_contra present
      refine notListed (List.mem_filter.mpr ⟨?_, decide_eq_true different⟩)
      exact (Awareness.mem_states_iff _ id).mpr present

private theorem Names.lose (names : net.Names) : (net.lose peer).Names where
  peers := by
    intro other
    by_cases same : other = peer
    · subst same
      rw [peers_lose_self, Awareness.clientId_removeStates, names.peers]
    · rw [peers_lose_of_ne same, names.peers]
  opened := fun other now current => names.opened other now (current_lose current).2
  notRoom := names.notRoom
  members := names.members
  joined := names.joined
  up := names.up

private theorem Orders.lose (orders : net.Orders) : (net.lose peer).Orders where
  queues := fun other now older current =>
    orders.queues other now older (current_lose current).2
  stale := fun other now older current =>
    orders.stale other now older (current_lose current).2

private theorem Hears.lose (names : net.Names) (hears : net.Hears) : (net.lose peer).Hears where
  waiting := hears.waiting
  unheard := by
    intro other unjoined id different
    by_cases same : other = peer
    · subst same
      exact names.forgets different
    · rw [peers_lose_of_ne same]
      refine hears.unheard other (fun now current => unjoined now ?_) id different
      exact (Function.update_of_ne same _ _).trans current
  agrees := by
    intro other now current member id different present
    obtain ⟨notPeer, before⟩ := current_lose current
    rw [view_lose_of_ne now notPeer] at present ⊢
    exact hears.agrees other now before member id different present
  complete := by
    rintro other now current member id different present ⟨from_, owner, isCurrent, empty⟩
    obtain ⟨notPeer, before⟩ := current_lose current
    rw [view_lose_of_ne now notPeer]
    exact hears.complete other now before member id different present
      ⟨from_, owner, (current_lose isCurrent).2, empty⟩

private theorem UpToDate.lose {other : ℕ} (upToDate : net.UpToDate other) :
    (net.lose peer).UpToDate other := by
  intro now current notGone
  have latest := upToDate now (current_lose current).2 notGone
  unfold Latest at latest ⊢
  rw [ownSlot_lose]
  exact latest

/-- A provider that loses its socket forgets the states of everybody else. -/
theorem Sound.lose (sound : net.Sound) (peer : ℕ) : (net.lose peer).Sound where
  names := sound.names.lose
  clocks := sound.clocks.grow rfl rfl (fun _ _ member => member)
    (fun id => by rw [ownSlot_lose]) fun id _ => by rw [ownSlot_lose]
  owners := ⟨sound.owners.room, sound.owners.known, sound.owners.joined, sound.owners.owned⟩
  orders := sound.orders.lose
  hears := sound.hears.lose sound.names
  upToDate := fun other => (sound.upToDate other).lose

end Lose

/-! ### Receiving a frame -/

section Receive

variable {peer socket : ℕ} {frame : List AwarenessEntry} {rest : List (List AwarenessEntry)}

private theorem peers_receive_self :
    (net.receive peer socket frame rest).peers peer = (net.peers peer).heard frame :=
  Function.update_self _ _ _

private theorem peers_receive_of_ne {other : ℕ} (different : other ≠ peer) :
    (net.receive peer socket frame rest).peers other = net.peers other :=
  Function.update_of_ne different _ _

private theorem down_receive_self : (net.receive peer socket frame rest).down socket = rest :=
  Function.update_self _ _ _

private theorem down_receive_of_ne {other : ℕ} (different : other ≠ socket) :
    (net.receive peer socket frame rest).down other = net.down other :=
  Function.update_of_ne different _ _

private theorem ownSlot_receive_of_ne {other : ℕ} (different : other ≠ peer) :
    (net.receive peer socket frame rest).ownSlot other = net.ownSlot other :=
  congrArg (fun awareness => awareness.slot other) (peers_receive_of_ne different)

/-- What is known of the provider itself on the way is not newer than itself. -/
structure KeepsOwn (net after : PresenceNet Op) (peer : ℕ) : Prop where
  state : (net.ownSlot peer).state = none ↔ (after.ownSlot peer).state = none
  grows : (net.ownSlot peer).clock ≤ (after.ownSlot peer).clock
  unchanged : (net.ownSlot peer).state = none → after.ownSlot peer = net.ownSlot peer

variable (down : net.down socket = frame :: rest)
include down

private theorem Names.keepsOwn (names : net.Names) (clocks : net.Clocks) :
    net.KeepsOwn (net.receive peer socket frame rest) peer := by
  have own : (net.receive peer socket frame rest).ownSlot peer =
      (net.ownSlot peer).hearAll true (frame.filter fun entry => entry.clientId = peer) := by
    unfold ownSlot
    rw [peers_receive_self, Awareness.slot_heard, names.peers, decide_eq_true rfl]
  have notNewer : ∀ entry ∈ frame.filter fun entry => entry.clientId = peer,
      entry.clock ≤ (net.ownSlot peer).clock := by
    intro entry member
    obtain ⟨inFrame, isPeer⟩ := List.mem_filter.mp member
    have bound := clocks.down socket entry
      (by rw [down]; exact List.mem_append_left _ inFrame)
    rwa [show entry.clientId = peer from of_decide_eq_true isPeer] at bound
  obtain ⟨keeps, grows, unchanged⟩ := Slot.hearAll_local notNewer
  rw [← own] at keeps grows unchanged
  exact ⟨by rw [keeps], grows, unchanged⟩

/-- What has arrived counts as what was on its way. -/
theorem Names.view_receive (names : net.Names) (current : net.current peer = some socket)
    {other now : ℕ} (isCurrent : net.current other = some now) :
    (net.receive peer socket frame rest).view other now = net.view other now := by
  unfold view
  by_cases same : other = peer
  · subst same
    have here : now = socket := Option.some.inj (isCurrent.symm.trans current)
    subst here
    rw [peers_receive_self, down_receive_self, down, List.flatten_cons, Awareness.heard_append]
  · have notHere : now ≠ socket := by
      rintro rfl
      exact same (names.current_inj isCurrent current)
    rw [peers_receive_of_ne same, down_receive_of_ne notHere]

omit down in
private theorem Names.receive (names : net.Names) : (net.receive peer socket frame rest).Names := by
  refine ⟨fun other => ?_, names.opened, names.notRoom, names.members, names.joined, names.up⟩
  by_cases same : other = peer
  · subst same
    rw [peers_receive_self, Awareness.clientId_heard, names.peers]
  · rw [peers_receive_of_ne same, names.peers]

private theorem Clocks.receive (clocks : net.Clocks)
    (keeps : net.KeepsOwn (net.receive peer socket frame rest) peer) :
    (net.receive peer socket frame rest).Clocks := by
  refine clocks.grow rfl rfl (fun other entry member => ?_) (fun id => ?_) (fun id _ => ?_)
  · by_cases same : other = socket
    · subst same
      rw [down_receive_self] at member
      rw [down]
      exact List.mem_append_right _ member
    · rwa [down_receive_of_ne same] at member
  · by_cases same : id = peer
    · subst same
      exact keeps.grows
    · rw [ownSlot_receive_of_ne same]
  · by_cases same : id = peer
    · subst same
      exact keeps.state
    · rw [ownSlot_receive_of_ne same]

private theorem Hears.receive (hears : net.Hears) (names : net.Names)
    (current : net.current peer = some socket) :
    (net.receive peer socket frame rest).Hears := by
  have joined : socket ∈ net.server.joined := by
    by_contra notJoined
    rw [hears.waiting socket notJoined] at down
    cases down
  constructor
  case waiting =>
    intro other notJoined
    have notHere : other ≠ socket := fun same => notJoined (same ▸ joined)
    rw [down_receive_of_ne notHere]
    exact hears.waiting other notJoined
  case unheard =>
    intro other unjoined id different
    by_cases same : other = peer
    · subst same
      exact absurd joined (unjoined socket current)
    · rw [peers_receive_of_ne same]
      exact hears.unheard other unjoined id different
  case agrees =>
    intro other now isCurrent member id different present
    rw [names.view_receive down current isCurrent] at present ⊢
    exact hears.agrees other now isCurrent member id different present
  case complete =>
    intro other now isCurrent member id different present newest
    rw [names.view_receive down current isCurrent]
    exact hears.complete other now isCurrent member id different present newest

omit down in
private theorem UpToDate.receive {other : ℕ} (upToDate : net.UpToDate other)
    (keeps : net.KeepsOwn (net.receive peer socket frame rest) peer) :
    (net.receive peer socket frame rest).UpToDate other := by
  intro now isCurrent notGone
  have latest := upToDate now isCurrent notGone
  by_cases same : other = peer
  · subst same
    unfold Latest at latest ⊢
    rw [ne_eq, ← keeps.state]
    split
    · next nothing =>
        rw [show (net.up now).getLast? = none from nothing] at latest
        exact latest
    · next entry isLast =>
        rw [show (net.up now).getLast? = some entry from isLast] at latest
        refine ⟨latest.1, fun absent => ?_⟩
        rw [keeps.unchanged (latest.1.mp absent)]
        exact latest.2 absent
  · unfold Latest at latest ⊢
    rw [ownSlot_receive_of_ne same]
    exact latest

/-- A frame moves from the way to a provider into its awareness. -/
theorem Sound.receive (sound : net.Sound) (current : net.current peer = some socket) :
    (net.receive peer socket frame rest).Sound := by
  obtain ⟨⟨names, clocks, owners, orders, hears⟩, upToDate⟩ := sound
  have keeps : net.KeepsOwn (net.receive peer socket frame rest) peer :=
    names.keepsOwn down clocks
  exact ⟨⟨names.receive, clocks.receive down keeps,
    ⟨owners.room, owners.known, owners.joined, owners.owned⟩, ⟨orders.queues, orders.stale⟩,
    hears.receive down names current⟩, fun other => (upToDate other).receive keeps⟩

end Receive

end PresenceNet

end CollabEditor.Web
