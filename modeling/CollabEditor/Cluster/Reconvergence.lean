import CollabEditor.Cluster.Handoff

/-!
Owns what one further instance's open does to instances that hold the document
open in different states: each of them answers the state request with all it
has, so every room ends up with what any of them held. The state the opener
read from the store stays with the opener.

Assumes what `Cluster.Relay` does: a shared store, and a bus that delivers what
is published from the state request on.
-/

namespace CollabEditor

open CollabEditor.Library CollabEditor.Yjs CollabEditor.Persistence CollabEditor.Rooms
open CollabEditor.Instance

universe u v w

variable {Conn : Type v} {Op : Type u} {Entry : Type w} [DecidableEq Conn] [DecidableEq Op]
  [Causality Op] {n : ℕ}

namespace Instance.Slot

/-- The document of the open room. -/
def openDocument (slot : Slot Conn Op Entry) : Option (Doc Op) :=
  slot.registered.bind fun room => slot.objects[room]?.map fun object => object.room.doc

/-- An event does not close the open room. -/
def StaysOpen (setup : Setup Op Entry) (slot : Slot Conn Op Entry)
    (event : SlotEvent Conn Op) : Prop :=
  slot.registered.isSome → ∀ after ∈ slot.step setup event, after.registered.isSome

instance (setup : Setup Op Entry) (slot : Slot Conn Op Entry) (event : SlotEvent Conn Op) :
    Decidable (slot.StaysOpen setup event) :=
  inferInstanceAs (Decidable (slot.registered.isSome →
    ∀ after ∈ slot.step setup event, after.registered.isSome))

omit [DecidableEq Conn] [DecidableEq Op] [Causality Op] in
private theorem Coherent.openDocument_eq {slot : Slot Conn Op Entry} (coherent : slot.Coherent)
    (isOpen : slot.registered.isSome) : slot.openDocument = some ⟨slot.document⟩ := by
  obtain ⟨room, registered⟩ := Option.isSome_iff_exists.mp isOpen
  obtain ⟨-, object, found, -⟩ := coherent.current room registered
  rw [document_eq registered found]
  simp [openDocument, registered, found]

/-- No load starts while a room is open. -/
theorem Coherent.settled_of_step {before after : Slot Conn Op Entry}
    (coherent : before.Coherent) {setup : Setup Op Entry} {event : SlotEvent Conn Op}
    (stepped : before.step setup event = some after) (settled : before.opening = none)
    (still : after.registered.isSome) : after.opening = none := by
  cases opening : after.opening with
  | none => rfl
  | some load =>
      have loads := ((coherent.step stepped).loading load opening).2.2
      have opened : ∃ room, load.progress = .opened room := by
        obtain ⟨room, registered⟩ := Option.isSome_iff_exists.mp still
        cases progress : load.progress with
        | opened room => exact ⟨room, rfl⟩
        | reading | read _ | failed | subscribing _ _ =>
            rw [progress] at loads
            exact absurd (registered.symm.trans loads.1) nofun
      obtain ⟨room, progress⟩ := opened
      rcases progress_of_step stepped opening with ⟨earlier, was, -⟩ | origin
      · exact absurd (settled.symm.trans was) nofun
      · rw [progress] at origin
        obtain ⟨-, _, _, was⟩ := origin
        exact absurd (settled.symm.trans was) nofun

private theorem opening_of_subscribed {before after : Slot Conn Op Entry} {setup : Setup Op Entry}
    (stepped : before.step setup .subscribed = some after) : ∃ room state waiters,
      before.opening = some ⟨.subscribing room state, waiters⟩ ∧
      after.opening = some ⟨.opened room, waiters⟩ := by
  cases fires_of_step stepped with
  | registers room state waiters opening => exact ⟨room, state, waiters, opening, rfl⟩

private theorem opening_of_storeRead {before after : Slot Conn Op Entry} {setup : Setup Op Entry}
    (stepped : before.step setup .storeRead = some after) :
    ∃ waiters, after.opening = some ⟨.read (setup.store.load before.entry), waiters⟩ := by
  cases fires_of_step stepped with
  | reads waiters opening => exact ⟨waiters, rfl⟩

end Instance.Slot

namespace Cluster

/-- All open rooms hold the same document. -/
def Agree (cluster : Cluster n Conn Op Entry) : Prop :=
  ∀ first second, ∀ doc ∈ (cluster.slots first).openDocument,
    ∀ doc' ∈ (cluster.slots second).openDocument, doc = doc'

/-- What the instances other than the opener hold between them. -/
def holdings (cluster : Cluster n Conn Op Entry) (opener : Fin n) : Update Op :=
  mergeUpdates (((List.finRange n).filter fun server => server ≠ opener).map
    fun server => (cluster.slots server).document)

omit [DecidableEq Conn] [Causality Op] in
private theorem mem_holdings {cluster : Cluster n Conn Op Entry} {opener : Fin n} {op : Op} :
    op ∈ cluster.holdings opener ↔
      ∃ server, server ≠ opener ∧ op ∈ (cluster.slots server).document := by
  simp [holdings, mem_mergeUpdates]

end Cluster

/-- A cluster, with the stored state the opener last read. -/
structure Reopening (n : ℕ) (Conn : Type v) (Op : Type u) (Entry : Type w) where
  cluster : Cluster n Conn Op Entry
  read : Update Op

namespace Reopening

def readAfter (setup : Setup Op Entry) (opener : Fin n) (state : Reopening n Conn Op Entry) :
    ClusterEvent n Conn Op → Update Op
  | .runs server .storeRead =>
      if server = opener then (setup.store.load state.cluster.entry).content else state.read
  | _ => state.read

def step (setup : Setup Op Entry) (opener : Fin n) (state : Reopening n Conn Op Entry)
    (event : ClusterEvent n Conn Op) : Option (Reopening n Conn Op Entry) :=
  (state.cluster.step setup event).map fun cluster => ⟨cluster, state.readAfter setup opener event⟩

/-- Every other instance has the document open with a client, in any state, the
opener has not, and no earlier message is on its way. -/
structure Partitioned (opener : Fin n) (state : Reopening n Conn Op Entry) : Prop where
  coherent : state.cluster.Coherent
  holders : ∀ server, server ≠ opener → (state.cluster.slots server).attended = true ∧
    state.cluster.subscribed server = true
  unopened : (state.cluster.slots opener).registered = none ∧
    (state.cluster.slots opener).opening = none
  lost : state.cluster.inFlight = []

/-- No client edits and no room closes. -/
def Quiet (setup : Setup Op Entry) (state : Reopening n Conn Op Entry) :
    ClusterEvent n Conn Op → Prop
  | .runs server event => event.offered ⊆ (state.cluster.slots server).document ∧
      (state.cluster.slot server).StaysOpen setup event
  | _ => True

instance (setup : Setup Op Entry) (state : Reopening n Conn Op Entry) :
    ∀ event, Decidable (state.Quiet setup event)
  | .runs server event => inferInstanceAs (Decidable
      (event.offered ⊆ (state.cluster.slots server).document ∧
        (state.cluster.slot server).StaysOpen setup event))
  | .subscribe _ | .unsubscribe _ | .deliver _ => isTrue trivial

end Reopening

namespace Cluster

variable {setup : Setup Op Entry} {opener : Fin n}

/-! ### Who is there -/

/-- Who is there while the opener opens the document. -/
structure Staffed (opener : Fin n) (cluster : Cluster n Conn Op Entry) : Prop where
  coherent : cluster.Coherent
  isOpen : ∀ server, server ≠ opener → (cluster.slots server).registered.isSome
  settled : ∀ server, server ≠ opener → (cluster.slots server).opening = none
  subscribed : ∀ server, (cluster.slots server).registered.isSome →
    cluster.subscribed server = true
  addressed : (opener, .stateRequest) ∉ cluster.inFlight

omit [DecidableEq Conn] [DecidableEq Op] [Causality Op] in
private theorem staffed_of_partitioned {state : Reopening n Conn Op Entry}
    (partitioned : state.Partitioned opener) : state.cluster.Staffed opener where
  coherent := partitioned.coherent
  isOpen := fun server holder => ((partitioned.coherent server).attended_iff.mp
    (partitioned.holders server holder).1).1
  settled := fun server holder => ((partitioned.coherent server).attended_iff.mp
    (partitioned.holders server holder).1).2
  subscribed := fun server registered => by
    by_cases isOpener : server = opener
    · subst isOpener
      rw [partitioned.unopened.1] at registered
      cases registered
    · exact (partitioned.holders server isOpener).2
  addressed := by
    rw [partitioned.lost]
    exact List.not_mem_nil

/-- Only the opener ends a load. -/
theorem Staffed.opener_of_subscribed {before after : Cluster n Conn Op Entry} {server : Fin n}
    (staffed : before.Staffed opener) (handles : Handles setup before after server .subscribed) :
    server = opener := by
  by_contra holder
  obtain ⟨_, _, _, opening, -⟩ := Slot.opening_of_subscribed handles.stepped
  exact absurd ((staffed.settled server holder).symm.trans opening) nofun

omit [DecidableEq Conn] [DecidableEq Op] [Causality Op] in
private theorem Staffed.taken {cluster : Cluster n Conn Op Entry} (staffed : cluster.Staffed opener)
    (index : ℕ) : ({ cluster with inFlight := cluster.inFlight.eraseIdx index } :
      Cluster n Conn Op Entry).Staffed opener where
  coherent := staffed.coherent
  isOpen := staffed.isOpen
  settled := staffed.settled
  subscribed := staffed.subscribed
  addressed := fun member => staffed.addressed (List.mem_of_mem_eraseIdx member)

private theorem Staffed.handled {before after : Cluster n Conn Op Entry} {server : Fin n}
    {event : SlotEvent Conn Op} (staffed : before.Staffed opener)
    (handles : Handles setup before after server event)
    (ready : event = .subscribed → before.subscribed server = true)
    (stays : (before.slot server).StaysOpen setup event) : after.Staffed opener := by
  have stillOpen : ∀ other, (before.slots other).registered.isSome →
      (after.slots other).registered.isSome := by
    intro other isOpen
    by_cases here : other = server
    · subst here
      show (after.slot other).registered.isSome
      exact stays isOpen _ handles.stepped
    · rw [handles.others other here]
      exact isOpen
  refine ⟨handles.coherent staffed.coherent, fun other holder => ?_, fun other holder => ?_,
    fun other registered => ?_, fun addressed => ?_⟩
  · exact stillOpen other (staffed.isOpen other holder)
  · by_cases here : other = server
    · subst here
      show (after.slot other).opening = none
      exact (coherent_slot staffed.coherent other).settled_of_step handles.stepped
        (staffed.settled other holder) (stillOpen other (staffed.isOpen other holder))
    · rw [handles.others other here]
      exact staffed.settled other holder
  · rw [handles.subscribed]
    by_cases opens : event = .subscribed ∧ server = other
    · exact opens.2 ▸ ready opens.1
    · exact staffed.subscribed other (handles.registered
        (fun same isSubscribed => opens ⟨isSubscribed, same.symm⟩) registered)
  · rcases (handles.inFlight _).mp addressed with was | ⟨message, publishes, copy⟩
    · exact staffed.addressed was
    · obtain ⟨elsewhere, -, rfl⟩ := mem_copies.mp copy
      cases (coherent_slot staffed.coherent server).publishes_of_mem publishes with
      | requests isSubscribed =>
          subst isSubscribed
          exact elsewhere (staffed.opener_of_subscribed handles).symm

/-! ### What the documents hold -/

/-- What the documents and the messages hold at most, and the opener's at least. -/
structure Bounded (opener : Fin n) (held : Update Op) (cluster : Cluster n Conn Op Entry)
    (read : Update Op) : Prop where
  carried : ∀ copy ∈ cluster.inFlight, copy.2.carried ⊆ held
  holders : ∀ server, server ≠ opener → (cluster.slots server).document ⊆ held
  fetched : ∀ loaded waiters, (cluster.slots opener).opening = some ⟨.read loaded, waiters⟩ →
    loaded.content = read
  loading : ∀ room state waiters,
    (cluster.slots opener).opening = some ⟨.subscribing room state, waiters⟩ →
    read ⊆ (cluster.slots opener).upcoming ∧ (cluster.slots opener).upcoming ⊆ read ∪ held
  opened : (cluster.slots opener).registered.isSome → read ⊆ (cluster.slots opener).document
  within : (cluster.slots opener).document ⊆ read ∪ held

/-- What an event of the cluster brings an instance is in its document already
or comes from the holders. -/
def Familiar (held : Update Op) (cluster : Cluster n Conn Op Entry) (server : Fin n)
    (event : SlotEvent Conn Op) : Prop :=
  event.offered ⊆ (cluster.slots server).document ∪ held ∧
    ∀ conn frame, event = .frame conn frame → frame.carried ⊆ (cluster.slots server).document

private theorem Bounded.carried_of_handles {held read : Update Op}
    {before after : Cluster n Conn Op Entry}
    {server : Fin n} {event : SlotEvent Conn Op} (bounded : Bounded opener held before read)
    (coherent : before.Coherent) (handles : Handles setup before after server event)
    (familiar : Familiar held before server event)
    (asked : event = .bus .stateRequest → server ≠ opener) :
    ∀ copy ∈ after.inFlight, copy.2.carried ⊆ held := by
  rintro ⟨receiver, message⟩ member
  rcases (handles.inFlight _).mp member with was | ⟨sent, publishes, copy⟩
  · exact bounded.carried _ was
  · obtain ⟨-, -, rfl⟩ := mem_copies.mp copy
    have published := (coherent_slot coherent server).publishes_of_mem publishes
    rcases published.carried familiar.2 with nothing | ⟨isRequest, whole⟩
    · rw [nothing]
      exact Finset.empty_subset _
    · rw [whole]
      exact bounded.holders server (asked isRequest)

/-- The opener registers its room. -/
theorem Bounded.subscribed {held read : Update Op} {before after : Cluster n Conn Op Entry}
    (bounded : Bounded opener held before read) (staffed : before.Staffed opener)
    (handles : Handles setup before after opener .subscribed)
    (carried : ∀ copy ∈ after.inFlight, copy.2.carried ⊆ held) :
    Bounded opener held after read := by
  have coherent := coherent_slot staffed.coherent opener
  obtain ⟨room, state, waiters, opening, opened⟩ := Slot.opening_of_subscribed handles.stepped
  have document : (after.slots opener).document = (before.slots opener).upcoming := by
    show (after.slot opener).document = (before.slot opener).upcoming
    exact coherent.document_of_subscribed handles.stepped
  obtain ⟨holds, within⟩ := bounded.loading room state waiters opening
  refine ⟨carried, fun other holder => ?_, fun _ _ still => ?_, fun _ _ _ still => ?_,
    fun _ => document ▸ holds, document ▸ within⟩
  · rw [handles.others other holder]
    exact bounded.holders other holder
  · exact absurd (opened.symm.trans still) nofun
  · exact absurd (opened.symm.trans still) nofun

/-- Anything else the opener does. -/
theorem Bounded.handled_opener {held read : Update Op} {before after : Cluster n Conn Op Entry}
    {event : SlotEvent Conn Op} (bounded : Bounded opener held before read)
    (staffed : before.Staffed opener) (handles : Handles setup before after opener event)
    (familiar : Familiar held before opener event)
    (carried : ∀ copy ∈ after.inFlight, copy.2.carried ⊆ held)
    (notSubscribed : event ≠ .subscribed) (notRead : event ≠ .storeRead) :
    Bounded opener held after read := by
  have coherent := coherent_slot staffed.coherent opener
  have offered : event.offered ⊆ read ∪ held :=
    familiar.1.trans (Finset.union_subset bounded.within Finset.subset_union_right)
  have document := handles.document_subset staffed.coherent notSubscribed
  refine ⟨carried, fun other holder => ?_, fun loaded waiters opening => ?_,
    fun room state waiters opening => ?_, fun registered => ?_,
    document.trans (Finset.union_subset bounded.within offered)⟩
  · rw [handles.others other holder]
    exact bounded.holders other holder
  · rcases Slot.progress_of_step handles.stepped opening with
      ⟨⟨progress, waiters'⟩, was, rfl⟩ | ⟨isRead, -⟩
    · exact bounded.fetched loaded waiters' was
    · exact absurd isRead notRead
  · rcases coherent.upcoming_of_step handles.stepped opening with
      ⟨loaded, waiters', was, upcoming⟩ | ⟨⟨waiters', was⟩, grows, upcoming⟩
    · have same := bounded.fetched loaded waiters' was
      subst same
      exact ⟨upcoming.symm.subset, upcoming.subset.trans Finset.subset_union_left⟩
    · obtain ⟨holds, within⟩ := bounded.loading room state waiters' was
      exact ⟨holds.trans grows, upcoming.trans (Finset.union_subset within offered)⟩
  · have was := handles.registered (fun _ => notSubscribed) registered
    exact (bounded.opened was).trans (handles.document staffed.coherent was registered)

/-- A holder learns nothing it does not hold. -/
theorem Bounded.handled_holder {held read : Update Op} {before after : Cluster n Conn Op Entry}
    {server : Fin n} {event : SlotEvent Conn Op} (bounded : Bounded opener held before read)
    (staffed : before.Staffed opener) (handles : Handles setup before after server event)
    (familiar : Familiar held before server event)
    (carried : ∀ copy ∈ after.inFlight, copy.2.carried ⊆ held) (isHolder : server ≠ opener) :
    Bounded opener held after read := by
  have isSame := handles.others opener (Ne.symm isHolder)
  have notSubscribed : event ≠ .subscribed := by
    rintro rfl
    exact isHolder (staffed.opener_of_subscribed handles)
  refine ⟨carried, fun other holder => ?_, isSame ▸ bounded.fetched, isSame ▸ bounded.loading,
    isSame ▸ bounded.opened, isSame ▸ bounded.within⟩
  by_cases here : other = server
  · subst here
    have offered : event.offered ⊆ held :=
      familiar.1.trans (Finset.union_subset (bounded.holders other holder) (Finset.Subset.refl _))
    have document := handles.document_subset staffed.coherent notSubscribed
    exact document.trans (Finset.union_subset (bounded.holders other holder) offered)
  · rw [handles.others other here]
    exact bounded.holders other holder

private theorem Bounded.handled {held read : Update Op} {before after : Cluster n Conn Op Entry}
    {server : Fin n} {event : SlotEvent Conn Op} (bounded : Bounded opener held before read)
    (staffed : before.Staffed opener) (handles : Handles setup before after server event)
    (familiar : Familiar held before server event)
    (asked : event = .bus .stateRequest → server ≠ opener)
    (notRead : server = opener → event ≠ .storeRead) : Bounded opener held after read := by
  have carried := bounded.carried_of_handles staffed.coherent handles familiar asked
  by_cases isOpener : server = opener
  · subst isOpener
    by_cases isSubscribed : event = .subscribed
    · subst isSubscribed
      exact bounded.subscribed staffed handles carried
    · exact bounded.handled_opener staffed handles familiar carried isSubscribed (notRead rfl)
  · exact bounded.handled_holder staffed handles familiar carried isOpener

omit [DecidableEq Conn] [Causality Op] in
private theorem Bounded.unhandled {held read : Update Op} {before after : Cluster n Conn Op Entry}
    (bounded : Bounded opener held before read) (slots : after.slots = before.slots)
    (inFlight : ∀ copy ∈ after.inFlight, copy ∈ before.inFlight) :
    Bounded opener held after read where
  carried := fun copy member => bounded.carried copy (inFlight copy member)
  holders := slots ▸ bounded.holders
  fetched := slots ▸ bounded.fetched
  loading := slots ▸ bounded.loading
  opened := slots ▸ bounded.opened
  within := slots ▸ bounded.within

/-- The opener reads the store. -/
theorem Bounded.read {held read : Update Op} {before after : Cluster n Conn Op Entry}
    (bounded : Bounded opener held before read) (staffed : before.Staffed opener)
    (handles : Handles setup before after opener .storeRead) :
    Bounded opener held after (setup.store.load before.entry).content := by
  obtain ⟨waiters, opening⟩ := Slot.opening_of_storeRead handles.stepped
  have isRead : (after.slots opener).opening =
      some ⟨.read (setup.store.load before.entry), waiters⟩ := opening
  have unregistered : (after.slots opener).registered = none :=
    ((handles.coherent staffed.coherent opener).loading _ isRead).2.2.1
  refine ⟨?_, fun other holder => ?_, fun loaded _ still => ?_, fun _ _ _ still => ?_,
    fun registered => ?_, ?_⟩
  · exact bounded.carried_of_handles staffed.coherent handles
      ⟨Finset.empty_subset _, fun _ _ => nofun⟩ nofun
  · rw [handles.others other holder]
    exact bounded.holders other holder
  · have same := Option.some.inj (isRead.symm.trans still)
    cases same
    rfl
  · exact absurd (isRead.symm.trans still) nofun
  · rw [unregistered] at registered
    cases registered
  · rw [Slot.document, unregistered]
    exact Finset.empty_subset _

/-! ### What the holders offer -/

/-- An instance has some operations, or they are on their way to it. -/
def Covers (cluster : Cluster n Conn Op Entry) (server : Fin n) (ops : Update Op) : Prop :=
  ops ⊆ (cluster.slots server).document ∪ cluster.carriedTo server

private theorem Covers.handled {before after : Cluster n Conn Op Entry} {server other : Fin n}
    {event : SlotEvent Conn Op} {ops : Update Op} (covers : before.Covers other ops)
    (handles : Handles setup before after server event) (coherent : before.Coherent)
    (was : (before.slots other).registered.isSome)
    (registered : (after.slots other).registered.isSome) : after.Covers other ops :=
  covers.trans (Finset.union_subset_union (handles.document coherent was registered)
    (handles.carriedTo other))

/-- What arrives is in the document it was on its way to. -/
theorem Covers.received {cluster after : Cluster n Conn Op Entry} {index : ℕ}
    {receiver other : Fin n} {message : BusMessage Op} {ops : Update Op}
    (covers : cluster.Covers other ops)
    (found : cluster.inFlight[index]? = some (receiver, message))
    (handles : Handles setup { cluster with inFlight := cluster.inFlight.eraseIdx index } after
      receiver (.bus message)) (coherent : cluster.Coherent)
    (was : (cluster.slots other).registered.isSome)
    (registered : (after.slots other).registered.isSome) : after.Covers other ops := by
  intro op member
  rcases Finset.mem_union.mp (covers member) with inDocument | inFlight
  · exact Finset.mem_union_left _ (handles.document coherent was registered inDocument)
  · rcases mem_carriedTo_eraseIdx found inFlight with stays | ⟨rfl, carried⟩
    · exact Finset.mem_union_right _ (handles.carriedTo other stays)
    · obtain ⟨room, isRoom⟩ := Option.isSome_iff_exists.mp was
      have document := (coherent_slot coherent receiver).document_of_bus handles.stepped isRoom
      exact Finset.mem_union_left _ (document ▸ Finset.mem_union_right _ carried)

/-- Every holder keeps what it had at the start, and once the opener has asked,
the others have that too or will be sent it. -/
structure Offered (opener : Fin n) (start cluster : Cluster n Conn Op Entry) : Prop where
  kept : ∀ server, server ≠ opener →
    (start.slots server).document ⊆ (cluster.slots server).document
  offers : (cluster.slots opener).registered.isSome → ∀ server, server ≠ opener →
    (server, .stateRequest) ∈ cluster.inFlight ∨
      ∀ other, other ≠ server → cluster.Covers other (start.slots server).document

omit [DecidableEq Conn] [DecidableEq Op] [Causality Op] in
private theorem Staffed.everybody {cluster : Cluster n Conn Op Entry}
    (staffed : cluster.Staffed opener)
    (isOpen : (cluster.slots opener).registered.isSome) (server : Fin n) :
    (cluster.slots server).registered.isSome := by
  by_cases isOpener : server = opener
  · exact isOpener ▸ isOpen
  · exact staffed.isOpen server isOpener

omit [DecidableEq Conn] [Causality Op] in
/-- On a drained bus nothing is owed: everyone has what the holders had. -/
theorem Offered.drained {start cluster : Cluster n Conn Op Entry}
    (offered : Offered opener start cluster) (drained : cluster.inFlight = [])
    (isOpen : (cluster.slots opener).registered.isSome) (server : Fin n) :
    start.holdings opener ⊆ (cluster.slots server).document := by
  intro op member
  obtain ⟨holder, isHolder, held⟩ := mem_holdings.mp member
  by_cases same : server = holder
  · exact same ▸ offered.kept holder isHolder held
  · rcases offered.offers isOpen holder isHolder with requested | covered
    · rw [drained] at requested
      cases requested
    · rcases Finset.mem_union.mp (covered server same held) with inDocument | inFlight
      · exact inDocument
      · obtain ⟨message, onBus, -⟩ := mem_carriedTo.mp inFlight
        rw [drained] at onBus
        cases onBus

private theorem Offered.runs {start before after : Cluster n Conn Op Entry} {server : Fin n}
    {event : SlotEvent Conn Op} (offered : Offered opener start before)
    (staffed : before.Staffed opener) (handles : Handles setup before after server event)
    (staffed' : after.Staffed opener) : Offered opener start after where
  kept := fun holder isHolder => (offered.kept holder isHolder).trans
    (handles.document staffed.coherent (staffed.isOpen holder isHolder)
      (staffed'.isOpen holder isHolder))
  offers := fun registered holder isHolder => by
    by_cases isSubscribed : event = .subscribed
    · subst isSubscribed
      obtain rfl := staffed.opener_of_subscribed handles
      have requests := Slot.publishes_of_subscribed handles.stepped
      exact Or.inl (handles.carries requests isHolder
        (staffed.subscribed holder (staffed.isOpen holder isHolder)))
    · have was := handles.registered (fun _ => isSubscribed) registered
      rcases offered.offers was holder isHolder with requested | covered
      · exact Or.inl ((handles.inFlight _).mpr (Or.inl requested))
      · refine Or.inr fun other different => ?_
        exact (covered other different).handled handles staffed.coherent
          (staffed.everybody was other) (staffed'.everybody registered other)

private theorem Offered.receives {start before after : Cluster n Conn Op Entry} {index : ℕ}
    {receiver : Fin n} {message : BusMessage Op} (offered : Offered opener start before)
    (staffed : before.Staffed opener)
    (found : before.inFlight[index]? = some (receiver, message))
    (handles : Handles setup { before with inFlight := before.inFlight.eraseIdx index } after
      receiver (.bus message)) (staffed' : after.Staffed opener) :
    Offered opener start after where
  kept := fun holder isHolder => (offered.kept holder isHolder).trans
    (handles.document staffed.coherent (staffed.isOpen holder isHolder)
      (staffed'.isOpen holder isHolder))
  offers := fun registered holder isHolder => by
    have was : (before.slots opener).registered.isSome :=
      handles.registered (fun _ => nofun) registered
    rcases offered.offers was holder isHolder with requested | covered
    · rcases (mem_inFlight_iff found).mp requested with arriving | stays
      · cases arriving
        -- The holder answers with all it has, to everybody else.
        refine Or.inr fun other different op member => ?_
        have coherent := coherent_slot staffed.coherent receiver
        obtain ⟨room, isRoom⟩ := Option.isSome_iff_exists.mp (staffed.isOpen receiver isHolder)
        have attended := coherent.attended_iff.mpr
          ⟨staffed.isOpen receiver isHolder, staffed.settled receiver isHolder⟩
        have answer := coherent.publishes_answer isRoom attended
        have inFlight := handles.carries answer different
          (staffed.subscribed other (staffed.everybody was other))
        exact Finset.mem_union_right _
          (mem_carriedTo.mpr ⟨_, inFlight, offered.kept receiver isHolder member⟩)
      · exact Or.inl ((handles.inFlight _).mpr (Or.inl stays))
    · refine Or.inr fun other different => ?_
      exact (covered other different).received found handles staffed.coherent
        (staffed.everybody was other) (staffed'.everybody registered other)

end Cluster

namespace Reopening

variable {setup : Setup Op Entry} {opener : Fin n}

/-- The invariant of a reopening. -/
structure Converging (opener : Fin n) (start state : Reopening n Conn Op Entry) : Prop where
  staffed : state.cluster.Staffed opener
  bounded : Cluster.Bounded opener (start.cluster.holdings opener) state.cluster state.read
  offered : Cluster.Offered opener start.cluster state.cluster

omit [DecidableEq Conn] [Causality Op] in
private theorem Partitioned.converging {start : Reopening n Conn Op Entry}
    (partitioned : start.Partitioned opener) : Converging opener start start := by
  obtain ⟨unregistered, idle⟩ := partitioned.unopened
  refine ⟨Cluster.staffed_of_partitioned partitioned, ⟨?_, fun server holder op member => ?_,
    ?_, ?_, ?_, ?_⟩, fun _ _ => Finset.Subset.refl _, ?_⟩
  · rw [partitioned.lost]
    simp
  · exact Cluster.mem_holdings.mpr ⟨server, holder, member⟩
  · rw [idle]
    simp
  · rw [idle]
    simp
  · rw [unregistered]
    simp
  · rw [Slot.document, unregistered]
    exact Finset.empty_subset _
  · rw [unregistered]
    simp

omit [DecidableEq Conn] [Causality Op] in
private theorem readAfter_eq {state : Reopening n Conn Op Entry} {server : Fin n}
    {event : SlotEvent Conn Op} (notRead : server = opener → event ≠ .storeRead) :
    state.readAfter setup opener (.runs server event) = state.read := by
  unfold readAfter
  split
  · next isRun =>
      cases isRun
      exact if_neg fun isOpener => notRead isOpener rfl
  · rfl

private theorem Converging.runs {start state : Reopening n Conn Op Entry}
    (converging : Converging opener start state) {after : Cluster n Conn Op Entry}
    {server : Fin n} {event : SlotEvent Conn Op} (notBus : ∀ message, event ≠ .bus message)
    (ready : event = .subscribed → state.cluster.subscribed server = true)
    (quiet : state.Quiet setup (.runs server event))
    (handles : Cluster.Handles setup state.cluster after server event) :
    Converging opener start ⟨after, state.readAfter setup opener (.runs server event)⟩ := by
  obtain ⟨staffed, bounded, offered⟩ := converging
  have staffed' := staffed.handled handles ready quiet.2
  refine ⟨staffed', ?_, offered.runs staffed handles staffed'⟩
  by_cases isRead : event = .storeRead ∧ server = opener
  · obtain ⟨rfl, rfl⟩ := isRead
    have read : state.readAfter setup server (.runs server .storeRead) =
        (setup.store.load state.cluster.entry).content := if_pos rfl
    rw [read]
    exact bounded.read staffed handles
  · have notRead : server = opener → event ≠ .storeRead :=
      fun isOpener same => isRead ⟨same, isOpener⟩
    rw [readAfter_eq notRead]
    refine bounded.handled staffed handles ⟨?_, fun conn frame isFrame => ?_⟩
      (fun isRequest => absurd isRequest (notBus _)) notRead
    · exact quiet.1.trans Finset.subset_union_left
    · subst isFrame
      exact quiet.1

private theorem Converging.receives {start state : Reopening n Conn Op Entry}
    (converging : Converging opener start state) {after : Cluster n Conn Op Entry} {index : ℕ}
    {receiver : Fin n} {message : BusMessage Op}
    (found : state.cluster.inFlight[index]? = some (receiver, message))
    (handles : Cluster.Handles setup
      { state.cluster with inFlight := state.cluster.inFlight.eraseIdx index } after receiver
      (.bus message)) : Converging opener start ⟨after, state.read⟩ := by
  obtain ⟨staffed, bounded, offered⟩ := converging
  have arriving := List.mem_of_getElem? found
  have stays : ({ state.cluster with inFlight := state.cluster.inFlight.eraseIdx index } :
      Cluster n Conn Op Entry).slot receiver |>.StaysOpen setup (.bus message) := by
    intro isOpen slot' stepped
    cases Slot.fires_of_step stepped with
    | receives message room listens => exact isOpen
  have staffed' := (staffed.taken index).handled handles (by simp) stays
  refine ⟨staffed', ?_, offered.receives staffed found handles staffed'⟩
  have taken : Cluster.Bounded opener (start.cluster.holdings opener)
      { state.cluster with inFlight := state.cluster.inFlight.eraseIdx index } state.read :=
    bounded.unhandled rfl fun _ => List.mem_of_mem_eraseIdx
  refine taken.handled (staffed.taken index) handles ⟨?_, by simp⟩ ?_ (by simp)
  · exact (bounded.carried _ arriving).trans Finset.subset_union_right
  · rintro isRequest rfl
    cases isRequest
    exact staffed.addressed arriving

private theorem Converging.step {start state state' : Reopening n Conn Op Entry}
    (converging : Converging opener start state) {event : ClusterEvent n Conn Op}
    (quiet : state.Quiet setup event) (stepped : state.step setup opener event = some state') :
    Converging opener start state' := by
  obtain ⟨after, stepped', rfl⟩ := Option.map_eq_some_iff.mp stepped
  have listens : ∀ server, (state.cluster.slots server).registered.isSome →
      (state.cluster.slots server).listener ≠ none := by
    intro server registered deaf
    obtain ⟨room, isRoom⟩ := Option.isSome_iff_exists.mp registered
    have listens := ((converging.staffed.coherent server).current room isRoom).1
    exact absurd (deaf.symm.trans listens) nofun
  cases Cluster.acts_of_step stepped' with
  | runs server event notBus ready handles =>
      exact converging.runs notBus ready quiet handles
  | receives index receiver message found handles => exact converging.receives found handles
  | subscribes server result =>
      obtain ⟨staffed, bounded, offered⟩ := converging
      subst result
      refine ⟨⟨staffed.coherent, staffed.isOpen, staffed.settled, fun other registered => ?_,
        staffed.addressed⟩, bounded.unhandled rfl fun _ => id, offered.kept, offered.offers⟩
      dsimp only
      rw [Function.update_apply]
      split
      · rfl
      · exact staffed.subscribed other registered
  | unsubscribes server deaf result =>
      obtain ⟨staffed, bounded, offered⟩ := converging
      subst result
      refine ⟨⟨staffed.coherent, staffed.isOpen, staffed.settled, fun other registered => ?_,
        staffed.addressed⟩, bounded.unhandled rfl fun _ => id, offered.kept, offered.offers⟩
      dsimp only
      rw [Function.update_apply]
      split
      · next same =>
          subst same
          exact absurd deaf (listens other registered)
      · exact staffed.subscribed other registered
  | drops index receiver message found deaf result =>
      obtain ⟨staffed, bounded, offered⟩ := converging
      subst result
      refine ⟨staffed.taken index, bounded.unhandled rfl fun _ => List.mem_of_mem_eraseIdx,
        offered.kept, fun registered => ?_⟩
      -- Once the opener has asked, nobody is deaf.
      exact absurd deaf (listens receiver (staffed.everybody registered receiver))

end Reopening

/-- Once the bus is drained all open rooms hold the same document exactly when
the opener is alone or the state it read from the store brought nothing that
none of the others held. -/
theorem reconverged_iff (setup : Setup Op Entry) {opener : Fin n}
    {start state : Reopening n Conn Op Entry} (partitioned : start.Partitioned opener)
    (reached : ReachedWhen (Reopening.step setup opener) (Reopening.Quiet setup) (· = start) state)
    (drained : state.cluster.inFlight = [])
    (isOpen : (state.cluster.slots opener).registered.isSome) :
    state.cluster.Agree ↔
      (∀ server, server = opener) ∨ state.read ⊆ start.cluster.holdings opener := by
  obtain ⟨staffed, bounded, offered⟩ : Reopening.Converging opener start state :=
    reached.invariant (Reopening.Converging opener start)
      (fun _ isStart => by rw [isStart]; exact partitioned.converging)
      fun _ _ _ converging quiet stepped => converging.step quiet stepped
  have everything := fun server => offered.drained drained isOpen server
  have atHolder : ∀ server, server ≠ opener →
      (state.cluster.slots server).document = start.cluster.holdings opener :=
    fun server holder => (bounded.holders server holder).antisymm (everything server)
  have atOpener : (state.cluster.slots opener).document =
      state.read ∪ start.cluster.holdings opener :=
    bounded.within.antisymm (Finset.union_subset (bounded.opened isOpen) (everything opener))
  have holds : ∀ server, (state.cluster.slots server).openDocument =
      some ⟨(state.cluster.slots server).document⟩ := fun server =>
    (staffed.coherent server).openDocument_eq (staffed.everybody isOpen server)
  constructor
  · intro agree
    by_cases alone : ∀ server, server = opener
    · exact Or.inl alone
    · obtain ⟨server, holder⟩ := not_forall.mp alone
      have same := congrArg Doc.received (agree opener server _ (holds opener) _ (holds server))
      rw [atOpener, atHolder server holder] at same
      exact Or.inr (Finset.union_eq_right.mp same)
  · intro condition first second doc isFirst doc' isSecond
    obtain rfl := Option.some.inj ((holds first).symm.trans isFirst)
    obtain rfl := Option.some.inj ((holds second).symm.trans isSecond)
    rcases condition with alone | offeredAll
    · rw [alone first, alone second]
    · have all : ∀ server, (state.cluster.slots server).document =
          start.cluster.holdings opener := by
        intro server
        by_cases isOpener : server = opener
        · rw [isOpener, atOpener]
          exact Finset.union_eq_right.mpr offeredAll
        · exact atHolder server isOpener
      rw [all first, all second]

/-! ### One holder -/

namespace Reopening

/-- An instance whose visitor has typed. -/
def holder : Slot ℕ ItemId (Option (MemoryDocumentStore.Entry ItemId)) :=
  (run (Slot.step memorySetup) (Slot.initial none)
    (visits 0 ++ opens 0 ++ [.frame 0 (.sync (.update {⟨1, 0⟩}))])).getD (Slot.initial none)

/-- Instances like that and one that has just started, over some store. -/
def start (opener : Fin n) (entry : Option (MemoryDocumentStore.Entry ItemId)) :
    Reopening n ℕ ItemId (Option (MemoryDocumentStore.Entry ItemId)) :=
  ⟨⟨fun server => if server = opener then Slot.initial none else holder, entry,
    fun server => decide (server ≠ opener), []⟩, ∅⟩

private theorem start_partitioned (opener : Fin n)
    (entry : Option (MemoryDocumentStore.Entry ItemId)) :
    (start opener entry).Partitioned opener where
  coherent := fun server => by
    show (if server = opener then Slot.initial none else holder).Coherent
    split
    · exact Slot.coherent_initial none
    · exact Slot.coherent_of_reached (Slot.coherent_initial none)
        (reachedWhen_getD (Slot.initial none) _ _ (by decide))
  holders := fun server different => by
    show (if server = opener then Slot.initial none else holder).attended = true ∧
      decide (server ≠ opener) = true
    rw [if_neg different]
    exact ⟨by decide, decide_eq_true different⟩
  unopened := by
    show (if opener = opener then Slot.initial none else holder).registered = none ∧
      (if opener = opener then Slot.initial none else holder).opening = none
    rw [if_pos rfl]
    exact ⟨rfl, rfl⟩
  lost := rfl

/-- The opener opens the document, asks, and is answered by one holder. -/
def reopens (opener : Fin n) : List (ClusterEvent n ℕ ItemId) :=
  (visits 1 ++ [SlotEvent.loadResolved 8]).map (.runs opener) ++
    [.subscribe opener, .runs opener .subscribed, .deliver 0, .runs opener .resume,
      .runs opener (.proceed 1), .deliver 0]

end Reopening

/-- The store has what the holder typed. -/
theorem reconverged_stored :
    ∃ state : Reopening 2 ℕ ItemId (Option (MemoryDocumentStore.Entry ItemId)),
      state.read = {⟨1, 0⟩} ∧ state.cluster.Agree := by
  obtain ⟨state, reached, drained, isOpen, read, known⟩ := exists_reachedWhen_of_runWhen
    (Reopening.step memorySetup 1) (Reopening.Quiet memorySetup)
    (· = Reopening.start (1 : Fin 2) (some ⟨none, [{⟨1, 0⟩}]⟩)) _ (Reopening.reopens 1)
    (fun state => state.cluster.inFlight = [] ∧ (state.cluster.slots 1).registered.isSome ∧
      state.read = {⟨1, 0⟩} ∧
      state.read ⊆ (Reopening.start (1 : Fin 2) (some ⟨none, [{⟨1, 0⟩}]⟩)).cluster.holdings 1)
    rfl (by decide)
  exact ⟨state, read, (reconverged_iff memorySetup (Reopening.start_partitioned 1 _) reached drained
    isOpen).mpr (Or.inr known)⟩

/-- The store has what an instance wrote that is gone, and whose messages the
holder missed: the opener offers it to nobody. -/
theorem stored_state_not_offered :
    ∃ (start state : Reopening 2 ℕ ItemId (Option (MemoryDocumentStore.Entry ItemId)))
        (doc : Doc ItemId), start.Partitioned 1 ∧
      ReachedWhen (Reopening.step memorySetup 1) (Reopening.Quiet memorySetup) (· = start) state ∧
      state.cluster.inFlight = [] ∧
      (state.cluster.slots 0).openDocument = some ⟨{⟨1, 0⟩}⟩ ∧
      (state.cluster.slots 1).openDocument = some doc ∧ ⟨2, 0⟩ ∈ doc.integrated ∧
      ¬ state.cluster.Agree := by
  obtain ⟨state, reached, drained, atHolder, atOpener⟩ := exists_reachedWhen_of_runWhen
    (Reopening.step memorySetup 1) (Reopening.Quiet memorySetup)
    (· = Reopening.start (1 : Fin 2) (some ⟨none, [{⟨2, 0⟩}]⟩)) _ (Reopening.reopens 1)
    (fun state => state.cluster.inFlight = [] ∧
      (state.cluster.slots 0).openDocument = some ⟨{⟨1, 0⟩}⟩ ∧
      (state.cluster.slots 1).openDocument.any (fun doc => ⟨2, 0⟩ ∈ doc.integrated) = true)
    rfl (by decide)
  obtain ⟨doc, isOpen, shown⟩ := (Option.any_eq_true _ _).mp atOpener
  have integrated := of_decide_eq_true shown
  refine ⟨_, state, doc, Reopening.start_partitioned 1 _, reached, drained, atHolder, isOpen,
    integrated, fun agree => ?_⟩
  obtain rfl := agree 0 1 _ atHolder _ isOpen
  exact absurd integrated (by decide)

end CollabEditor
