import CollabEditor.Instance.Unstored
import CollabEditor.Persistence.Postgres.Tables

/-!
Owns what becomes of an edit when instances crash: whatever a room anywhere has
integrated is in the store, with a writer of some instance that runs, or it was
with a writer of an instance that crashed, or was given up by a closed one.

All instances share one `DocumentStore`, which a crash leaves alone and whose
`load`, `append` and `compact` each take effect as a whole. So does the Postgres
store while one writer at a time writes to the document; what its transactions
lose when two overlap is `Persistence.Postgres.Transactions`' to say.
-/

namespace CollabEditor

open CollabEditor.Library CollabEditor.Yjs CollabEditor.Persistence CollabEditor.Rooms
open CollabEditor.Instance

universe u v w

variable {Conn : Type v} {Op : Type u} {Entry : Type w} [DecidableEq Op] {n : ℕ}

/-- A cluster whose instances may crash, with what its writers have lost. -/
structure Outages (n : ℕ) (Conn : Type v) (Op : Type u) (Entry : Type w) where
  cluster : Cluster n Conn Op Entry
  lost : Update Op

inductive OutageEvent (n : ℕ) (Conn : Type v) (Op : Type u) where
  | runs (event : ClusterEvent n Conn Op)
  /-- The process of an instance ends without a word, and another one starts. -/
  | crash (server : Fin n)
  /-- The broker loses a message. -/
  | drop (index : ℕ)

namespace Cluster

/-- What `load` would read now. -/
def content (setup : Setup Op Entry) (cluster : Cluster n Conn Op Entry) : Update Op :=
  (setup.store.load cluster.entry).content

/-- What the writers of all instances have not stored. -/
def unstored (cluster : Cluster n Conn Op Entry) : Update Op :=
  mergeUpdates ((List.finRange n).map fun server => (cluster.slots server).unstored)

/-- What a writer drops at an event. -/
def drops (cluster : Cluster n Conn Op Entry) : ClusterEvent n Conn Op → Update Op
  | .runs server event => (cluster.slots server).drops event
  | _ => ∅

private theorem unstored_slot_subset (cluster : Cluster n Conn Op Entry) (server : Fin n) :
    (cluster.slots server).unstored ⊆ cluster.unstored :=
  subset_mergeUpdates (List.mem_map.mpr ⟨server, List.mem_finRange server, rfl⟩)

private theorem unstored_subset_iff {cluster : Cluster n Conn Op Entry} {bound : Update Op} :
    cluster.unstored ⊆ bound ↔ ∀ server, (cluster.slots server).unstored ⊆ bound := by
  simp [unstored, mergeUpdates_subset]

end Cluster

namespace Outages

/-- Instances that have just started, over any store. -/
def Initial (state : Outages n Conn Op Entry) : Prop :=
  (∃ entry, ∀ server, state.cluster.slots server = Slot.initial entry) ∧
    (∀ server, state.cluster.subscribed server = false) ∧ state.cluster.inFlight = [] ∧
    state.lost = ∅

/-- A crashed instance forgets everything, and the broker forgets it. -/
def crash (state : Outages n Conn Op Entry) (server : Fin n) : Outages n Conn Op Entry where
  cluster := { state.cluster with
    slots := Function.update state.cluster.slots server (Slot.initial state.cluster.entry)
    subscribed := Function.update state.cluster.subscribed server false
    inFlight := state.cluster.inFlight.filter fun copy => copy.1 ≠ server }
  lost := state.lost ∪ (state.cluster.slots server).unstored

/-- What is stored, about to be, or lost. -/
def accounted (setup : Setup Op Entry) (state : Outages n Conn Op Entry) : Update Op :=
  state.cluster.content setup ∪ state.cluster.unstored ∪ state.lost

/-- What a load has read the store still has. -/
structure Fetched (setup : Setup Op Entry) (cluster : Cluster n Conn Op Entry) : Prop where
  coherent : cluster.Coherent
  read : ∀ server loaded waiters, (cluster.slots server).opening =
    some ⟨.read loaded, waiters⟩ → loaded.content ⊆ cluster.content setup
  subscribing : ∀ server room content waiters, (cluster.slots server).opening =
    some ⟨.subscribing room (some content), waiters⟩ → content ⊆ cluster.content setup

theorem fetched_initial {setup : Setup Op Entry} {state : Outages n Conn Op Entry}
    (initial : state.Initial) : Fetched setup state.cluster := by
  obtain ⟨⟨entry, fresh⟩, -, -, -⟩ := initial
  constructor
  case coherent =>
    intro server
    rw [fresh]
    exact Slot.coherent_initial entry
  all_goals
    intro server
    rw [fresh]
    exact nofun

/-! ### A crash -/

variable {setup : Setup Op Entry}

theorem slots_crash (state : Outages n Conn Op Entry) (server other : Fin n) :
    (state.crash server).cluster.slots other =
      if other = server then Slot.initial state.cluster.entry else state.cluster.slots other := by
  by_cases here : other = server
  · rw [here, if_pos rfl]
    exact Function.update_self server _ _
  · rw [if_neg here]
    exact Function.update_of_ne here _ _

/-- What a crash leaves behind is lost. -/
theorem accounted_crash (setup : Setup Op Entry) (state : Outages n Conn Op Entry)
    (server : Fin n) :
    state.accounted setup ⊆ (state.crash server).accounted setup := by
  have survives : state.cluster.unstored ⊆
      (state.crash server).cluster.unstored ∪ (state.cluster.slots server).unstored := by
    apply Cluster.unstored_subset_iff.mpr
    intro other
    by_cases here : other = server
    · rw [here]
      exact Finset.subset_union_right
    · have same := state.slots_crash server other
      rw [if_neg here] at same
      rw [← same]
      exact ((state.crash server).cluster.unstored_slot_subset other).trans
        Finset.subset_union_left
  intro op member
  have lost : (state.crash server).lost =
      state.lost ∪ (state.cluster.slots server).unstored := rfl
  simp only [accounted, lost, Finset.mem_union] at member ⊢
  rcases member with (stored | unstored) | gone
  · exact Or.inl (Or.inl stored)
  · have placed := survives unstored
    simp only [Finset.mem_union] at placed
    tauto
  · exact Or.inr (Or.inl gone)

private theorem Fetched.crash {state : Outages n Conn Op Entry}
    (fetched : Fetched setup state.cluster)
    (server : Fin n) : Fetched setup (state.crash server).cluster := by
  constructor
  case coherent =>
    intro other
    rw [slots_crash]
    split
    · exact Slot.coherent_initial _
    · exact fetched.coherent other
  case read =>
    intro other loaded waiters opening
    rw [slots_crash] at opening
    split at opening
    · simp [Slot.initial] at opening
    · exact fetched.read other loaded waiters opening
  case subscribing =>
    intro other room content waiters opening
    rw [slots_crash] at opening
    split at opening
    · simp [Slot.initial] at opening
    · exact fetched.subscribing other room content waiters opening

variable [Causality Op]

/-- Whatever a room has integrated or the bus carries is accounted for. -/
structure Durable (setup : Setup Op Entry) (state : Outages n Conn Op Entry) : Prop where
  integrated : ∀ server (room : ℕ) object, (state.cluster.slots server).objects[room]? =
    some object → object.room.doc.integrated ⊆ state.accounted setup
  inFlight : ∀ copy ∈ state.cluster.inFlight, copy.2.carried ⊆ state.accounted setup

private theorem durable_initial {setup : Setup Op Entry} {state : Outages n Conn Op Entry}
    (initial : state.Initial) : state.Durable setup := by
  obtain ⟨⟨entry, fresh⟩, -, none, -⟩ := initial
  constructor
  case integrated =>
    intro server
    rw [fresh]
    exact nofun
  case inFlight =>
    rw [none]
    simp

/-- With fewer messages on their way, nothing else changes. -/
theorem Durable.fewer {cluster : Cluster n Conn Op Entry} {lost : Update Op}
    (durable : Durable setup ⟨cluster, lost⟩) {inFlight : List (Fin n × BusMessage Op)}
    (sub : inFlight ⊆ cluster.inFlight) :
    Durable setup ⟨{ cluster with inFlight := inFlight }, lost⟩ :=
  ⟨durable.integrated, fun copy member => durable.inFlight copy (sub member)⟩

private theorem Durable.crash {state : Outages n Conn Op Entry} (durable : state.Durable setup)
    (server : Fin n) : (state.crash server).Durable setup := by
  have grows := accounted_crash setup state server
  constructor
  case integrated =>
    intro other room object found
    rw [slots_crash] at found
    split at found
    · simp [Slot.initial] at found
    · exact (durable.integrated other room object found).trans grows
  case inFlight =>
    intro copy member
    exact (durable.inFlight copy (List.mem_of_mem_filter member)).trans grows

end Outages

variable [DecidableEq Conn] [Causality Op]

/-! ### What is released -/

namespace Cluster

/-- The held operations that an event of an instance, other than a client's,
makes a room integrate or send to another instance. -/
def releasedBy (cluster : Cluster n Conn Op Entry) (server : Fin n)
    (event : SlotEvent Conn Op) : Update Op :=
  (cluster.slots server).unlocks event ∪
    if (cluster.copies server .stateRequest).isEmpty then ∅
    else (cluster.slots server).exposes event

def releases (cluster : Cluster n Conn Op Entry) : ClusterEvent n Conn Op → Update Op
  | .runs server event => cluster.releasedBy server event
  | .deliver index =>
      match cluster.inFlight[index]? with
      | some (receiver, message) => cluster.releasedBy receiver (.bus message)
      | none => ∅
  | _ => ∅

end Cluster

namespace Outages

def step (setup : Setup Op Entry) (state : Outages n Conn Op Entry) :
    OutageEvent n Conn Op → Option (Outages n Conn Op Entry)
  | .runs event => (state.cluster.step setup event).map fun cluster =>
      ⟨cluster, state.lost ∪ state.cluster.drops event⟩
  | .crash server => some (state.crash server)
  | .drop index => some { state with cluster := { state.cluster with
      inFlight := state.cluster.inFlight.eraseIdx index } }

/-- The bus and the store release only held operations that are accounted for. -/
def ReleasesAccounted (setup : Setup Op Entry) (state : Outages n Conn Op Entry) :
    OutageEvent n Conn Op → Prop
  | .runs event => state.cluster.releases event ⊆ state.accounted setup
  | _ => True

instance (setup : Setup Op Entry) (state : Outages n Conn Op Entry) :
    ∀ event, Decidable (state.ReleasesAccounted setup event)
  | .runs event => inferInstanceAs (Decidable (state.cluster.releases event ⊆ _))
  | .crash _ | .drop _ => isTrue trivial

end Outages

/-! ### One event of an instance -/

namespace Cluster

variable {setup : Setup Op Entry} {before after : Cluster n Conn Op Entry} {server : Fin n}
  {event : SlotEvent Conn Op}

private theorem Handles.content (handles : Handles setup before after server event) :
    before.content setup ⊆ after.content setup :=
  Slot.content_subset_of_step handles.stepped

private theorem Handles.unstored (handles : Handles setup before after server event) :
    before.unstored ⊆
      after.content setup ∪ after.unstored ∪ (before.slots server).drops event := by
  apply unstored_subset_iff.mpr
  intro other
  have inAll : (after.slots other).unstored ⊆ after.unstored := after.unstored_slot_subset other
  by_cases here : other = server
  · subst here
    have sub : (before.slots other).unstored ⊆ after.content setup ∪
        (after.slots other).unstored ∪ (before.slots other).drops event :=
      Slot.unstored_of_step handles.stepped
    apply sub.trans
    exact Finset.union_subset_union_left (Finset.union_subset_union_right inAll)
  · rw [← handles.others other here]
    apply inAll.trans
    exact Finset.subset_union_right.trans Finset.subset_union_left

end Cluster

namespace Outages

variable {setup : Setup Op Entry}

/-- What is accounted for stays so. -/
theorem accounted_of_handles {before after : Cluster n Conn Op Entry} {server : Fin n}
    {event : SlotEvent Conn Op} (handles : Cluster.Handles setup before after server event)
    (lost : Update Op) : accounted setup ⟨before, lost⟩ ⊆
      accounted setup ⟨after, lost ∪ (before.slots server).drops event⟩ := by
  intro op member
  simp only [accounted, Finset.mem_union] at member ⊢
  rcases member with (stored | unstored) | gone
  · exact Or.inl (Or.inl (handles.content stored))
  · have placed := handles.unstored unstored
    simp only [Finset.mem_union] at placed
    tauto
  · exact Or.inr (Or.inl gone)

private theorem Fetched.handled {before after : Cluster n Conn Op Entry}
    (fetched : Fetched setup before) {server : Fin n} {event : SlotEvent Conn Op}
    (handles : Cluster.Handles setup before after server event) : Fetched setup after := by
  constructor
  case coherent => exact handles.coherent fetched.coherent
  case read =>
    intro other loaded waiters opening
    by_cases here : other = server
    · subst here
      have opening : (after.slot other).opening = some ⟨.read loaded, waiters⟩ := opening
      rcases Slot.progress_of_step handles.stepped opening with
        ⟨⟨progress, waiters'⟩, opening', rfl⟩ | ⟨-, rfl, -⟩
      · exact (fetched.read other loaded waiters' opening').trans handles.content
      · exact handles.content
    · have opening' : (before.slots other).opening = some ⟨.read loaded, waiters⟩ := by
        rw [← handles.others other here]
        exact opening
      exact (fetched.read other loaded waiters opening').trans handles.content
  case subscribing =>
    intro other room content waiters opening
    by_cases here : other = server
    · subst here
      have opening : (after.slot other).opening =
        some ⟨.subscribing room (some content), waiters⟩ := opening
      rcases Slot.progress_of_step handles.stepped opening with
        ⟨⟨progress, waiters'⟩, opening', rfl⟩ | ⟨_, loaded, waiters', opening', -, isState, -⟩
      · exact (fetched.subscribing other room content waiters' opening').trans handles.content
      · have fromRead := fetched.read other loaded waiters' opening'
        have isContent : loaded.content = content := by
          rw [LoadedDocument.content, ← isState, Option.getD_some]
        rw [← isContent]
        exact fromRead.trans handles.content
    · have opening' : (before.slots other).opening =
          some ⟨.subscribing room (some content), waiters⟩ := by
        rw [← handles.others other here]
        exact opening
      exact (fetched.subscribing other room content waiters opening').trans handles.content

/-- Everything stays accounted for when what an event releases is. -/
theorem Durable.handled {before after : Cluster n Conn Op Entry} {lost : Update Op}
    (durable : Durable setup ⟨before, lost⟩) (fetched : Fetched setup before) {server : Fin n}
    {event : SlotEvent Conn Op} (handles : Cluster.Handles setup before after server event)
    (brought : ∀ message, event = .bus message →
      message.carried ⊆ accounted setup ⟨before, lost⟩)
    (released : before.releasedBy server event ⊆ accounted setup ⟨before, lost⟩) :
    Durable setup ⟨after, lost ∪ (before.slots server).drops event⟩ := by
  have grows := accounted_of_handles handles lost
  have earlier : ∀ (room : ℕ) object, (before.slot server).objects[room]? = some object →
      object.room.doc.integrated ⊆
        accounted setup ⟨after, lost ∪ (before.slots server).drops event⟩ := by
    intro room object found
    exact (durable.integrated server room object found).trans grows
  have recorded : (after.slot server).unstored ⊆
      accounted setup ⟨after, lost ∪ (before.slots server).drops event⟩ := by
    apply (after.unstored_slot_subset server).trans
    exact Finset.subset_union_right.trans Finset.subset_union_left
  have unlocked : (before.slot server).unlocks event ⊆
      accounted setup ⟨after, lost ∪ (before.slots server).drops event⟩ :=
    (Finset.subset_union_left.trans released).trans grows
  constructor
  case integrated =>
    intro other room object' found'
    by_cases here : other = server
    · subst here
      apply Slot.integrated_of_step handles.stepped earlier recorded _ _ unlocked found'
      · intro room content waiters opening
        apply (fetched.subscribing other room content waiters opening).trans
        apply handles.content.trans
        exact Finset.subset_union_left.trans Finset.subset_union_left
      · intro message isBus
        exact (brought message isBus).trans grows
    · have found : (before.slots other).objects[room]? = some object' := by
        rw [← handles.others other here]
        exact found'
      exact (durable.integrated other room object' found).trans grows
  case inFlight =>
    intro copy member
    rcases (handles.inFlight copy).mp member with was | ⟨message, publishes, isCopy⟩
    · exact (durable.inFlight copy was).trans grows
    · obtain ⟨elsewhere, listens, same⟩ := Cluster.mem_copies.mp isCopy
      have isAsked : (copy.1, .stateRequest) ∈ before.copies server .stateRequest :=
        Cluster.mem_copies.mpr ⟨elsewhere, listens, rfl⟩
      have heard : (before.copies server .stateRequest).isEmpty = false :=
        List.isEmpty_eq_false_iff_exists_mem.mpr ⟨_, isAsked⟩
      have exposed : (before.slot server).exposes event ⊆
          accounted setup ⟨after, lost ∪ (before.slots server).drops event⟩ := by
        unfold Cluster.releasedBy at released
        rw [if_neg (by simp [heard])] at released
        exact (Finset.subset_union_right.trans released).trans grows
      rw [same]
      exact Slot.published_of_step (Cluster.coherent_slot fetched.coherent server)
        handles.stepped earlier recorded exposed publishes

/-- An event that the writers do not hear of accounts for nothing more. -/
theorem accounted_of_silent {before after : Cluster n Conn Op Entry} {server : Fin n}
    {event : SlotEvent Conn Op} (handles : Cluster.Handles setup before after server event)
    (silent : event = .subscribed ∨ ∃ message, event = .bus message) (lost : Update Op) :
    accounted setup ⟨after, lost ∪ (before.slots server).drops event⟩ ⊆
      accounted setup ⟨before, lost⟩ := by
  obtain ⟨entry, unstored⟩ := Slot.silent_of_step handles.stepped silent
  have entry : after.entry = before.entry := entry
  have unstored : (after.slots server).unstored = (before.slots server).unstored := unstored
  have drops : (before.slots server).drops event = ∅ := by
    rcases silent with isSubscribed | ⟨message, isBus⟩
    · rw [isSubscribed]
      rfl
    · rw [isBus]
      rfl
  have unstored : after.unstored ⊆ before.unstored := by
    apply Cluster.unstored_subset_iff.mpr
    intro other
    by_cases here : other = server
    · rw [here, unstored]
      exact before.unstored_slot_subset server
    · rw [handles.others other here]
      exact before.unstored_slot_subset other
  rw [drops, Finset.union_empty, accounted, accounted, Cluster.content, Cluster.content, entry]
  exact Finset.union_subset_union_left (Finset.union_subset_union_right unstored)

/-- Where everything is accounted for, what the last event released is. -/
theorem released_of_durable {before after : Cluster n Conn Op Entry} {lost : Update Op}
    (coherent : before.Coherent) {server : Fin n} {event : SlotEvent Conn Op}
    (handles : Cluster.Handles setup before after server event)
    (durable : Durable setup ⟨after, lost ∪ (before.slots server).drops event⟩) :
    before.releasedBy server event ⊆ accounted setup ⟨before, lost⟩ := by
  have back := fun silent => accounted_of_silent handles silent lost
  apply Finset.union_subset
  · intro op member
    have silent : event = .subscribed ∨ ∃ message, event = .bus message := by
      cases event with
      | subscribed => exact Or.inl rfl
      | bus message => exact Or.inr ⟨message, rfl⟩
      | _ => simp [Slot.unlocks] at member
    have member : op ∈ (before.slot server).unlocks event := member
    obtain ⟨room, object', found', integrated⟩ := Slot.unlocked_of_step handles.stepped member
    exact back silent (durable.integrated server room object' found' integrated)
  · split
    · exact Finset.empty_subset _
    · next heard =>
        intro op member
        have silent : event = .subscribed ∨ ∃ message, event = .bus message := by
          cases event with
          | bus message => exact Or.inr ⟨message, rfl⟩
          | _ => simp [Slot.exposes] at member
        have member : op ∈ (before.slot server).exposes event := member
        obtain ⟨message, publishes, carried⟩ :=
          Slot.exposed_published (Cluster.coherent_slot coherent server) member
        obtain ⟨⟨other, request⟩, isCopy⟩ :=
          List.isEmpty_eq_false_iff_exists_mem.mp (Bool.eq_false_of_not_eq_true heard)
        obtain ⟨elsewhere, listens, -⟩ := Cluster.mem_copies.mp isCopy
        exact back silent (durable.inFlight _ (handles.carries publishes elsewhere listens) carried)

/-! ### One event of the cluster -/

private theorem Fetched.step {before after : Cluster n Conn Op Entry}
    (fetched : Fetched setup before)
    {event : ClusterEvent n Conn Op} (stepped : before.step setup event = some after) :
    Fetched setup after := by
  cases Cluster.acts_of_step stepped with
  | runs server event notBus ready handles => exact fetched.handled handles
  | subscribes server result =>
      rw [result]
      exact ⟨fetched.coherent, fetched.read, fetched.subscribing⟩
  | unsubscribes server deaf result =>
      rw [result]
      exact ⟨fetched.coherent, fetched.read, fetched.subscribing⟩
  | drops index receiver message found deaf result =>
      rw [result]
      exact ⟨fetched.coherent, fetched.read, fetched.subscribing⟩
  | receives index receiver message found handles =>
      have arrived : Fetched setup { before with inFlight := before.inFlight.eraseIdx index } :=
        ⟨fetched.coherent, fetched.read, fetched.subscribing⟩
      exact arrived.handled handles

/-- An event keeps everything accounted for exactly when what it releases is. -/
theorem durable_step_iff {before after : Cluster n Conn Op Entry} {lost : Update Op}
    (fetched : Fetched setup before) (durable : Durable setup ⟨before, lost⟩)
    {event : ClusterEvent n Conn Op} (stepped : before.step setup event = some after) :
    Durable setup ⟨after, lost ∪ before.drops event⟩ ↔
      before.releases event ⊆ accounted setup ⟨before, lost⟩ := by
  cases Cluster.acts_of_step stepped with
  | runs server event notBus ready handles =>
      constructor
      · exact released_of_durable fetched.coherent handles
      · apply durable.handled fetched handles
        intro message isBus
        exact absurd isBus (notBus message)
  | subscribes server result =>
      show Durable setup ⟨after, lost ∪ ∅⟩ ↔ _
      rw [result, Finset.union_empty]
      exact iff_of_true ⟨durable.integrated, durable.inFlight⟩ (Finset.empty_subset _)
  | unsubscribes server deaf result =>
      show Durable setup ⟨after, lost ∪ ∅⟩ ↔ _
      rw [result, Finset.union_empty]
      exact iff_of_true ⟨durable.integrated, durable.inFlight⟩ (Finset.empty_subset _)
  | drops index receiver message found deaf result =>
      have nothing : before.releases (.deliver index) = ∅ := by
        cases message with
        | _ => simp [Cluster.releases, found, Cluster.releasedBy, Slot.unlocks, Slot.exposes,
            Slot.attended, deaf]
      show Durable setup ⟨after, lost ∪ ∅⟩ ↔ _
      rw [result, Finset.union_empty, nothing]
      exact iff_of_true (durable.fewer (List.eraseIdx_sublist _ _).subset)
        (Finset.empty_subset _)
  | receives index receiver message found handles =>
      have arrived := durable.fewer (List.eraseIdx_sublist before.inFlight index).subset
      have released : before.releases (.deliver index) =
          Cluster.releasedBy { before with inFlight := before.inFlight.eraseIdx index } receiver
            (.bus message) := by
        simp only [Cluster.releases, found]
        rfl
      rw [released]
      have coherent : Cluster.Coherent
          { before with inFlight := before.inFlight.eraseIdx index } := fetched.coherent
      constructor
      · exact released_of_durable coherent handles
      · apply arrived.handled ⟨coherent, fetched.read, fetched.subscribing⟩ handles
        intro other isBus
        cases isBus
        exact durable.inFlight _ (List.mem_of_getElem? found)

/-! ### Whole runs -/

theorem fetched_step {state after : Outages n Conn Op Entry} {event : OutageEvent n Conn Op}
    (fetched : Fetched setup state.cluster) (stepped : state.step setup event = some after) :
    Fetched setup after.cluster := by
  cases event with
  | runs event =>
      obtain ⟨cluster, taken, rfl⟩ := Option.map_eq_some_iff.mp stepped
      exact fetched.step taken
  | crash server =>
      cases stepped
      exact fetched.crash server
  | drop index =>
      cases stepped
      exact ⟨fetched.coherent, fetched.read, fetched.subscribing⟩

private theorem step_durable_iff {state after : Outages n Conn Op Entry}
    {event : OutageEvent n Conn Op}
    (fetched : Fetched setup state.cluster) (durable : state.Durable setup)
    (stepped : state.step setup event = some after) :
    after.Durable setup ↔ state.ReleasesAccounted setup event := by
  cases event with
  | runs event =>
      obtain ⟨cluster, taken, rfl⟩ := Option.map_eq_some_iff.mp stepped
      exact durable_step_iff fetched durable taken
  | crash server =>
      cases stepped
      exact iff_of_true (durable.crash server) trivial
  | drop index =>
      cases stepped
      exact iff_of_true (durable.fewer (List.eraseIdx_sublist _ _).subset) trivial

theorem fetched_and_durable {state : Outages n Conn Op Entry}
    (reached : ReachedWhen (step setup) (ReleasesAccounted setup) Initial state) :
    Fetched setup state.cluster ∧ state.Durable setup := by
  apply reached.invariant (fun state => Fetched setup state.cluster ∧ state.Durable setup)
  · intro state initial
    exact ⟨fetched_initial initial, durable_initial initial⟩
  · intro state event after holds allowed stepped
    exact ⟨fetched_step holds.1 stepped, (step_durable_iff holds.1 holds.2 stepped).mpr allowed⟩

/-- Whatever instances crash, everything a room has integrated is in the store, with
a writer that may still store it, or lost with one that cannot, as long as the
bus and the store release no held operation of which that is not true; and the
first step that does ends it. -/
theorem survives_crashes (setup : Setup Op Entry) {state : Outages n Conn Op Entry}
    (reached : ReachedWhen (step setup) (ReleasesAccounted setup) Initial state) :
    state.Durable setup ∧ ∀ event after, state.step setup event = some after →
      (after.Durable setup ↔ state.ReleasesAccounted setup event) := by
  obtain ⟨fetched, durable⟩ := fetched_and_durable reached
  constructor
  · exact durable
  · intro event after stepped
    exact step_durable_iff fetched durable stepped

/-- A Postgres store, whose rows outlive every instance, under the default
configuration. -/
def databaseSetup : Setup ItemId (PostgresDocumentStore.Entry ItemId) :=
  ⟨PostgresDocumentStore.store, ⟨500, 64 * 1024, 200⟩, fun update => update.card⟩

/-- An instance takes some steps. -/
def runsOn (server : Fin n) (events : List (SlotEvent Conn Op)) : List (OutageEvent n Conn Op) :=
  events.map fun event => .runs (.runs server event)

/-- A visitor on each of two instances; the first one's edit is stored, and the
instance crashes before its second one is. -/
def crashing (crashes stays : Fin n) : List (OutageEvent n ℕ ItemId) :=
  runsOn crashes (visits 0 ++ [.loadResolved 7]) ++ [.runs (.subscribe crashes)] ++
    runsOn crashes [.subscribed, .resume, .proceed 0] ++
    runsOn stays (visits 1 ++ [.loadResolved 8]) ++ [.runs (.subscribe stays)] ++
    runsOn stays [.subscribed, .resume, .proceed 1] ++
    runsOn crashes [.frame 0 (.sync (.update {⟨7, 0⟩})), .writer 0 .timerFired,
      .writer 0 .startWrite, .writer 0 .appendStored, .frame 0 (.sync (.update {⟨7, 1⟩}))] ++
    [.crash crashes, .runs (.deliver 0), .runs (.deliver 0)]

theorem survives_crashes_lost :
    ∃ (state : Outages 2 ℕ ItemId (PostgresDocumentStore.Entry ItemId)),
      (state.cluster.slots 1).objects.map (fun object => object.room.doc.integrated) =
        [{⟨7, 0⟩, ⟨7, 1⟩}] ∧
      state.cluster.content databaseSetup = {⟨7, 0⟩} ∧ state.lost = {⟨7, 1⟩} ∧
      state.Durable databaseSetup ∧ ∀ event after, state.step databaseSetup event = some after →
        (after.Durable databaseSetup ↔ state.ReleasesAccounted databaseSetup event) := by
  obtain ⟨state, reached, integrated, stored, lost⟩ := exists_reachedWhen_of_runWhen
    (step databaseSetup) (ReleasesAccounted databaseSetup) Initial
    (⟨⟨fun _ => Slot.initial PostgresDocumentStore.store.absent,
        PostgresDocumentStore.store.absent, fun _ => false, []⟩, ∅⟩ : Outages 2 ℕ ItemId _)
    (crashing 0 1)
    (fun state => (state.cluster.slots 1).objects.map (fun object =>
        object.room.doc.integrated) = [{⟨7, 0⟩, ⟨7, 1⟩}] ∧
      state.cluster.content databaseSetup = {⟨7, 0⟩} ∧ state.lost = {⟨7, 1⟩})
    ⟨⟨_, fun _ => rfl⟩, fun _ => rfl, rfl, rfl⟩ (by decide)
  exact ⟨state, integrated, stored, lost, survives_crashes databaseSetup reached⟩

end Outages

end CollabEditor
