import CollabEditor.Instance.Registry

/-!
Owns several server instances that share one store and one broker, for one
document. The broker hands a message to every other instance subscribed when it
was published; each copy arrives whenever it does, and an instance without a
listener drops it.

Assumes a shared `DocumentStore` whose calls take effect as a whole, and a
broker that stays up and loses no copy. Does not own the frames of a message:
see `Cluster.Broker`.
-/

namespace CollabEditor

open CollabEditor.Library CollabEditor.Yjs CollabEditor.Persistence CollabEditor.Rooms
open CollabEditor.Instance
open CollabEditor.Ws (dispatch)

universe u v w

variable {Conn : Type v} {Op : Type u} {Entry : Type w} [DecidableEq Conn] [DecidableEq Op]
  [Causality Op]

/-- `n` instances. -/
structure Cluster (n : ℕ) (Conn : Type v) (Op : Type u) (Entry : Type w) where
  slots : Fin n → Slot Conn Op Entry
  /-- The document's entry in the shared store. -/
  entry : Entry
  /-- Whether the broker counts an instance as a subscriber. -/
  subscribed : Fin n → Bool
  /-- Messages on their way, with the instance they go to. -/
  inFlight : List (Fin n × BusMessage Op)

inductive ClusterEvent (n : ℕ) (Conn : Type v) (Op : Type u) where
  | runs (server : Fin n) (event : SlotEvent Conn Op)
  /-- An instance's SUBSCRIBE reaches the broker. -/
  | subscribe (server : Fin n)
  | unsubscribe (server : Fin n)
  /-- One of the messages in flight arrives. -/
  | deliver (index : ℕ)

namespace Cluster

variable {n : ℕ}

/-- The copies of a message published by an instance, whose own copy it ignores. -/
def copies (cluster : Cluster n Conn Op Entry) (publisher : Fin n) (message : BusMessage Op) :
    List (Fin n × BusMessage Op) :=
  ((List.finRange n).filter fun other => other ≠ publisher ∧ cluster.subscribed other).map
    fun other => (other, message)

/-- An instance's slot over the store as it is now. -/
def slot (cluster : Cluster n Conn Op Entry) (server : Fin n) : Slot Conn Op Entry :=
  { cluster.slots server with entry := cluster.entry }

/-- An instance handles an event. -/
def handle (setup : Setup Op Entry) (cluster : Cluster n Conn Op Entry) (server : Fin n)
    (event : SlotEvent Conn Op) : Option (Cluster n Conn Op Entry) :=
  ((cluster.slot server).step setup event).map fun slot => { cluster with
    slots := Function.update cluster.slots server slot
    entry := slot.entry
    inFlight := cluster.inFlight ++
      ((cluster.slot server).publishes event).flatMap (cluster.copies server) }

def step (setup : Setup Op Entry) (cluster : Cluster n Conn Op Entry) :
    ClusterEvent n Conn Op → Option (Cluster n Conn Op Entry)
  | .runs _ (.bus _) => none
  | .runs server .subscribed =>
      if cluster.subscribed server then cluster.handle setup server .subscribed else none
  | .runs server event => cluster.handle setup server event
  | .subscribe server =>
      if (cluster.slots server).listener.isSome then some { cluster with
        subscribed := Function.update cluster.subscribed server true }
      else none
  | .unsubscribe server =>
      if (cluster.slots server).listener.isSome then none else some { cluster with
        subscribed := Function.update cluster.subscribed server false }
  | .deliver index =>
      match cluster.inFlight[index]? with
      | some (receiver, message) =>
          let arrived := { cluster with inFlight := cluster.inFlight.eraseIdx index }
          if (cluster.slots receiver).listener.isSome then
            arrived.handle setup receiver (.bus message)
          else some arrived
      | none => none

/-- What the messages on their way to an instance carry. -/
def carriedTo (cluster : Cluster n Conn Op Entry) (receiver : Fin n) : Update Op :=
  mergeUpdates ((cluster.inFlight.filter fun copy => copy.1 = receiver).map
    fun copy => copy.2.carried)

/-! ### Messages in flight -/

section Flights

variable {cluster : Cluster n Conn Op Entry}

omit [DecidableEq Conn] [Causality Op]

theorem mem_carriedTo {receiver : Fin n} {op : Op} : op ∈ cluster.carriedTo receiver ↔
    ∃ message, (receiver, message) ∈ cluster.inFlight ∧ op ∈ message.carried := by
  unfold carriedTo
  rw [mem_mergeUpdates]
  constructor
  · rintro ⟨update, member, carried⟩
    obtain ⟨⟨other, message⟩, copy, rfl⟩ := List.mem_map.mp member
    obtain ⟨inFlight, same⟩ := List.mem_filter.mp copy
    obtain rfl := of_decide_eq_true same
    exact ⟨message, inFlight, carried⟩
  · rintro ⟨message, inFlight, carried⟩
    refine ⟨message.carried, List.mem_map.mpr ⟨(receiver, message), ?_, rfl⟩, carried⟩
    exact List.mem_filter.mpr ⟨inFlight, decide_eq_true rfl⟩

omit [DecidableEq Op] in
theorem mem_copies {publisher receiver : Fin n} {message copied : BusMessage Op} :
    (receiver, copied) ∈ cluster.copies publisher message ↔
      receiver ≠ publisher ∧ cluster.subscribed receiver = true ∧ copied = message := by
  unfold copies
  simp only [List.mem_map, List.mem_filter, List.mem_finRange, true_and, Prod.mk.injEq,
    decide_eq_true_eq]
  constructor
  · rintro ⟨other, ⟨different, listens⟩, rfl, rfl⟩
    exact ⟨different, listens, rfl⟩
  · rintro ⟨different, listens, rfl⟩
    exact ⟨receiver, ⟨different, listens⟩, rfl, rfl⟩

omit [DecidableEq Op] in
/-- The message that arrives and those that stay. -/
theorem mem_inFlight_iff {index : ℕ} {arriving copy : Fin n × BusMessage Op}
    (found : cluster.inFlight[index]? = some arriving) :
    copy ∈ cluster.inFlight ↔ copy = arriving ∨ copy ∈ cluster.inFlight.eraseIdx index := by
  obtain ⟨inside, rfl⟩ := List.getElem?_eq_some_iff.mp found
  rw [← (List.getElem_cons_eraseIdx_perm inside).mem_iff, List.mem_cons]

/-- What was on its way to an instance still is, unless it just arrived. -/
theorem mem_carriedTo_eraseIdx {index : ℕ} {receiver other : Fin n} {message : BusMessage Op}
    {op : Op} (found : cluster.inFlight[index]? = some (receiver, message))
    (member : op ∈ cluster.carriedTo other) :
    op ∈ ({ cluster with inFlight := cluster.inFlight.eraseIdx index } :
      Cluster n Conn Op Entry).carriedTo other ∨ receiver = other ∧ op ∈ message.carried := by
  obtain ⟨sent, inFlight, carried⟩ := mem_carriedTo.mp member
  rcases (mem_inFlight_iff found).mp inFlight with arriving | stays
  · cases arriving
    exact Or.inr ⟨rfl, carried⟩
  · exact Or.inl (mem_carriedTo.mpr ⟨sent, stays, carried⟩)

end Flights

/-! ### One step -/

/-- What an instance that handles an event leaves. -/
structure Handles (setup : Setup Op Entry) (before after : Cluster n Conn Op Entry)
    (server : Fin n) (event : SlotEvent Conn Op) : Prop where
  stepped : (before.slot server).step setup event = some (after.slot server)
  others : ∀ other, other ≠ server → after.slots other = before.slots other
  subscribed : after.subscribed = before.subscribed
  inFlight : ∀ copy, copy ∈ after.inFlight ↔ copy ∈ before.inFlight ∨
    ∃ message ∈ (before.slot server).publishes event,
      copy ∈ before.copies server message

private theorem handles_of_handle {setup : Setup Op Entry} {before after : Cluster n Conn Op Entry}
    {server : Fin n} {event : SlotEvent Conn Op}
    (handled : before.handle setup server event = some after) :
    Handles setup before after server event := by
  obtain ⟨slot', stepped, rfl⟩ := Option.map_eq_some_iff.mp handled
  refine ⟨?_, fun other different => Function.update_of_ne different _ _, rfl, fun copy => ?_⟩
  · refine stepped.trans (congrArg some ?_)
    simp only [Cluster.slot, Function.update_self]
  · rw [List.mem_append, List.mem_flatMap]

inductive Acts (setup : Setup Op Entry) (before after : Cluster n Conn Op Entry) :
    ClusterEvent n Conn Op → Prop where
  | runs (server : Fin n) (event : SlotEvent Conn Op) (notBus : ∀ message, event ≠ .bus message)
      (ready : event = .subscribed → before.subscribed server = true)
      (handles : Handles setup before after server event) : Acts setup before after
        (.runs server event)
  | subscribes (server : Fin n) (result : after = { before with
      subscribed := Function.update before.subscribed server true }) :
      Acts setup before after (.subscribe server)
  | unsubscribes (server : Fin n) (deaf : (before.slots server).listener = none)
      (result : after = { before with
        subscribed := Function.update before.subscribed server false }) :
      Acts setup before after (.unsubscribe server)
  | drops (index : ℕ) (receiver : Fin n) (message : BusMessage Op)
      (found : before.inFlight[index]? = some (receiver, message))
      (deaf : (before.slots receiver).listener = none)
      (result : after = { before with inFlight := before.inFlight.eraseIdx index }) :
      Acts setup before after (.deliver index)
  | receives (index : ℕ) (receiver : Fin n) (message : BusMessage Op)
      (found : before.inFlight[index]? = some (receiver, message))
      (handles : Handles setup { before with inFlight := before.inFlight.eraseIdx index } after
        receiver (.bus message)) : Acts setup before after (.deliver index)

theorem acts_of_step {setup : Setup Op Entry} {before after : Cluster n Conn Op Entry}
    {event : ClusterEvent n Conn Op} (stepped : before.step setup event = some after) :
    Acts setup before after event := by
  unfold step at stepped
  split at stepped
  · cases stepped
  · next server =>
      split at stepped
      · next ready => exact .runs server _ nofun (fun _ => ready) (handles_of_handle stepped)
      · cases stepped
  · next server event notBus notSubscribed =>
      exact .runs server event notBus (fun isSubscribed => (notSubscribed isSubscribed).elim)
        (handles_of_handle stepped)
  · split at stepped
    · cases stepped
      exact .subscribes _ rfl
    · cases stepped
  · next server =>
      split at stepped
      · cases stepped
      · next deaf =>
          cases stepped
          exact .unsubscribes server (Option.not_isSome_iff_eq_none.mp deaf) rfl
  · next index =>
      split at stepped
      · next receiver message found =>
          dsimp only at stepped
          split at stepped
          · exact .receives index receiver message found (handles_of_handle stepped)
          · next deaf =>
              cases stepped
              exact .drops index receiver message found
                (Option.not_isSome_iff_eq_none.mp deaf) rfl
      · cases stepped

/-- Every instance keeps the registry's invariant. -/
def Coherent (cluster : Cluster n Conn Op Entry) : Prop :=
  ∀ server, (cluster.slots server).Coherent

omit [DecidableEq Conn] [DecidableEq Op] [Causality Op] in
theorem coherent_slot {cluster : Cluster n Conn Op Entry} (coherent : cluster.Coherent)
    (server : Fin n) : (cluster.slot server).Coherent :=
  (coherent server).unchanged ((Slot.Unchanged.refl _).withEntry cluster.entry)

theorem Handles.coherent {setup : Setup Op Entry} {before after : Cluster n Conn Op Entry}
    {server : Fin n} {event : SlotEvent Conn Op} (handles : Handles setup before after server event)
    (coherent : before.Coherent) : after.Coherent := by
  intro other
  by_cases here : other = server
  · subst here
    have stepped := (coherent_slot coherent other).step handles.stepped
    exact stepped.unchanged ((Slot.Unchanged.refl _).withEntry (after.slots other).entry)
  · rw [handles.others other here]
    exact coherent other

theorem Coherent.step {setup : Setup Op Entry} {before after : Cluster n Conn Op Entry}
    (coherent : before.Coherent) {event : ClusterEvent n Conn Op}
    (stepped : before.step setup event = some after) : after.Coherent := by
  cases acts_of_step stepped with
  | runs server event notBus ready handles => exact handles.coherent coherent
  | subscribes server result => exact result ▸ coherent
  | unsubscribes server deaf result => exact result ▸ coherent
  | drops index receiver message found deaf result => exact result ▸ coherent
  | receives index receiver message found handles => exact handles.coherent coherent

end Cluster

end CollabEditor
