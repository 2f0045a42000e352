import CollabEditor.Rooms.Origins

/-!
Owns which connection a presence state belongs to. A room clears on a
disconnect the ids in `controlledAwarenessIds`, which `onAwarenessUpdate` keeps
from what change events list; beside it stands whose value each id has.
-/

namespace CollabEditor.Rooms

open CollabEditor.Library CollabEditor.Yjs

universe u v

variable {Client : Type v} {Op : Type u} [DecidableEq Client]

/-- A room, the client whose value was accepted last for each id (none when it
came over the bus), and every client that has been added. -/
structure Presence (Client : Type v) (Op : Type u) where
  room : Room Client Op
  owner : ℕ → Option Client
  joined : List Client

namespace Presence

def start (clientId : ℕ) : Presence Client Op := ⟨Room.new clientId, fun _ => none, []⟩

/-- A client is added once, and only while it is in the room do its frames
reach it. -/
def Enabled (presence : Presence Client Op) : RoomEvent Client Op → Prop
  | .add client => client ∉ presence.joined
  | .remove client | .sync client _ | .awareness client _ => client ∈ presence.room.clients
  | _ => True

instance (presence : Presence Client Op) : DecidablePred presence.Enabled := fun event =>
  match event with
  | .add client => inferInstanceAs (Decidable (client ∉ presence.joined))
  | .remove client => inferInstanceAs (Decidable (client ∈ presence.room.clients))
  | .sync client _ => inferInstanceAs (Decidable (client ∈ presence.room.clients))
  | .awareness client _ => inferInstanceAs (Decidable (client ∈ presence.room.clients))
  | .hydrate _ | .receive _ | .expirePresence _ => inferInstanceAs (Decidable True)

/-- The ids whose state an event sets. -/
def claimed (presence : Presence Client Op) : RoomEvent Client Op → List ℕ
  | .awareness _ entries | .receive (.awareness entries) => presence.room.awareness.sets entries
  | _ => []

/-- The client an event comes from. -/
def source : RoomEvent Client Op → Option Client
  | .awareness client _ => some client
  | _ => none

def step [DecidableEq Op] [Causality Op] (presence : Presence Client Op)
    (event : RoomEvent Client Op) : Option (Presence Client Op) :=
  if presence.Enabled event then some {
    room := (event.perform presence.room).1
    owner := fun id => if id ∈ presence.claimed event then source event else presence.owner id
    joined :=
      match event with
      | .add client => client :: presence.joined
      | _ => presence.joined }
  else none

/-- What `remove` is there for: it leaves no state whose value came from the
client, and takes none whose value came from another one in the room. -/
def RemovesOwn (presence : Presence Client Op) (client : Client) : Prop :=
  (∀ id ∈ (presence.room.remove client).1.awareness.states, presence.owner id ≠ some client) ∧
  ∀ id ∈ presence.room.awareness.states,
    id ∉ (presence.room.remove client).1.awareness.states →
      ∀ other ∈ presence.room.clients, other ≠ client → presence.owner id ≠ some other

/-- Every id with a value from the client once its frame is applied is one that
it controlled already or that the event lists as added, the event does not list
it as removed, and nobody else in the room controls it. -/
def KeepsOwnership (presence : Presence Client Op) : RoomEvent Client Op → Prop
  | .awareness client entries =>
      let applied := presence.room.awareness.applyUpdate entries
      ∀ id ∈ applied.1.states,
        id ∈ presence.room.awareness.sets entries ∨ presence.owner id = some client →
          (id ∈ presence.room.controlled client ∨ id ∈ applied.2.added) ∧
            id ∉ applied.2.removed ∧
              ∀ other ∈ presence.room.clients, other ≠ client →
                id ∉ presence.room.controlled other
  | _ => True

/-! ### What the calls change -/

end Presence

namespace Room

theorem changeAwareness_awareness (room : Room Client Op)
    (changed : Awareness × AwarenessChange) (origin : Origin Client) :
    (room.changeAwareness changed origin).1.awareness = changed.1 := by
  unfold changeAwareness
  split <;> rfl

/-- Only a client's frame changes which ids a client controls. -/
theorem changeAwareness_controlled (room : Room Client Op)
    (changed : Awareness × AwarenessChange) {origin : Origin Client}
    (notClient : ∀ client, origin ≠ .client client) :
    (room.changeAwareness changed origin).1.controlled = room.controlled := by
  unfold changeAwareness onAwarenessUpdate
  split
  · rfl
  · cases origin with
    | client client => exact absurd rfl (notClient client)
    | _ => rfl

private theorem mem_controlled_handleAwareness (room : Room Client Op) (client other : Client)
    (entries : List AwarenessEntry) (id : ℕ) :
    id ∈ (room.handleAwareness client entries).1.controlled other ↔
      if other = client then
        (id ∈ room.controlled client ∨ id ∈ (room.awareness.applyUpdate entries).2.added) ∧
          id ∉ (room.awareness.applyUpdate entries).2.removed
      else id ∈ room.controlled other := by
  unfold handleAwareness changeAwareness
  split
  · next nothing =>
      have noneAdded : (room.awareness.applyUpdate entries).2.added = [] := by rw [nothing]; rfl
      have noneRemoved : (room.awareness.applyUpdate entries).2.removed = [] := by
        rw [nothing]; rfl
      rw [noneAdded, noneRemoved]
      split
      · next same => simp [same]
      · rfl
  · unfold onAwarenessUpdate
    dsimp only
    by_cases same : other = client
    · subst same
      rw [Function.update_self, if_pos rfl]
      simp only [List.mem_filter, List.mem_append, decide_eq_true_eq]
      tauto
    · rw [Function.update_of_ne same, if_neg same]

theorem clients_remove (room : Room Client Op) (client : Client) :
    (room.remove client).1.clients = room.clients.filter (· ≠ client) :=
  (Room.changeAwareness_doc _ _ _).2

theorem mem_states_remove (room : Room Client Op) (client : Client) (id : ℕ) :
    id ∈ (room.remove client).1.awareness.states ↔
      id ∈ room.awareness.states ∧ id ∉ room.controlled client := by
  unfold remove
  rw [changeAwareness_awareness]
  exact room.awareness.mem_states_removeStates _ id

end Room

namespace Presence

variable {presence presence' : Presence Client Op} {event : RoomEvent Client Op}

/-- In terms of the ids a client controls. -/
theorem removesOwn_iff {client : Client} : presence.RemovesOwn client ↔
    (∀ id ∈ presence.room.awareness.states,
      presence.owner id = some client → id ∈ presence.room.controlled client) ∧
    ∀ id ∈ presence.room.awareness.states, id ∈ presence.room.controlled client →
      ∀ other ∈ presence.room.clients, other ≠ client → presence.owner id ≠ some other := by
  simp only [RemovesOwn, Room.mem_states_remove]
  refine and_congr ⟨fun holds id present owned => ?_, fun holds id remains owned => ?_⟩
    ⟨fun holds id present controls => ?_, fun holds id present removed => ?_⟩
  · by_contra notControlled
    exact holds id ⟨present, notControlled⟩ owned
  · exact remains.2 (holds id remains.1 owned)
  · exact holds id present fun remains => remains.2 controls
  · refine holds id present ?_
    by_contra notControlled
    exact removed ⟨present, notControlled⟩

/-- Somebody who was never added owns and controls nothing. -/
structure Known (presence : Presence Client Op) : Prop where
  joined : ∀ client ∈ presence.room.clients, client ∈ presence.joined
  controls : ∀ client, client ∉ presence.joined → presence.room.controlled client = []
  owns : ∀ client, client ∉ presence.joined → ∀ id, presence.owner id ≠ some client

/-- What an event other than a client's presence frame may do: it hands nobody
a value or an id, and who is new in the room had neither. -/
structure Quiet (presence presence' : Presence Client Op) : Prop where
  controlled : presence'.room.controlled = presence.room.controlled
  owner : ∀ id client, presence'.owner id = some client → presence.owner id = some client
  states : ∀ id ∈ presence'.room.awareness.states, ∀ client,
    presence'.owner id = some client → id ∈ presence.room.awareness.states
  joined : presence.joined ⊆ presence'.joined
  clients : ∀ client ∈ presence'.room.clients, client ∈ presence.room.clients ∨
    client ∉ presence.joined ∧ client ∈ presence'.joined

private theorem quiet_of_step [DecidableEq Op] [Causality Op]
    (stepped : presence.step event = some presence')
    (noFrame : ∀ client entries, event ≠ .awareness client entries) :
    presence.Quiet presence' := by
  unfold step at stepped
  split at stepped
  · next enabled =>
      cases stepped
      have unclaimed : presence.claimed event = [] → ∀ id client,
          (if id ∈ presence.claimed event then source event else presence.owner id) =
            some client → presence.owner id = some client := by
        intro nothing id client owner
        rwa [nothing, if_neg List.not_mem_nil] at owner
      cases event with
      | hydrate state =>
          exact ⟨rfl, unclaimed rfl, fun id present _ _ => present, List.Subset.refl _,
            fun client => Or.inl⟩
      | add client =>
          refine ⟨rfl, unclaimed rfl, fun id present _ _ => present, List.subset_cons_self _ _, ?_⟩
          intro other member
          unfold RoomEvent.perform Room.add at member
          dsimp only at member
          split at member
          · exact Or.inl member
          · rcases List.mem_append.mp member with before | new
            · exact Or.inl before
            · rw [List.mem_singleton.mp new]
              exact Or.inr ⟨enabled, List.mem_cons_self⟩
      | remove client =>
          refine ⟨Room.changeAwareness_controlled _ _ (fun _ => by simp), unclaimed rfl,
            fun id present _ _ => ?_, List.Subset.refl _, fun other member => ?_⟩
          · exact ((presence.room.mem_states_remove client id).mp present).1
          · have remaining : other ∈ presence.room.clients.filter (· ≠ client) :=
              presence.room.clients_remove client ▸ member
            exact Or.inl (List.mem_filter.mp remaining).1
      | sync client message =>
          cases message <;> exact ⟨rfl, unclaimed rfl, fun id present _ _ => present,
            List.Subset.refl _, fun client => Or.inl⟩
      | awareness client entries => exact absurd rfl (noFrame client entries)
      | receive message =>
          cases message with
          | update update =>
              exact ⟨rfl, unclaimed rfl, fun id present _ _ => present, List.Subset.refl _,
                fun client => Or.inl⟩
          | stateRequest =>
              exact ⟨rfl, unclaimed rfl, fun id present _ _ => present, List.Subset.refl _,
                fun client => Or.inl⟩
          | awareness entries =>
              have kept : ∀ id client,
                  (if id ∈ presence.room.awareness.sets entries then none
                    else presence.owner id) = some client →
                  id ∉ presence.room.awareness.sets entries ∧ presence.owner id = some client := by
                intro id client owner
                split at owner
                · cases owner
                · next notSet => exact ⟨notSet, owner⟩
              refine ⟨Room.changeAwareness_controlled _ _ (fun _ => by simp),
                fun id client owner => (kept id client owner).2,
                fun id present client owner => ?_, List.Subset.refl _,
                fun client member => Or.inl ((presence.room.changeAwareness_doc _ _).2 ▸ member)⟩
              have after : (presence.room.receive (.awareness entries)).1.awareness =
                  (presence.room.awareness.applyUpdate entries).1 :=
                Room.changeAwareness_awareness _ _ _
              change id ∈ (presence.room.receive _).1.awareness.states at present
              rw [after] at present
              exact ((presence.room.awareness.mem_applyUpdate_cases entries id).1
                present).resolve_right (kept id client owner).1
      | expirePresence ids =>
          refine ⟨Room.changeAwareness_controlled _ _ (fun _ => by simp), unclaimed rfl,
            fun id present client owner => ?_, List.Subset.refl _, fun client member =>
              Or.inl ((presence.room.changeAwareness_doc _ _).2 ▸ member)⟩
          have after : (presence.room.expirePresence ids).1.awareness =
              (presence.room.awareness.removeStates ids).1 :=
            Room.changeAwareness_awareness _ _ _
          change id ∈ (presence.room.expirePresence ids).1.awareness.states at present
          rw [after] at present
          exact ((presence.room.awareness.mem_states_removeStates ids id).mp present).1
  · cases stepped

omit [DecidableEq Client] in
private theorem Quiet.known (quiet : presence.Quiet presence') (known : presence.Known) :
    presence'.Known where
  joined client member := by
    rcases quiet.clients client member with before | new
    · exact quiet.joined (known.joined client before)
    · exact new.2
  controls client unknown := by
    rw [quiet.controlled]
    exact known.controls client fun before => unknown (quiet.joined before)
  owns client unknown id owner :=
    known.owns client (fun before => unknown (quiet.joined before)) id
      (quiet.owner id client owner)

private theorem Quiet.removesOwn (quiet : presence.Quiet presence') (known : presence.Known)
    (holds : ∀ client ∈ presence.room.clients, presence.RemovesOwn client) :
    ∀ client ∈ presence'.room.clients, presence'.RemovesOwn client := by
  intro client member
  rw [removesOwn_iff, quiet.controlled]
  constructor
  · intro id present owner
    have before := quiet.states id present client owner
    have owned := quiet.owner id client owner
    rcases quiet.clients client member with old | new
    · exact (removesOwn_iff.mp (holds client old)).1 id before owned
    · exact absurd owned (known.owns client new.1 id)
  · intro id present controls other otherMember different owner
    have before := quiet.states id present other owner
    have owned := quiet.owner id other owner
    rcases quiet.clients client member with old | new
    · rcases quiet.clients other otherMember with otherOld | otherNew
      · exact (removesOwn_iff.mp (holds client old)).2 id before controls other otherOld
          different owned
      · exact known.owns other otherNew.1 id owned
    · rw [known.controls client new.1] at controls
      cases controls

/-! ### A client's presence frame -/

section Frame

variable {client : Client} {entries : List AwarenessEntry}

/-- What a client's frame changes. -/
structure Framed (presence presence' : Presence Client Op) (client : Client)
    (entries : List AwarenessEntry) : Prop where
  member : client ∈ presence.room.clients
  clients : presence'.room.clients = presence.room.clients
  joined : presence'.joined = presence.joined
  awareness : presence'.room.awareness = (presence.room.awareness.applyUpdate entries).1
  controlled : ∀ other id, id ∈ presence'.room.controlled other ↔
    if other = client then
      (id ∈ presence.room.controlled client ∨
        id ∈ (presence.room.awareness.applyUpdate entries).2.added) ∧
          id ∉ (presence.room.awareness.applyUpdate entries).2.removed
    else id ∈ presence.room.controlled other
  owner : ∀ id, presence'.owner id =
    if id ∈ presence.room.awareness.sets entries then some client else presence.owner id

private theorem framed_of_step [DecidableEq Op] [Causality Op]
    (stepped : presence.step (.awareness client entries) = some presence') :
    presence.Framed presence' client entries := by
  unfold step at stepped
  split at stepped
  · next member =>
      cases stepped
      exact ⟨member, (Room.changeAwareness_doc _ _ _).2, rfl, Room.changeAwareness_awareness _ _ _,
        fun other id => presence.room.mem_controlled_handleAwareness client other entries id,
        fun _ => rfl⟩
  · cases stepped

private theorem Framed.known (framed : presence.Framed presence' client entries)
    (known : presence.Known) : presence'.Known where
  joined other member := by
    rw [framed.joined]
    exact known.joined other (framed.clients ▸ member)
  controls other unknown := by
    rw [framed.joined] at unknown
    have different : other ≠ client := by
      rintro rfl
      exact unknown (known.joined other framed.member)
    rw [List.eq_nil_iff_forall_not_mem]
    intro id controls
    rw [framed.controlled, if_neg different, known.controls other unknown] at controls
    cases controls
  owns other unknown id owner := by
    rw [framed.joined] at unknown
    rw [framed.owner] at owner
    split at owner
    · cases owner
      exact unknown (known.joined client framed.member)
    · exact known.owns other unknown id owner

/-- A value of somebody else was there before the frame. -/
theorem Framed.owner_of_ne (framed : presence.Framed presence' client entries) {id : ℕ}
    {other : Client} (present : id ∈ presence'.room.awareness.states)
    (owner : presence'.owner id = some other) (different : other ≠ client) :
    id ∉ presence.room.awareness.sets entries ∧ id ∈ presence.room.awareness.states ∧
      presence.owner id = some other := by
  rw [framed.owner] at owner
  split at owner
  · cases owner
    exact absurd rfl different
  · next notSet =>
      rw [framed.awareness] at present
      exact ⟨notSet, ((presence.room.awareness.mem_applyUpdate_cases entries id).1
        present).resolve_right notSet, owner⟩

/-- It leaves the ids that clients control right exactly when it keeps to its
own. -/
theorem Framed.removesOwn_iff (framed : presence.Framed presence' client entries)
    (holds : ∀ other ∈ presence.room.clients, presence.RemovesOwn other) :
    (∀ other ∈ presence'.room.clients, presence'.RemovesOwn other) ↔
      presence.KeepsOwnership (.awareness client entries) := by
  have owned : ∀ id, presence'.owner id = some client ↔
      id ∈ presence.room.awareness.sets entries ∨ presence.owner id = some client := by
    intro id
    rw [framed.owner]
    split
    · next set => exact iff_of_true rfl (Or.inl set)
    · next notSet => exact ⟨Or.inr, fun either => either.resolve_left notSet⟩
  have before := fun other member => Presence.removesOwn_iff.mp (holds other member)
  constructor
  · intro after id present either
    rw [← framed.awareness] at present
    have mine := (owned id).mpr either
    have controls := (Presence.removesOwn_iff.mp
      (after client (framed.clients ▸ framed.member))).1 id present mine
    rw [framed.controlled, if_pos rfl] at controls
    refine ⟨controls.1, controls.2, fun other member different controlled => ?_⟩
    have theirs : id ∈ presence'.room.controlled other := by
      rw [framed.controlled, if_neg different]
      exact controlled
    exact (Presence.removesOwn_iff.mp (after other (framed.clients ▸ member))).2 id present
      theirs client (framed.clients ▸ framed.member) (Ne.symm different) mine
  · intro keeps other member
    rw [framed.clients] at member
    rw [Presence.removesOwn_iff]
    constructor
    · intro id present owner
      rw [framed.controlled]
      split
      · next same =>
          subst same
          have kept := keeps id (framed.awareness ▸ present) ((owned id).mp owner)
          exact ⟨kept.1, kept.2.1⟩
      · next different =>
          obtain ⟨-, present, owner⟩ := framed.owner_of_ne present owner different
          exact (before other member).1 id present owner
    · intro id present controls third thirdMember different owner
      rw [framed.clients] at thirdMember
      rw [framed.controlled] at controls
      by_cases isClient : third = client
      · subst isClient
        rw [if_neg (Ne.symm different)] at controls
        exact (keeps id (framed.awareness ▸ present) ((owned id).mp owner)).2.2 other member
          (Ne.symm different) controls
      · obtain ⟨notSet, present, owner⟩ := framed.owner_of_ne present owner isClient
        split at controls
        · next same =>
            subst same
            have controlled : id ∈ presence.room.controlled other :=
              controls.1.resolve_right fun added => notSet
                ((presence.room.awareness.mem_applyUpdate_cases entries id).2 added)
            exact (before other member).2 id present controlled third thirdMember different owner
        · exact (before other member).2 id present controls third thirdMember different owner

end Frame

/-- Along a run, at every moment the removal of any client in the room would be
exact, if and only if every presence frame of a client keeps ownership. -/
theorem removals_along_iff [DecidableEq Op] [Causality Op] (clientId : ℕ)
    (events : List (RoomEvent Client Op)) :
    Along step (fun presence => ∀ client ∈ presence.room.clients, presence.RemovesOwn client)
      (start clientId : Presence Client Op) events ↔
    Meets step KeepsOwnership (start clientId : Presence Client Op) events := by
  have known : (start clientId : Presence Client Op).Known :=
    ⟨fun _ member => (List.not_mem_nil member).elim, fun _ _ => rfl,
      fun _ _ _ owner => by cases owner⟩
  refine along_iff_meets _ Known ?_ ?_ known (fun _ member => (List.not_mem_nil member).elim) events
  · intro presence event presence' known stepped
    by_cases frame : ∃ client entries, event = .awareness client entries
    · obtain ⟨client, entries, rfl⟩ := frame
      exact (framed_of_step stepped).known known
    · exact (quiet_of_step stepped fun client entries same =>
        frame ⟨client, entries, same⟩).known known
  · intro presence event presence' known holds stepped
    by_cases frame : ∃ client entries, event = .awareness client entries
    · obtain ⟨client, entries, rfl⟩ := frame
      exact (framed_of_step stepped).removesOwn_iff holds
    · have keeps : presence.KeepsOwnership event := by
        unfold KeepsOwnership
        split
        · exact absurd ⟨_, _, rfl⟩ frame
        · trivial
      exact iff_of_true ((quiet_of_step stepped fun client entries same =>
        frame ⟨client, entries, same⟩).removesOwn known holds) keeps

/-- Somebody reconnects to a room another client kept open, under the id its
first connection had: the id is listed as updated, so the second connection
does not control it. -/
theorem reconnected_lingers : ∃ presence : Presence ℕ ItemId,
    Reached step (· = start 1) presence ∧
      ∃ client ∈ presence.room.clients, ¬ presence.RemovesOwn client := by
  let runs : List (RoomEvent ℕ ItemId) :=
    [.add 0, .add 1, .awareness 1 [⟨7, 1, some "cursor"⟩], .remove 1,
      .add 2, .awareness 2 [⟨7, 2, some "cursor"⟩]]
  obtain ⟨presence, reached, lingers⟩ := exists_reachedWhen_of_runWhen step (fun _ _ => True)
    (· = start 1) (start 1) runs
    (fun presence => 2 ∈ presence.room.clients ∧ presence.owner 7 = some 2 ∧
      7 ∈ (presence.room.remove 2).1.awareness.states) rfl (by decide)
  exact ⟨presence, reached, 2, lingers.1, fun removesOwn =>
    removesOwn.1 7 lingers.2.2 lingers.2.1⟩

end Presence

end CollabEditor.Rooms
