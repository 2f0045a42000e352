import CollabEditor.Rooms.Room
import CollabEditor.Yjs.Slots

/-!
Owns what a room tells its clients about presence: the frames of every call,
and what an awareness that hears them holds for an id afterwards.
-/

namespace CollabEditor.Rooms

open CollabEditor.Library CollabEditor.Yjs

universe u v

variable {Client : Type v} {Op : Type u} [DecidableEq Client]

/-- The presence payload a call sends to `client`. -/
def Effect.presenceTo? (client : Client) : Effect Client Op → Option (List AwarenessEntry)
  | .sendPresence receiver (.awareness entries) =>
      if receiver = client then some entries else none
  | _ => none

/-- The presence payloads some calls send to `client`, in order. -/
def presenceTo (client : Client) (effects : List (Effect Client Op)) :
    List (List AwarenessEntry) :=
  effects.filterMap (Effect.presenceTo? client)

namespace Room

/-- Everybody but the origin is shown what changed. -/
theorem presenceTo_changeAwareness (room : Room Client Op)
    (changed : Awareness × AwarenessChange) (origin : Origin Client) (client : Client) :
    presenceTo client (room.changeAwareness changed origin).2 =
      if changed.2 = .empty then []
      else ((room.audience origin).filter (· = client)).map
        fun _ => changed.1.encodeUpdate changed.2.all := by
  unfold changeAwareness
  split
  · rfl
  · show presenceTo client ((if origin ≠ .remote then
        [Effect.publish (.awareness (changed.1.encodeUpdate changed.2.all))] else []) ++
      (room.audience origin).map fun receiver =>
        Effect.sendPresence receiver (.awareness (changed.1.encodeUpdate changed.2.all))) = _
    have publishes : presenceTo client (if origin ≠ .remote then
        [(Effect.publish (.awareness (changed.1.encodeUpdate changed.2.all)) :
          Effect Client Op)] else []) = [] := by
      split <;> rfl
    unfold presenceTo at publishes ⊢
    rw [List.filterMap_append, publishes, List.nil_append, List.filterMap_map]
    induction room.audience origin with
    | nil => rfl
    | cons receiver rest inductionHypothesis =>
        rw [List.filterMap_cons, List.filter_cons]
        by_cases same : receiver = client
        · simp [Effect.presenceTo?, same, inductionHypothesis]
        · simp [Effect.presenceTo?, same, inductionHypothesis]

/-- A client that is told hears the changed ids as the room now holds them. -/
theorem hearAll_told (room : Room Client Op) (changed : Awareness × AwarenessChange)
    (origin : Origin Client) {client : Client} (told : client ∈ room.audience origin)
    (slot : Slot) (id : ℕ) :
    slot.hearAll false ((presenceTo client (room.changeAwareness changed origin).2).flatten.filter
        fun entry => entry.clientId = id) =
      if id ∈ changed.2.all then slot.hear false (changed.1.entryOf id) else slot := by
  rw [presenceTo_changeAwareness]
  split
  · next nothing =>
      rw [nothing]
      exact (if_neg List.not_mem_nil).symm
  · refine Awareness.hearAll_copies_of_payload slot changed.1 changed.2.all ?_ ?_ id
    · have member : client ∈ (room.audience origin).filter (· = client) :=
        List.mem_filter.mpr ⟨told, decide_eq_true rfl⟩
      exact List.ne_nil_of_mem (List.mem_map_of_mem member)
    · intro payload isPayload
      obtain ⟨-, -, rfl⟩ := List.mem_map.mp isPayload
      rfl

theorem presenceTo_untold (room : Room Client Op) (changed : Awareness × AwarenessChange)
    (origin : Origin Client) {client : Client} (untold : client ∉ room.audience origin) :
    presenceTo client (room.changeAwareness changed origin).2 = [] := by
  rw [presenceTo_changeAwareness]
  split
  · rfl
  · have nobody : (room.audience origin).filter (· = client) = [] := by
      rw [List.filter_eq_nil_iff]
      intro receiver member same
      exact untold (of_decide_eq_true same ▸ member)
    rw [nobody, List.map_nil]

/-- What a room tells is what it holds for the ids that changed. -/
theorem entry_of_told (room : Room Client Op) (changed : Awareness × AwarenessChange)
    (origin : Origin Client) (client : Client) {entry : AwarenessEntry}
    (told : entry ∈ (presenceTo client (room.changeAwareness changed origin).2).flatten) :
    entry.clientId ∈ changed.2.all ∧ entry = changed.1.entryOf entry.clientId := by
  obtain ⟨payload, isPayload, inPayload⟩ := List.mem_flatten.mp told
  rw [presenceTo_changeAwareness] at isPayload
  split at isPayload
  · cases isPayload
  · obtain ⟨-, -, rfl⟩ := List.mem_map.mp isPayload
    rw [Awareness.encodeUpdate_eq_map] at inPayload
    obtain ⟨id, listed, rfl⟩ := List.mem_map.mp inPayload
    exact ⟨listed, rfl⟩

variable [Causality Op]

/-- Who joins is shown every state. -/
theorem presenceTo_add [DecidableEq Op] (room : Room Client Op) (joining client : Client) :
    presenceTo client (room.add joining).2 =
      if client = joining ∧ room.awareness.states.keys ≠ [] then
        [room.awareness.encodeUpdate room.awareness.states.keys]
      else [] := by
  unfold add presenceTo
  dsimp only
  rw [List.filterMap_cons]
  by_cases empty : room.awareness.states.keys = []
  · rw [if_pos empty, if_neg fun both => both.2 empty]
    rfl
  · rw [if_neg empty]
    by_cases same : joining = client
    · simp [Effect.presenceTo?, same, empty]
    · have different : client ≠ joining := Ne.symm same
      simp [Effect.presenceTo?, same, different]

/-- Who joins hears every id with a state. -/
theorem hearAll_snapshot [DecidableEq Op] (room : Room Client Op) (joining : Client) (slot : Slot)
    (id : ℕ) : slot.hearAll false ((presenceTo joining (room.add joining).2).flatten.filter
        fun entry => entry.clientId = id) =
      if id ∈ room.awareness.states then slot.hear false (room.awareness.entryOf id)
      else slot := by
  rw [presenceTo_add]
  have listed : id ∈ room.awareness.states ↔ id ∈ room.awareness.states.keys := Iff.rfl
  by_cases empty : room.awareness.states.keys = []
  · rw [if_neg fun both => both.2 empty]
    have absent : id ∉ room.awareness.states := by
      rw [listed, empty]
      exact List.not_mem_nil
    exact (if_neg absent).symm
  · rw [if_pos ⟨rfl, empty⟩]
    have shown := Awareness.hearAll_copies_of_payload slot room.awareness
      room.awareness.states.keys (List.cons_ne_nil _ [])
      (fun payload member => List.mem_singleton.mp member) id
    simpa only [listed] using shown

theorem entry_of_snapshot [DecidableEq Op] (room : Room Client Op) (joining client : Client)
    {entry : AwarenessEntry} (told : entry ∈ (presenceTo client (room.add joining).2).flatten) :
    entry.clientId ∈ room.awareness.states ∧
      entry = room.awareness.entryOf entry.clientId := by
  rw [presenceTo_add] at told
  split at told
  · rw [List.flatten_singleton, Awareness.encodeUpdate_eq_map] at told
    obtain ⟨id, listed, rfl⟩ := List.mem_map.mp told
    exact ⟨listed, rfl⟩
  · cases told

end Room

end CollabEditor.Rooms
