import CollabEditor.Rooms.Room

/-!
Owns what a room's methods mean to one of its clients: which operations the
frames sent to it carry, and which operations the room integrates without
sending them to it.
-/

namespace CollabEditor.Rooms

open CollabEditor.Library CollabEditor.Yjs

universe u v

variable {Client : Type v} {Op : Type u} [DecidableEq Client] [DecidableEq Op]

/-- Every operation some frames carry. -/
def carriedBy (frames : List (Message Op)) : Update Op :=
  mergeUpdates (frames.map Message.carried)

@[simp] theorem carriedBy_nil : carriedBy ([] : List (Message Op)) = ∅ := rfl

@[simp] theorem carriedBy_cons (head : Message Op) (tail : List (Message Op)) :
    carriedBy (head :: tail) = head.carried ∪ carriedBy tail := rfl

@[simp] theorem carriedBy_append (first second : List (Message Op)) :
    carriedBy (first ++ second) = carriedBy first ∪ carriedBy second := by
  simp [carriedBy]

private theorem carriedBy_subset {frames : List (Message Op)} {bound : Update Op} :
    carriedBy frames ⊆ bound ↔ ∀ frame ∈ frames, frame.carried ⊆ bound := by
  rw [carriedBy, mergeUpdates_subset]
  exact List.forall_mem_map

private theorem carried_subset_carriedBy {frames : List (Message Op)} {frame : Message Op}
    (member : frame ∈ frames) : frame.carried ⊆ carriedBy frames :=
  carriedBy_subset.mp (Finset.Subset.refl _) frame member

theorem carriedBy_of_presence {effects : List (Effect Client Op)}
    (presence : ∀ effect ∈ effects, effect.IsPresence) (client : Client) :
    carriedBy (framesTo client effects) = ∅ := by
  rw [← Finset.subset_empty, carriedBy_subset]
  intro frame member
  obtain ⟨entries, rfl⟩ := framesTo_of_presence presence client frame member
  exact Finset.Subset.refl _

namespace Room

variable [Causality Op]

/-- A transaction is broadcast to exactly the clients that are not its origin. -/
theorem mem_framesTo_applyUpdate {room : Room Client Op} {update : Update Op}
    {origin : Origin Client} {client : Client} {frame : Message Op} :
    frame ∈ framesTo client (room.applyUpdate update origin).2 ↔
      (client ∈ room.clients ∧ origin ≠ .client client) ∧
        ∃ fresh, room.doc.event update = some fresh ∧ frame = .sync (.update fresh) := by
  unfold applyUpdate framesTo
  cases room.doc.event update with
  | none => simp
  | some fresh =>
      have sinkAndBus : (if origin ≠ .hydrate ∧ origin ≠ .remote then
          [Effect.record fresh, Effect.publish (.update fresh)]
          else ([] : List (Effect Client Op))).filterMap (Effect.frameTo? client) = [] := by
        split <;> rfl
      simp only [onDocUpdate, List.filterMap_append, sinkAndBus, List.nil_append,
        List.filterMap_map, List.mem_filterMap, audience, List.mem_filter, Function.comp_apply,
        Effect.frameTo?, decide_eq_true_eq]
      constructor
      · rintro ⟨receiver, listens, sent⟩
        split at sent
        · next same =>
            subst same
            exact ⟨listens, fresh, rfl, (Option.some.inj sent).symm⟩
        · cases sent
      · rintro ⟨listens, content, same, rfl⟩
        cases same
        exact ⟨client, listens, if_pos rfl⟩

private theorem carriedBy_applyUpdate (room : Room Client Op) (update : Update Op)
    {origin : Origin Client} {client : Client} (listens : client ∈ room.clients)
    (notOrigin : origin ≠ .client client) :
    carriedBy (framesTo client (room.applyUpdate update origin).2) = room.doc.fresh update := by
  apply Finset.Subset.antisymm
  · rw [carriedBy_subset]
    intro frame member
    obtain ⟨-, fresh, event, rfl⟩ := mem_framesTo_applyUpdate.mp member
    rw [← Doc.event_getD, event]
    exact Finset.Subset.refl _
  · rw [← Doc.event_getD]
    cases event : room.doc.event update with
    | none => exact Finset.empty_subset _
    | some fresh =>
        have sent : .sync (.update fresh) ∈ framesTo client (room.applyUpdate update origin).2 :=
          mem_framesTo_applyUpdate.mpr ⟨⟨listens, notOrigin⟩, fresh, event, rfl⟩
        exact carried_subset_carriedBy sent

theorem framesTo_applyUpdate_eq_nil (room : Room Client Op) (update : Update Op)
    {origin : Origin Client} {client : Client}
    (skipped : ¬ (client ∈ room.clients ∧ origin ≠ .client client)) :
    framesTo client (room.applyUpdate update origin).2 = [] := by
  rw [List.eq_nil_iff_forall_not_mem]
  intro frame member
  exact skipped (mem_framesTo_applyUpdate.mp member).1

end Room

/-- A call that keeps `client` informed: whatever it integrates is sent to the
client if it is in the room, and nothing else is. -/
structure Informs [Causality Op] (room : Room Client Op) (outcome : Outcome Client Op)
    (client : Client) : Prop where
  member : client ∈ outcome.1.clients ↔ client ∈ room.clients
  grows : room.doc.received ⊆ outcome.1.doc.received
  sends : client ∈ room.clients → outcome.1.doc.integrated ⊆
    room.doc.integrated ∪ carriedBy (framesTo client outcome.2)
  carries : carriedBy (framesTo client outcome.2) ⊆ outcome.1.doc.received
  skips : client ∉ room.clients → framesTo client outcome.2 = []

namespace Room

variable [Causality Op]

private theorem informs_applyUpdate (room : Room Client Op) (update : Update Op)
    {origin : Origin Client} {client : Client} (notOrigin : origin ≠ .client client) :
    Informs room (room.applyUpdate update origin) client where
  member := Iff.rfl
  grows := Finset.subset_union_left
  sends := fun listens => by
    rw [room.carriedBy_applyUpdate update listens notOrigin, applyUpdate_room,
      Doc.integrated_apply]
  carries := by
    by_cases listens : client ∈ room.clients
    · rw [room.carriedBy_applyUpdate update listens notOrigin]
      exact room.doc.fresh_subset_received update
    · rw [room.framesTo_applyUpdate_eq_nil update fun both => listens both.1]
      exact Finset.empty_subset _
  skips := fun away => room.framesTo_applyUpdate_eq_nil update fun both => away both.1

omit [DecidableEq Op] [Causality Op] in
private theorem framesTo_changeAwareness_eq_nil (room : Room Client Op)
    (changed : Awareness × AwarenessChange) (origin : Origin Client) {client : Client}
    (away : client ∉ room.clients) :
    framesTo client (room.changeAwareness changed origin).2 = [] := by
  rw [framesTo, List.filterMap_eq_nil_iff]
  intro effect member
  unfold changeAwareness onAwarenessUpdate at member
  split at member
  · cases member
  · rcases List.mem_append.mp member with publishes | sends
    · split at publishes
      · rw [List.mem_singleton.mp publishes]
        rfl
      · cases publishes
    · obtain ⟨receiver, listens, rfl⟩ := List.mem_map.mp sends
      have other : receiver ≠ client := by
        rintro rfl
        exact away (List.mem_filter.mp listens).1
      exact if_neg other

theorem informs_changeAwareness (room : Room Client Op)
    (changed : Awareness × AwarenessChange) (origin : Origin Client) (client : Client) :
    Informs room (room.changeAwareness changed origin) client := by
  obtain ⟨sameDoc, sameClients⟩ := room.changeAwareness_doc changed origin
  have presence := room.changeAwareness_presence changed origin
  refine ⟨by rw [sameClients], ?_, fun _ => ?_, ?_, ?_⟩
  · rw [sameDoc]
  · rw [sameDoc]
    exact Finset.subset_union_left
  · rw [carriedBy_of_presence presence]
    exact Finset.empty_subset _
  · exact room.framesTo_changeAwareness_eq_nil changed origin

/-- A call that leaves the room as it is and sends nothing to `client`. -/
theorem informs_of_quiet {room : Room Client Op} {effects : List (Effect Client Op)}
    {client : Client} (quiet : framesTo client effects = []) :
    Informs room (room, effects) client where
  member := Iff.rfl
  grows := Finset.Subset.refl _
  sends := fun _ => Finset.subset_union_left
  carries := by simp [quiet]
  skips := fun _ => quiet

/-- Bus messages reach every client. -/
theorem informs_receive (room : Room Client Op) (message : BusMessage Op) (client : Client) :
    Informs room (room.receive message) client := by
  cases message with
  | update content => exact room.informs_applyUpdate content nofun
  | awareness entries => exact room.informs_changeAwareness _ _ _
  | stateRequest =>
      apply informs_of_quiet
      unfold answerStateRequest framesTo
      split
      · split <;> rfl
      · rfl

/-- A client's sync message reaches every other client. -/
theorem informs_handleSync (room : Room Client Op) {sender client : Client}
    (other : sender ≠ client) (message : SyncMessage Op) :
    Informs room (room.handleSync sender message) client := by
  have notOrigin : (Origin.client sender : Origin Client) ≠ .client client :=
    fun same => other (Origin.client.inj same)
  cases message with
  | step1 vector => exact informs_of_quiet (by simp [framesTo, Effect.frameTo?, other])
  | step2 update => exact room.informs_applyUpdate update notOrigin
  | update update => exact room.informs_applyUpdate update notOrigin

theorem mem_clients_add (room : Room Client Op) (joining client : Client) :
    client ∈ (room.add joining).1.clients ↔ client = joining ∨ client ∈ room.clients := by
  unfold add
  dsimp only
  split
  · next present =>
      constructor
      · exact Or.inr
      · rintro (rfl | member)
        · exact present
        · exact member
  · rw [List.mem_append, List.mem_singleton, or_comm]

private theorem framesTo_add_other (room : Room Client Op) {joining client : Client}
    (other : joining ≠ client) : framesTo client (room.add joining).2 = [] := by
  unfold add framesTo
  dsimp only
  split
  · simp [Effect.frameTo?, other]
  · simp [Effect.frameTo?, other]

/-- A client added to the room is asked for its state, and told nothing else
but presence. -/
theorem framesTo_add_self (room : Room Client Op) (client : Client) :
    ∃ presence, framesTo client (room.add client).2 =
        .sync (.step1 room.doc.stateVector) :: presence ∧ carriedBy presence = ∅ := by
  unfold add framesTo
  dsimp only
  split
  · exact ⟨[], by simp [Effect.frameTo?], rfl⟩
  · exact ⟨[.awareness (room.awareness.encodeUpdate room.awareness.states.keys)],
      by simp [Effect.frameTo?], rfl⟩

theorem informs_add (room : Room Client Op) {joining client : Client}
    (other : joining ≠ client) : Informs room (room.add joining) client where
  member := by
    rw [mem_clients_add, or_iff_right (Ne.symm other)]
  grows := Finset.Subset.refl _
  sends := fun _ => Finset.subset_union_left
  carries := by
    rw [room.framesTo_add_other other]
    exact Finset.empty_subset _
  skips := fun _ => room.framesTo_add_other other

section

omit [DecidableEq Op] [Causality Op]

theorem mem_clients_remove (room : Room Client Op) (leaving client : Client) :
    client ∈ (room.remove leaving).1.clients ↔ client ∈ room.clients ∧ client ≠ leaving := by
  unfold remove
  rw [(changeAwareness_doc _ _ _).2, List.mem_filter, decide_eq_true_eq]

theorem doc_remove (room : Room Client Op) (leaving : Client) :
    (room.remove leaving).1.doc = room.doc :=
  (changeAwareness_doc _ _ _).1

theorem doc_expirePresence (room : Room Client Op) (ids : List ℕ) :
    (room.expirePresence ids).1.doc = room.doc :=
  (changeAwareness_doc _ _ _).1

end

/-- Whatever a bus message carries is given to the room's document. -/
theorem doc_receive (room : Room Client Op) (message : BusMessage Op) :
    (room.receive message).1.doc = room.doc.apply message.carried := by
  have unchanged : room.doc = room.doc.apply ∅ := by
    simp [Doc.apply]
  cases message with
  | update content => rfl
  | awareness entries => exact (room.changeAwareness_doc _ _).1.trans unchanged
  | stateRequest => exact unchanged

omit [DecidableEq Op] [Causality Op] in
theorem framesTo_remove_self (room : Room Client Op) (leaving : Client) :
    framesTo leaving (room.remove leaving).2 = [] :=
  framesTo_changeAwareness_eq_nil _ _ _ (by simp)

theorem informs_remove (room : Room Client Op) {leaving client : Client}
    (other : leaving ≠ client) : Informs room (room.remove leaving) client := by
  have stays : client ∈ (room.remove leaving).1.clients ↔ client ∈ room.clients := by
    rw [mem_clients_remove, and_iff_left (Ne.symm other)]
  have presence := informs_changeAwareness
    { room with clients := room.clients.filter (· ≠ leaving) }
    (room.awareness.removeStates (room.controlled leaving)) .disconnect client
  have kept : client ∈ room.clients.filter (· ≠ leaving) ↔ client ∈ room.clients := by
    simp [Ne.symm other]
  exact ⟨stays, presence.grows, fun listens => presence.sends (kept.mpr listens),
    presence.carries, fun away => presence.skips (mt kept.mp away)⟩

end Room

end CollabEditor.Rooms
