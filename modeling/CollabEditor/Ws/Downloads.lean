import CollabEditor.Ws.Handshake

/-!
Owns completeness from the room to a client. A client is caught up by the
step 2 that answers its state vector and kept up to date by broadcasts, which
skip the client whose frame made the room integrate something. That client has
what it sent; it need not have what its frame unlocks.
-/

namespace CollabEditor.Ws

open CollabEditor.Library CollabEditor.Yjs CollabEditor.Rooms

universe u v

variable {Client : Type v} {Op : Type u} [DecidableEq Client] [DecidableEq Op] [Causality Op]

/-- A client's frame unlocks only held operations which that client has or
which are on their way to it. -/
def UnlocksOnlyKnown (session : Session Client Op) (event : Event Client Op) : Prop :=
  ∀ dispatched ∈ session.dispatches? event, ∀ op ∈ session.room.doc.pending,
    Integrable (session.room.doc.received ∪ dispatched.2.carried) op →
      op ∈ (session.ends dispatched.1).doc.received ∪
        carriedBy (session.ends dispatched.1).down

instance (session : Session Client Op) (event : Event Client Op) :
    Decidable (UnlocksOnlyKnown session event) :=
  inferInstanceAs (Decidable (∀ dispatched ∈ session.dispatches? event, _))

/-- The room has yet to answer the client's state vector, or the client gets
all the room's operations it does not have. -/
def Downloads (room : Room Client Op) (endpoint : Endpoint Op) : Prop :=
  endpoint.stage = .joined → endpoint.Greets ∨
    room.doc.integrated ⊆ endpoint.doc.received ∪ carriedBy endpoint.down

omit [DecidableEq Client] in
private theorem Downloads.acts {room : Room Client Op} {before after : Endpoint Op}
    {frames : List (Message Op)} {taken : Option (Message Op)}
    (downloads : Downloads room before) (acts : Acts before after frames taken) :
    Downloads room after := by
  intro joined
  rw [acts.stage] at joined
  rcases downloads joined with greets | covered
  · exact Or.inl (greets.acts acts)
  · right
    rw [acts.down, carriedBy_append] at covered
    have learnt : carriedBy taken.toList ⊆ after.doc.received ∪ carriedBy after.down :=
      acts.learns.trans Finset.subset_union_left
    exact covered.trans (Finset.union_subset (acts.grows.trans Finset.subset_union_left)
      (Finset.union_subset learnt Finset.subset_union_right))

private theorem Downloads.informed {room : Room Client Op} {outcome : Outcome Client Op}
    {client : Client} {endpoint : Endpoint Op} (downloads : Downloads room endpoint)
    (linked : Linked room client endpoint) (informs : Informs room outcome client) :
    Downloads outcome.1
      { endpoint with down := endpoint.down ++ framesTo client outcome.2 } := by
  intro joined
  rcases downloads joined with greets | covered
  · exact Or.inl greets
  · right
    have sent := informs.sends (linked.member.mpr (Or.inr joined))
    rw [carriedBy_append, ← Finset.union_assoc]
    exact sent.trans (Finset.union_subset_union_left covered)

/-- The state vector is answered with everything it does not cover. -/
theorem downloads_greeting (room : Room Client Op) (client : Client)
    (endpoint : Endpoint Op) {vector : Finset Op} (known : vector ⊆ endpoint.doc.received) :
    room.doc.integrated ⊆ endpoint.doc.received ∪ carriedBy (endpoint.down ++
      framesTo client (dispatch room client (.sync (.step1 vector))).2) := by
  have answered : carriedBy (framesTo client (dispatch room client (.sync (.step1 vector))).2) =
      room.doc.encodeStateAsUpdate vector := by
    simp [dispatch, Room.handleSync, framesTo, Effect.frameTo?, Message.carried,
      SyncMessage.carried]
  have complete := room.doc.received_subset_union_encode known
  rw [carriedBy_append, answered]
  exact room.doc.integrated_subset.trans
    (complete.trans (Finset.union_subset_union_right Finset.subset_union_right))

private theorem Downloads.dispatches {session : Session Client Op} {event : Event Client Op}
    {client : Client} {frame : Message Op} {queued up : List (Message Op)}
    (downloads : Downloads session.room (session.ends client))
    (linked : Linked session.room client (session.ends client))
    (unlocks : UnlocksOnlyKnown session event)
    (stage : (session.ends client).stage = .joined)
    (taken : session.dispatches? event = some (client, frame))
    (next : (session.ends client).outstanding = frame :: (queued ++ up)) :
    Downloads (dispatch session.room client frame).1
      { session.ends client with
        queued := queued
        up := up
        down := (session.ends client).down ++
          framesTo client (dispatch session.room client frame).2 } := by
  intro _
  right
  rcases downloads stage with ⟨vector, rest, known, first⟩ | covered
  · obtain ⟨rfl, -⟩ := List.cons.inj (next.symm.trans first)
    exact downloads_greeting session.room client (session.ends client) known
  · have offered : frame.carried ⊆ (session.ends client).doc.received := by
      have all := linked.offered
      rw [next, carriedBy_cons] at all
      exact Finset.subset_union_left.trans all
    have fresh : session.room.doc.fresh frame.carried ⊆
        (session.ends client).doc.received ∪ carriedBy (session.ends client).down := by
      intro op isFresh
      rcases Finset.mem_union.mp (Doc.fresh_subset _ _ isFresh) with carried | pending
      · exact Finset.mem_union_left _ (offered carried)
      · exact unlocks (client, frame) taken op pending (Doc.mem_fresh.mp isFresh).1
    have integrated := Finset.union_subset covered fresh
    rw [(dispatch_doc session.room client frame).1, Doc.integrated_apply, carriedBy_append,
      ← Finset.union_assoc]
    exact integrated.trans Finset.subset_union_left

theorem downloads_of_moves {session : Session Client Op} {event : Event Client Op}
    {client : Client} {room : Room Client Op} {endpoint : Endpoint Op}
    (linked : Linked session.room client (session.ends client))
    (downloads : Downloads session.room (session.ends client))
    (unlocks : UnlocksOnlyKnown session event)
    (moves : Moves session event client room endpoint) : Downloads room endpoint := by
  cases moves with
  | acts action acted =>
      obtain ⟨frames, taken, acts⟩ := acts_of_act acted
      exact downloads.acts acts
  | idles => exact downloads
  | informed outcome informs => exact downloads.informed linked informs
  | authenticates token rest stage next => exact nofun
  | queues frame rest loading next =>
      intro joined
      rcases loading with stage | stage
      · exact absurd (stage.symm.trans joined) nofun
      · exact absurd (stage.symm.trans joined) nofun
  | drops frame rest loading full next =>
      intro joined
      rcases loading with stage | stage
      · exact absurd (stage.symm.trans joined) nofun
      · exact absurd (stage.symm.trans joined) nofun
  | refuses entries rest stage next =>
      intro joined
      exact (downloads joined).imp_left fun greets => greets.skips next (Or.inr nofun)
  | joins stage => exact nofun
  | closes outside => exact nofun
  | departs => exact nofun
  | resumes stage => exact fun _ => Or.inl (linked.greets (Or.inr stage))
  | dispatches frame queued up stage taken next =>
      exact downloads.dispatches linked unlocks stage taken next

omit [DecidableEq Client] in
theorem downloads_initial {session : Session Client Op} (initial : session.Initial)
    (client : Client) : Downloads session.room (session.ends client) := by
  intro joined
  have stage := (initial.2.2 client).2.2.2.1
  exact absurd (stage.symm.trans joined) nofun

/-- What is still to come down is kept track of along every run. -/
theorem downloads_of_reached {session : Session Client Op}
    (reached : ReachedWhen Session.step UnlocksOnlyKnown Session.Initial session) :
    session.Sound ∧ ∀ other, Downloads session.room (session.ends other) := by
  refine reached.invariant
    (fun session => session.Sound ∧ ∀ other, Downloads session.room (session.ends other)) ?_ ?_
  · intro start initial
    exact ⟨Session.sound_initial initial, downloads_initial initial⟩
  · intro before event after both unlocks stepped
    refine ⟨Session.sound_step both.1 stepped, fun other => ?_⟩
    exact downloads_of_moves (both.1.2 other) (both.2 other) unlocks
      (Session.moves_of_step both.1.1 stepped other)

/-- If no client's frame unlocks operations that client lacks, then once every
frame of a client has been delivered its document has all of the room's. -/
theorem client_downloaded {session : Session Client Op}
    (reached : ReachedWhen Session.step UnlocksOnlyKnown Session.Initial session)
    {client : Client} (drained : (session.ends client).Drained) :
    session.room.doc.integrated ⊆ (session.ends client).doc.integrated := by
  obtain ⟨sound, downloads⟩ := downloads_of_reached reached
  have joined := (sound.2 client).joined_of_drained drained
  obtain ⟨-, noUp, noDown, noQueue⟩ := drained
  rcases downloads client joined with ⟨vector, rest, -, first⟩ | covered
  · simp [Endpoint.outstanding, noUp, noQueue] at first
  · apply Doc.integrated_subset_of_received
    simpa [noDown] using covered

/-- The events that take a client from its first frame to a joined connection
whose state vector has been answered. -/
def connect (client : Client) : List (Event Client Op) :=
  [.client client (.onopen "token" none), .receive client, .join client, .resume client,
    .replay, .receive client]

/-- Two clients connect to a room that has what the first one wrote; then the
first one goes on and the second is told. -/
theorem client_downloaded_broadcast :
    ∃ session : Session Bool ItemId, session.room.doc.integrated = {⟨7, 0⟩, ⟨7, 1⟩} ∧
      session.room.doc.integrated ⊆ (session.ends false).doc.integrated := by
  obtain ⟨session, reached, drained, room⟩ := exists_reachedWhen_of_runWhen
    Session.step UnlocksOnlyKnown Session.Initial
    (Session.start ⟨{⟨7, 0⟩}⟩ fun first => ⟨if first then {⟨7, 0⟩} else ∅⟩ :
      Session Bool ItemId)
    (connect true ++ connect false ++
      [.client false .onFrame, .client false .onFrame, .receive false,
        .client true (.edit {⟨7, 1⟩}), .receive true, .client false .onFrame])
    (fun session => (session.ends false).Drained ∧
      session.room.doc.integrated = {⟨7, 0⟩, ⟨7, 1⟩})
    (Session.start_initial _ _) (by decide)
  exact ⟨session, room, client_downloaded reached drained⟩

/-- After a restart the room lacks an operation two clients have. The first
sends the next one ahead of its step 2 and the room holds it; the second's
step 2 unlocks it, so the broadcast skips the second, which never gets it. -/
theorem unlocking_client_not_told :
    ¬ ∀ session : Session Bool ItemId, Reached Session.step Session.Initial session →
      (∀ client, (session.ends client).Drained) →
        ∀ client, session.room.doc.integrated ⊆ (session.ends client).doc.integrated := by
  intro claimed
  obtain ⟨session, reached, drained, diverged⟩ := exists_reachedWhen_of_runWhen
    Session.step (fun _ _ => True) Session.Initial
    (Session.start Doc.empty fun _ => ⟨{⟨7, 0⟩}⟩ : Session Bool ItemId)
    (connect true ++ connect false ++
      [.client true (.edit {⟨7, 1⟩}), .receive true,
        .client false .onFrame, .receive false, .client false .onFrame,
        .client true .onFrame, .receive true, .client true .onFrame, .client true .onFrame])
    (fun session => (∀ client, (session.ends client).Drained) ∧
      ¬ session.room.doc.integrated ⊆ (session.ends false).doc.integrated)
    (Session.start_initial _ _) (by decide)
  exact diverged (claimed session reached drained false)

end CollabEditor.Ws
