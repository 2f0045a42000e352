import CollabEditor.Ws.Handshake

/-!
Owns completeness from a client to the room. Whatever the queue of a loading
connection drops is made up for by the client's answer to the step 1 the room
sends when it adds the client: the answer is only asked for then, so it is
never queued, and it carries everything the room did not have at that moment.
-/

namespace CollabEditor.Ws

open CollabEditor.Library CollabEditor.Yjs CollabEditor.Rooms

universe u v

variable {Client : Type v} {Op : Type u} [DecidableEq Op]

/-- The room's step 1 has yet to reach the client, or the room will get all
the client's operations it does not have. -/
def Uploads (room : Room Client Op) (endpoint : Endpoint Op) : Prop :=
  endpoint.stage = .added ∨ endpoint.stage = .joined →
    (∃ vector rest, vector ⊆ room.doc.received ∧
      endpoint.down = .sync (.step1 vector) :: rest) ∨
    (endpoint.stage = .joined ∧
      endpoint.doc.received ⊆ room.doc.received ∪ carriedBy endpoint.outstanding)

private theorem Uploads.of_loading {room : Room Client Op} {before after : Endpoint Op}
    (uploads : Uploads room before) (notJoined : before.stage ≠ .joined)
    (stage : after.stage = before.stage) (down : after.down = before.down) :
    Uploads room after := by
  intro inRoom
  rw [stage] at inRoom
  rcases uploads inRoom with asked | ⟨joined, -⟩
  · exact Or.inl (down ▸ asked)
  · exact absurd joined notJoined

private theorem Uploads.acts {room : Room Client Op} {client : Client} {before after : Endpoint Op}
    {frames : List (Message Op)} {taken : Option (Message Op)}
    (uploads : Uploads room before) (linked : Linked room client before)
    (acts : Acts before after frames taken) : Uploads room after := by
  intro inRoom
  rw [acts.stage] at inRoom
  have opened : before.opened = true := by
    rcases inRoom with stage | stage
    · exact linked.opened (by simp [stage]) (by simp [stage])
    · exact linked.opened (by simp [stage]) (by simp [stage])
  have outstanding : carriedBy after.outstanding =
      carriedBy before.outstanding ∪ carriedBy frames := by
    simp [Endpoint.outstanding, acts.queued, acts.up, Finset.union_assoc]
  have covers := acts.covers opened
  have takenKnown : carriedBy taken.toList ⊆ room.doc.received := by
    refine Finset.Subset.trans ?_ linked.received
    rw [acts.down, carriedBy_append]
    exact Finset.subset_union_left
  have sent : carriedBy frames ⊆ room.doc.received ∪ carriedBy after.outstanding := by
    rw [outstanding]
    exact Finset.subset_union_right.trans Finset.subset_union_right
  have enough : before.doc.received ⊆ room.doc.received ∪ carriedBy after.outstanding →
      after.doc.received ⊆ room.doc.received ∪ carriedBy after.outstanding :=
    fun wasCovered => covers.trans (Finset.union_subset wasCovered
      (Finset.union_subset sent (takenKnown.trans Finset.subset_union_left)))
  rcases uploads inRoom with ⟨vector, rest, known, next⟩ | ⟨joined, covered⟩
  · cases taken with
    | none => exact Or.inl ⟨vector, rest, known, by simpa [next] using acts.down.symm⟩
    | some frame =>
        -- the client takes the step 1 and answers with all the room lacked
        have same : frame = .sync (.step1 vector) := by
          have down := acts.down
          rw [next] at down
          exact (List.cons.inj down).1.symm
        have joined : after.stage = .joined := by
          rw [acts.stage]
          exact inRoom.resolve_left (acts.waits (by simp))
        have replied := acts.replies vector (congrArg some same) opened
        exact Or.inr ⟨joined, enough (replied.trans (Finset.union_subset
          (known.trans Finset.subset_union_left) sent))⟩
  · refine Or.inr ⟨acts.stage.trans joined, enough (covered.trans ?_)⟩
    rw [outstanding]
    exact Finset.union_subset_union_right Finset.subset_union_left

private theorem Uploads.grows {before after : Room Client Op} {endpoint : Endpoint Op}
    (uploads : Uploads before endpoint) (grows : before.doc.received ⊆ after.doc.received)
    (frames : List (Message Op)) :
    Uploads after { endpoint with down := endpoint.down ++ frames } := by
  intro inRoom
  rcases uploads inRoom with ⟨vector, rest, known, next⟩ | ⟨joined, covered⟩
  · exact Or.inl ⟨vector, rest ++ frames, known.trans grows, by simp [next]⟩
  · exact Or.inr ⟨joined, covered.trans (Finset.union_subset_union_left grows)⟩

theorem uploads_of_moves [DecidableEq Client] [Causality Op] {session : Session Client Op}
    {event : Event Client Op} {client : Client} {room : Room Client Op} {endpoint : Endpoint Op}
    (linked : Linked session.room client (session.ends client))
    (uploads : Uploads session.room (session.ends client))
    (moves : Moves session event client room endpoint) : Uploads room endpoint := by
  cases moves with
  | acts action acted =>
      obtain ⟨frames, taken, acts⟩ := acts_of_act acted
      exact uploads.acts linked acts
  | idles => exact uploads
  | informed outcome informs => exact uploads.grows informs.grows _
  | authenticates token rest stage next => simp [Uploads]
  | queues frame rest loading next =>
      refine uploads.of_loading ?_ rfl rfl
      rcases loading with stage | stage <;> simp [stage]
  | drops frame rest loading full next =>
      refine uploads.of_loading ?_ rfl rfl
      rcases loading with stage | stage <;> simp [stage]
  | refuses entries rest stage next =>
      intro inRoom
      rcases uploads inRoom with asked | ⟨joined, covered⟩
      · exact Or.inl asked
      · refine Or.inr ⟨joined, ?_⟩
        simpa [Endpoint.outstanding, next, Message.carried] using covered
  | joins stage =>
      intro _
      have away : client ∉ session.room.clients := by
        rw [linked.member]
        simp [stage]
      obtain ⟨presence, frames, -⟩ := session.room.framesTo_add_self client
      exact Or.inl ⟨session.room.doc.stateVector, presence,
        session.room.doc.integrated_subset, by simp [linked.quiet away, frames]⟩
  | closes outside => simp [Uploads, Endpoint.close]
  | departs => simp [Uploads, Endpoint.close]
  | resumes stage =>
      intro _
      rcases uploads (Or.inl stage) with asked | ⟨joined, -⟩
      · exact Or.inl asked
      · exact absurd (stage.symm.trans joined) (by simp)
  | dispatches frame queued up stage taken next =>
      intro _
      obtain ⟨doc, -⟩ := dispatch_doc session.room client frame
      rcases uploads (Or.inr stage) with ⟨vector, rest, known, asked⟩ | ⟨joined, covered⟩
      · refine Or.inl ⟨vector, rest ++ framesTo client (dispatch session.room client frame).2,
          ?_, by simp [asked]⟩
        rw [doc]
        exact known.trans Finset.subset_union_left
      · refine Or.inr ⟨joined, ?_⟩
        rw [doc, Doc.received_apply]
        rw [next, carriedBy_cons, ← Finset.union_assoc] at covered
        exact covered

theorem uploads_initial {session : Session Client Op} (initial : session.Initial)
    (client : Client) : Uploads session.room (session.ends client) := by
  intro inRoom
  have stage := (initial.2.2 client).2.2.2.1
  simp [stage] at inRoom

/-- Once every frame of a client has been delivered, everything in its document
is in the room's, whatever its connection dropped while the document loaded. -/
theorem client_uploaded [DecidableEq Client] [Causality Op] {session : Session Client Op}
    (reached : Reached Session.step Session.Initial session) {client : Client}
    (drained : (session.ends client).Drained) :
    (session.ends client).doc.integrated ⊆ session.room.doc.integrated := by
  obtain ⟨sound, uploads⟩ := reached.invariant
    (fun session => session.Sound ∧ ∀ other, Uploads session.room (session.ends other))
    (fun start initial => ⟨Session.sound_initial initial, uploads_initial initial⟩)
    (fun before event after ⟨sound, uploads⟩ _ stepped =>
      ⟨Session.sound_step sound stepped, fun other => uploads_of_moves (sound.2 other)
        (uploads other) (Session.moves_of_step sound.1 stepped other)⟩)
  have joined := (sound.2 client).joined_of_drained drained
  obtain ⟨-, noUp, noDown, noQueue⟩ := drained
  rcases uploads client (Or.inr joined) with ⟨vector, rest, -, asked⟩ | ⟨-, covered⟩
  · simp [noDown] at asked
  · apply integrate_mono
    simpa [Endpoint.outstanding, noUp, noQueue] using covered

/-- A client edits while its document loads and its edit is queued. -/
theorem client_uploaded_edit_while_loading :
    ∃ session : Session Unit ItemId, (session.ends ()).doc.integrated = {⟨7, 0⟩, ⟨7, 1⟩} ∧
      (session.ends ()).doc.integrated ⊆ session.room.doc.integrated := by
  obtain ⟨session, reached, drained, doc⟩ := exists_reachedWhen_of_runWhen
    Session.step (fun _ _ => True) Session.Initial
    (Session.start Doc.empty fun _ => ⟨{⟨7, 0⟩}⟩ : Session Unit ItemId)
    [.client () (.onopen "token" none), .receive (), .receive (),
      .client () (.edit {⟨7, 1⟩}), .receive (), .join (), .resume (), .replay, .replay, .replay,
      .client () .onFrame, .client () .onFrame, .receive ()]
    (fun session => (session.ends ()).Drained ∧
      (session.ends ()).doc.integrated = {⟨7, 0⟩, ⟨7, 1⟩})
    (Session.start_initial _ _) (by decide)
  exact ⟨session, doc, client_uploaded reached drained⟩

end CollabEditor.Ws
