import CollabEditor.Ws.Session

/-!
Owns what the client's side of a socket does: every action of a
`CollabProvider` appends frames to the socket, takes at most one off it and
only adds to the client's document.
-/

namespace CollabEditor.Ws

open CollabEditor.Library CollabEditor.Yjs CollabEditor.Rooms

universe u

variable {Op : Type u} [DecidableEq Op] [Causality Op]

/-- What an action of the client does: it sends `frames` and takes at most one
frame off the socket. -/
structure Acts (before after : Endpoint Op) (frames : List (Message Op))
    (taken : Option (Message Op)) : Prop where
  stage : after.stage = before.stage
  queued : after.queued = before.queued
  up : after.up = before.up ++ frames
  down : before.down = taken.toList ++ after.down
  waits : taken ≠ none → before.stage ≠ .added
  opened : before.opened = true → after.opened = true
  silent : after.opened = false → frames = []
  known : carriedBy frames ⊆ after.doc.received
  grows : before.doc.received ⊆ after.doc.received
  learns : carriedBy taken.toList ⊆ after.doc.received
  covers : before.opened = true → after.doc.received ⊆
    before.doc.received ∪ (carriedBy frames ∪ carriedBy taken.toList)
  replies : ∀ vector, taken = some (.sync (.step1 vector)) → before.opened = true →
    before.doc.received ⊆ vector ∪ carriedBy frames
  stays : before.stage = .closed → after.opened = before.opened
  greets : before.opened = false → after.opened = true → ∃ token vector rest,
    vector ⊆ after.doc.received ∧ frames = .auth token :: .sync (.step1 vector) :: rest

/-- What reaches the socket of some frames sent. -/
def Endpoint.sent (endpoint : Endpoint Op) (frames : List (Message Op)) : List (Message Op) :=
  if endpoint.opened then frames else []

omit [DecidableEq Op] [Causality Op] in
private theorem Endpoint.send_eq (endpoint : Endpoint Op) (frames : List (Message Op)) :
    endpoint.send frames = { endpoint with up := endpoint.up ++ endpoint.sent frames } := by
  unfold send sent
  split
  · rfl
  · simp

omit [Causality Op] in
private theorem carriedBy_sent_subset (endpoint : Endpoint Op) {frames : List (Message Op)}
    {bound : Update Op} (known : carriedBy frames ⊆ bound) :
    carriedBy (endpoint.sent frames) ⊆ bound := by
  unfold Endpoint.sent
  split
  · exact known
  · exact Finset.empty_subset _

omit [Causality Op] in
/-- An action that only sends. -/
theorem acts_says (endpoint : Endpoint Op) {frames : List (Message Op)}
    (known : carriedBy frames ⊆ endpoint.doc.received) :
    Acts endpoint (endpoint.send frames) (endpoint.sent frames) none := by
  rw [endpoint.send_eq]
  exact {
    stage := rfl
    queued := rfl
    up := rfl
    down := rfl
    waits := fun some => absurd rfl some
    opened := id
    silent := fun closed => by simp_all [Endpoint.sent]
    known := carriedBy_sent_subset endpoint known
    grows := Finset.Subset.refl _
    learns := Finset.empty_subset _
    covers := fun _ => Finset.subset_union_left
    replies := nofun
    stays := fun _ => rfl
    greets := fun closed opened => by simp_all }

private theorem acts_onOpen (endpoint : Endpoint Op) (token : String)
    (presence : Option (List AwarenessEntry)) (closed : endpoint.opened = false)
    (notClosed : endpoint.stage ≠ .closed) :
    Acts endpoint (endpoint.onOpen token presence)
      (.auth token :: .sync (.step1 endpoint.doc.stateVector) :: presence.toList.map .awareness)
      none where
  stage := by simp [Endpoint.onOpen, Endpoint.send]
  queued := by simp [Endpoint.onOpen, Endpoint.send]
  up := by simp [Endpoint.onOpen, Endpoint.send]
  down := by simp [Endpoint.onOpen, Endpoint.send]
  waits := fun some => absurd rfl some
  opened := fun _ => by simp [Endpoint.onOpen, Endpoint.send]
  silent := fun still => by simp [Endpoint.onOpen, Endpoint.send] at still
  known := by
    cases presence <;> simp [Message.carried, SyncMessage.carried]
  grows := by simp [Endpoint.onOpen, Endpoint.send]
  learns := Finset.empty_subset _
  covers := fun opened => by simp [closed] at opened
  replies := nofun
  stays := fun gone => absurd gone notClosed
  greets := fun _ _ => ⟨token, endpoint.doc.stateVector, _, by
    simpa [Endpoint.onOpen, Endpoint.send, Doc.stateVector] using
      endpoint.doc.integrated_subset, rfl⟩

/-- A local edit is sent as it is integrated, and it is integrated whole. -/
theorem acts_edit (endpoint : Endpoint Op) {update : Update Op}
    (whole : update ⊆ (endpoint.doc.apply update).integrated) :
    Acts endpoint (endpoint.edit update)
      (endpoint.sent ((endpoint.doc.event update).toList.map fun fresh => .sync (.update fresh)))
      none := by
  have carried : carriedBy ((endpoint.doc.event update).toList.map
      fun fresh => Message.sync (.update fresh)) = endpoint.doc.fresh update := by
    rw [← Doc.event_getD]
    cases endpoint.doc.event update <;> simp [Message.carried, SyncMessage.carried]
  have covered : update ⊆ endpoint.doc.received ∪ endpoint.doc.fresh update := by
    rw [Doc.integrated_apply] at whole
    exact whole.trans (Finset.union_subset_union_left endpoint.doc.integrated_subset)
  unfold Endpoint.edit
  rw [Endpoint.send_eq]
  exact {
    stage := rfl
    queued := rfl
    up := rfl
    down := rfl
    waits := fun some => absurd rfl some
    opened := id
    silent := fun closed => by simp_all [Endpoint.sent]
    known := carriedBy_sent_subset _ (by
      rw [carried]
      exact endpoint.doc.fresh_subset_received update)
    grows := Finset.subset_union_left
    learns := Finset.empty_subset _
    covers := fun opened => by
      simp only [Endpoint.sent, opened, if_true, carried, Doc.received_apply]
      exact Finset.union_subset Finset.subset_union_left (covered.trans
        (Finset.union_subset_union_right Finset.subset_union_left))
    replies := fun _ isStep1 => by cases isStep1
    stays := fun _ => rfl
    greets := fun closed opened => by simp_all }

omit [Causality Op] in
/-- A frame taken off the socket is answered or applied. -/
theorem acts_onFrame (endpoint : Endpoint Op) {frame : Message Op} {rest : List (Message Op)}
    (next : endpoint.down = frame :: rest) (waited : endpoint.stage ≠ .added) :
    ∃ frames, Acts endpoint ({ endpoint with down := rest }.onFrame frame) frames
      (some frame) := by
  have applied : ∀ update : Update Op, frame.carried = update →
      (∀ vector, frame ≠ .sync (.step1 vector)) →
      Acts endpoint { endpoint with down := rest, doc := endpoint.doc.apply update } []
        (some frame) := fun update carried notStep1 => {
    stage := rfl
    queued := rfl
    up := (List.append_nil _).symm
    down := next
    waits := fun _ => waited
    opened := id
    silent := fun _ => rfl
    known := Finset.empty_subset _
    grows := Finset.subset_union_left
    learns := by simp [carried]
    covers := fun _ => by simp [carried]
    replies := fun vector isStep1 => absurd (Option.some.inj isStep1) (notStep1 vector)
    stays := fun _ => rfl
    greets := fun closed opened => by simp_all }
  have ignored : frame.carried = ∅ → (∀ vector, frame ≠ .sync (.step1 vector)) →
      Acts endpoint { endpoint with down := rest } [] (some frame) := fun carried notStep1 => {
    stage := rfl
    queued := rfl
    up := (List.append_nil _).symm
    down := next
    waits := fun _ => waited
    opened := id
    silent := fun _ => rfl
    known := Finset.empty_subset _
    grows := Finset.Subset.refl _
    learns := by simp [carried]
    covers := fun _ => by simp [carried]
    replies := fun vector isStep1 => absurd (Option.some.inj isStep1) (notStep1 vector)
    stays := fun _ => rfl
    greets := fun closed opened => by simp_all }
  cases frame with
  | sync message =>
      cases message with
      | step1 vector =>
          refine ⟨endpoint.sent [.sync (.step2 (endpoint.doc.encodeStateAsUpdate vector))], ?_⟩
          simp only [Endpoint.onFrame, Endpoint.send_eq]
          exact {
            stage := rfl
            queued := rfl
            up := rfl
            down := next
            waits := fun _ => waited
            opened := id
            silent := fun closed => by simp_all [Endpoint.sent]
            known := carriedBy_sent_subset _ (by
              simpa [Message.carried, SyncMessage.carried] using
                endpoint.doc.encodeStateAsUpdate_subset vector)
            grows := Finset.Subset.refl _
            learns := by simp [Message.carried, SyncMessage.carried]
            covers := fun _ => Finset.subset_union_left
            replies := fun asked same opened => by
              cases same
              simpa [Endpoint.sent, opened, Message.carried, SyncMessage.carried] using
                endpoint.doc.received_subset_union_encode (Finset.Subset.refl vector)
            stays := fun _ => rfl
            greets := fun closed opened => by simp_all }
      | step2 update => exact ⟨[], applied update rfl fun _ same => by cases same⟩
      | update update => exact ⟨[], applied update rfl fun _ same => by cases same⟩
  | awareness entries => exact ⟨[], ignored rfl fun _ same => by cases same⟩
  | ping => exact ⟨[], ignored rfl fun _ same => by cases same⟩
  | pong => exact ⟨[], ignored rfl fun _ same => by cases same⟩
  | auth token => exact ⟨[], ignored rfl fun _ same => by cases same⟩

theorem acts_of_act {endpoint endpoint' : Endpoint Op} {action : ClientAction Op}
    (acted : endpoint.act action = some endpoint') :
    ∃ frames taken, Acts endpoint endpoint' frames taken := by
  cases action with
  | onopen token presence =>
      simp only [Endpoint.act] at acted
      split at acted
      · cases acted
      · next fresh =>
          cases acted
          obtain ⟨closed, notClosed⟩ := not_or.mp fresh
          exact ⟨_, _, acts_onOpen endpoint token presence (by simpa using closed) notClosed⟩
  | edit update =>
      simp only [Endpoint.act] at acted
      split at acted
      · next whole =>
          cases acted
          exact ⟨_, _, acts_edit endpoint whole⟩
      · cases acted
  | announce entries =>
      cases acted
      exact ⟨_, _, acts_says endpoint (by simp [Message.carried])⟩
  | ping =>
      cases acted
      exact ⟨_, _, acts_says endpoint (by simp [Message.carried])⟩
  | onFrame =>
      simp only [Endpoint.act] at acted
      split at acted
      · cases acted
      · cases acted
      · next frame rest next waited =>
          cases acted
          obtain ⟨frames, acts⟩ := acts_onFrame endpoint next (by simpa using waited)
          exact ⟨frames, some frame, acts⟩

end CollabEditor.Ws
