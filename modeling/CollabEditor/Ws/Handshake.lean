import CollabEditor.Ws.Moves

/-!
Owns what holds of every socket of a session: a connection is in the room from
`room.add` on, nothing reaches it before, it only sends operations its document
has, and its state vector is never lost. The vector is the first frame behind
the token, so it is queued before the queue can be full.
-/

namespace CollabEditor.Ws

open CollabEditor.Library CollabEditor.Yjs CollabEditor.Rooms

universe u v

variable {Client : Type v} {Op : Type u} [DecidableEq Op]

/-- The next frame the room gets is this client's state vector. -/
def Endpoint.Greets (endpoint : Endpoint Op) : Prop :=
  ∃ vector rest, vector ⊆ endpoint.doc.received ∧
    endpoint.outstanding = .sync (.step1 vector) :: rest

/-- What holds of a client's socket at every moment. -/
structure Linked (room : Room Client Op) (client : Client) (endpoint : Endpoint Op) : Prop where
  member : client ∈ room.clients ↔ endpoint.stage = .added ∨ endpoint.stage = .joined
  unopened : endpoint.opened = false →
    (endpoint.stage = .unauthenticated ∨ endpoint.stage = .closed) ∧ endpoint.outstanding = []
  closed : endpoint.stage = .closed → endpoint.opened = false
  quiet : client ∉ room.clients → endpoint.down = []
  offered : carriedBy endpoint.outstanding ⊆ endpoint.doc.received
  received : carriedBy endpoint.down ⊆ room.doc.received
  token : endpoint.opened = true → endpoint.stage = .unauthenticated →
    endpoint.queued = [] ∧ ∃ token vector rest, vector ⊆ endpoint.doc.received ∧
      endpoint.up = .auth token :: .sync (.step1 vector) :: rest
  greets : endpoint.stage = .joining ∨ endpoint.stage = .added → endpoint.Greets

private theorem linked_initial {session : Session Client Op} (initial : session.Initial)
    (client : Client) : Linked session.room client (session.ends client) := by
  obtain ⟨nobody, -, ends⟩ := initial
  obtain ⟨closed, noUp, noDown, stage, noQueue⟩ := ends client
  have noFrames : (session.ends client).outstanding = [] := by
    simp [Endpoint.outstanding, noUp, noQueue]
  refine ⟨by simp [nobody, stage], fun _ => ⟨Or.inl stage, noFrames⟩, fun _ => closed,
    fun _ => noDown, ?_, ?_, ?_, ?_⟩
  · simp [noFrames]
  · simp [noDown]
  · intro opened
    rw [closed] at opened
    cases opened
  · intro loading
    simp [stage] at loading

/-! ### One step -/

theorem Linked.opened {room : Room Client Op} {client : Client} {endpoint : Endpoint Op}
    (linked : Linked room client endpoint) (authenticated : endpoint.stage ≠ .unauthenticated)
    (notClosed : endpoint.stage ≠ .closed) : endpoint.opened = true := by
  by_contra unopened
  rcases (linked.unopened (by simpa using unopened)).1 with stage | stage
  · exact authenticated stage
  · exact notClosed stage

omit [DecidableEq Op] in
/-- Losing a frame other than the state vector, or one behind others in the
queue. -/
theorem Endpoint.Greets.skips {endpoint : Endpoint Op} {frame : Message Op}
    {rest : List (Message Op)} (greets : endpoint.Greets) (next : endpoint.up = frame :: rest)
    (notGreeting : endpoint.queued ≠ [] ∨ ∀ vector, frame ≠ .sync (.step1 vector)) :
    ({ endpoint with up := rest } : Endpoint Op).Greets := by
  obtain ⟨vector, others, known, first⟩ := greets
  rw [Endpoint.outstanding, next] at first
  cases queue : endpoint.queued with
  | nil =>
      rw [queue, List.nil_append] at first
      have isGreeting := (List.cons.inj first).1
      rcases notGreeting with queued | other
      · exact absurd queue queued
      · exact absurd isGreeting (other vector)
  | cons head tail =>
      rw [queue, List.cons_append] at first
      obtain ⟨rfl, -⟩ := List.cons.inj first
      exact ⟨vector, tail ++ rest, known, by simp [Endpoint.outstanding]⟩

theorem Endpoint.Greets.acts {before after : Endpoint Op} {frames : List (Message Op)}
    {taken : Option (Message Op)} (greets : before.Greets)
    (acts : Acts before after frames taken) : after.Greets := by
  obtain ⟨vector, rest, known, first⟩ := greets
  refine ⟨vector, rest ++ frames, known.trans acts.grows, ?_⟩
  rw [Endpoint.outstanding] at first ⊢
  rw [acts.queued, acts.up, ← List.append_assoc, first, List.cons_append]

private theorem Linked.acts {room : Room Client Op} {client : Client} {before after : Endpoint Op}
    {frames : List (Message Op)} {taken : Option (Message Op)}
    (linked : Linked room client before) (acts : Acts before after frames taken) :
    Linked room client after := by
  have outstanding : after.outstanding = before.outstanding ++ frames := by
    simp [Endpoint.outstanding, acts.queued, acts.up]
  refine ⟨?_, ?_, ?_, ?_, ?_, ?_, ?_, ?_⟩
  · rw [acts.stage]
    exact linked.member
  · intro closed
    have wasClosed : before.opened = false := by
      by_contra wasOpen
      simp [acts.opened (by simpa using wasOpen)] at closed
    obtain ⟨stage, nothing⟩ := linked.unopened wasClosed
    rw [acts.stage, outstanding, nothing, acts.silent closed]
    exact ⟨stage, rfl⟩
  · intro closed
    rw [acts.stage] at closed
    exact (acts.stays closed).trans (linked.closed closed)
  · intro away
    have empty := linked.quiet away
    rw [acts.down] at empty
    exact (List.append_eq_nil_iff.mp empty).2
  · rw [outstanding, carriedBy_append]
    exact Finset.union_subset (linked.offered.trans acts.grows) acts.known
  · refine Finset.Subset.trans ?_ linked.received
    rw [acts.down, carriedBy_append]
    exact Finset.subset_union_right
  · intro opened stage
    rw [acts.stage] at stage
    cases wasOpened : before.opened with
    | true =>
        obtain ⟨noQueue, token, vector, rest, known, up⟩ := linked.token wasOpened stage
        exact ⟨acts.queued.trans noQueue, token, vector, rest ++ frames,
          known.trans acts.grows, by simp [acts.up, up]⟩
    | false =>
        obtain ⟨token, vector, rest, known, sent⟩ := acts.greets wasOpened opened
        obtain ⟨noQueue, noUp⟩ := List.append_eq_nil_iff.mp (linked.unopened wasOpened).2
        exact ⟨acts.queued.trans noQueue, token, vector, rest, known, by
          simp [acts.up, noUp, sent]⟩
  · intro loading
    rw [acts.stage] at loading
    exact (linked.greets loading).acts acts

private theorem Linked.informed [DecidableEq Client] [Causality Op] {room : Room Client Op}
    {outcome : Outcome Client Op} {client : Client}
    {endpoint : Endpoint Op} (linked : Linked room client endpoint)
    (informs : Informs room outcome client) :
    Linked outcome.1 client
      { endpoint with down := endpoint.down ++ framesTo client outcome.2 } where
  member := informs.member.trans linked.member
  unopened := linked.unopened
  closed := linked.closed
  quiet := fun away => by
    rw [informs.member] at away
    simp [linked.quiet away, informs.skips away]
  offered := linked.offered
  received := by
    rw [carriedBy_append]
    exact Finset.union_subset (linked.received.trans informs.grows) informs.carries
  token := linked.token
  greets := linked.greets

private theorem Linked.joins [DecidableEq Client] [Causality Op] {room : Room Client Op}
    {client : Client} {endpoint : Endpoint Op}
    (linked : Linked room client endpoint) (stage : endpoint.stage = .joining) :
    Linked (room.add client).1 client
      { endpoint with
        stage := .added
        down := endpoint.down ++ framesTo client (room.add client).2 } := by
  obtain ⟨presence, frames, nothing⟩ := room.framesTo_add_self client
  have member : client ∈ (room.add client).1.clients :=
    (room.mem_clients_add client client).mpr (Or.inl rfl)
  have opened := linked.opened (by simp [stage]) (by simp [stage])
  refine ⟨iff_of_true member (Or.inl rfl), fun closed => absurd (opened.symm.trans closed) nofun,
    nofun, fun away => absurd member away, linked.offered, ?_, nofun,
    fun _ => linked.greets (Or.inl stage)⟩
  · rw [carriedBy_append, frames, carriedBy_cons, nothing]
    have sameDoc : (room.add client).1.doc = room.doc := rfl
    simpa [sameDoc, Message.carried, SyncMessage.carried] using linked.received

private theorem Linked.skips {room : Room Client Op} {client : Client} {endpoint : Endpoint Op}
    {frame : Message Op} {rest : List (Message Op)} (linked : Linked room client endpoint)
    (stage : endpoint.stage ≠ .unauthenticated) (next : endpoint.up = frame :: rest)
    (notGreeting : endpoint.queued ≠ [] ∨ ∀ vector, frame ≠ .sync (.step1 vector)) :
    Linked room client { endpoint with up := rest } := by
  have offered := linked.offered
  rw [Endpoint.outstanding, next, carriedBy_append, carriedBy_cons] at offered
  refine ⟨linked.member, fun closed => ?_, linked.closed, linked.quiet, ?_,
    linked.received, fun _ first => absurd first stage, fun loading => ?_⟩
  · have nothing := (linked.unopened closed).2
    simp [Endpoint.outstanding, next] at nothing
  · rw [Endpoint.outstanding, carriedBy_append]
    exact (Finset.union_subset_union_right Finset.subset_union_right).trans offered
  · exact (linked.greets loading).skips next notGreeting

private theorem Linked.dispatches [DecidableEq Client] [Causality Op] {room : Room Client Op}
    {client : Client} {endpoint : Endpoint Op}
    {frame : Message Op} {queued up : List (Message Op)} (linked : Linked room client endpoint)
    (stage : endpoint.stage = .joined)
    (next : endpoint.outstanding = frame :: (queued ++ up)) :
    Linked (dispatch room client frame).1 client
      { endpoint with
        queued := queued
        up := up
        down := endpoint.down ++ framesTo client (dispatch room client frame).2 } := by
  obtain ⟨doc, clients⟩ := dispatch_doc room client frame
  have grows : room.doc.received ⊆ (dispatch room client frame).1.doc.received := by
    rw [doc]
    exact Finset.subset_union_left
  have member : client ∈ room.clients := linked.member.mpr (Or.inr stage)
  have opened := linked.opened (by simp [stage]) (by simp [stage])
  refine ⟨?_, fun closed => absurd (opened.symm.trans closed) nofun, linked.closed,
    ?_, ?_, ?_, ?_, ?_⟩
  · rw [clients]
    exact linked.member
  · intro away
    rw [clients] at away
    exact absurd member away
  · have offered := linked.offered
    rw [next, carriedBy_cons] at offered
    exact Finset.subset_union_right.trans offered
  · rw [carriedBy_append]
    exact Finset.union_subset (linked.received.trans grows)
      ((carriedBy_dispatch_subset room client frame).trans grows)
  · intro _ unauthenticated
    exact absurd (stage.symm.trans unauthenticated) nofun
  · intro loading
    simp [stage] at loading

/-- A closed connection has nothing on its way. -/
theorem linked_close {room : Room Client Op} {client : Client} {endpoint : Endpoint Op}
    (away : client ∉ room.clients) : Linked room client endpoint.close where
  member := iff_of_false away (by simp [Endpoint.close])
  unopened := fun _ => ⟨Or.inr rfl, rfl⟩
  closed := fun _ => rfl
  quiet := fun _ => rfl
  offered := Finset.empty_subset _
  received := Finset.empty_subset _
  token := by simp [Endpoint.close]
  greets := by simp [Endpoint.close]

/-- The token is read, and the state vector is next. -/
theorem Linked.authenticates {room : Room Client Op} {client : Client} {endpoint : Endpoint Op}
    {token : String} {rest : List (Message Op)} (linked : Linked room client endpoint)
    (stage : endpoint.stage = .unauthenticated) (next : endpoint.up = .auth token :: rest) :
    Linked room client { endpoint with up := rest, stage := .joining } := by
  have opened : endpoint.opened = true := by
    by_contra closed
    have nothing := (linked.unopened (by simpa using closed)).2
    simp [Endpoint.outstanding, next] at nothing
  obtain ⟨noQueue, token', vector, others, known, up⟩ := linked.token opened stage
  obtain ⟨-, rfl⟩ := List.cons.inj (next.symm.trans up)
  have outstanding := linked.offered
  rw [Endpoint.outstanding, next, carriedBy_append, carriedBy_cons] at outstanding
  refine ⟨?_, fun closed => absurd (opened.symm.trans closed) (by simp), by simp, linked.quiet,
    ?_, linked.received, by simp, fun _ => ⟨vector, others, known, ?_⟩⟩
  · have outside := linked.member
    rw [stage] at outside
    simpa using outside
  · rw [Endpoint.outstanding, carriedBy_append]
    exact (Finset.union_subset_union_right Finset.subset_union_right).trans outstanding
  · simp [Endpoint.outstanding, noQueue]

/-- A frame that is queued is outstanding as before. -/
theorem Linked.queues {room : Room Client Op} {client : Client} {endpoint : Endpoint Op}
    {frame : Message Op} {rest : List (Message Op)} (linked : Linked room client endpoint)
    (loading : endpoint.stage = .joining ∨ endpoint.stage = .added)
    (next : endpoint.up = frame :: rest) :
    Linked room client { endpoint with up := rest, queued := endpoint.queued ++ [frame] } := by
  have same : ({ endpoint with up := rest, queued := endpoint.queued ++ [frame] } :
      Endpoint Op).outstanding = endpoint.outstanding := by
    simp [Endpoint.outstanding, next]
  refine ⟨linked.member, ?_, linked.closed, linked.quiet, ?_, linked.received, ?_, ?_⟩
  · intro closed
    rw [same]
    exact linked.unopened closed
  · rw [same]
    exact linked.offered
  · intro opened stage
    rcases loading with joining | added
    · exact absurd (joining.symm.trans stage) (by simp)
    · exact absurd (added.symm.trans stage) (by simp)
  · intro _
    obtain ⟨vector, others, known, first⟩ := linked.greets loading
    exact ⟨vector, others, known, same.trans first⟩

private theorem Linked.resumes {room : Room Client Op} {client : Client} {endpoint : Endpoint Op}
    (linked : Linked room client endpoint) (stage : endpoint.stage = .added) :
    Linked room client { endpoint with stage := .joined } := by
  have member : client ∈ room.clients := linked.member.mpr (Or.inl stage)
  have opened := linked.opened (by simp [stage]) (by simp [stage])
  exact ⟨iff_of_true member (Or.inr rfl),
    fun closed => absurd (opened.symm.trans closed) (by simp), by simp, linked.quiet,
    linked.offered, linked.received, by simp, by simp⟩

private theorem linked_of_moves [DecidableEq Client] [Causality Op] {session : Session Client Op}
    {event : Event Client Op} {client : Client} {room : Room Client Op} {endpoint : Endpoint Op}
    (linked : Linked session.room client (session.ends client))
    (moves : Moves session event client room endpoint) : Linked room client endpoint := by
  cases moves with
  | acts action acted =>
      obtain ⟨frames, taken, acts⟩ := acts_of_act acted
      exact linked.acts acts
  | idles => exact linked
  | informed outcome informs => exact linked.informed informs
  | authenticates token rest stage next => exact linked.authenticates stage next
  | queues frame rest loading next => exact linked.queues loading next
  | drops frame rest loading full next =>
      refine linked.skips ?_ next (Or.inl full)
      rintro stage
      simp [stage] at loading
  | refuses entries rest stage next => exact linked.skips stage next (Or.inr (by simp))
  | joins stage => exact linked.joins stage
  | closes outside =>
      have away : client ∉ session.room.clients := by
        rw [linked.member]
        exact not_or.mpr outside
      exact linked_close away
  | departs =>
      have away : client ∉ (session.room.remove client).1.clients := by
        simp [Room.mem_clients_remove]
      exact linked_close away
  | resumes stage => exact linked.resumes stage
  | dispatches frame queued up stage taken next => exact linked.dispatches stage next

/-! ### Whole sessions -/

/-- What holds of every state of a session. -/
def Session.Sound (session : Session Client Op) : Prop :=
  session.Replays ∧ ∀ client, Linked session.room client (session.ends client)

theorem Session.sound_initial {session : Session Client Op} (initial : session.Initial) :
    session.Sound :=
  ⟨replays_initial initial, linked_initial initial⟩

theorem Session.sound_step [DecidableEq Client] [Causality Op]
    {session session' : Session Client Op} {event : Event Client Op}
    (sound : session.Sound) (stepped : session.step event = some session') : session'.Sound :=
  ⟨replays_step sound.1 stepped, fun client =>
    linked_of_moves (sound.2 client) (moves_of_step sound.1 stepped client)⟩

/-- A drained connection has joined, since its state vector was never lost. -/
theorem Linked.joined_of_drained {room : Room Client Op} {client : Client}
    {endpoint : Endpoint Op} (linked : Linked room client endpoint)
    (drained : endpoint.Drained) : endpoint.stage = .joined := by
  obtain ⟨opened, noUp, -, noQueue⟩ := drained
  have nothing : endpoint.outstanding = [] := by simp [Endpoint.outstanding, noUp, noQueue]
  have notLoading : ¬ (endpoint.stage = .joining ∨ endpoint.stage = .added) := by
    intro loading
    obtain ⟨vector, rest, -, first⟩ := linked.greets loading
    simp [nothing] at first
  cases stage : endpoint.stage with
  | unauthenticated =>
      obtain ⟨-, token, vector, rest, -, first⟩ := linked.token opened stage
      simp [noUp] at first
  | joining => exact absurd (Or.inl stage) notLoading
  | added => exact absurd (Or.inr stage) notLoading
  | joined => rfl
  | closed => exact absurd (opened.symm.trans (linked.closed stage)) (by simp)

end CollabEditor.Ws
