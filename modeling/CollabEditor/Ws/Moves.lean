import CollabEditor.Ws.Provider

/-!
Owns the view of a session that one of its clients has: what each step does to
the room and to that client's socket, and the facts about a socket that hold
in every session.
-/

namespace CollabEditor.Ws

open CollabEditor.Library CollabEditor.Yjs CollabEditor.Rooms

universe u v

variable {Client : Type v} {Op : Type u} [DecidableEq Client] [DecidableEq Op] [Causality Op]

/-- The frames the room has not been handed yet, in the order they will be. -/
def Endpoint.outstanding (endpoint : Endpoint Op) : List (Message Op) :=
  endpoint.queued ++ endpoint.up

/-- The frame a step hands to the room, and whose it is. -/
def Session.dispatches? (session : Session Client Op) :
    Event Client Op → Option (Client × Message Op)
  | .receive client =>
      if (session.ends client).stage = .joined then
        (session.ends client).up.head?.map fun frame => (client, frame)
      else none
  | .replay => session.replaying.bind fun client =>
      (session.ends client).queued.head?.map fun frame => (client, frame)
  | _ => none

/-- Only a connection in the middle of its replay has both joined and a queue. -/
def Session.Replays (session : Session Client Op) : Prop :=
  (∀ client, session.replaying = some client → (session.ends client).stage = .joined) ∧
    ∀ client, (session.ends client).stage = .joined →
      session.replaying ≠ some client → (session.ends client).queued = []

/-- What a step does to the room and to `client`'s socket. -/
inductive Moves (session : Session Client Op) (event : Event Client Op) (client : Client) :
    Room Client Op → Endpoint Op → Prop where
  | acts {endpoint : Endpoint Op} (action : ClientAction Op)
      (acted : (session.ends client).act action = some endpoint) :
      Moves session event client session.room endpoint
  | idles : Moves session event client session.room (session.ends client)
  | informed (outcome : Outcome Client Op) (informs : Informs session.room outcome client) :
      Moves session event client outcome.1
        { session.ends client with
          down := (session.ends client).down ++ framesTo client outcome.2 }
  | authenticates (token : String) (rest : List (Message Op))
      (stage : (session.ends client).stage = .unauthenticated)
      (next : (session.ends client).up = .auth token :: rest) :
      Moves session event client session.room
        { session.ends client with up := rest, stage := .joining }
  | queues (frame : Message Op) (rest : List (Message Op))
      (loading : (session.ends client).stage = .joining ∨ (session.ends client).stage = .added)
      (next : (session.ends client).up = frame :: rest) :
      Moves session event client session.room
        { session.ends client with
          up := rest, queued := (session.ends client).queued ++ [frame] }
  | drops (frame : Message Op) (rest : List (Message Op))
      (loading : (session.ends client).stage = .joining ∨ (session.ends client).stage = .added)
      (full : (session.ends client).queued ≠ [])
      (next : (session.ends client).up = frame :: rest) :
      Moves session event client session.room { session.ends client with up := rest }
  | refuses (entries : List AwarenessEntry) (rest : List (Message Op))
      (stage : (session.ends client).stage ≠ .unauthenticated)
      (next : (session.ends client).up = .awareness entries :: rest) :
      Moves session event client session.room { session.ends client with up := rest }
  | joins (stage : (session.ends client).stage = .joining) :
      Moves session event client (session.room.add client).1
        { session.ends client with
          stage := .added
          down := (session.ends client).down ++ framesTo client (session.room.add client).2 }
  | closes (outside : (session.ends client).stage ≠ .added ∧
        (session.ends client).stage ≠ .joined) :
      Moves session event client session.room (session.ends client).close
  | departs : Moves session event client (session.room.remove client).1
      (session.ends client).close
  | resumes (stage : (session.ends client).stage = .added) :
      Moves session event client session.room { session.ends client with stage := .joined }
  | dispatches (frame : Message Op) (queued up : List (Message Op))
      (stage : (session.ends client).stage = .joined)
      (taken : session.dispatches? event = some (client, frame))
      (next : (session.ends client).outstanding = frame :: (queued ++ up)) :
      Moves session event client (dispatch session.room client frame).1
        { session.ends client with
          queued := queued
          up := up
          down := (session.ends client).down ++
            framesTo client (dispatch session.room client frame).2 }

namespace Session

section

omit [DecidableEq Op] [Causality Op]

@[simp] theorem setEnd_room (session : Session Client Op) (client : Client)
    (endpoint : Endpoint Op) : (session.setEnd client endpoint).room = session.room := rfl

@[simp] theorem setEnd_replaying (session : Session Client Op) (client : Client)
    (endpoint : Endpoint Op) : (session.setEnd client endpoint).replaying = session.replaying :=
  rfl

@[simp] theorem setEnd_ends_self (session : Session Client Op) (client : Client)
    (endpoint : Endpoint Op) : (session.setEnd client endpoint).ends client = endpoint :=
  Function.update_self _ _ _

theorem setEnd_ends_of_ne (session : Session Client Op) {client other : Client}
    (endpoint : Endpoint Op) (different : other ≠ client) :
    (session.setEnd client endpoint).ends other = session.ends other :=
  Function.update_of_ne different _ _

@[simp] theorem perform_room (session : Session Client Op) (outcome : Outcome Client Op) :
    (session.perform outcome).room = outcome.1 := rfl

@[simp] theorem perform_replaying (session : Session Client Op) (outcome : Outcome Client Op) :
    (session.perform outcome).replaying = session.replaying := rfl

@[simp] theorem perform_ends (session : Session Client Op) (outcome : Outcome Client Op)
    (client : Client) : (session.perform outcome).ends client =
      { session.ends client with
        down := (session.ends client).down ++ framesTo client outcome.2 } := rfl

end

/-- A step is a client's action, a replayed frame, or the server's own step,
which never interrupts a replay. -/
theorem step_cases {session session' : Session Client Op} {event : Event Client Op}
    (stepped : session.step event = some session') :
    (∃ client action endpoint, event = .client client action ∧
      (session.ends client).act action = some endpoint ∧
      session' = session.setEnd client endpoint) ∨
    (∃ client, event = .replay ∧ session.replaying = some client ∧
      session' = session.replay client) ∨
    (session.replaying = none ∧ session.serve event = some session') := by
  unfold step at stepped
  split at stepped
  · next client action =>
      obtain ⟨endpoint, acted, rfl⟩ := Option.map_eq_some_iff.mp stepped
      exact Or.inl ⟨client, action, endpoint, rfl, acted, rfl⟩
  · next client replaying =>
      cases stepped
      exact Or.inr (Or.inl ⟨client, rfl, replaying, rfl⟩)
  · next _ idle => exact Or.inr (Or.inr ⟨idle, stepped⟩)
  · cases stepped

/-- A step that only touches `actor`'s socket. -/
theorem moves_setEnd {session : Session Client Op} {event : Event Client Op} {actor : Client}
    {endpoint : Endpoint Op} (own : Moves session event actor session.room endpoint)
    (client : Client) :
    Moves session event client (session.setEnd actor endpoint).room
      ((session.setEnd actor endpoint).ends client) := by
  by_cases same : client = actor
  · subst same
    rw [setEnd_ends_self]
    exact own
  · rw [setEnd_ends_of_ne session endpoint same]
    exact .idles

/-- A step of the room on behalf of `actor`, whose socket has become
`endpoint`. -/
theorem moves_perform {session : Session Client Op} {event : Event Client Op} {actor : Client}
    {endpoint : Endpoint Op} {outcome : Outcome Client Op}
    (own : Moves session event actor outcome.1
      { endpoint with down := endpoint.down ++ framesTo actor outcome.2 })
    (others : ∀ client, actor ≠ client → Moves session event client outcome.1
      { session.ends client with
        down := (session.ends client).down ++ framesTo client outcome.2 })
    (client : Client) :
    Moves session event client ((session.setEnd actor endpoint).perform outcome).room
      (((session.setEnd actor endpoint).perform outcome).ends client) := by
  rw [perform_room, perform_ends]
  by_cases same : client = actor
  · subst same
    rw [setEnd_ends_self]
    exact own
  · rw [setEnd_ends_of_ne session endpoint same]
    exact others client (Ne.symm same)

private theorem moves_onFrame {session session' : Session Client Op} {actor : Client}
    {frame : Message Op} {rest : List (Message Op)} (replays : session.Replays)
    (idle : session.replaying = none) (next : (session.ends actor).up = frame :: rest)
    (handled : (session.setEnd actor { session.ends actor with up := rest }).onFrame actor frame =
      some session') (client : Client) :
    Moves session (.receive actor) client session'.room (session'.ends client) := by
  unfold onFrame at handled
  simp only [setEnd_ends_self, setEnd_room] at handled
  have collapse : ∀ first second : Endpoint Op,
      (session.setEnd actor first).setEnd actor second = session.setEnd actor second := by
    intro first second
    simp [setEnd]
  split at handled
  · next stage =>
      split at handled
      · next token =>
          cases handled
          rw [collapse]
          exact moves_setEnd (.authenticates token rest stage next) client
      · cases handled
  · next stage =>
      split at handled
      · cases handled
        rw [collapse]
        exact moves_setEnd (.queues frame rest (Or.inl stage) next) client
      · next full =>
          cases handled
          have notEmpty : (session.ends actor).queued ≠ [] := by
            intro empty
            simp [empty, maxQueuedFrames] at full
          exact moves_setEnd (.drops frame rest (Or.inl stage) notEmpty next) client
  · next stage =>
      split at handled
      · cases handled
        rw [collapse]
        exact moves_setEnd (.queues frame rest (Or.inr stage) next) client
      · next full =>
          cases handled
          have notEmpty : (session.ends actor).queued ≠ [] := by
            intro empty
            simp [empty, maxQueuedFrames] at full
          exact moves_setEnd (.drops frame rest (Or.inr stage) notEmpty next) client
  · next stage =>
      cases handled
      have drained : (session.ends actor).queued = [] :=
        replays.2 actor stage (by simp [idle])
      have taken : session.dispatches? (.receive actor) = some (actor, frame) := by
        simp [dispatches?, stage, next]
      have own := Moves.dispatches frame [] rest stage taken
        (by simp [Endpoint.outstanding, drained, next])
      rw [← drained] at own
      exact moves_perform own (fun other different =>
        .informed _ (informs_dispatch session.room different frame)) client
  · cases handled

private theorem moves_onSocketClosed (session : Session Client Op) (actor client : Client) :
    Moves session (.close actor) client (session.onSocketClosed actor).room
      ((session.onSocketClosed actor).ends client) := by
  have leaves : Moves session (.close actor) client
      ((session.setEnd actor (session.ends actor).close).perform
        (session.room.remove actor)).room
      (((session.setEnd actor (session.ends actor).close).perform
        (session.room.remove actor)).ends client) := by
    refine moves_perform ?_ (fun other different =>
      .informed _ (session.room.informs_remove different)) client
    rw [session.room.framesTo_remove_self actor]
    exact .departs
  unfold onSocketClosed
  split
  · exact leaves
  · exact leaves
  · next notAdded notJoined => exact moves_setEnd (.closes ⟨notAdded, notJoined⟩) client

private theorem moves_replay {session : Session Client Op} {actor : Client}
    (replays : session.Replays) (replaying : session.replaying = some actor) (client : Client) :
    Moves session .replay client (session.replay actor).room
      ((session.replay actor).ends client) := by
  unfold replay
  split
  · exact .idles
  · next frame rest queue =>
      have joined := replays.1 actor replaying
      have taken : session.dispatches? .replay = some (actor, frame) := by
        simp [dispatches?, replaying, queue]
      have own := Moves.dispatches frame rest (session.ends actor).up joined taken
        (by simp [Endpoint.outstanding, queue])
      exact moves_perform own (fun other different =>
        .informed _ (informs_dispatch session.room different frame)) client

private theorem moves_serve {session session' : Session Client Op} {event : Event Client Op}
    (replays : session.Replays) (idle : session.replaying = none)
    (served : session.serve event = some session') (client : Client) :
    Moves session event client session'.room (session'.ends client) := by
  cases event with
  | client actor action => cases served
  | replay => cases served
  | receive actor =>
      simp only [serve] at served
      split at served
      · cases served
      · next frame rest next => exact moves_onFrame replays idle next served client
  | refusePresence actor =>
      simp only [serve] at served
      split at served
      · next entries rest next =>
          split at served
          · cases served
          · next stage =>
              cases served
              exact moves_setEnd (.refuses entries rest stage next) client
      · cases served
  | join actor =>
      simp only [serve] at served
      split at served
      · next stage =>
          cases served
          exact moves_perform (.joins stage) (fun other different =>
            .informed _ (session.room.informs_add different)) client
      · cases served
  | resume actor =>
      simp only [serve] at served
      split at served
      · next stage =>
          cases served
          exact moves_setEnd (.resumes stage) client
      · cases served
  | close actor =>
      cases served
      exact moves_onSocketClosed session actor client
  | bus message =>
      cases served
      exact .informed _ (session.room.informs_receive message client)
  | expirePresence ids =>
      cases served
      exact .informed _ (session.room.informs_changeAwareness _ _ client)

/-- Every step, as each client sees it. -/
theorem moves_of_step {session session' : Session Client Op} {event : Event Client Op}
    (replays : session.Replays) (stepped : session.step event = some session')
    (client : Client) :
    Moves session event client session'.room (session'.ends client) := by
  rcases step_cases stepped with ⟨actor, action, endpoint, rfl, acted, rfl⟩ |
    ⟨actor, rfl, replaying, rfl⟩ | ⟨idle, served⟩
  · exact moves_setEnd (.acts action acted) client
  · exact moves_replay replays replaying client
  · exact moves_serve replays idle served client

omit [DecidableEq Client] [DecidableEq Op] [Causality Op] in
theorem replays_initial {session : Session Client Op} (initial : session.Initial) :
    session.Replays := by
  obtain ⟨-, idle, ends⟩ := initial
  constructor
  · intro client replaying
    rw [idle] at replaying
    cases replaying
  · intro client joined
    rw [(ends client).2.2.2.1] at joined
    cases joined

omit [DecidableEq Op] [Causality Op] in
theorem replays_setEnd {session : Session Client Op} (replays : session.Replays)
    {client : Client} {endpoint : Endpoint Op}
    (mid : session.replaying = some client → endpoint.stage = .joined)
    (idle : endpoint.stage = .joined → session.replaying ≠ some client →
      endpoint.queued = []) :
    (session.setEnd client endpoint).Replays := by
  constructor
  · intro other replaying
    by_cases same : other = client
    · subst same
      rw [setEnd_ends_self]
      exact mid replaying
    · rw [setEnd_ends_of_ne session endpoint same]
      exact replays.1 other replaying
  · intro other joined notReplaying
    by_cases same : other = client
    · subst same
      rw [setEnd_ends_self] at joined ⊢
      exact idle joined notReplaying
    · rw [setEnd_ends_of_ne session endpoint same] at joined ⊢
      exact replays.2 other joined notReplaying

omit [DecidableEq Op] [Causality Op] in
private theorem replays_perform {session : Session Client Op} (replays : session.Replays)
    (outcome : Outcome Client Op) : (session.perform outcome).Replays :=
  replays

private theorem replays_onFrame {session session' : Session Client Op} {client : Client}
    {frame : Message Op} (replays : session.Replays) (idle : session.replaying = none)
    (handled : session.onFrame client frame = some session') : session'.Replays := by
  have notReplaying : session.replaying ≠ some client := by simp [idle]
  have outside : ∀ endpoint : Endpoint Op, endpoint.stage ≠ .joined →
      (session.setEnd client endpoint).Replays := fun endpoint notJoined =>
    replays_setEnd replays (fun replaying => absurd replaying notReplaying)
      fun joined => absurd joined notJoined
  simp only [onFrame] at handled
  split at handled
  · split at handled
    · cases handled
      exact outside _ nofun
    · cases handled
  · next stage =>
      split at handled
      · cases handled
        exact outside _ (by simp [stage])
      · cases handled
        exact replays
  · next stage =>
      split at handled
      · cases handled
        exact outside _ (by simp [stage])
      · cases handled
        exact replays
  · cases handled
    exact replays_perform replays _
  · cases handled

/-- A replay ends only once its queue is empty. -/
theorem replays_replay {session : Session Client Op} (replays : session.Replays)
    {client : Client} (replaying : session.replaying = some client) :
    (session.replay client).Replays := by
  unfold replay
  split
  · next empty =>
      refine ⟨nofun, fun other joined _ => ?_⟩
      by_cases same : other = client
      · exact same ▸ empty
      · refine replays.2 other joined ?_
        rw [replaying]
        exact fun equal => same (Option.some.inj equal).symm
  · next frame rest queue =>
      apply replays_perform
      apply replays_setEnd replays
      · exact fun _ => replays.1 client replaying
      · exact fun _ notReplaying => absurd replaying notReplaying

omit [DecidableEq Op] [Causality Op] in
private theorem replays_onSocketClosed {session : Session Client Op} (replays : session.Replays)
    {client : Client} (notReplaying : session.replaying ≠ some client) :
    (session.onSocketClosed client).Replays := by
  have closed : (session.setEnd client (session.ends client).close).Replays :=
    replays_setEnd replays (fun replaying => absurd replaying notReplaying)
      fun joined => Stage.noConfusion joined
  unfold onSocketClosed
  split
  · exact replays_perform closed _
  · exact replays_perform closed _
  · exact closed

omit [DecidableEq Op] [Causality Op] in
/-- A connection that has joined starts its replay at once. -/
theorem replays_resume {session : Session Client Op} (replays : session.Replays)
    (idle : session.replaying = none) (client : Client) :
    Replays { session.setEnd client { session.ends client with stage := .joined } with
      replaying := some client } := by
  constructor
  · intro other replaying
    cases replaying
    simp
  · intro other joined notClient
    have different : other ≠ client := fun same => notClient (by simp [same])
    simp only [setEnd_ends_of_ne session _ different] at joined ⊢
    exact replays.2 other joined (by simp [idle])

private theorem replays_serve {session session' : Session Client Op} {event : Event Client Op}
    (replays : session.Replays) (idle : session.replaying = none)
    (served : session.serve event = some session') : session'.Replays := by
  have notReplaying : ∀ client, session.replaying ≠ some client := by simp [idle]
  have kept : ∀ actor rest, (session.setEnd actor
      { session.ends actor with up := rest }).Replays := fun actor rest =>
    replays_setEnd replays (fun replaying => absurd replaying (notReplaying actor))
      fun joined mid => replays.2 actor joined mid
  cases event with
  | client actor action => cases served
  | replay => cases served
  | receive actor =>
      simp only [serve] at served
      split at served
      · cases served
      · next frame rest next => exact replays_onFrame (kept actor rest) idle served
  | refusePresence actor =>
      simp only [serve] at served
      split at served
      · split at served
        · cases served
        · cases served
          exact kept actor _
      · cases served
  | join actor =>
      simp only [serve] at served
      split at served
      · cases served
        apply replays_perform
        apply replays_setEnd replays
        · exact fun replaying => absurd replaying (notReplaying actor)
        · exact fun joined => Stage.noConfusion joined
      · cases served
  | resume actor =>
      simp only [serve] at served
      split at served
      · cases served
        exact replays_resume replays idle actor
      · cases served
  | close actor =>
      cases served
      exact replays_onSocketClosed replays (notReplaying actor)
  | bus message =>
      cases served
      exact replays_perform replays _
  | expirePresence ids =>
      cases served
      exact replays_perform replays _

theorem replays_step {session session' : Session Client Op} {event : Event Client Op}
    (replays : session.Replays) (stepped : session.step event = some session') :
    session'.Replays := by
  rcases step_cases stepped with ⟨actor, action, endpoint, rfl, acted, rfl⟩ |
    ⟨actor, rfl, replaying, rfl⟩ | ⟨idle, served⟩
  · obtain ⟨frames, taken, acts⟩ := acts_of_act acted
    refine replays_setEnd replays (fun replaying => ?_) (fun joined notReplaying => ?_)
    · rw [acts.stage]
      exact replays.1 actor replaying
    · rw [acts.queued]
      exact replays.2 actor (acts.stage ▸ joined) notReplaying
  · exact replays_replay replays replaying
  · exact replays_serve replays idle served

end Session

end CollabEditor.Ws
