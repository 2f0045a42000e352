import CollabEditor.Library.Transition
import CollabEditor.Ws.Connection

/-!
Owns what becomes of the frames a `Connection` accepts: the two ways they reach
`dispatch`, from the message handler and from the replay in `join`, what a
frame that throws does on each, and what the bounded queue drops.
-/

namespace CollabEditor.Ws

open CollabEditor.Library CollabEditor.Protocol

universe u v

variable {Claims : Type u} {Room : Type v}

/-- A connection without its timers, limits and socket. -/
structure Traffic (Room : Type v) where
  authenticated : Bool
  joining : Bool
  room : Option Room
  queued : List (List UInt8)
  admitted : List Message
  accepted : List Message
  dispatched : List Message
  escaped : Bool

def Connection.traffic (connection : Connection Claims Room) : Traffic Room where
  authenticated := connection.user.isSome
  joining := connection.joining
  room := connection.room
  queued := connection.queued
  admitted := connection.admitted
  accepted := connection.accepted
  dispatched := connection.dispatched
  escaped := connection.escaped

namespace Traffic

/-- What an event other than the end of the load can do. -/
inductive Step (services : Services Claims Room) (traffic : Traffic Room) :
    ConnectionEvent Room → Traffic Room → Prop where
  | stays (event : ConnectionEvent Room) : Step services traffic event traffic
  | authenticates (frame : List UInt8) (now : ℤ) (stranger : traffic.authenticated = false) :
      Step services traffic (.message frame now)
        { traffic with authenticated := true, joining := true }
  | queues (frame : List UInt8) (now : ℤ) (message : Message)
      (known : traffic.authenticated = true) (decodes : decodeMessage frame = some message)
      (loading : traffic.room = none) (space : traffic.queued.length < maxQueuedFrames) :
      Step services traffic (.message frame now) { traffic with
        queued := traffic.queued ++ [frame]
        admitted := traffic.admitted ++ [message]
        accepted := traffic.accepted ++ [message] }
  | drops (frame : List UInt8) (now : ℤ) (message : Message)
      (known : traffic.authenticated = true) (decodes : decodeMessage frame = some message)
      (loading : traffic.room = none) (full : ¬ traffic.queued.length < maxQueuedFrames) :
      Step services traffic (.message frame now)
        { traffic with admitted := traffic.admitted ++ [message] }
  | dispatches (frame : List UInt8) (now : ℤ) (message : Message) (room : Room)
      (known : traffic.authenticated = true) (decodes : decodeMessage frame = some message)
      (joined : traffic.room = some room) :
      Step services traffic (.message frame now) { traffic with
        room := some ((services.dispatch room message).getD room)
        admitted := traffic.admitted ++ [message]
        accepted := traffic.accepted ++ [message]
        dispatched := traffic.dispatched ++ [message] }
  | givesUp : Step services traffic .joinRejected { traffic with joining := false }
  | changes (room : Room) (joined : traffic.room.isSome) :
      Step services traffic (.roomChanges room) { traffic with room := some room }
  | closes : Step services traffic .socketClosed { traffic with room := none }

end Traffic

namespace Connection

variable {limits : Limits} {services : Services Claims Room}
  {connection connection' : Connection Claims Room}

@[simp] theorem traffic_closing : connection.closing.traffic = connection.traffic := by
  unfold closing
  split <;> rfl

@[simp] theorem traffic_close (code : CloseCode) :
    (connection.close code).traffic = connection.traffic :=
  traffic_closing

theorem withinLimits_traffic (limits : Limits) (connection : Connection Claims Room)
    (message : Message) (size : ℕ) (now : ℤ) :
    (connection.withinLimits limits message size now).2.traffic = connection.traffic := by
  unfold withinLimits
  split
  · rfl
  · dsimp only
    split
    · rfl
    · exact traffic_close .rateLimited

private theorem handle_traffic {frame : List UInt8} {message : Message} (now : ℤ)
    (known : connection.traffic.authenticated = true)
    (decodes : decodeMessage frame = some message) :
    Traffic.Step services connection.traffic (.message frame now)
      (connection.handle services frame message).traffic := by
  unfold handle
  dsimp only
  split
  · next loading =>
      split
      · next space => exact .queues frame now message known decodes loading space
      · next full => exact .drops frame now message known decodes loading full
  · next room joined => exact .dispatches frame now message room known decodes joined

private theorem onMessage_traffic (limits : Limits) (services : Services Claims Room)
    (connection : Connection Claims Room) (frame : List UInt8) (now : ℤ) :
    Traffic.Step services connection.traffic (.message frame now)
      (connection.onMessage limits services frame now).traffic := by
  unfold onMessage
  split
  · exact .stays _
  · next message decodes =>
      split
      · next stranger =>
          have unknown : connection.traffic.authenticated = false := by
            show connection.user.isSome = false
            rw [stranger, Option.isSome_none]
          split
          · unfold authenticate
            split
            · rw [traffic_close]
              exact .stays _
            · exact .authenticates frame now unknown
          · rw [traffic_close]
            exact .stays _
      · next claims isUser =>
          have known : connection.traffic.authenticated = true := by
            show connection.user.isSome = true
            rw [isUser, Option.isSome_some]
          have same := connection.withinLimits_traffic limits message frame.length now
          dsimp only
          split
          · rw [← same] at known ⊢
            exact handle_traffic now known decodes
          · rw [same]
            exact .stays _

/-- What an event does to a connection, by what it finds. -/
inductive Fires (limits : Limits) (services : Services Claims Room)
    (connection : Connection Claims Room) :
    ConnectionEvent Room → Connection Claims Room → Prop where
  | oversized (frame : List UInt8) (now : ℤ) (large : limits.maxPayload < frame.length) :
      Fires limits services connection (.message frame now)
        { connection.closing with deaf := true, refused := true }
  | receives (frame : List UInt8) (now : ℤ) (small : ¬ limits.maxPayload < frame.length) :
      Fires limits services connection (.message frame now)
        (connection.onMessage limits services frame now)
  | joins (room : Room) (joining : connection.joining = true) :
      Fires limits services connection (.joinResolved room) (connection.onJoined services room)
  | givesUp (joining : connection.joining = true) :
      Fires limits services connection .joinRejected
        ({ connection with joining := false }.close .documentUnavailable)
  | expires (armed : connection.authTimer = true) :
      Fires limits services connection .authTimeout
        ({ connection with authTimer := false }.close .unauthorized)
  | changes (room : Room) (joined : connection.room.isSome) :
      Fires limits services connection (.roomChanges room) { connection with room := some room }
  | closes (isOpen : connection.readyState = .isOpen) :
      Fires limits services connection .socketCloses connection.closing
  | closed (notClosed : connection.readyState ≠ .closed) :
      Fires limits services connection .socketClosed
        { connection with readyState := .closed, authTimer := false, room := none }

theorem fires_of_step {event : ConnectionEvent Room}
    (stepped : connection.step limits services event = some connection') :
    connection.escaped = false ∧ connection.Fires limits services event connection' := by
  obtain ⟨running, taken⟩ := Option.ite_none_left_eq_some.mp stepped
  refine ⟨Bool.eq_false_of_not_eq_true running, ?_⟩
  cases event with
  | message frame now =>
      obtain ⟨-, handled⟩ := Option.ite_none_left_eq_some.mp taken
      split at handled
      · next large =>
          cases handled
          exact .oversized frame now large
      · next small =>
          cases handled
          exact .receives frame now small
  | joinResolved room =>
      obtain ⟨joining, result⟩ := Option.ite_none_right_eq_some.mp taken
      cases result
      exact .joins room joining
  | joinRejected =>
      obtain ⟨joining, result⟩ := Option.ite_none_right_eq_some.mp taken
      cases result
      exact .givesUp joining
  | authTimeout =>
      obtain ⟨armed, result⟩ := Option.ite_none_right_eq_some.mp taken
      cases result
      exact .expires armed
  | roomChanges room =>
      obtain ⟨joined, result⟩ := Option.ite_none_right_eq_some.mp taken
      cases result
      exact .changes room joined
  | socketCloses =>
      obtain ⟨isOpen, result⟩ := Option.ite_none_right_eq_some.mp taken
      cases result
      exact .closes isOpen
  | socketClosed =>
      obtain ⟨notClosed, result⟩ := Option.ite_none_left_eq_some.mp taken
      cases result
      exact .closed notClosed

/-- Every event but the end of the load. -/
theorem step_traffic {event : ConnectionEvent Room}
    (notJoined : ∀ room, event ≠ .joinResolved room)
    (stepped : connection.step limits services event = some connection') :
    Traffic.Step services connection.traffic event connection'.traffic := by
  cases (fires_of_step stepped).2 with
  | oversized frame now large =>
      have same : connection.closing.traffic = connection.traffic := traffic_closing
      change Traffic.Step services connection.traffic _ connection.closing.traffic
      rw [same]
      exact .stays _
  | receives frame now small => exact connection.onMessage_traffic limits services frame now
  | joins room joining => exact absurd rfl (notJoined room)
  | givesUp joining =>
      rw [traffic_close]
      exact .givesUp
  | expires armed =>
      rw [traffic_close]
      exact .stays _
  | changes room joined => exact .changes room joined
  | closes isOpen =>
      rw [traffic_closing]
      exact .stays _
  | closed notClosed => exact .closes

/-- The end of the load. -/
theorem step_joinResolved {room : Room}
    (stepped : connection.step limits services (.joinResolved room) = some connection') :
    connection.escaped = false ∧ connection.joining = true ∧
      connection' = connection.onJoined services room := by
  obtain ⟨running, fired⟩ := fires_of_step stepped
  cases fired with
  | joins room joining => exact ⟨running, joining, rfl⟩

end Connection

/-! ### While the document loads -/

/-- What was accepted before the load has ended is in the queue, which is the
beginning of what was admitted. -/
structure Traffic.Buffered (traffic : Traffic Room) : Prop where
  stranger : traffic.authenticated = false → traffic.joining = false ∧ traffic.room = none ∧
    traffic.queued = [] ∧ traffic.admitted = [] ∧ traffic.accepted = [] ∧ traffic.dispatched = []
  loading : traffic.joining = true → traffic.room = none ∧ traffic.dispatched = [] ∧
    traffic.queued.map decodeMessage = traffic.accepted.map some ∧
      traffic.accepted = traffic.admitted.take maxQueuedFrames

namespace Traffic

variable {services : Services Claims Room} {traffic traffic' : Traffic Room}
  {event : ConnectionEvent Room}

private theorem Buffered.length_queued (buffered : traffic.Buffered)
    (joining : traffic.joining = true) :
    traffic.queued.length = min maxQueuedFrames traffic.admitted.length := by
  obtain ⟨-, -, decoded, accepted⟩ := buffered.loading joining
  have lengths := congrArg List.length decoded
  rw [List.length_map, List.length_map] at lengths
  rw [lengths, accepted, List.length_take]

private theorem Buffered.step (buffered : traffic.Buffered)
    (stepped : traffic.Step services event traffic') : traffic'.Buffered := by
  have knows : traffic.authenticated = true → ∀ {claim : Prop},
      traffic.authenticated = false → claim := by
    intro known claim unknown
    exact absurd (known.symm.trans unknown) (by decide)
  cases stepped with
  | stays => exact buffered
  | authenticates frame now stranger =>
      obtain ⟨-, room, queued, admitted, accepted, dispatched⟩ := buffered.stranger stranger
      refine ⟨fun unknown => (Bool.noConfusion unknown), fun _ => ?_⟩
      dsimp only
      rw [queued, admitted, accepted]
      exact ⟨room, dispatched, rfl, rfl⟩
  | queues frame now message known decodes loading space =>
      refine ⟨knows known, fun joining => ?_⟩
      obtain ⟨-, dispatched, decoded, accepted⟩ := buffered.loading joining
      have filled := buffered.length_queued joining
      refine ⟨loading, dispatched, ?_, ?_⟩
      · dsimp only
        rw [List.map_append, List.map_append, decoded]
        exact congrArg (List.map some traffic.accepted ++ [·]) decodes
      · dsimp only
        rw [accepted, List.take_of_length_le (by omega), List.take_of_length_le]
        rw [List.length_append, List.length_singleton]
        omega
  | drops frame now message known decodes loading full =>
      refine ⟨knows known, fun joining => ?_⟩
      obtain ⟨-, dispatched, decoded, accepted⟩ := buffered.loading joining
      have filled := buffered.length_queued joining
      refine ⟨loading, dispatched, decoded, ?_⟩
      dsimp only
      rw [accepted, List.take_append_of_le_length (by omega)]
  | dispatches frame now message room known decodes joined =>
      refine ⟨knows known, fun joining => ?_⟩
      rw [(buffered.loading joining).1] at joined
      cases joined
  | givesUp => exact ⟨fun unknown => ⟨rfl, (buffered.stranger unknown).2⟩, fun joining =>
      Bool.noConfusion joining⟩
  | changes room joined =>
      refine ⟨fun unknown => ?_, fun joining => ?_⟩
      · rw [(buffered.stranger unknown).2.1] at joined
        cases joined
      · rw [(buffered.loading joining).1] at joined
        cases joined
  | closes => exact ⟨fun unknown => ⟨(buffered.stranger unknown).1, rfl,
      (buffered.stranger unknown).2.2⟩, fun joining => ⟨rfl, (buffered.loading joining).2⟩⟩

end Traffic

namespace Services

/-- A replay goes through exactly when each queued message can be applied, and
then nothing is skipped. -/
theorem replay_threw_iff (services : Services Claims Room) (room : Room)
    {queued : List (List UInt8)} {messages : List Message}
    (decoded : queued.map decodeMessage = messages.map some) :
    ((services.replay room queued).threw = false ↔ services.Applies room messages) ∧
      ((services.replay room queued).threw = false →
        (services.replay room queued).dispatched = messages) := by
  induction queued generalizing room messages with
  | nil =>
      cases messages with
      | nil => exact ⟨iff_of_true rfl trivial, fun _ => rfl⟩
      | cons message rest => cases decoded
  | cons frame later inductionHypothesis =>
      cases messages with
      | nil => cases decoded
      | cons message rest =>
          obtain ⟨first, others⟩ := List.cons.inj decoded
          unfold replay Applies
          rw [first]
          dsimp only
          cases applied : services.dispatch room message with
          | none =>
              exact ⟨iff_of_false (by simp) (by simp), fun threw => by cases threw⟩
          | some next =>
              obtain ⟨goes, all⟩ := inductionHypothesis next others
              refine ⟨⟨fun quiet => ⟨next, rfl, goes.mp quiet⟩, ?_⟩, fun quiet => ?_⟩
              · rintro ⟨_, same, applies⟩
                obtain rfl := Option.some.inj same
                exact goes.mpr applies
              · exact congrArg (message :: ·) (all quiet)

/-- Messages that can be applied whatever the room is can be applied in turn. -/
theorem applies_of_forall {services : Services Claims Room} {messages : List Message}
    (each : ∀ message ∈ messages, ∀ room, (services.dispatch room message).isSome) (room : Room) :
    services.Applies room messages := by
  induction messages generalizing room with
  | nil => trivial
  | cons message rest inductionHypothesis =>
      obtain ⟨next, applied⟩ := Option.isSome_iff_exists.mp
        (each message List.mem_cons_self room)
      exact ⟨next, applied, inductionHypothesis
        (fun later member => each later (List.mem_cons_of_mem _ member)) next⟩

end Services

namespace Connection

variable {limits : Limits} {services : Services Claims Room}
  {connection connection' : Connection Claims Room}

private theorem onJoined_traffic (services : Services Claims Room)
    (connection : Connection Claims Room) (room : Room) :
    (connection.onJoined services room).traffic =
      if connection.readyState = .isOpen then { connection.traffic with
        joining := false
        room := some (services.replay room connection.queued).room
        dispatched := connection.dispatched ++ (services.replay room connection.queued).dispatched
        queued := if (services.replay room connection.queued).threw then connection.queued else []
        escaped := (services.replay room connection.queued).threw }
      else { connection.traffic with joining := false } := by
  unfold onJoined
  split
  · next isOpen =>
      rw [if_pos isOpen]
      rfl
  · next notOpen =>
      rw [if_neg notOpen]
      rfl

theorem buffered_step {event : ConnectionEvent Room} (buffered : connection.traffic.Buffered)
    (stepped : connection.step limits services event = some connection') :
    connection'.traffic.Buffered := by
  by_cases joined : ∃ room, event = .joinResolved room
  · obtain ⟨room, rfl⟩ := joined
    obtain ⟨-, joining, rfl⟩ := step_joinResolved stepped
    have known : connection.traffic.authenticated = true := by
      by_contra stranger
      have not := (buffered.stranger (by simpa using stranger)).1
      exact absurd (joining.symm.trans not) (by decide)
    have loaded : ∀ traffic : Traffic Room, traffic.authenticated = true →
        traffic.joining = false → traffic.Buffered := fun traffic isKnown notJoining =>
      ⟨fun unknown => absurd (isKnown.symm.trans unknown) (by decide),
        fun joining => absurd (joining.symm.trans notJoining) (by decide)⟩
    rw [onJoined_traffic]
    split
    · exact loaded _ known rfl
    · exact loaded _ known rfl
  · exact buffered.step (step_traffic (fun room same => joined ⟨room, same⟩) stepped)

theorem buffered_start (limits : Limits) (now : ℤ) :
    (start limits now : Connection Claims Room).traffic.Buffered :=
  ⟨fun _ => ⟨rfl, rfl, rfl, rfl, rfl, rfl⟩, fun joining => Bool.noConfusion joining⟩

/-! ### A frame that throws -/

/-- Services of a room that keeps what it is handed, with a sync handler that
throws on the unknown sub-type 9. -/
def unknownSubType : Services Unit (List (List UInt8)) where
  verifyToken _ _ := some ()
  handleSync room payload := if payload.head? = some 9 then none else some (room ++ [payload])
  handleAwareness room _ := some room

end Connection

/-- What becomes of the frame of an event. -/
inductive Received where
  | nothing
  | refused
  | dropped (message : Message)
  | accepted (message : Message)
deriving DecidableEq

namespace Received

/-- The message of a frame that was let in. -/
def admitted? : Received → Option Message
  | .dropped message | .accepted message => some message
  | _ => none

def accepted? : Received → Option Message
  | .accepted message => some message
  | _ => none

end Received

namespace Connection

variable {limits : Limits} {services : Services Claims Room}
  {connection connection' : Connection Claims Room} {event : ConnectionEvent Room}

/-- The limits are asked only about what decodes, once the token was accepted. -/
def received (limits : Limits) (connection : Connection Claims Room) :
    ConnectionEvent Room → Received
  | .message frame now =>
      if limits.maxPayload < frame.length then .refused
      else
        match decodeMessage frame, connection.user with
        | some message, some _ =>
            if (connection.withinLimits limits message frame.length now).1 then
              if connection.room.isSome ∨ connection.queued.length < maxQueuedFrames then
                .accepted message
              else .dropped message
            else
              match message with
              | .awareness _ => .nothing
              | _ => .refused
        | _, _ => .nothing
  | _ => .nothing

/-- The history that an event leaves. -/
structure Notes (connection connection' : Connection Claims Room) (received : Received) : Prop where
  admitted : connection'.admitted = connection.admitted ++ received.admitted?.toList
  accepted : connection'.accepted = connection.accepted ++ received.accepted?.toList
  refused : connection'.refused = true ↔ connection.refused = true ∨ received = .refused

private theorem Notes.of_same (admitted : connection'.admitted = connection.admitted)
    (accepted : connection'.accepted = connection.accepted)
    (refused : connection'.refused = connection.refused) :
    connection.Notes connection' .nothing :=
  ⟨by simp [admitted, Received.admitted?], by simp [accepted, Received.accepted?],
    by simp [refused]⟩

private theorem notes_closing (connection : Connection Claims Room) :
    connection.Notes connection.closing .nothing := by
  unfold closing
  split
  · exact .of_same rfl rfl rfl
  · exact .of_same rfl rfl rfl

private theorem notes_refusing (connection : Connection Claims Room)
    (admitted : connection'.admitted = connection.admitted)
    (accepted : connection'.accepted = connection.accepted) (refused : connection'.refused = true) :
    connection.Notes connection' .refused :=
  ⟨by simp [admitted, Received.admitted?], by simp [accepted, Received.accepted?],
    by simp [refused]⟩

private theorem Notes.trans {middle : Connection Claims Room} {received : Received}
    (front : connection.Notes middle .nothing) (back : middle.Notes connection' received) :
    connection.Notes connection' received := by
  constructor
  case admitted =>
    rw [back.admitted, front.admitted]
    exact congrArg (· ++ _) (List.append_nil _)
  case accepted =>
    rw [back.accepted, front.accepted]
    exact congrArg (· ++ _) (List.append_nil _)
  case refused =>
    rw [back.refused, front.refused]
    simp

private theorem notes_close (connection : Connection Claims Room) (code : CloseCode) :
    connection.Notes (connection.close code) .nothing :=
  ⟨(notes_closing connection).admitted, (notes_closing connection).accepted,
    (notes_closing connection).refused⟩

private theorem notes_withinLimits (limits : Limits) (connection : Connection Claims Room)
    (message : Message) (size : ℕ) (now : ℤ) :
    connection.Notes (connection.withinLimits limits message size now).2
      (if (connection.withinLimits limits message size now).1 then .nothing
        else match message with
          | .awareness _ => .nothing
          | _ => .refused) := by
  have document : ∀ taken : Bool × TokenBucket,
      let charged := { connection with documentBudget := taken.2 }
      let checked : Bool × Connection Claims Room := if taken.1 then (true, charged)
        else (false, { charged.close .rateLimited with refused := true })
      connection.Notes checked.2 (if checked.1 then .nothing else .refused) := by
    intro taken
    have closes := notes_close { connection with documentBudget := taken.2 } .rateLimited
    have keeps : connection.Notes { connection with documentBudget := taken.2 } .nothing :=
      .of_same rfl rfl rfl
    have both := keeps.trans closes
    dsimp only
    split
    · exact keeps
    · refine notes_refusing connection ?_ ?_ rfl
      · simpa [Received.admitted?] using both.admitted
      · simpa [Received.accepted?] using both.accepted
  cases message with
  | awareness payload =>
      dsimp only
      split
      · exact .of_same rfl rfl rfl
      · exact .of_same rfl rfl rfl
  | sync payload => exact document _
  | ping => exact document _
  | pong => exact document _
  | auth token => exact document _

private theorem notes_handle (services : Services Claims Room) (connection : Connection Claims Room)
    (frame : List UInt8) (message : Message) :
    connection.Notes (connection.handle services frame message)
      (if connection.room.isSome ∨ connection.queued.length < maxQueuedFrames then
        .accepted message else .dropped message) := by
  unfold handle
  dsimp only
  cases connection.room with
  | none =>
      dsimp only
      by_cases space : connection.queued.length < maxQueuedFrames
      · rw [if_pos space, if_pos (Or.inr space)]
        exact ⟨rfl, rfl, by simp⟩
      · rw [if_neg space, if_neg (by simpa using space)]
        exact ⟨rfl, by simp [Received.accepted?], by simp⟩
  | some room =>
      dsimp only
      rw [if_pos (Or.inl Option.isSome_some)]
      exact ⟨rfl, rfl, by simp⟩

private theorem notes_onMessage (services : Services Claims Room)
    (connection : Connection Claims Room)
    {frame : List UInt8} (now : ℤ) (small : ¬ limits.maxPayload < frame.length) :
    connection.Notes (connection.onMessage limits services frame now)
      (connection.received limits (.message frame now)) := by
  unfold onMessage received
  dsimp only
  rw [if_neg small]
  cases decodes : decodeMessage frame with
  | none => exact .of_same rfl rfl rfl
  | some message =>
      cases connection.user with
      | none =>
          dsimp only
          split
          · unfold authenticate
            split
            · exact notes_close connection .unauthorized
            · exact .of_same rfl rfl rfl
          · exact notes_close connection .unauthorized
      | some claims =>
          have checked := notes_withinLimits limits connection message frame.length now
          have same := connection.withinLimits_traffic limits message frame.length now
          have room := congrArg Traffic.room same
          have queued := congrArg Traffic.queued same
          simp only [traffic] at room queued
          dsimp only
          split
          · next granted =>
              rw [if_pos granted] at checked
              have handled := notes_handle services
                (connection.withinLimits limits message frame.length now).2 frame message
              rw [room, queued] at handled
              exact checked.trans handled
          · next refused =>
              rw [if_neg refused] at checked
              exact checked

private theorem notes_step (stepped : connection.step limits services event = some connection') :
    connection.Notes connection' (connection.received limits event) := by
  cases (fires_of_step stepped).2 with
  | oversized frame now large =>
      have closes := notes_closing connection
      have refused : connection.received limits (.message frame now) = .refused := if_pos large
      rw [refused]
      refine notes_refusing connection ?_ ?_ rfl
      · simpa [Received.admitted?] using closes.admitted
      · simpa [Received.accepted?] using closes.accepted
  | receives frame now small => exact notes_onMessage services connection now small
  | joins room joining =>
      unfold onJoined
      split
      · exact .of_same rfl rfl rfl
      · exact .of_same rfl rfl rfl
  | givesUp joining =>
      have closes := notes_close { connection with joining := false } .documentUnavailable
      exact ⟨closes.admitted, closes.accepted, closes.refused⟩
  | expires armed =>
      have closes := notes_close { connection with authTimer := false } .unauthorized
      exact ⟨closes.admitted, closes.accepted, closes.refused⟩
  | changes room joined => exact .of_same rfl rfl rfl
  | closes isOpen => exact notes_closing connection
  | closed notClosed => exact .of_same rfl rfl rfl

/-- `admitted`, `accepted` and `refused` are what became of the frames of a run. -/
theorem history_of_run {events : List (ConnectionEvent Room)}
    (ran : run (step limits services) connection events = some connection') :
    let frames := translated (step limits services) (received limits) connection events
    connection'.admitted = connection.admitted ++ frames.filterMap Received.admitted? ∧
      connection'.accepted = connection.accepted ++ frames.filterMap Received.accepted? ∧
      (connection'.refused = true ↔ connection.refused = true ∨ .refused ∈ frames) := by
  induction events generalizing connection with
  | nil =>
      cases ran
      simp [translated]
  | cons event rest inductionHypothesis =>
      rw [run_cons] at ran
      obtain ⟨middle, stepped, later⟩ := Option.bind_eq_some_iff.mp ran
      obtain ⟨admitted, accepted, refused⟩ := notes_step stepped
      obtain ⟨goesOn, keeps, ends⟩ := inductionHypothesis later
      have frames : translated (step limits services) (received limits) connection
          (event :: rest) = connection.received limits event ::
            translated (step limits services) (received limits) middle rest := by
        rw [translated, stepped]
        rfl
      dsimp only
      rw [frames]
      refine ⟨?_, ?_, ?_⟩
      · rw [goesOn, admitted, List.append_assoc, List.filterMap_cons]
        cases (connection.received limits event).admitted? <;> rfl
      · rw [keeps, accepted, List.append_assoc, List.filterMap_cons]
        cases (connection.received limits event).accepted? <;> rfl
      · rw [ends, refused, List.mem_cons, or_assoc, @eq_comm _ Received.refused]

/-! ### What the queue drops -/

end Connection

/-- A sync frame. -/
def IsSync : Message → Bool
  | .sync _ => true
  | _ => false

/-- A frame that decodes and that no room throws on. -/
def ConnectionEvent.WellFormed (services : Services Claims Room) : ConnectionEvent Room → Prop
  | .message frame _ => ∃ message, decodeMessage frame = some message ∧
      ∀ room, (services.dispatch room message).isSome
  | _ => True

namespace Connection

variable {limits : Limits} {services : Services Claims Room}
  {connection connection' : Connection Claims Room} {event : ConnectionEvent Room}

/-- The sync frames that were let in are dispatched once each, in order, when
the document is loaded, and one that was not let in has closed the socket. -/
def DeliversSync (connection : Connection Claims Room) : Prop :=
  (connection.refused = true → connection.readyState ≠ .isOpen) ∧
    (connection.room.isSome →
      connection.dispatched.filter IsSync = connection.admitted.filter IsSync)

/-- When the load ends while the socket is open, no sync frame has come after
the first frames the queue has space for. -/
def QueueSuffices (connection : Connection Claims Room) : ConnectionEvent Room → Prop
  | .joinResolved _ => connection.readyState = .isOpen →
      ∀ message ∈ connection.admitted.drop maxQueuedFrames, IsSync message = false
  | _ => True

theorem readyState_closing (connection : Connection Claims Room) :
    connection.closing.readyState ≠ .isOpen := by
  unfold closing
  split
  · exact fun same => by cases same
  · next notOpen => exact notOpen

/-- A socket that is closing never opens again, and refusing a frame, which is
not forgotten, makes it close. -/
structure Refuses (connection connection' : Connection Claims Room) : Prop where
  closing : connection.readyState ≠ .isOpen → connection'.readyState ≠ .isOpen
  kept : connection.refused = true → connection'.refused = true
  closes : connection'.refused = true → connection.refused = true ∨
    connection'.readyState ≠ .isOpen

private theorem Refuses.of_closing (closing : connection'.readyState ≠ .isOpen)
    (kept : connection.refused = true → connection'.refused = true) :
    connection.Refuses connection' :=
  ⟨fun _ => closing, kept, fun _ => Or.inr closing⟩

private theorem Refuses.of_same (readyState : connection'.readyState = connection.readyState)
    (refused : connection'.refused = connection.refused) : connection.Refuses connection' :=
  ⟨fun notOpen => readyState ▸ notOpen, fun isRefused => refused.trans isRefused,
    fun isRefused => Or.inl (refused ▸ isRefused)⟩

private theorem closing_refuses (connection : Connection Claims Room) :
    connection.Refuses connection.closing := by
  refine .of_closing connection.readyState_closing fun refused => ?_
  unfold closing
  split <;> exact refused

private theorem close_refuses (connection : Connection Claims Room) (code : CloseCode) :
    connection.Refuses (connection.close code) :=
  ⟨(closing_refuses connection).closing, (closing_refuses connection).kept,
    (closing_refuses connection).closes⟩

private theorem withinLimits_refuses (limits : Limits) (connection : Connection Claims Room)
    (message : Message) (size : ℕ) (now : ℤ) :
    connection.Refuses (connection.withinLimits limits message size now).2 := by
  unfold withinLimits
  split
  · exact .of_same rfl rfl
  · dsimp only
    split
    · exact .of_same rfl rfl
    · exact .of_closing (readyState_closing _) fun _ => rfl

private theorem handle_refuses (services : Services Claims Room)
    (connection : Connection Claims Room) (frame : List UInt8) (message : Message) :
    (connection.handle services frame message).readyState = connection.readyState ∧
      (connection.handle services frame message).refused = connection.refused := by
  unfold handle
  dsimp only
  split
  · split <;> exact ⟨rfl, rfl⟩
  · exact ⟨rfl, rfl⟩

private theorem onMessage_refuses (limits : Limits) (services : Services Claims Room)
    (connection : Connection Claims Room) (frame : List UInt8) (now : ℤ) :
    connection.Refuses (connection.onMessage limits services frame now) := by
  unfold onMessage
  split
  · exact .of_same rfl rfl
  · next message decodes =>
      split
      · split
        · unfold authenticate
          split
          · exact connection.close_refuses .unauthorized
          · exact .of_same rfl rfl
        · exact connection.close_refuses .unauthorized
      · have checked := connection.withinLimits_refuses limits message frame.length now
        dsimp only
        split
        · obtain ⟨readyState, refused⟩ := handle_refuses services
            (connection.withinLimits limits message frame.length now).2 frame message
          refine ⟨?_, ?_, ?_⟩
          · rw [readyState]
            exact checked.closing
          · rw [refused]
            exact checked.kept
          · rw [readyState, refused]
            exact checked.closes
        · exact checked

theorem step_refuses (stepped : connection.step limits services event = some connection') :
    connection.Refuses connection' := by
  cases (fires_of_step stepped).2 with
  | oversized frame now large => exact .of_closing connection.readyState_closing fun _ => rfl
  | receives frame now small => exact connection.onMessage_refuses limits services frame now
  | joins room joining =>
      unfold onJoined
      split
      · exact .of_same rfl rfl
      · exact .of_same rfl rfl
  | givesUp joining =>
      have closes := close_refuses { connection with joining := false } .documentUnavailable
      exact ⟨closes.closing, closes.kept, closes.closes⟩
  | expires armed =>
      have closes := close_refuses { connection with authTimer := false } .unauthorized
      exact ⟨closes.closing, closes.kept, closes.closes⟩
  | changes room joined => exact .of_same rfl rfl
  | closes isOpen => exact connection.closing_refuses
  | closed notClosed =>
      refine .of_closing ?_ fun refused => refused
      rintro ⟨⟩

/-- Only the end of the load can leave a sync frame out. -/
theorem delivers_of_traffic
    (delivers : connection.room.isSome →
      connection.dispatched.filter IsSync = connection.admitted.filter IsSync)
    (stepped : connection.traffic.Step services event connection'.traffic) :
    connection'.room.isSome →
      connection'.dispatched.filter IsSync = connection'.admitted.filter IsSync := by
  have kept : ∀ traffic' : Traffic Room, connection.traffic.Step services event traffic' →
      traffic'.room.isSome →
        traffic'.dispatched.filter IsSync = traffic'.admitted.filter IsSync := by
    intro traffic' stepped joined'
    cases stepped with
    | stays => exact delivers joined'
    | authenticates frame now stranger => exact delivers joined'
    | queues frame now message known decodes loading space =>
        dsimp only at joined'
        rw [loading] at joined'
        cases joined'
    | drops frame now message known decodes loading full =>
        dsimp only at joined'
        rw [loading] at joined'
        cases joined'
    | dispatches frame now message room known decodes joined =>
        have isSome : connection.room.isSome := by
          rw [show connection.room = some room from joined, Option.isSome_some]
        dsimp only
        rw [List.filter_append, List.filter_append]
        exact congrArg (· ++ _) (delivers isSome)
    | givesUp => exact delivers joined'
    | changes room joined => exact delivers joined
    | closes => cases joined'
  exact kept _ stepped

/-- The messages let in are ones that no room throws on. -/
def AdmitsApplicable (services : Services Claims Room) (connection : Connection Claims Room) :
    Prop :=
  ∀ message ∈ connection.admitted, ∀ room, (services.dispatch room message).isSome

private theorem admitted_step (wellFormed : event.WellFormed services)
    (applicable : connection.AdmitsApplicable services)
    (stepped : connection.step limits services event = some connection') :
    connection'.AdmitsApplicable services := by
  by_cases joined : ∃ room, event = .joinResolved room
  · obtain ⟨room, rfl⟩ := joined
    obtain ⟨-, -, rfl⟩ := step_joinResolved stepped
    unfold onJoined AdmitsApplicable
    split <;> exact applicable
  · have moves := step_traffic (fun room same => joined ⟨room, same⟩) stepped
    have appended : ∀ {frame : List UInt8} {now : ℤ} {message : Message},
        event = .message frame now → decodeMessage frame = some message →
        ∀ other ∈ connection.admitted ++ [message], ∀ room,
          (services.dispatch room other).isSome := by
      rintro frame now message rfl decodes other member
      obtain ⟨decoded, decodes', applies⟩ := wellFormed
      obtain rfl := Option.some.inj (decodes.symm.trans decodes')
      rcases List.mem_append.mp member with before | new
      · exact applicable other before
      · rw [List.mem_singleton.mp new]
        exact applies
    have kept : ∀ traffic' : Traffic Room, connection.traffic.Step services event traffic' →
        ∀ message ∈ traffic'.admitted, ∀ room, (services.dispatch room message).isSome := by
      intro traffic' moves
      cases moves with
      | queues frame now message known decodes loading space => exact appended rfl decodes
      | drops frame now message known decodes loading full => exact appended rfl decodes
      | dispatches frame now message room known decodes joined => exact appended rfl decodes
      | _ => exact applicable
    exact kept _ moves

theorem onJoined_isOpen (services : Services Claims Room) (connection : Connection Claims Room)
    (room : Room) (isOpen : connection.readyState = .isOpen) :
    connection.onJoined services room = { connection with
      joining := false
      room := some (services.replay room connection.queued).room
      dispatched := connection.dispatched ++ (services.replay room connection.queued).dispatched
      queued := if (services.replay room connection.queued).threw then connection.queued else []
      escaped := (services.replay room connection.queued).threw } := by
  unfold onJoined
  rw [isOpen]

private theorem onJoined_of_not_isOpen (services : Services Claims Room)
    (connection : Connection Claims Room) (room : Room)
    (notOpen : connection.readyState ≠ .isOpen) :
    connection.onJoined services room = { connection with joining := false } := by
  unfold onJoined
  split
  · next isOpen => exact absurd isOpen notOpen
  · rfl

/-- Cutting a list off drops no member that passes a test exactly when no
member behind the cut does. -/
theorem filter_take_eq_iff {α : Type*} (members : List α) (count : ℕ) (test : α → Bool) :
    (members.take count).filter test = members.filter test ↔
      ∀ member ∈ members.drop count, test member = false := by
  have split := List.filter_append (p := test) (members.take count) (members.drop count)
  rw [List.take_append_drop] at split
  rw [split, List.self_eq_append_right, List.filter_eq_nil_iff]
  simp

/-- A connection delivers the sync frames among well-formed frames along a run
exactly when the queue has had space for all of them whenever a load ends. -/
theorem deliversSync_along_iff (limits : Limits) (services : Services Claims Room) (now : ℤ)
    (events : List (ConnectionEvent Room))
    (wellFormed : ∀ event ∈ events, event.WellFormed services) :
    Along (step limits services) DeliversSync (start limits now : Connection Claims Room) events ↔
      Meets (step limits services) QueueSuffices
        (start limits now : Connection Claims Room) events := by
  refine along_iff_meets_of_labels (·.WellFormed services) DeliversSync
    (fun connection => connection.traffic.Buffered ∧ connection.AdmitsApplicable services)
    (fun _ _ _ wellFormed invariant stepped => ⟨buffered_step invariant.1 stepped,
      admitted_step wellFormed invariant.2 stepped⟩) ?_
    ⟨buffered_start limits now, fun _ member => (List.not_mem_nil member).elim⟩
    ⟨fun refused => (Bool.noConfusion refused), fun joined => by cases joined⟩ events wellFormed
  intro connection event connection' _ invariant delivers stepped
  have refuses := step_refuses stepped
  have closes : connection'.refused = true → connection'.readyState ≠ .isOpen := by
    intro refused
    rcases refuses.closes refused with before | now
    · exact refuses.closing (delivers.1 before)
    · exact now
  by_cases joined : ∃ room, event = .joinResolved room
  · obtain ⟨room, rfl⟩ := joined
    obtain ⟨-, joining, rfl⟩ := step_joinResolved stepped
    obtain ⟨noRoom, dispatched, decoded, accepted⟩ := invariant.1.loading joining
    by_cases isOpen : connection.readyState = .isOpen
    · have joinedState := connection.onJoined_isOpen services room isOpen
      have applies : services.Applies room connection.accepted := by
        refine Services.applies_of_forall (fun message member => ?_) room
        have first : message ∈ connection.admitted.take maxQueuedFrames := accepted ▸ member
        exact invariant.2 message (List.mem_of_mem_take first)
      obtain ⟨goes, all⟩ := services.replay_threw_iff room decoded
      have replayed := all (goes.mpr applies)
      have whole : (connection.onJoined services room).dispatched = connection.accepted := by
        rw [joinedState]
        show connection.dispatched ++ (services.replay room connection.queued).dispatched = _
        rw [show connection.dispatched = [] from dispatched]
        exact replayed
      have sameAdmitted : (connection.onJoined services room).admitted = connection.admitted := by
        rw [joinedState]
      have isJoined : (connection.onJoined services room).room.isSome := by
        rw [joinedState]
        rfl
      have syncs := filter_take_eq_iff connection.admitted maxQueuedFrames IsSync
      rw [show connection.admitted.take maxQueuedFrames = connection.accepted from accepted.symm]
        at syncs
      unfold DeliversSync QueueSuffices
      rw [whole, sameAdmitted]
      exact ⟨fun both _ => syncs.mp (both.2 isJoined),
        fun enough => ⟨closes, fun _ => syncs.mpr (enough isOpen)⟩⟩
    · have joinedState := connection.onJoined_of_not_isOpen services room isOpen
      refine iff_of_true ⟨closes, fun isJoined => ?_⟩ fun isOpen' => absurd isOpen' isOpen
      rw [joinedState, show connection.room = none from noRoom] at isJoined
      cases isJoined
  · have enough : QueueSuffices connection event := by
      unfold QueueSuffices
      split
      · exact absurd ⟨_, rfl⟩ joined
      · trivial
    exact iff_of_true ⟨closes, delivers_of_traffic delivers.2
      (step_traffic (fun room same => joined ⟨room, same⟩) stepped)⟩ enough

/-- A visitor's step 1 reaches the server behind 32 pings, all while the document
loads. -/
theorem pings_displace_sync : ∃ connection : Connection Unit (List (List UInt8)),
    Reached (step .default unknownSubType) (· = start .default 0) connection ∧
      connection.readyState = .isOpen ∧ connection.room.isSome ∧
        .sync [0] ∈ connection.admitted ∧ .sync [0] ∉ connection.dispatched :=
  exists_reachedWhen_of_runWhen (step .default unknownSubType) (fun _ _ => True)
    (· = start .default 0) (start .default 0)
    ([.message (encodeMessage (.auth [])) 0] ++
      List.replicate 32 (.message (encodeMessage .ping) 1) ++
        [.message (encodeMessage (.sync [0])) 2, .joinResolved []])
    (fun connection => connection.readyState = .isOpen ∧ connection.room.isSome ∧
      .sync [0] ∈ connection.admitted ∧ .sync [0] ∉ connection.dispatched) rfl (by decide +kernel)

/-- A visitor who sends a step 1 while the document loads and a ping after it. -/
theorem deliversSync_along_iff_visit :
    Along (step .default unknownSubType) DeliversSync (start .default 0)
      [.message (encodeMessage (.auth [])) 0, .message (encodeMessage (.sync [0])) 1,
        .joinResolved [], .message (encodeMessage .ping) 2] ↔
    Meets (step .default unknownSubType) QueueSuffices (start .default 0)
      [.message (encodeMessage (.auth [])) 0, .message (encodeMessage (.sync [0])) 1,
        .joinResolved [], .message (encodeMessage .ping) 2] := by
  refine deliversSync_along_iff .default unknownSubType 0 _ fun event member => ?_
  simp only [List.mem_cons, List.not_mem_nil, or_false] at member
  rcases member with rfl | rfl | rfl | rfl
  · exact ⟨.auth [], by decide, fun _ => rfl⟩
  · exact ⟨.sync [0], by decide, fun _ => rfl⟩
  · trivial
  · exact ⟨.ping, by decide, fun _ => rfl⟩

end Connection

end CollabEditor.Ws
