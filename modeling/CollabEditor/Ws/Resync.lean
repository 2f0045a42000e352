import CollabEditor.Ws.Inbound

/-!
Owns whether a reconnect can bring a client up to date: which opening handshakes
of a `CollabProvider` get past the payload cap of the gateway and the document
budget of the `Connection`. The budget is the rational one of `Ws.RateLimit`: a
refill that is exact there is rounded in the code.
-/

namespace CollabEditor.Ws

open CollabEditor.Library CollabEditor.Protocol

universe u v

variable {Claims : Type u} {Room : Type v}

/-- A message of the provider and when it reaches the server. -/
structure Arrival where
  message : Message
  now : ℤ

namespace Arrival

/-- `send` of the provider. -/
def frame (arrival : Arrival) : List UInt8 := encodeMessage arrival.message

def event (arrival : Arrival) : ConnectionEvent Room := .message arrival.frame arrival.now

/-- What the document budget is charged for a message: nothing for presence. -/
def charge (limits : Limits) (arrival : Arrival) : Option Charge :=
  match arrival.message with
  | .awareness _ => none
  | _ => some ⟨arrival.now, Connection.cost limits arrival.frame.length⟩

end Arrival

/-- What a provider sends over a new socket, up to the step 2 that answers the
room's step 1: `early` is what reaches the server while the document loads. -/
structure Opening where
  token : JsString
  created : ℤ
  authenticated : ℤ
  early : List Arrival
  late : List Arrival
  step2 : List UInt8
  answered : ℤ
  transmissible : Transmissible token
  once : ∀ arrival ∈ early ++ late, ∀ token, arrival.message ≠ .auth token

namespace Opening

def auth (opening : Opening) : Arrival := ⟨.auth opening.token, opening.authenticated⟩

def reply (opening : Opening) : Arrival := ⟨.sync opening.step2, opening.answered⟩

/-- What the connection sees. -/
def events (opening : Opening) (room : Room) : List (ConnectionEvent Room) :=
  opening.auth.event :: (opening.early.map Arrival.event ++
    .joinResolved room :: (opening.late ++ [opening.reply]).map Arrival.event)

/-- The handshake is applied: no inbound limit has closed the socket, and the
room was handed the step 2. -/
def Applied (opening : Opening) (limits : Limits) (services : Services Claims Room)
    (room : Room) : Prop :=
  ∃ connection, run (Connection.step limits services)
      (Connection.start limits opening.created) (opening.events room) = some connection ∧
    connection.refused = false ∧
      connection.dispatched.getLast? = some (.sync opening.step2)

/-- Every frame is within the payload cap. -/
def Small (opening : Opening) (limits : Limits) : Prop :=
  ∀ arrival ∈ opening.auth :: opening.early ++ opening.late ++ [opening.reply],
    arrival.frame.length ≤ limits.maxPayload

/-- What the document budget is charged. -/
def charges (opening : Opening) (limits : Limits) : List Charge :=
  (opening.early ++ opening.late ++ [opening.reply]).filterMap (Arrival.charge limits)

/-- The document traffic keeps within the burst and the sustained rate, read over
exact rationals. -/
def Paced (opening : Opening) (limits : Limits) : Prop :=
  Conforms (limits.bytesPerSecond * 2) limits.bytesPerSecond
    (⟨opening.created, 0⟩ :: opening.charges limits)

end Opening

/-! ### One frame -/

namespace Connection

/-- A connection that has authenticated and nothing has gone wrong with. -/
structure Ready (connection : Connection Claims Room) : Prop where
  isOpen : connection.readyState = .isOpen
  hears : connection.deaf = false
  runs : connection.escaped = false
  known : connection.user.isSome
  admits : connection.refused = false

variable {limits : Limits} {services : Services Claims Room}
  {connection connection' : Connection Claims Room}

/-- Within its limits a connection stays ready over a frame, and a message for
the document is dispatched once the document is loaded. -/
structure Passes (limits : Limits) (connection connection' : Connection Claims Room)
    (arrival : Arrival) : Prop where
  ready : connection'.Ready
  budget : connection'.documentBudget =
    connection.documentBudget.spend (arrival.charge limits).toList
  joining : connection'.joining = connection.joining
  room : connection'.room.isSome = connection.room.isSome
  accepted : ∀ message ∈ connection'.accepted,
    message ∈ connection.accepted ∨ message = arrival.message
  dispatched : connection.room.isSome → arrival.charge limits ≠ none →
    connection'.dispatched = connection.dispatched ++ [arrival.message]

private theorem handle_passes (services : Services Claims Room) {arrival : Arrival}
    (ready : connection.Ready) :
    let handled := connection.handle services arrival.frame arrival.message
    handled.Ready ∧ handled.documentBudget = connection.documentBudget ∧
      handled.joining = connection.joining ∧ handled.room.isSome = connection.room.isSome ∧
      (∀ message ∈ handled.accepted,
        message ∈ connection.accepted ∨ message = arrival.message) ∧
      (connection.room.isSome →
        handled.dispatched = connection.dispatched ++ [arrival.message]) := by
  have appended : ∀ message ∈ connection.accepted ++ [arrival.message],
      message ∈ connection.accepted ∨ message = arrival.message := fun message member =>
    (List.mem_append.mp member).imp_right List.mem_singleton.mp
  have kept : ∀ changed : Connection Claims Room, changed.readyState = connection.readyState →
      changed.deaf = connection.deaf → changed.escaped = connection.escaped →
      changed.user = connection.user → changed.refused = connection.refused → changed.Ready :=
    fun changed readyState deaf escaped user refused =>
      ⟨readyState ▸ ready.isOpen, deaf ▸ ready.hears, escaped ▸ ready.runs, user ▸ ready.known,
        refused ▸ ready.admits⟩
  unfold handle
  dsimp only
  split
  · next loading =>
      have noRoom : connection.room.isSome → ∀ {claim : Prop}, claim := by
        intro joined
        rw [loading] at joined
        cases joined
      split
      · exact ⟨kept _ rfl rfl rfl rfl rfl, rfl, rfl, rfl, appended, fun joined => noRoom joined⟩
      · exact ⟨kept _ rfl rfl rfl rfl rfl, rfl, rfl, rfl, fun message => Or.inl,
          fun joined => noRoom joined⟩
  · next room joined =>
      refine ⟨kept _ rfl rfl rfl rfl rfl, rfl, rfl, ?_, appended, fun _ => rfl⟩
      dsimp only
      rw [joined]
      rfl

/-- Presence is charged to its own budget, everything else to the document's. -/
theorem withinLimits_arrival (limits : Limits) (connection : Connection Claims Room)
    (arrival : Arrival) (size : ℕ) (isSize : size = arrival.frame.length) :
    (arrival.charge limits = none ∧ ∃ granted presenceBudget,
      connection.withinLimits limits arrival.message size arrival.now =
        (granted, { connection with presenceBudget := presenceBudget })) ∨
    ∃ charge, arrival.charge limits = some charge ∧
      connection.withinLimits limits arrival.message size arrival.now =
        let taken := connection.documentBudget.take charge.now charge.cost
        let charged := { connection with documentBudget := taken.2 }
        if taken.1 then (true, charged)
        else (false, { charged.close .rateLimited with refused := true }) := by
  subst isSize
  obtain ⟨message, now⟩ := arrival
  cases message with
  | awareness payload => exact Or.inl ⟨rfl, _, _, rfl⟩
  | _ => exact Or.inr ⟨_, rfl, rfl⟩

/-- One frame of the provider: it passes if it is small enough and the document
budget grants what it is charged; otherwise the limits close the socket. -/
theorem step_arrival (limits : Limits) (services : Services Claims Room) (ready : connection.Ready)
    {arrival : Arrival} (notAuth : ∀ token, arrival.message ≠ .auth token) :
    ∃ connection', connection.step limits services arrival.event = some connection' ∧
      (arrival.frame.length ≤ limits.maxPayload ∧
        connection.documentBudget.GrantsAll (arrival.charge limits).toList →
          connection.Passes limits connection' arrival) ∧
      (connection'.refused = false → arrival.frame.length ≤ limits.maxPayload ∧
        connection.documentBudget.GrantsAll (arrival.charge limits).toList) := by
  have decodes : decodeMessage arrival.frame = some arrival.message :=
    decodeMessage_encodeMessage fun token same => absurd same (notAuth token)
  obtain ⟨claims, known⟩ := Option.isSome_iff_exists.mp ready.known
  have handles : connection.step limits services arrival.event =
      if limits.maxPayload < arrival.frame.length then
        some { connection.closing with deaf := true, refused := true }
      else some (connection.onMessage limits services arrival.frame arrival.now) := by
    unfold step Arrival.event
    rw [if_neg (by simp [ready.runs])]
    dsimp only
    rw [if_neg (by simp [ready.isOpen, ready.hears])]
  rw [handles]
  split
  · next large =>
      exact ⟨_, rfl, fun fits => absurd fits.1 (not_le.mpr large), fun admits =>
        Bool.noConfusion admits⟩
  · next fits =>
      refine ⟨_, rfl, ?_⟩
      have small := not_lt.mp fits
      have checks : connection.onMessage limits services arrival.frame arrival.now =
          let checked := connection.withinLimits limits arrival.message arrival.frame.length
            arrival.now
          if checked.1 then checked.2.handle services arrival.frame arrival.message
          else checked.2 := by
        unfold onMessage
        rw [decodes]
        dsimp only
        rw [known]
      rw [checks]
      rcases connection.withinLimits_arrival limits arrival _ rfl with
        ⟨presence, granted, presenceBudget, within⟩ | ⟨charge, charged, within⟩
      · rw [within, presence]
        refine ⟨fun _ => ?_, fun _ => ⟨small, trivial⟩⟩
        have still : Ready { connection with presenceBudget := presenceBudget } :=
          ⟨ready.isOpen, ready.hears, ready.runs, ready.known, ready.admits⟩
        have free : ∀ {claim : Prop}, arrival.charge limits ≠ none → claim :=
          fun charged => absurd presence charged
        dsimp only
        split
        · obtain ⟨isReady, budget, joining, room, accepted, -⟩ := handle_passes services still
          exact ⟨isReady, by rw [budget, presence]; rfl, joining, room, accepted,
            fun _ charged => free charged⟩
        · exact ⟨still, by rw [presence]; rfl, rfl, rfl, fun message => Or.inl,
            fun _ charged => free charged⟩
      · rw [within, charged]
        dsimp only
        by_cases granted : (connection.documentBudget.take charge.now charge.cost).1 = true
        · rw [if_pos granted]
          refine ⟨fun _ => ?_, fun _ => ⟨small, granted, trivial⟩⟩
          have still : Ready { connection with
              documentBudget := (connection.documentBudget.take charge.now charge.cost).2 } :=
            ⟨ready.isOpen, ready.hears, ready.runs, ready.known, ready.admits⟩
          obtain ⟨isReady, budget, joining, room, accepted, dispatched⟩ :=
            handle_passes services still
          exact ⟨isReady, by rw [if_pos rfl, budget, charged]; rfl, joining, room, accepted,
            fun joined _ => dispatched joined⟩
        · rw [if_neg granted]
          exact ⟨fun both => absurd both.2.1 granted, fun admits => Bool.noConfusion admits⟩

/-! ### Several frames -/

private theorem refused_run {events : List (ConnectionEvent Room)}
    (ran : run (step limits services) connection events = some connection')
    (refused : connection.refused = true) : connection'.refused = true := by
  induction events generalizing connection with
  | nil =>
      obtain rfl := Option.some.inj ran
      exact refused
  | cons event rest inductionHypothesis =>
      rw [run_cons] at ran
      obtain ⟨middle, stepped, later⟩ := Option.bind_eq_some_iff.mp ran
      exact inductionHypothesis later ((step_refuses stepped).kept refused)

/-- Nothing was refused on the way to a state that has refused nothing. -/
theorem admits_of_run {events : List (ConnectionEvent Room)}
    (ran : run (step limits services) connection events = some connection')
    (admits : connection'.refused = false) : connection.refused = false := by
  cases refused : connection.refused with
  | false => rfl
  | true => exact absurd ((refused_run ran refused).symm.trans admits) (by decide)

/-- Frames that stay within the limits. -/
def Fits (limits : Limits) (bucket : TokenBucket) (arrivals : List Arrival) : Prop :=
  (∀ arrival ∈ arrivals, arrival.frame.length ≤ limits.maxPayload) ∧
    bucket.GrantsAll (arrivals.filterMap (Arrival.charge limits))

private theorem fits_cons {bucket : TokenBucket} {arrival : Arrival} {rest : List Arrival} :
    Fits limits bucket (arrival :: rest) ↔
      (arrival.frame.length ≤ limits.maxPayload ∧
        bucket.GrantsAll (arrival.charge limits).toList) ∧
      Fits limits (bucket.spend (arrival.charge limits).toList) rest := by
  have split : (arrival :: rest).filterMap (Arrival.charge limits) =
      (arrival.charge limits).toList ++ rest.filterMap (Arrival.charge limits) := by
    cases charged : arrival.charge limits with
    | none => rw [List.filterMap_cons_none charged]; rfl
    | some charge => rw [List.filterMap_cons_some charged]; rfl
  unfold Fits
  rw [split, TokenBucket.grantsAll_append, List.forall_mem_cons]
  tauto

private theorem fits_append {bucket : TokenBucket} {front back : List Arrival} :
    Fits limits bucket (front ++ back) ↔ Fits limits bucket front ∧
      Fits limits (bucket.spend (front.filterMap (Arrival.charge limits))) back := by
  unfold Fits
  rw [List.filterMap_append, TokenBucket.grantsAll_append, List.forall_mem_append]
  tauto

/-- What frames within the limits leave. -/
structure Follows (limits : Limits) (connection connection' : Connection Claims Room)
    (arrivals : List Arrival) : Prop where
  ready : connection'.Ready
  budget : connection'.documentBudget =
    connection.documentBudget.spend (arrivals.filterMap (Arrival.charge limits))
  joining : connection'.joining = connection.joining
  room : connection'.room.isSome = connection.room.isSome
  accepted : ∀ message ∈ connection'.accepted,
    message ∈ connection.accepted ∨ ∃ arrival ∈ arrivals, message = arrival.message

private theorem run_arrivals (limits : Limits) (services : Services Claims Room)
    (ready : connection.Ready) {arrivals : List Arrival}
    (notAuth : ∀ arrival ∈ arrivals, ∀ token, arrival.message ≠ .auth token) :
    (Fits limits connection.documentBudget arrivals → ∃ connection',
      run (step limits services) connection (arrivals.map Arrival.event) = some connection' ∧
        connection.Follows limits connection' arrivals) ∧
    ∀ connection',
      run (step limits services) connection (arrivals.map Arrival.event) = some connection' →
        connection'.refused = false → Fits limits connection.documentBudget arrivals := by
  induction arrivals generalizing connection with
  | nil =>
      exact ⟨fun _ => ⟨connection, rfl, ready, rfl, rfl, rfl, fun message => Or.inl⟩,
        fun _ _ _ => ⟨fun _ member => (List.not_mem_nil member).elim, trivial⟩⟩
  | cons arrival rest inductionHypothesis =>
      obtain ⟨next, stepped, passes, fits⟩ :=
        step_arrival limits services ready (notAuth arrival List.mem_cons_self)
      have later := fun isReady => @inductionHypothesis next isReady fun other member =>
        notAuth other (List.mem_cons_of_mem _ member)
      rw [List.map_cons, run_cons, stepped, Option.bind_some, fits_cons]
      constructor
      · rintro ⟨first, others⟩
        have passed := passes first
        obtain ⟨last, ran, follows⟩ := (later passed.ready).1 (passed.budget ▸ others)
        refine ⟨last, ran, follows.ready, ?_, follows.joining.trans passed.joining,
          follows.room.trans passed.room, fun message member => ?_⟩
        · rw [follows.budget, passed.budget]
          cases charged : arrival.charge limits with
          | none => rw [List.filterMap_cons_none charged]; rfl
          | some charge => rw [List.filterMap_cons_some charged]; rfl
        · rcases follows.accepted message member with before | ⟨other, isOther, rfl⟩
          · rcases passed.accepted message before with earlier | rfl
            · exact Or.inl earlier
            · exact Or.inr ⟨arrival, List.mem_cons_self, rfl⟩
          · exact Or.inr ⟨other, List.mem_cons_of_mem _ isOther, rfl⟩
      · intro last ran admits
        have nextAdmits := admits_of_run ran admits
        have passed := passes (fits nextAdmits)
        exact ⟨fits nextAdmits, passed.budget ▸ (later passed.ready).2 last ran admits⟩

/-- The token frame, whose token verifies. -/
theorem step_auth (limits : Limits) {services : Services Claims Room} (opening : Opening)
    (valid : (services.verifyToken opening.authenticated opening.token).isSome) :
    ∃ connection', step limits services (start limits opening.created) opening.auth.event =
        some connection' ∧
      (opening.auth.frame.length ≤ limits.maxPayload → connection'.Ready ∧
        connection'.joining = true ∧ connection'.room = none ∧ connection'.accepted = [] ∧
        connection'.documentBudget = .new (limits.bytesPerSecond * 2) limits.bytesPerSecond
          opening.created) ∧
      (connection'.refused = false → opening.auth.frame.length ≤ limits.maxPayload) := by
  have decodes : decodeMessage opening.auth.frame = some (.auth opening.token) :=
    decodeMessage_encodeMessage fun token same => by
      cases same
      exact opening.transmissible
  obtain ⟨claims, verified⟩ := Option.isSome_iff_exists.mp valid
  have handles : step limits services (start limits opening.created) opening.auth.event =
      if limits.maxPayload < opening.auth.frame.length then
        some { (start limits opening.created).closing with deaf := true, refused := true }
      else some ((start limits opening.created).onMessage limits services opening.auth.frame
        opening.authenticated) := rfl
  rw [handles]
  split
  · next large =>
      exact ⟨_, rfl, fun fits => absurd fits (not_le.mpr large), fun admits =>
        Bool.noConfusion admits⟩
  · next fits =>
      refine ⟨_, rfl, fun _ => ?_, fun _ => not_lt.mp fits⟩
      have authenticates : (start limits opening.created).onMessage limits services
          opening.auth.frame opening.authenticated =
          { (start limits opening.created : Connection Claims Room) with
            authTimer := false, user := some claims, joining := true } := by
        unfold onMessage
        rw [decodes]
        dsimp only [start]
        unfold authenticate
        rw [verified]
      rw [authenticates]
      exact ⟨⟨rfl, rfl, rfl, rfl, rfl⟩, rfl, rfl, rfl, rfl⟩

/-- The end of the load, when all that was sent meanwhile can be applied. -/
theorem step_load (limits : Limits) {services : Services Claims Room} (room : Room)
    (ready : connection.Ready) (joining : connection.joining = true)
    (buffered : connection.traffic.Buffered)
    (applies : ∀ message ∈ connection.accepted, ∀ room,
      (services.dispatch room message).isSome) :
    ∃ connection', connection.step limits services (.joinResolved room) = some connection' ∧
      connection'.Ready ∧ connection'.room.isSome ∧
        connection'.documentBudget = connection.documentBudget := by
  have handles : connection.step limits services (.joinResolved room) =
      some (connection.onJoined services room) := by
    unfold step
    rw [if_neg (by simp [ready.runs])]
    dsimp only
    rw [if_pos joining]
  have quiet : (services.replay room connection.queued).threw = false :=
    (services.replay_threw_iff room (buffered.loading joining).2.2.1).1.mpr
      (Services.applies_of_forall applies room)
  refine ⟨_, handles, ?_⟩
  rw [onJoined_isOpen services connection room ready.isOpen]
  exact ⟨⟨ready.isOpen, ready.hears, quiet, ready.known, ready.admits⟩, rfl, rfl⟩

private theorem buffered_run {events : List (ConnectionEvent Room)}
    (buffered : connection.traffic.Buffered)
    (ran : run (step limits services) connection events = some connection') :
    connection'.traffic.Buffered := by
  induction events generalizing connection with
  | nil =>
      obtain rfl := Option.some.inj ran
      exact buffered
  | cons event rest inductionHypothesis =>
      rw [run_cons] at ran
      obtain ⟨middle, stepped, later⟩ := Option.bind_eq_some_iff.mp ran
      exact inductionHypothesis (buffered_step buffered stepped) later

end Connection

namespace Opening

variable {limits : Limits} {services : Services Claims Room} {opening : Opening} {room : Room}

/-- What is charged fits the new document budget exactly when it is paced. -/
theorem fits_iff_paced : (opening.Small limits ∧ opening.Paced limits) ↔
    opening.auth.frame.length ≤ limits.maxPayload ∧
      Connection.Fits limits
        (.new (limits.bytesPerSecond * 2) limits.bytesPerSecond opening.created)
        (opening.early ++ (opening.late ++ [opening.reply])) := by
  have positive : (0 : ℚ) ≤ limits.bytesPerSecond * 2 := by positivity
  unfold Small Paced Connection.Fits charges
  rw [← TokenBucket.new_grantsAll_iff positive, List.append_assoc, List.append_assoc,
    List.cons_append, List.forall_mem_cons, and_assoc]

/-- What an accepted token leaves takes the frames of the load, the end of the
load, and the rest. -/
private theorem run_events {first : Connection Claims Room}
    (stepped : Connection.step limits services (Connection.start limits opening.created)
      opening.auth.event = some first) :
    run (Connection.step limits services) (Connection.start limits opening.created)
      (opening.events room) =
      (run (Connection.step limits services) first (opening.early.map Arrival.event)).bind
        (run (Connection.step limits services) · (.joinResolved room ::
          (opening.late ++ [opening.reply]).map Arrival.event)) := by
  rw [events, run_cons, stepped, Option.bind_some, run_append]

/-- The connection once it has taken what was sent while the document loaded. -/
theorem joined_of_early {first loaded : Connection Claims Room}
    (stepped : Connection.step limits services (Connection.start limits opening.created)
      opening.auth.event = some first)
    (joining : first.joining = true) (nothing : first.accepted = [])
    (ran : run (Connection.step limits services) first (opening.early.map Arrival.event) =
      some loaded)
    (follows : first.Follows limits loaded opening.early)
    (applies : ∀ arrival ∈ opening.early, ∀ room,
      (services.dispatch room arrival.message).isSome) (room : Room) :
    ∃ joined, loaded.step limits services (.joinResolved room) = some joined ∧
      joined.Ready ∧ joined.room.isSome ∧ joined.documentBudget = loaded.documentBudget := by
  have whole : run (Connection.step limits services) (Connection.start limits opening.created)
      (opening.auth.event :: opening.early.map Arrival.event) = some loaded := by
    rw [run_cons, stepped, Option.bind_some, ran]
  have buffered := Connection.buffered_run
    (Connection.buffered_start limits opening.created) whole
  refine Connection.step_load limits room follows.ready (follows.joining.trans joining) buffered
    fun message member => ?_
  rcases follows.accepted message member with before | ⟨arrival, isEarly, rfl⟩
  · rw [nothing] at before
    cases before
  · exact applies arrival isEarly

/-- A handshake is applied exactly when every frame up to its step 2 is within
the payload cap and its document traffic is paced. -/
theorem applied_iff (limits : Limits)
    (valid : (services.verifyToken opening.authenticated opening.token).isSome)
    (applies : ∀ arrival ∈ opening.early, ∀ room,
      (services.dispatch room arrival.message).isSome) (room : Room) :
    opening.Applied limits services room ↔ opening.Small limits ∧ opening.Paced limits := by
  rw [fits_iff_paced]
  obtain ⟨first, stepped, authenticated, fitsAuth⟩ :=
    Connection.step_auth limits opening valid
  have notAuthEarly : ∀ arrival ∈ opening.early, ∀ token, arrival.message ≠ .auth token :=
    fun arrival member => opening.once arrival (List.mem_append_left _ member)
  have notAuthLate : ∀ arrival ∈ opening.late, ∀ token, arrival.message ≠ .auth token :=
    fun arrival member => opening.once arrival (List.mem_append_right _ member)
  have notAuthReply : ∀ token, opening.reply.message ≠ .auth token := by simp [reply]
  unfold Applied
  rw [run_events stepped]
  constructor
  · rintro ⟨last, ran, admits, -⟩
    have small := fitsAuth (Connection.admits_of_run (run_append _ _ _ _ ▸ ran) admits)
    obtain ⟨ready, joining, -, nothing, budget⟩ := authenticated small
    obtain ⟨loaded, ranEarly, ranLate⟩ := Option.bind_eq_some_iff.mp ran
    obtain ⟨goes, fits⟩ := Connection.run_arrivals limits services ready notAuthEarly
    have fitsEarly := fits loaded ranEarly (Connection.admits_of_run ranLate admits)
    obtain ⟨loaded', ran', follows⟩ := goes fitsEarly
    obtain rfl := Option.some.inj (ranEarly.symm.trans ran')
    obtain ⟨joined, joins, ready', -, budget'⟩ :=
      joined_of_early stepped joining nothing ranEarly follows applies room
    rw [run_cons, joins, Option.bind_some] at ranLate
    have fitsLate := (Connection.run_arrivals limits services ready'
      (List.forall_mem_append.mpr ⟨notAuthLate, List.forall_mem_singleton.mpr notAuthReply⟩)).2
      last ranLate admits
    rw [budget', follows.budget, budget] at fitsLate
    exact ⟨small, Connection.fits_append.mpr ⟨budget ▸ fitsEarly, fitsLate⟩⟩
  · rintro ⟨small, fits⟩
    obtain ⟨ready, joining, -, nothing, budget⟩ := authenticated small
    rw [Connection.fits_append, Connection.fits_append, Connection.fits_cons] at fits
    obtain ⟨fitsEarly, fitsLate, fitsReply, -⟩ := fits
    obtain ⟨loaded, ranEarly, follows⟩ := (Connection.run_arrivals limits services ready
      notAuthEarly).1 (budget ▸ fitsEarly)
    obtain ⟨joined, joins, ready', isSome, budget'⟩ :=
      joined_of_early stepped joining nothing ranEarly follows applies room
    have joinedBudget := budget'.trans (follows.budget.trans (congrArg
      (TokenBucket.spend · (opening.early.filterMap (Arrival.charge limits))) budget))
    obtain ⟨answering, ranLate, follows'⟩ := (Connection.run_arrivals limits services ready'
      notAuthLate).1 (joinedBudget ▸ fitsLate)
    obtain ⟨last, replied, passes, -⟩ := Connection.step_arrival limits services follows'.ready
      notAuthReply
    have passed := passes (by
      rw [follows'.budget, joinedBudget]
      exact fitsReply)
    refine ⟨last, ?_, passed.ready.admits, ?_⟩
    · rw [ranEarly, Option.bind_some, run_cons, joins, Option.bind_some, List.map_append,
        run_append, ranLate, Option.bind_some, List.map_singleton, run_cons, replied]
      rfl
    · rw [passed.dispatched (follows'.room ▸ isSome) (by simp [Arrival.charge, reply]),
        List.getLast?_concat]
      rfl

/-- Besides presence the client sends nothing but its step 1 and its step 2, and
the clock does not step back. -/
structure Alone (opening : Opening) (limits : Limits) : Prop where
  document : ((opening.early ++ opening.late).filterMap (Arrival.charge limits)).length ≤ 1
  clock : (opening.created :: (opening.early ++ opening.late ++ [opening.reply]).map
    Arrival.now).Pairwise (· ≤ ·)

private theorem charge_eq_some {arrival : Arrival} {charge : Charge}
    (charged : arrival.charge limits = some charge) :
    charge = ⟨arrival.now, Connection.cost limits arrival.frame.length⟩ := by
  unfold Arrival.charge at charged
  split at charged
  · cases charged
  · exact (Option.some.inj charged).symm

/-- Two frames within the payload cap fit a budget that starts full. -/
theorem paced_of_alone (floor : limits.minFrameCost ≤ limits.maxPayload)
    (burst : limits.maxPayload ≤ limits.bytesPerSecond) (small : opening.Small limits)
    (alone : opening.Alone limits) : opening.Paced limits := by
  have bounded : ∀ arrival ∈ opening.early ++ opening.late ++ [opening.reply],
      ∀ charge, arrival.charge limits = some charge →
        0 ≤ charge.cost ∧ charge.cost ≤ limits.bytesPerSecond := by
    intro arrival member charge charged
    rw [charge_eq_some charged]
    have fits := small arrival (by
      rw [List.append_assoc, List.cons_append, ← List.append_assoc]
      exact List.mem_cons_of_mem _ member)
    have cost : ((max arrival.frame.length limits.minFrameCost : ℕ) : ℚ) ≤
        limits.bytesPerSecond := by
      exact_mod_cast (max_le fits floor).trans burst
    exact ⟨Nat.cast_nonneg _, cost⟩
  have each : ∀ charge ∈ opening.charges limits,
      0 ≤ charge.cost ∧ charge.cost ≤ limits.bytesPerSecond := by
    intro charge member
    obtain ⟨arrival, isArrival, charged⟩ := List.mem_filterMap.mp member
    exact bounded arrival isArrival charge charged
  have ordered : (⟨opening.created, 0⟩ :: opening.charges limits).Pairwise
      (·.now ≤ ·.now) := by
    obtain ⟨first, others⟩ := List.pairwise_cons.mp alone.clock
    refine List.pairwise_cons.mpr ⟨fun charge member => ?_, ?_⟩
    · obtain ⟨arrival, isArrival, charged⟩ := List.mem_filterMap.mp member
      rw [charge_eq_some charged]
      exact first arrival.now (List.mem_map_of_mem isArrival)
    · refine List.Pairwise.filterMap _
        (fun arrival later before charge charged charge' charged' => ?_)
        (List.pairwise_map.mp others)
      rw [charge_eq_some charged, charge_eq_some charged']
      exact before
  have two : totalCost (opening.charges limits) ≤ limits.bytesPerSecond * 2 := by
    have atMost : ∀ charges : List Charge, charges.length ≤ 1 →
        (∀ charge ∈ charges, charge.cost ≤ limits.bytesPerSecond) →
        totalCost charges ≤ limits.bytesPerSecond := by
      intro charges few costs
      match charges with
      | [] => exact Nat.cast_nonneg _
      | [charge] =>
          rw [totalCost_cons, totalCost, List.map_nil, List.sum_nil, add_zero]
          exact costs charge List.mem_cons_self
      | _ :: _ :: _ => exact absurd few (by simp)
    have whole : opening.charges limits =
        (opening.early ++ opening.late).filterMap (Arrival.charge limits) ++
          [opening.reply].filterMap (Arrival.charge limits) := List.filterMap_append ..
    have front := atMost _ alone.document fun charge member => (each charge (by
      rw [whole]
      exact List.mem_append_left _ member)).2
    have back := atMost ([opening.reply].filterMap (Arrival.charge limits))
      (List.length_filterMap_le _ _) fun charge member => (each charge (by
        rw [whole]
        exact List.mem_append_right _ member)).2
    rw [whole, totalCost_append]
    linarith
  refine conforms_of_totalCost_le (Nat.cast_nonneg _) ?_ ordered ?_
  · intro charge member
    rcases List.mem_cons.mp member with rfl | later
    · exact le_refl _
    · exact (each charge later).1
  · rw [totalCost_cons, zero_add]
    exact two

/-- Under the default configuration an opening handshake is applied exactly when
every frame up to its step 2 is within the payload cap and its document traffic
is paced, which a handshake on its own always is. -/
theorem resync_admissible_iff (services : Services Claims Room) (opening : Opening)
    (valid : (services.verifyToken opening.authenticated opening.token).isSome)
    (applies : ∀ arrival ∈ opening.early, ∀ room,
      (services.dispatch room arrival.message).isSome) (room : Room) :
    (opening.Applied .default services room ↔
      opening.Small .default ∧ opening.Paced .default) ∧
    (opening.Alone .default →
      (opening.Applied .default services room ↔ opening.Small .default)) := by
  have exact := applied_iff .default valid applies room
  refine ⟨exact, fun alone => exact.trans ⟨And.left, fun small => ⟨small, ?_⟩⟩⟩
  exact paced_of_alone (by decide) (by decide) small alone

/-- A client that was offline: its step 1 arrives while the document loads, and
the answer to the room's step 1 carries its edits. -/
def returning (step2 : List UInt8) : Opening where
  token := []
  created := 0
  authenticated := 10
  early := [⟨.sync [0, 1, 0], 10⟩]
  late := []
  step2 := step2
  answered := 50
  transmissible := ⟨[], rfl, by simp⟩
  once := by simp

/-- Short edits get through. -/
theorem resync_admissible_iff_short :
    (returning [1, 2, 0, 0]).Applied .default Connection.unknownSubType [] ↔
      (returning [1, 2, 0, 0]).Small .default ∧ (returning [1, 2, 0, 0]).Paced .default :=
  (resync_admissible_iff Connection.unknownSubType (returning [1, 2, 0, 0]) rfl (by
    intro arrival member room
    rw [List.mem_singleton.mp member]
    rfl) []).1

/-- A step 2 over the payload cap does not, whatever it says. -/
theorem returning_refused {step2 : List UInt8} (large : Limits.default.maxPayload ≤ step2.length) :
    ¬ (returning step2).Applied .default Connection.unknownSubType [] := by
  have applies : ∀ arrival ∈ (returning step2).early, ∀ room,
      (Connection.unknownSubType.dispatch room arrival.message).isSome := by
    intro arrival member room
    rw [List.mem_singleton.mp member]
    rfl
  rw [applied_iff .default rfl applies]
  rintro ⟨small, -⟩
  have fits := small (returning step2).reply (List.mem_append_right _ List.mem_cons_self)
  have size : (returning step2).reply.frame.length = step2.length + 1 := rfl
  omega

/-- A mebibyte of edits does not, however often the client reconnects. -/
theorem large_resync_refused :
    ¬ (returning (List.replicate (1024 * 1024) 0)).Applied .default
      Connection.unknownSubType [] :=
  returning_refused (by rw [List.length_replicate]; exact le_refl _)

end Opening

end CollabEditor.Ws
