import CollabEditor.Library.Transition
import CollabEditor.Ws.Connection
import CollabEditor.Ws.Gateway

/-!
Owns `ws/heartbeat.ts` over the clients of a `Gateway`, on a clock: a sweep pings
every client it has heard of since the sweep before it and terminates the others.
Beside each client stands when it was last heard of.

Assumes that a timer never runs early. How late it may run is a hypothesis where
it matters.
-/

set_option autoImplicit false

namespace CollabEditor.Ws

open CollabEditor.Library

/-- A `Client` of the gateway, as far as the heartbeat reads and writes it. -/
structure ProbedClient where
  id : ℕ
  documentId : JsString
  alive : Bool
  readyState : ReadyState
  /-- When the client connected or its last pong arrived. -/
  heardAt : ℕ
  /-- When the ping was sent that no pong has followed. -/
  pingedAt : Option ℕ
  /-- When a sweep terminated the client, and when it was last heard of then. -/
  terminated : Option (ℕ × ℕ)
deriving DecidableEq

/-- `Gateway`, with its `Heartbeat` and the counter of `ws/client.ts`. -/
structure Gateway where
  clients : List ProbedClient
  nextClientId : ℕ
  /-- `wss.close()` was not called. -/
  accepts : Bool
  now : ℕ
  /-- When the interval fires next, until `stop`. -/
  sweepDue : Option ℕ

inductive GatewayEvent where
  | upgrade (url : Option JsString)
  | pong (id : ℕ)
  /-- Either side starts to close a socket. -/
  | closes (id : ℕ)
  /-- The `close` event of a socket. -/
  | socketClosed (id : ℕ)
  | sweeps
  /-- `Gateway.close`. -/
  | close
  | elapses (milliseconds : ℕ)

namespace ProbedClient

/-- `new Client(socket, documentId)`. -/
def new (id : ℕ) (documentId : JsString) (now : ℕ) : ProbedClient where
  id := id
  documentId := documentId
  alive := true
  readyState := .isOpen
  heardAt := now
  pingedAt := none
  terminated := none

/-- The socket starts closing unless it already has. -/
def closing (client : ProbedClient) : ProbedClient :=
  if client.readyState = .isOpen then { client with readyState := .closing } else client

/-- `client.socket.ping()`, which a socket that is not open ignores. -/
def ping (client : ProbedClient) (now : ℕ) : ProbedClient :=
  if client.readyState = .isOpen then { client with pingedAt := some now } else client

/-- `client.socket.terminate()`. -/
def terminate (client : ProbedClient) (now : ℕ) : ProbedClient :=
  { client.closing with terminated := client.terminated.or (some (now, client.heardAt)) }

/-- The body of the loop of `sweep`. -/
def sweep (client : ProbedClient) (now : ℕ) : ProbedClient :=
  if client.alive = false then client.terminate now
  else { client with alive := false }.ping now

/-- The `pong` handler of `Connection.start`. -/
def pong (client : ProbedClient) (now : ℕ) : ProbedClient :=
  { client with alive := true, heardAt := now, pingedAt := none }

end ProbedClient

namespace Gateway

/-- A gateway that has started. -/
def start (interval : ℕ) : Gateway where
  clients := []
  nextClientId := 1
  accepts := true
  now := 0
  sweepDue := some interval

def modify (gateway : Gateway) (id : ℕ) (change : ProbedClient → ProbedClient) : Gateway :=
  { gateway with clients := gateway.clients.map fun client =>
      if client.id = id then change client else client }

/-- `onConnection`. -/
def onConnection (gateway : Gateway) (documentId : JsString) : Gateway :=
  { gateway with
    clients := gateway.clients ++ [.new gateway.nextClientId documentId gateway.now]
    nextClientId := gateway.nextClientId + 1 }

/-- `handleUpgrade`; a closed WebSocket server refuses the handshake. -/
def handleUpgrade (gateway : Gateway) (url : Option JsString) : Gateway :=
  match documentIdFrom url with
  | none => gateway
  | some documentId =>
      if documentId = [] ∨ gateway.accepts = false then gateway
      else gateway.onConnection documentId

def step (interval : ℕ) (gateway : Gateway) : GatewayEvent → Option Gateway
  | .upgrade url => some (gateway.handleUpgrade url)
  | .pong id => some (gateway.modify id (·.pong gateway.now))
  | .closes id => some (gateway.modify id ProbedClient.closing)
  | .socketClosed id =>
      some { gateway with clients := gateway.clients.filter (·.id ≠ id) }
  | .sweeps =>
      match gateway.sweepDue with
      | some due =>
          if due ≤ gateway.now then
            some { gateway with
              clients := gateway.clients.map (·.sweep gateway.now)
              sweepDue := some (gateway.now + interval) }
          else none
      | none => none
  | .close =>
      some { gateway with
        clients := gateway.clients.map ProbedClient.closing
        accepts := false
        sweepDue := none }
  | .elapses milliseconds => some { gateway with now := gateway.now + milliseconds }

/-- The interval fires at most `late` after it is due. -/
def punctual (late : ℕ) (gateway : Gateway) : GatewayEvent → Bool
  | .elapses milliseconds =>
      gateway.sweepDue.all fun due => gateway.now + milliseconds ≤ due + late
  | _ => true

/-- The peer with this id answers every ping within `answer` and keeps its socket
open. -/
def answers (answer id : ℕ) (gateway : Gateway) : GatewayEvent → Bool
  | .elapses milliseconds => gateway.clients.all fun client =>
      client.id ≠ id ∨ client.pingedAt.all fun pinged =>
        gateway.now + milliseconds ≤ pinged + answer
  | .closes closing => closing ≠ id
  | _ => true

end Gateway

/-! ### What an event does to the clients -/

namespace ProbedClient

@[simp] theorem closing_alive (client : ProbedClient) : client.closing.alive = client.alive := by
  unfold closing
  split <;> rfl

@[simp] theorem closing_heardAt (client : ProbedClient) :
    client.closing.heardAt = client.heardAt := by
  unfold closing
  split <;> rfl

@[simp] theorem closing_terminated (client : ProbedClient) :
    client.closing.terminated = client.terminated := by
  unfold closing
  split <;> rfl

@[simp] theorem closing_id (client : ProbedClient) : client.closing.id = client.id := by
  unfold closing
  split <;> rfl

private theorem sweep_of_alive {client : ProbedClient} (alive : client.alive = true) (now : ℕ) :
    (client.sweep now).alive = false ∧ (client.sweep now).heardAt = client.heardAt ∧
      (client.sweep now).terminated = client.terminated := by
  rw [sweep, if_neg (by simp [alive]), ping]
  split
  · exact ⟨rfl, rfl, rfl⟩
  · exact ⟨rfl, rfl, rfl⟩

private theorem sweep_of_silent {client : ProbedClient} (silent : client.alive = false) (now : ℕ) :
    client.sweep now = client.terminate now :=
  if_pos silent

private theorem sweep_heardAt (client : ProbedClient) (now : ℕ) :
    (client.sweep now).heardAt = client.heardAt := by
  cases alive : client.alive with
  | true => exact (sweep_of_alive alive now).2.1
  | false =>
      rw [sweep_of_silent alive]
      exact client.closing_heardAt

private theorem sweep_id (client : ProbedClient) (now : ℕ) : (client.sweep now).id = client.id := by
  unfold sweep ping terminate
  split
  · exact closing_id client
  · split <;> rfl

end ProbedClient

namespace Gateway

variable {interval late : ℕ} {gateway gateway' : Gateway}

/-- Where the clients of a gateway after an event come from. -/
inductive Turns (interval : ℕ) (before after : Gateway) : GatewayEvent → Prop where
  | idles {event : GatewayEvent} (notClose : event ≠ .close)
      (same : after.clients = before.clients) (now : after.now = before.now)
      (due : after.sweepDue = before.sweepDue) : Turns interval before after event
  | connects (url : Option JsString) (documentId : JsString)
      (clients : after.clients =
        before.clients ++ [.new before.nextClientId documentId before.now])
      (now : after.now = before.now) (due : after.sweepDue = before.sweepDue) :
      Turns interval before after (.upgrade url)
  | pongs (id : ℕ) (clients : ∀ client ∈ after.clients, client ∈ before.clients ∨
        ∃ earlier ∈ before.clients, earlier.id = id ∧ client = earlier.pong before.now)
      (now : after.now = before.now) (due : after.sweepDue = before.sweepDue) :
      Turns interval before after (.pong id)
  | closes (id : ℕ) (clients : ∀ client ∈ after.clients, client ∈ before.clients ∨
        ∃ earlier ∈ before.clients, earlier.id = id ∧ client = earlier.closing)
      (now : after.now = before.now) (due : after.sweepDue = before.sweepDue) :
      Turns interval before after (.closes id)
  | leaves (id : ℕ) (clients : ∀ client ∈ after.clients, client ∈ before.clients)
      (now : after.now = before.now) (due : after.sweepDue = before.sweepDue) :
      Turns interval before after (.socketClosed id)
  | sweeps (due : ℕ) (armed : before.sweepDue = some due) (isDue : due ≤ before.now)
      (clients : after.clients = before.clients.map (·.sweep before.now))
      (now : after.now = before.now) (rearmed : after.sweepDue = some (before.now + interval)) :
      Turns interval before after .sweeps
  | stops (clients : after.clients = before.clients.map ProbedClient.closing)
      (due : after.sweepDue = none) : Turns interval before after .close
  | passes (milliseconds : ℕ) (clients : after.clients = before.clients)
      (now : after.now = before.now + milliseconds) (due : after.sweepDue = before.sweepDue) :
      Turns interval before after (.elapses milliseconds)

private theorem mem_modify {id : ℕ} {change : ProbedClient → ProbedClient} {client : ProbedClient}
    (member : client ∈ (gateway.modify id change).clients) : client ∈ gateway.clients ∨
      ∃ earlier ∈ gateway.clients, earlier.id = id ∧ client = change earlier := by
  obtain ⟨earlier, inClients, changed⟩ := List.mem_map.mp member
  split at changed
  · next same => exact Or.inr ⟨earlier, inClients, same, changed.symm⟩
  · exact Or.inl (changed ▸ inClients)

private theorem turns_of_step {event : GatewayEvent}
    (stepped : gateway.step interval event = some gateway') :
    Turns interval gateway gateway' event := by
  cases event with
  | upgrade url =>
      cases stepped
      unfold handleUpgrade
      split
      · exact .idles nofun rfl rfl rfl
      · next documentId found =>
          split
          · exact .idles nofun rfl rfl rfl
          · exact .connects url documentId rfl rfl rfl
  | pong id =>
      cases stepped
      exact .pongs id (fun client member => mem_modify member) rfl rfl
  | closes id =>
      cases stepped
      exact .closes id (fun client member => mem_modify member) rfl rfl
  | socketClosed id =>
      cases stepped
      exact .leaves id (fun client member => List.mem_of_mem_filter member) rfl rfl
  | sweeps =>
      simp only [step] at stepped
      split at stepped
      · next due armed =>
          split at stepped
          · next isDue =>
              cases stepped
              exact .sweeps due armed isDue rfl rfl rfl
          · cases stepped
      · cases stepped
  | close =>
      cases stepped
      exact .stops rfl rfl
  | elapses milliseconds =>
      cases stepped
      exact .passes milliseconds rfl rfl rfl

/-! ### How long a silent client stays -/

/-- Two intervals and what the two sweeps may be late. -/
def patience (interval late : ℕ) : ℕ := 2 * (interval + late)

/-- A client that was given up had been silent for an interval, and not for much
longer than two. -/
def DroppedInTime (interval late : ℕ) (client : ProbedClient) : Prop :=
  ∀ moment heard, client.terminated = some (moment, heard) →
    heard + interval ≤ moment ∧ moment ≤ heard + patience interval late

/-- The flag of a client says whether it was heard of since the last sweep; if it
was not, it was since the one before. -/
structure Watched (interval late due : ℕ) (client : ProbedClient) : Prop where
  recent : client.alive = true → due ≤ client.heardAt + interval
  silent : client.alive = false → client.heardAt + interval ≤ due
  waited : client.alive = false → client.terminated = none →
    due ≤ client.heardAt + 2 * interval + late

/-- What holds of the clock and the clients. -/
structure Watches (interval late : ℕ) (gateway : Gateway) : Prop where
  past : ∀ client ∈ gateway.clients, client.heardAt ≤ gateway.now
  dropped : ∀ client ∈ gateway.clients, DroppedInTime interval late client
  clock : ∀ due, gateway.sweepDue = some due → due ≤ gateway.now + interval ∧
    gateway.now ≤ due + late
  watched : ∀ due, gateway.sweepDue = some due →
    ∀ client ∈ gateway.clients, Watched interval late due client

private theorem watches_start : (start interval).Watches interval late where
  past := nofun
  dropped := nofun
  clock due armed := by
    cases armed
    simp [start]
  watched _ _ := nofun

/-- A sweep gives a client up, or starts waiting for its answer. -/
theorem watched_sweep {due now : ℕ} {client : ProbedClient}
    (watched : Watched interval late due client) (dropped : DroppedInTime interval late client)
    (isDue : due ≤ now) (inTime : now ≤ due + late) (past : client.heardAt ≤ now) :
    DroppedInTime interval late (client.sweep now) ∧
      Watched interval late (now + interval) (client.sweep now) := by
  cases alive : client.alive with
  | true =>
      obtain ⟨unmarked, heardAt, terminated⟩ := ProbedClient.sweep_of_alive alive now
      have lately := watched.recent alive
      constructor
      · intro moment heard same
        exact dropped moment heard (terminated ▸ same)
      · refine ⟨fun marked => absurd (unmarked.symm.trans marked) nofun, fun _ => ?_, fun _ _ => ?_⟩
        · rw [heardAt]
          omega
        · rw [heardAt]
          omega
  | false =>
      have silence := watched.silent alive
      rw [ProbedClient.sweep_of_silent alive]
      constructor
      · intro moment heard given
        simp only [ProbedClient.terminate] at given
        cases terminated : client.terminated with
        | some earlier =>
            rw [terminated] at given
            exact dropped moment heard (terminated.trans given)
        | none =>
            rw [terminated] at given
            cases given
            have waited := watched.waited alive terminated
            unfold patience
            omega
      · refine ⟨fun marked => ?_, fun _ => ?_, fun _ none => ?_⟩
        · simp [ProbedClient.terminate, alive] at marked
        · simp only [ProbedClient.terminate, ProbedClient.closing_heardAt]
          omega
        · simp [ProbedClient.terminate] at none

private theorem watched_new {due now : ℕ} (recent : due ≤ now + interval) (id : ℕ)
    (documentId : JsString) : Watched interval late due (.new id documentId now) where
  recent _ := recent
  silent := nofun
  waited := nofun

private theorem watched_pong {due now : ℕ} (recent : due ≤ now + interval) (client : ProbedClient) :
    Watched interval late due (client.pong now) where
  recent _ := recent
  silent := nofun
  waited := nofun

private theorem watched_closing {due : ℕ} {client : ProbedClient}
    (watched : Watched interval late due client) :
    Watched interval late due client.closing where
  recent alive := by
    rw [ProbedClient.closing_heardAt]
    exact watched.recent (client.closing_alive ▸ alive)
  silent dead := by
    rw [ProbedClient.closing_heardAt]
    exact watched.silent (client.closing_alive ▸ dead)
  waited dead stays := by
    rw [ProbedClient.closing_heardAt]
    exact watched.waited (client.closing_alive ▸ dead) (client.closing_terminated ▸ stays)

private theorem droppedInTime_closing {client : ProbedClient}
    (dropped : DroppedInTime interval late client) :
    DroppedInTime interval late client.closing := by
  intro moment heard same
  exact dropped moment heard (client.closing_terminated ▸ same)

/-- A client that is as before, or differs in what `Watches` does not read. -/
theorem Watches.of_clients (watches : gateway.Watches interval late)
    (now : gateway'.now = gateway.now) (due : gateway'.sweepDue = gateway.sweepDue)
    (clients : ∀ client ∈ gateway'.clients, client.heardAt ≤ gateway.now ∧
      DroppedInTime interval late client ∧ ∀ due, gateway.sweepDue = some due →
        Watched interval late due client) : gateway'.Watches interval late where
  past client member := by
    rw [now]
    exact (clients client member).1
  dropped client member := (clients client member).2.1
  clock due' armed := by
    rw [now]
    exact watches.clock due' (due ▸ armed)
  watched due' armed client member := (clients client member).2.2 due' (due ▸ armed)

private theorem Watches.client (watches : gateway.Watches interval late) {client : ProbedClient}
    (member : client ∈ gateway.clients) : client.heardAt ≤ gateway.now ∧
      DroppedInTime interval late client ∧ ∀ due, gateway.sweepDue = some due →
        Watched interval late due client :=
  ⟨watches.past client member, watches.dropped client member,
    fun due armed => watches.watched due armed client member⟩

private theorem Watches.step (watches : gateway.Watches interval late) {event : GatewayEvent}
    (inTime : gateway.punctual late event = true)
    (stepped : gateway.step interval event = some gateway') :
    gateway'.Watches interval late := by
  cases turns_of_step stepped with
  | idles notClose same now due =>
      exact watches.of_clients now due fun client member => watches.client (same ▸ member)
  | connects url documentId clients now due =>
      refine watches.of_clients now due fun client member => ?_
      rw [clients, List.mem_append, List.mem_singleton] at member
      rcases member with earlier | rfl
      · exact watches.client earlier
      · refine ⟨le_rfl, fun moment heard given => absurd given nofun, fun due' armed => ?_⟩
        exact watched_new (watches.clock due' armed).1 _ _
  | pongs id clients now due =>
      refine watches.of_clients now due fun client member => ?_
      rcases clients client member with earlier | ⟨earlier, inClients, -, rfl⟩
      · exact watches.client earlier
      · exact ⟨le_rfl, (watches.client inClients).2.1, fun due' armed =>
          watched_pong (watches.clock due' armed).1 _⟩
  | closes id clients now due =>
      refine watches.of_clients now due fun client member => ?_
      rcases clients client member with earlier | ⟨earlier, inClients, -, rfl⟩
      · exact watches.client earlier
      · obtain ⟨past, dropped, watched⟩ := watches.client inClients
        exact ⟨earlier.closing_heardAt ▸ past, droppedInTime_closing dropped,
          fun due' armed => watched_closing (watched due' armed)⟩
  | leaves id clients now due =>
      exact watches.of_clients now due fun client member =>
        watches.client (clients client member)
  | sweeps due armed isDue clients now rearmed =>
      obtain ⟨recent, punctual⟩ := watches.clock due armed
      have swept : ∀ client ∈ gateway.clients, DroppedInTime interval late
          (client.sweep gateway.now) ∧ Watched interval late (gateway.now + interval)
            (client.sweep gateway.now) := fun client member =>
        watched_sweep (watches.watched due armed client member) (watches.dropped client member)
          isDue punctual (watches.past client member)
      constructor
      · intro client member
        rw [clients] at member
        obtain ⟨earlier, inClients, rfl⟩ := List.mem_map.mp member
        rw [now, ProbedClient.sweep_heardAt]
        exact watches.past earlier inClients
      · intro client member
        rw [clients] at member
        obtain ⟨earlier, inClients, rfl⟩ := List.mem_map.mp member
        exact (swept earlier inClients).1
      · intro due' armed'
        cases rearmed.symm.trans armed'
        omega
      · intro due' armed' client member
        cases rearmed.symm.trans armed'
        rw [clients] at member
        obtain ⟨earlier, inClients, rfl⟩ := List.mem_map.mp member
        exact (swept earlier inClients).2
  | stops clients due =>
      constructor
      · intro client member
        rw [clients] at member
        obtain ⟨earlier, inClients, rfl⟩ := List.mem_map.mp member
        cases stepped
        rw [ProbedClient.closing_heardAt]
        exact watches.past earlier inClients
      · intro client member
        rw [clients] at member
        obtain ⟨earlier, inClients, rfl⟩ := List.mem_map.mp member
        exact droppedInTime_closing (watches.dropped earlier inClients)
      · exact fun due' armed => absurd (due.symm.trans armed) nofun
      · exact fun due' armed => absurd (due.symm.trans armed) nofun
  | passes milliseconds clients now due =>
      constructor
      · intro client member
        have past := watches.past client (clients ▸ member)
        omega
      · exact fun client member => watches.dropped client (clients ▸ member)
      · intro due' armed
        have before := watches.clock due' (due ▸ armed)
        simp only [punctual, due ▸ armed, Option.all_some, decide_eq_true_eq] at inTime
        omega
      · exact fun due' armed client member =>
          watches.watched due' (due ▸ armed) client (clients ▸ member)

/-- A client is given up only after an interval of silence, and while the
heartbeat runs no client that has been silent for two is kept. -/
theorem silence_bounds (reached : ReachedWhen (step interval) (fun gateway event =>
      gateway.punctual late event = true) (· = start interval) gateway)
    {client : ProbedClient} (member : client ∈ gateway.clients) :
    (∀ moment heard, client.terminated = some (moment, heard) →
      heard + interval ≤ moment ∧ moment ≤ heard + 2 * (interval + late)) ∧
    (client.terminated = none → gateway.sweepDue ≠ none →
      gateway.now ≤ client.heardAt + 2 * (interval + late)) := by
  have watches : gateway.Watches interval late := by
    refine reached.invariant (Watches interval late) ?_ fun _ _ _ watches inTime stepped =>
      watches.step inTime stepped
    rintro _ rfl
    exact watches_start
  refine ⟨watches.dropped client member, fun stays running => ?_⟩
  obtain ⟨due, armed⟩ := Option.ne_none_iff_exists'.mp running
  have inTime := (watches.clock due armed).2
  have watched := watches.watched due armed client member
  cases alive : client.alive with
  | true =>
      have recent := watched.recent alive
      omega
  | false =>
      have waited := watched.waited alive stays
      omega

/-- A peer goes silent, is pinged by one sweep and given up by the next. -/
theorem silence_bounds_given_up :
    ∃ gateway : Gateway, ∃ client ∈ gateway.clients, client.terminated = some (60000, 10) ∧
      10 + 30000 ≤ 60000 ∧ 60000 ≤ 10 + 2 * (30000 + 5) := by
  obtain ⟨gateway, reached, client, member, terminated⟩ := exists_reachedWhen_of_runWhen
    (step 30000) (fun gateway event => gateway.punctual 5 event = true) (· = start 30000)
    (start 30000)
    [.elapses 10, .upgrade (some (Utf16.encode "/doc/a".toList)), .elapses 29990, .sweeps,
      .elapses 30000, .sweeps]
    (fun gateway => ∃ client ∈ gateway.clients, client.terminated = some (60000, 10)) rfl
    (by decide)
  exact ⟨gateway, client, member, terminated, (silence_bounds reached member).1 _ _ terminated⟩

/-! ### Peers that answer -/

/-- The peer has answered since the last sweep, or has time left to. -/
structure Awaited (interval answer : ℕ) (gateway : Gateway) (client : ProbedClient) : Prop where
  kept : client.terminated = none
  open_ : gateway.sweepDue ≠ none → client.readyState = .isOpen
  answered : ∀ due, gateway.sweepDue = some due → client.alive = false →
    ∃ pinged, client.pingedAt = some pinged ∧ pinged + interval ≤ due ∧
      gateway.now ≤ pinged + answer

private theorem Awaited.sweep {answer : ℕ} (quick : answer < interval) {client : ProbedClient}
    (awaited : Awaited interval answer gateway client) {due : ℕ}
    (armed : gateway.sweepDue = some due) (isDue : due ≤ gateway.now)
    (now : gateway'.now = gateway.now)
    (rearmed : gateway'.sweepDue = some (gateway.now + interval)) :
    Awaited interval answer gateway' (client.sweep gateway.now) := by
  have alive : client.alive = true := by
    by_contra silent
    obtain ⟨pinged, -, before, inTime⟩ := awaited.answered due armed (by simpa using silent)
    omega
  have isOpen := awaited.open_ (by simp [armed])
  rw [ProbedClient.sweep, if_neg (by simp [alive]), ProbedClient.ping, if_pos isOpen]
  refine ⟨awaited.kept, fun _ => isOpen, fun due' armed' _ => ⟨gateway.now, rfl, ?_, ?_⟩⟩
  · cases rearmed.symm.trans armed'
    exact le_rfl
  · omega

private theorem awaited_step {answer id : ℕ} (quick : answer < interval) {event : GatewayEvent}
    (awaited : ∀ client ∈ gateway.clients, client.id = id →
      Awaited interval answer gateway client)
    (answering : gateway.answers answer id event = true)
    (stepped : gateway.step interval event = some gateway') :
    ∀ client ∈ gateway'.clients, client.id = id → Awaited interval answer gateway' client := by
  have unchanged : gateway'.now = gateway.now → gateway'.sweepDue = gateway.sweepDue →
      ∀ client, Awaited interval answer gateway client →
        Awaited interval answer gateway' client := by
    intro now due client before
    refine ⟨before.kept, fun running => before.open_ (due ▸ running), ?_⟩
    intro due' armed silent
    rw [now]
    exact before.answered due' (due ▸ armed) silent
  cases turns_of_step stepped with
  | idles notClose same now due =>
      exact fun client member isId =>
        unchanged now due client (awaited client (same ▸ member) isId)
  | connects url documentId clients now due =>
      intro client member isId
      rw [clients, List.mem_append, List.mem_singleton] at member
      rcases member with earlier | rfl
      · exact unchanged now due client (awaited client earlier isId)
      · exact ⟨rfl, fun _ => rfl, nofun⟩
  | pongs other clients now due =>
      intro client member isId
      rcases clients client member with earlier | ⟨earlier, inClients, -, rfl⟩
      · exact unchanged now due client (awaited client earlier isId)
      · have before := awaited earlier inClients isId
        exact ⟨before.kept, fun running => before.open_ (due ▸ running), nofun⟩
  | closes other clients now due =>
      intro client member isId
      rcases clients client member with earlier | ⟨earlier, inClients, same, rfl⟩
      · exact unchanged now due client (awaited client earlier isId)
      · rw [earlier.closing_id] at isId
        simp [answers, ← same, isId] at answering
  | leaves other clients now due =>
      exact fun client member isId =>
        unchanged now due client (awaited client (clients client member) isId)
  | sweeps due armed isDue clients now rearmed =>
      intro client member isId
      rw [clients] at member
      obtain ⟨earlier, inClients, rfl⟩ := List.mem_map.mp member
      rw [ProbedClient.sweep_id] at isId
      exact (awaited earlier inClients isId).sweep quick armed isDue now rearmed
  | stops clients due =>
      intro client member isId
      rw [clients] at member
      obtain ⟨earlier, inClients, rfl⟩ := List.mem_map.mp member
      rw [earlier.closing_id] at isId
      refine ⟨earlier.closing_terminated.trans (awaited earlier inClients isId).kept,
        fun running => absurd due running, fun due' armed => absurd (due.symm.trans armed) nofun⟩
  | passes milliseconds clients now due =>
      intro client member isId
      have before := awaited client (clients ▸ member) isId
      refine ⟨before.kept, fun running => before.open_ (due ▸ running), ?_⟩
      intro due' armed silent
      obtain ⟨pinged, waiting, early, -⟩ := before.answered due' (due ▸ armed) silent
      have limits := List.all_eq_true.mp answering client (clients ▸ member)
      simp only [isId, waiting, Option.all_some, decide_eq_true_eq] at limits
      exact ⟨pinged, waiting, early, by omega⟩

/-- A peer that keeps its socket open and answers every ping in less than an
interval is never given up, whatever the other clients do. -/
theorem answering_never_terminated {answer id : ℕ} (quick : answer < interval)
    (reached : ReachedWhen (step interval) (fun gateway event =>
      gateway.answers answer id event = true) (· = start interval) gateway)
    {client : ProbedClient} (member : client ∈ gateway.clients) (isId : client.id = id) :
    client.terminated = none := by
  have awaited : ∀ client ∈ gateway.clients, client.id = id →
      Awaited interval answer gateway client := by
    refine reached.invariant (fun gateway => ∀ client ∈ gateway.clients, client.id = id →
      Awaited interval answer gateway client) ?_ fun _ _ _ awaited answering stepped =>
        awaited_step quick awaited answering stepped
    rintro _ rfl
    exact nofun
  exact (awaited client member isId).kept

/-- One client answers, another one does not and is given up. -/
theorem answering_never_terminated_beside_silent :
    ∃ gateway : Gateway, ∃ client ∈ gateway.clients,
      (client.id = 1 ∧ gateway.clients.any (·.terminated.isSome) = true) ∧
        client.terminated = none := by
  obtain ⟨gateway, reached, client, member, isFirst, other⟩ := exists_reachedWhen_of_runWhen
    (step 30000) (fun gateway event => gateway.answers 200 1 event = true) (· = start 30000)
    (start 30000)
    [.upgrade (some (Utf16.encode "/doc/a".toList)),
      .upgrade (some (Utf16.encode "/doc/a?b".toList)),
      .elapses 30000, .sweeps, .elapses 200, .pong 1, .elapses 29800, .sweeps]
    (fun gateway => ∃ client ∈ gateway.clients,
      client.id = 1 ∧ gateway.clients.any (·.terminated.isSome) = true) rfl (by decide)
  exact ⟨gateway, client, member, ⟨isFirst, other⟩,
    answering_never_terminated (by decide) reached member isFirst⟩

end Gateway

end CollabEditor.Ws
