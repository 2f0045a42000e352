import CollabEditor.Library.Transition
import CollabEditor.Protocol.Messages
import Mathlib.Algebra.Order.Ring.Unbundled.Rat

/-!
Owns the connection lifecycle of `collab/provider.ts`: tokens, sockets, timers
and the status, with every event the browser may deliver in between. What the
document and the awareness put into frames is what it is given.
-/

set_option autoImplicit false

namespace CollabEditor.Web

open CollabEditor.Library CollabEditor.Protocol

inductive ConnectionStatus where
  | connecting
  | connected
  | offline
  | rejected
deriving DecidableEq

def RECONNECT_BASE_MS : ℚ := 500
def RECONNECT_MAX_MS : ℚ := 15000
def CONNECTION_STABLE_MS : ℚ := 5000
def PING_INTERVAL_MS : ℚ := 20000
def PONG_TIMEOUT_MS : ℚ := 10000
def AWARENESS_REFRESH_MS : ℚ := 10000

/-- The field of the provider a timer belongs to. -/
inductive TimerKind where
  | reconnect
  | ping
  | pong
  | awareness
  | stable
deriving DecidableEq

/-- A timer that is armed. -/
structure Timer where
  id : ℕ
  kind : TimerKind
  due : ℚ
deriving DecidableEq

/-- A call of `getToken` that has not settled. -/
structure TokenRequest where
  id : ℕ
  refresh : Bool

/-- `socket.readyState` until the `close` event. -/
inductive ReadyState where
  | connecting
  | isOpen
  | closing
deriving DecidableEq

/-- A socket whose `close` event has not fired. -/
structure Socket where
  id : ℕ
  /-- The token its `onopen` holds. -/
  token : JsString
  readyState : ReadyState
  sent : List Message

/-- `CollabProvider`, with what the window holds for it. -/
structure CollabProvider where
  socket : Option ℕ
  status : ConnectionStatus
  attempt : ℕ
  refreshToken : Bool
  reconnectTimer : Option ℕ
  pingTimer : Option ℕ
  pongTimer : Option ℕ
  awarenessTimer : Option ℕ
  stableTimer : Option ℕ
  destroyed : Bool
  /-- What the status listeners were called with. -/
  notified : List ConnectionStatus
  now : ℚ
  /-- The next id of a timer, a request or a socket. -/
  fresh : ℕ
  timers : List Timer
  requests : List TokenRequest
  sockets : List Socket
  /-- The code of the last `close` event. -/
  closeCode : Option ℕ

inductive ProviderEvent where
  | tokenResolved (request : ℕ) (token : JsString)
  | tokenRejected (request : ℕ) (jitter : ℚ)
  /-- With the step 1 of the document and the local presence, if there is one. -/
  | opened (socket : ℕ) (step1 : List UInt8) (presence : Option (List UInt8))
  | errored (socket : ℕ)
  /-- The other side or the network starts to close the socket. -/
  | closing (socket : ℕ)
  | closed (socket : ℕ) (code : ℕ) (jitter : ℚ)
  /-- With what `readSyncMessage` answers. -/
  | message (socket : ℕ) (frame : List UInt8) (reply : Option (List UInt8))
  | fires (timer : ℕ) (presence : Option (List UInt8))
  | docUpdate (payload : List UInt8)
  | awarenessUpdate (payload : List UInt8)
  | elapses (milliseconds : ℚ)
  | destroy
deriving DecidableEq

namespace CollabProvider

/-- `setStatus`. -/
def setStatus (provider : CollabProvider) (status : ConnectionStatus) : CollabProvider :=
  if provider.status = status then provider
  else { provider with status := status, notified := provider.notified ++ [status] }

/-- `window.setTimeout` and `window.setInterval`; the timer is named `fresh`. -/
def arm (provider : CollabProvider) (kind : TimerKind) (delay : ℚ) : CollabProvider :=
  { provider with
    timers := provider.timers ++ [⟨provider.fresh, kind, provider.now + delay⟩]
    fresh := provider.fresh + 1 }

/-- `if (timer !== undefined) window.clearTimeout(timer)`. -/
def clear (provider : CollabProvider) : Option ℕ → CollabProvider
  | none => provider
  | some id => { provider with timers := provider.timers.filter fun timer => timer.id ≠ id }

/-- `clearTimers`. -/
def clearTimers (provider : CollabProvider) : CollabProvider :=
  { ((((provider.clear provider.pingTimer).clear provider.pongTimer).clear
      provider.awarenessTimer).clear provider.stableTimer).clear provider.reconnectTimer with
    pingTimer := none
    pongTimer := none
    awarenessTimer := none
    stableTimer := none
    reconnectTimer := none }

/-- How long the reconnect waits after some attempts. -/
def backoff (attempt : ℕ) (jitter : ℚ) : ℚ :=
  min RECONNECT_MAX_MS (RECONNECT_BASE_MS * 2 ^ attempt) * (1 / 2 + jitter * (1 / 2))

/-- `scheduleReconnect`. -/
def scheduleReconnect (provider : CollabProvider) (jitter : ℚ) : CollabProvider :=
  { provider.arm .reconnect (backoff provider.attempt jitter) with
    attempt := provider.attempt + 1
    reconnectTimer := some provider.fresh }

/-- `send`. -/
def send (provider : CollabProvider) (message : Message) : CollabProvider :=
  { provider with
    sockets := provider.sockets.map fun socket =>
      if provider.socket = some socket.id ∧ socket.readyState = .isOpen then
        { socket with sent := socket.sent ++ [message] }
      else socket }

/-- `socket.close()`. -/
def closeSocket (provider : CollabProvider) (id : ℕ) : CollabProvider :=
  { provider with
    sockets := provider.sockets.map fun socket =>
      if socket.id = id then { socket with readyState := .closing } else socket }

/-- `this.socket?.close()`. -/
def closeCurrent (provider : CollabProvider) : CollabProvider :=
  match provider.socket with
  | none => provider
  | some id => provider.closeSocket id

/-- `connect` up to its `await`. -/
def connect (provider : CollabProvider) : CollabProvider :=
  if provider.destroyed then provider
  else { provider.setStatus .connecting with
    requests := provider.requests ++ [⟨provider.fresh, provider.refreshToken⟩]
    fresh := provider.fresh + 1 }

/-- `connect` after a token has come. -/
def onToken (provider : CollabProvider) (token : JsString) : CollabProvider :=
  let accepted := { provider with refreshToken := false }
  if accepted.destroyed then accepted
  else { accepted with
    sockets := provider.sockets ++ [⟨provider.fresh, token, .connecting, []⟩]
    socket := some provider.fresh
    fresh := provider.fresh + 1 }

/-- The `catch` of `connect`. -/
def onTokenFailed (provider : CollabProvider) (jitter : ℚ) : CollabProvider :=
  (provider.setStatus .offline).scheduleReconnect jitter

/-- `startPinging`. -/
def startPinging (provider : CollabProvider) : CollabProvider :=
  { provider.arm .ping PING_INTERVAL_MS with pingTimer := some provider.fresh }

/-- `startAnnouncing`. -/
def startAnnouncing (provider : CollabProvider) : CollabProvider :=
  { provider.arm .awareness AWARENESS_REFRESH_MS with awarenessTimer := some provider.fresh }

/-- The socket is open now. -/
def markOpen (provider : CollabProvider) (id : ℕ) : CollabProvider :=
  { provider with
    sockets := provider.sockets.map fun socket =>
      if socket.id = id then { socket with readyState := .isOpen } else socket }

/-- `socket.onopen`. -/
def onOpen (provider : CollabProvider) (token : JsString) (step1 : List UInt8)
    (presence : Option (List UInt8)) : CollabProvider :=
  let watched : CollabProvider :=
    { provider.arm .stable CONNECTION_STABLE_MS with stableTimer := some provider.fresh }
  let greeted := ((watched.setStatus .connected).send (.auth token)).send (.sync step1)
  let announced := match presence with
    | none => greeted
    | some payload => greeted.send (.awareness payload)
  announced.startPinging.startAnnouncing

/-- `socket.onclose`, without the presence it clears. -/
def onClose (provider : CollabProvider) (code : ℕ) (jitter : ℚ) : CollabProvider :=
  let cleared := { provider.clearTimers with socket := none }
  if cleared.destroyed then cleared
  else if isTerminalCloseCode code then cleared.setStatus .rejected
  else
    let refreshing := if code = CloseCode.unauthorized.value then
      { cleared with refreshToken := true } else cleared
    (refreshing.setStatus .offline).scheduleReconnect jitter

/-- `onFrame`; a frame that is no message changes nothing. -/
def onFrame (provider : CollabProvider) (frame : List UInt8) (reply : Option (List UInt8)) :
    CollabProvider :=
  match decodeMessage frame with
  | some (.sync _) =>
      match reply with
      | none => provider
      | some payload => provider.send (.sync payload)
  | some .pong => { provider.clear provider.pongTimer with pongTimer := none }
  | _ => provider

/-- A timeout that fires is no longer armed. -/
def expire (provider : CollabProvider) (timer : Timer) : CollabProvider :=
  { provider with timers := provider.timers.erase timer }

/-- An interval that fires is armed again. -/
def rearm (provider : CollabProvider) (timer : Timer) (interval : ℚ) : CollabProvider :=
  { provider with
    timers := provider.timers.map fun armed =>
      if armed = timer then { armed with due := armed.due + interval } else armed }

/-- What a timer calls. Setting the local state again makes the awareness emit
an update, which is sent. -/
def onTimer (provider : CollabProvider) (timer : Timer) (presence : Option (List UInt8)) :
    CollabProvider :=
  match timer.kind with
  | .reconnect => (provider.expire timer).connect
  | .ping =>
      let again := provider.rearm timer PING_INTERVAL_MS
      if again.pongTimer.isSome then again
      else
        let pinged := again.send .ping
        { pinged.arm .pong PONG_TIMEOUT_MS with pongTimer := some pinged.fresh }
  | .pong => (provider.expire timer).closeCurrent
  | .awareness =>
      let again := provider.rearm timer AWARENESS_REFRESH_MS
      match presence with
      | none => again
      | some payload => again.send (.awareness payload)
  | .stable => { provider.expire timer with attempt := 0 }

/-- `destroy`. -/
def destroy (provider : CollabProvider) : CollabProvider :=
  { ({ provider with destroyed := true }.clearTimers).closeCurrent with socket := none }

/-- `new CollabProvider(..)`. -/
def new : CollabProvider :=
  connect {
    socket := none
    status := .offline
    attempt := 0
    refreshToken := false
    reconnectTimer := none
    pingTimer := none
    pongTimer := none
    awarenessTimer := none
    stableTimer := none
    destroyed := false
    notified := []
    now := 0
    fresh := 0
    timers := []
    requests := []
    sockets := []
    closeCode := none }

/-- The socket of an id whose `close` has not fired. -/
def socketOf (provider : CollabProvider) (id : ℕ) : Option Socket :=
  provider.sockets.find? fun socket => socket.id = id

/-- One event. A timer fires when it is due or later, `Math.random` stays below
one, and `open` and `message` fire only on a socket that has not been closed. -/
def step (provider : CollabProvider) : ProviderEvent → Option CollabProvider
  | .tokenResolved request token =>
      if provider.requests.any fun pending => pending.id = request then
        some ({ provider with
          requests := provider.requests.filter fun pending => pending.id ≠ request }.onToken token)
      else none
  | .tokenRejected request jitter =>
      if (provider.requests.any fun pending => pending.id = request) ∧ 0 ≤ jitter ∧ jitter < 1 then
        some ({ provider with
          requests := provider.requests.filter fun pending =>
            pending.id ≠ request }.onTokenFailed jitter)
      else none
  | .opened id step1 presence =>
      (provider.socketOf id).bind fun socket =>
        if socket.readyState = .connecting then
          some ((provider.markOpen id).onOpen socket.token step1 presence)
        else none
  | .errored id => (provider.socketOf id).map fun _ => provider.closeSocket id
  | .closing id => (provider.socketOf id).map fun _ => provider.closeSocket id
  | .closed id code jitter =>
      (provider.socketOf id).bind fun _ =>
        if 0 ≤ jitter ∧ jitter < 1 then
          some ({ provider with
            sockets := provider.sockets.filter fun socket => socket.id ≠ id
            closeCode := some code }.onClose code jitter)
        else none
  | .message id frame reply =>
      (provider.socketOf id).bind fun socket =>
        if socket.readyState = .isOpen then some (provider.onFrame frame reply) else none
  | .fires id presence =>
      (provider.timers.find? fun timer => timer.id = id).bind fun timer =>
        if timer.due ≤ provider.now then some (provider.onTimer timer presence) else none
  | .docUpdate payload =>
      some (if provider.destroyed then provider else provider.send (.sync payload))
  | .awarenessUpdate payload =>
      some (if provider.destroyed then provider else provider.send (.awareness payload))
  | .elapses milliseconds =>
      if 0 ≤ milliseconds then some { provider with now := provider.now + milliseconds } else none
  | .destroy => some provider.destroy

theorem onToken_of_alive {provider : CollabProvider} (alive : provider.destroyed = false)
    (token : JsString) : provider.onToken token = { provider with
      refreshToken := false
      sockets := provider.sockets ++ [⟨provider.fresh, token, .connecting, []⟩]
      socket := some provider.fresh
      fresh := provider.fresh + 1 } := by
  unfold onToken
  dsimp only
  rw [if_neg (by simp [alive])]

theorem onToken_of_destroyed {provider : CollabProvider} (ended : provider.destroyed = true)
    (token : JsString) : provider.onToken token = { provider with refreshToken := false } := by
  unfold onToken
  dsimp only
  rw [if_pos ended]

theorem onTimer_reconnect (provider : CollabProvider) {timer : Timer}
    (kind : timer.kind = .reconnect) (presence : Option (List UInt8)) :
    provider.onTimer timer presence = (provider.expire timer).connect := by
  unfold onTimer
  rw [kind]

/-- What an event needs of a provider, and what it makes of it. -/
inductive Moved (provider : CollabProvider) : ProviderEvent → CollabProvider → Prop where
  | tokenResolved (request : ℕ) (token : JsString)
      (found : (provider.requests.any fun pending => pending.id = request) = true) :
      Moved provider (.tokenResolved request token) ({ provider with
        requests := provider.requests.filter fun pending => pending.id ≠ request }.onToken token)
  | tokenRejected (request : ℕ) (jitter : ℚ)
      (found : (provider.requests.any fun pending => pending.id = request) = true)
      (nonnegative : 0 ≤ jitter) (belowOne : jitter < 1) :
      Moved provider (.tokenRejected request jitter) ({ provider with
        requests := provider.requests.filter fun pending =>
          pending.id ≠ request }.onTokenFailed jitter)
  | opened (id : ℕ) (step1 : List UInt8) (presence : Option (List UInt8)) (socket : Socket)
      (found : provider.socketOf id = some socket) (connecting : socket.readyState = .connecting) :
      Moved provider (.opened id step1 presence)
        ((provider.markOpen id).onOpen socket.token step1 presence)
  | errored (id : ℕ) : Moved provider (.errored id) (provider.closeSocket id)
  | closing (id : ℕ) : Moved provider (.closing id) (provider.closeSocket id)
  | closed (id code : ℕ) (jitter : ℚ) (socket : Socket)
      (found : provider.socketOf id = some socket) (nonnegative : 0 ≤ jitter)
      (belowOne : jitter < 1) :
      Moved provider (.closed id code jitter) ({ provider with
        sockets := provider.sockets.filter fun socket => socket.id ≠ id
        closeCode := some code }.onClose code jitter)
  | message (id : ℕ) (frame : List UInt8) (reply : Option (List UInt8)) (socket : Socket)
      (found : provider.socketOf id = some socket) (isOpen : socket.readyState = .isOpen) :
      Moved provider (.message id frame reply) (provider.onFrame frame reply)
  | fires (id : ℕ) (presence : Option (List UInt8)) (timer : Timer)
      (found : provider.timers.find? (fun timer => timer.id = id) = some timer)
      (due : timer.due ≤ provider.now) :
      Moved provider (.fires id presence) (provider.onTimer timer presence)
  | docUpdate (payload : List UInt8) : Moved provider (.docUpdate payload)
      (if provider.destroyed then provider else provider.send (.sync payload))
  | awarenessUpdate (payload : List UInt8) : Moved provider (.awarenessUpdate payload)
      (if provider.destroyed then provider else provider.send (.awareness payload))
  | elapses (milliseconds : ℚ) (forward : 0 ≤ milliseconds) :
      Moved provider (.elapses milliseconds) { provider with now := provider.now + milliseconds }
  | destroy : Moved provider .destroy provider.destroy

theorem moved_of_step {provider after : CollabProvider} {event : ProviderEvent}
    (stepped : provider.step event = some after) : Moved provider event after := by
  cases event with
  | tokenResolved request token =>
      obtain ⟨found, result⟩ := Option.ite_none_right_eq_some.mp stepped
      cases result
      exact .tokenResolved request token found
  | tokenRejected request jitter =>
      obtain ⟨⟨found, nonnegative, belowOne⟩, result⟩ :=
        Option.ite_none_right_eq_some.mp stepped
      cases result
      exact .tokenRejected request jitter found nonnegative belowOne
  | opened id step1 presence =>
      obtain ⟨socket, found, taken⟩ := Option.bind_eq_some_iff.mp stepped
      obtain ⟨connecting, result⟩ := Option.ite_none_right_eq_some.mp taken
      cases result
      exact .opened id step1 presence socket found connecting
  | errored id =>
      obtain ⟨socket, -, rfl⟩ := Option.map_eq_some_iff.mp stepped
      exact .errored id
  | closing id =>
      obtain ⟨socket, -, rfl⟩ := Option.map_eq_some_iff.mp stepped
      exact .closing id
  | closed id code jitter =>
      obtain ⟨socket, found, taken⟩ := Option.bind_eq_some_iff.mp stepped
      obtain ⟨⟨nonnegative, belowOne⟩, result⟩ := Option.ite_none_right_eq_some.mp taken
      cases result
      exact .closed id code jitter socket found nonnegative belowOne
  | message id frame reply =>
      obtain ⟨socket, found, taken⟩ := Option.bind_eq_some_iff.mp stepped
      obtain ⟨isOpen, result⟩ := Option.ite_none_right_eq_some.mp taken
      cases result
      exact .message id frame reply socket found isOpen
  | fires id presence =>
      obtain ⟨timer, found, taken⟩ := Option.bind_eq_some_iff.mp stepped
      obtain ⟨due, result⟩ := Option.ite_none_right_eq_some.mp taken
      cases result
      exact .fires id presence timer found due
  | docUpdate payload =>
      cases stepped
      exact .docUpdate payload
  | awarenessUpdate payload =>
      cases stepped
      exact .awarenessUpdate payload
  | elapses milliseconds =>
      obtain ⟨forward, result⟩ := Option.ite_none_right_eq_some.mp stepped
      cases result
      exact .elapses milliseconds forward
  | destroy =>
      cases stepped
      exact .destroy

end CollabProvider

end CollabEditor.Web
