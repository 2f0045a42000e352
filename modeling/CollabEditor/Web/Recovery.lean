import CollabEditor.Web.HalfOpen
import CollabEditor.Web.Backoff

/-!
Owns that a `CollabProvider` comes back: from wherever failures have left it, the
token, the socket and the timers it waits for bring it back online, after at most
one wait of a reconnect.

Only the reconnect timer moves the clock here: how long a token, an opening or a
close takes is not counted, and the other timers do not run.
-/

set_option autoImplicit false

namespace CollabEditor.Web

open CollabEditor.Library CollabEditor.Protocol

namespace CollabProvider

/-! ### What goes well -/

/-- What a provider waits for comes, and nothing fails. -/
inductive Help where
  | token (token : JsString)
  | opens (step1 : List UInt8) (presence : Option (List UInt8))
  /-- A socket that is being closed is gone. -/
  | closes (code : ℕ) (jitter : ℚ)
  /-- The time of the reconnect timer comes. -/
  | fires
deriving DecidableEq

def help (provider : CollabProvider) : Help → Option CollabProvider
  | .token token =>
      provider.requests.head?.bind fun request =>
        provider.step (.tokenResolved request.id token)
  | .opens step1 presence =>
      provider.sockets.head?.bind fun socket => provider.step (.opened socket.id step1 presence)
  | .closes code jitter =>
      if isTerminalCloseCode code then none
      else provider.sockets.head?.bind fun socket =>
        if socket.readyState = .closing then provider.step (.closed socket.id code jitter)
        else none
  | .fires =>
      provider.reconnects.head?.bind fun timer =>
        (provider.step (.elapses (max 0 (timer.due - provider.now)))).bind fun later =>
          later.step (.fires timer.id none)

/-- The socket is open, and the status says so. -/
def Online (provider : CollabProvider) : Prop :=
  provider.status = .connected ∧
    ∃ socket, provider.sockets = [socket] ∧ provider.socket = some socket.id ∧
      socket.readyState = .isOpen

/-! ### Every state -/

/-- What holds of a provider at every moment. -/
structure Sturdy (provider : CollabProvider) : Prop where
  way : ∃ way, OnlyWay provider way
  tidy : provider.Tidy
  named : provider.Named
  connected : ∀ socket ∈ provider.sockets, socket.readyState = .isOpen →
    provider.status = .connected
  soon : ∀ timer ∈ provider.reconnects, timer.due ≤ provider.now + RECONNECT_MAX_MS

variable {provider after : CollabProvider}

private theorem sturdy_new : new.Sturdy :=
  ⟨⟨.token, onlyWay_new⟩, tidy_new, named_new, nofun, nofun⟩

/-- The status stays, and no socket opens. -/
structure Steady (before after : CollabProvider) : Prop where
  status : after.status = before.status
  sockets : ∀ socket ∈ after.sockets, socket.readyState = .isOpen →
    ∃ earlier ∈ before.sockets, earlier.readyState = .isOpen

private theorem Steady.same {before after : CollabProvider} (status : after.status = before.status)
    (sockets : after.sockets = before.sockets) : Steady before after :=
  ⟨status, fun socket member isOpen => ⟨socket, sockets ▸ member, isOpen⟩⟩

private theorem Steady.trans {first second third : CollabProvider} (front : Steady first second)
    (back : Steady second third) : Steady first third where
  status := back.status.trans front.status
  sockets := fun socket member isOpen => by
    obtain ⟨middle, among, state⟩ := back.sockets socket member isOpen
    exact front.sockets middle among state

private theorem steady_send (provider : CollabProvider) (message : Message) :
    Steady provider (provider.send message) := by
  refine ⟨rfl, fun socket member isOpen => ?_⟩
  obtain ⟨earlier, among, same⟩ := List.mem_map.mp member
  refine ⟨earlier, among, ?_⟩
  rw [← isOpen, ← same]
  split
  · rfl
  · rfl

private theorem steady_closeSocket (provider : CollabProvider) (id : ℕ) :
    Steady provider (provider.closeSocket id) := by
  refine ⟨rfl, fun socket member isOpen => ?_⟩
  obtain ⟨earlier, among, same⟩ := List.mem_map.mp member
  refine ⟨earlier, among, ?_⟩
  rw [← same] at isOpen
  split at isOpen
  · simp at isOpen
  · exact isOpen

private theorem steady_closeCurrent (provider : CollabProvider) :
    Steady provider provider.closeCurrent := by
  unfold closeCurrent
  split
  · exact .same rfl rfl
  · exact steady_closeSocket provider _

private theorem steady_onFrame (provider : CollabProvider) (frame : List UInt8)
    (reply : Option (List UInt8)) : Steady provider (provider.onFrame frame reply) := by
  unfold onFrame
  split
  · cases reply with
    | none => exact .same rfl rfl
    | some payload => exact steady_send provider (.sync payload)
  · obtain ⟨timers, cleared⟩ := clear_eq provider provider.pongTimer
    rw [cleared]
    exact .same rfl rfl
  · exact .same rfl rfl

private theorem steady_onTimer (provider : CollabProvider) {timer : Timer}
    (other : timer.kind ≠ .reconnect) (presence : Option (List UInt8)) :
    Steady provider (provider.onTimer timer presence) := by
  have rearmed : ∀ interval, Steady provider (provider.rearm timer interval) :=
    fun interval => .same rfl rfl
  have expired : Steady provider (provider.expire timer) := .same rfl rfl
  unfold onTimer
  split
  · next kind => exact absurd kind other
  · dsimp only
    split
    · exact rearmed PING_INTERVAL_MS
    · exact ((rearmed PING_INTERVAL_MS).trans (steady_send _ .ping)).trans (.same rfl rfl)
  · exact expired.trans (steady_closeCurrent _)
  · cases presence with
    | none => exact rearmed AWARENESS_REFRESH_MS
    | some payload =>
        exact (rearmed AWARENESS_REFRESH_MS).trans (steady_send _ (.awareness payload))
  · exact .same rfl rfl

private theorem status_onOpen (provider : CollabProvider) (token : JsString) (step1 : List UInt8)
    (presence : Option (List UInt8)) :
    (provider.onOpen token step1 presence).status = .connected := by
  have connected := status_setStatus { provider.arm .stable CONNECTION_STABLE_MS with
    stableTimer := some provider.fresh } .connected
  have greeted := (keeps_send _ (.sync step1)).status.trans
    ((keeps_send _ (.auth token)).status.trans connected)
  have arming : ∀ announced : CollabProvider,
      announced.startPinging.startAnnouncing.status = announced.status := fun announced =>
    (keeps_startAnnouncing _).status.trans (keeps_startPinging announced).status
  unfold onOpen
  cases presence with
  | none => exact (arming _).trans greeted
  | some payload =>
      exact (arming _).trans ((keeps_send _ (.awareness payload)).status.trans greeted)

/-- An open socket goes with the status `connected`. -/
theorem connected_step {event : ProviderEvent} (sturdy : provider.Sturdy)
    (notDestroy : event ≠ .destroy) (stepped : provider.step event = some after) :
    ∀ socket ∈ after.sockets, socket.readyState = .isOpen → after.status = .connected := by
  obtain ⟨way, only⟩ := sturdy.way
  have steady : ∀ {later : CollabProvider}, Steady provider later →
      ∀ socket ∈ later.sockets, socket.readyState = .isOpen → later.status = .connected := by
    intro later steady socket member isOpen
    obtain ⟨earlier, among, wasOpen⟩ := steady.sockets socket member isOpen
    rw [steady.status]
    exact sturdy.connected earlier among wasOpen
  cases moved_of_step stepped with
  | tokenResolved request token found =>
      obtain ⟨idle, -⟩ := idle_of_settled only found
      rw [onToken_of_alive idle.destroyed]
      intro socket member isOpen
      have among : socket ∈ provider.sockets ++ [⟨provider.fresh, token, .connecting, []⟩] := member
      have noSockets : provider.sockets = [] := idle.sockets
      rw [noSockets, List.nil_append, List.mem_singleton] at among
      rw [among] at isOpen
      cases isOpen
  | tokenRejected request jitter found nonnegative belowOne =>
      obtain ⟨idle, -⟩ := idle_of_settled only found
      have noSockets := (onlyWay_goOffline idle jitter).isOff .socket (by decide)
      intro socket member
      have among : socket ∈ (onTokenFailed _ jitter).sockets := member
      rw [show (onTokenFailed _ jitter).sockets = [] from noSockets] at among
      cases among
  | opened id step1 presence socket found connecting =>
      intro _ _ _
      exact status_onOpen _ socket.token step1 presence
  | errored id => exact steady (steady_closeSocket provider id)
  | closing id => exact steady (steady_closeSocket provider id)
  | closed id code jitter socket found nonnegative belowOne =>
      have idle := idle_of_closed (only.of_socketOf found) found code
      have noSockets := (quiet_onClose { provider with
        sockets := provider.sockets.filter fun socket => socket.id ≠ id
        closeCode := some code } code jitter).1.trans idle.sockets
      intro socket member
      rw [noSockets] at member
      cases member
  | message id frame reply socket found isOpen => exact steady (steady_onFrame provider frame reply)
  | fires id presence timer found due =>
      by_cases kind : timer.kind = .reconnect
      · have idle := idle_of_expired only (List.mem_of_find?_eq_some found) kind
        have noSockets := (onlyWay_connect idle).isOff .socket (by decide)
        rw [onTimer_reconnect provider kind]
        intro socket member
        rw [show (provider.expire timer).connect.sockets = [] from noSockets] at member
        cases member
      · exact steady (steady_onTimer provider kind presence)
  | docUpdate payload =>
      rw [if_neg (by simp [only.alive])]
      exact steady (steady_send provider (.sync payload))
  | awarenessUpdate payload =>
      rw [if_neg (by simp [only.alive])]
      exact steady (steady_send provider (.awareness payload))
  | elapses milliseconds forward => exact sturdy.connected
  | destroy => exact absurd rfl notDestroy

/-- A reconnect is never further away than the longest backoff. -/
theorem soon_step {event : ProviderEvent} (sturdy : provider.Sturdy)
    (notDestroy : event ≠ .destroy) (stepped : provider.step event = some after) :
    ∀ timer ∈ after.reconnects, timer.due ≤ after.now + RECONNECT_MAX_MS := by
  obtain ⟨way, only⟩ := sturdy.way
  cases turn_of_step only sturdy.tidy sturdy.named notDestroy stepped with
  | opens id seen none stables reconnects attempt now sockets =>
      rw [reconnects]
      exact nofun
  | schedules id jitter nonnegative belowOne seen stables reconnects unarmed attempt now =>
      intro timer member
      rw [reconnects, List.mem_singleton] at member
      have upper := (backoff_between provider.attempt nonnegative belowOne).2
      have bound : backoff provider.attempt jitter ≤ RECONNECT_MAX_MS :=
        upper.trans (min_le_left _ _)
      rw [member, now]
      exact add_le_add_right bound provider.now
  | ends socket seen only stables reconnects attempt now =>
      rw [reconnects]
      exact nofun
  | survives timer seen armed due stables reconnects attempt now sockets =>
      rw [reconnects, now]
      exact sturdy.soon
  | waits seen waits =>
      intro timer member
      rw [waits.now]
      exact sturdy.soon timer (waits.reconnects timer member)
  | passes milliseconds seen forward passed =>
      subst passed
      intro timer member
      have due := sturdy.soon timer member
      show timer.due ≤ provider.now + milliseconds + RECONNECT_MAX_MS
      linarith

private theorem sturdy_step {event : ProviderEvent} (sturdy : provider.Sturdy)
    (notDestroy : event ≠ .destroy) (stepped : provider.step event = some after) :
    after.Sturdy := by
  obtain ⟨way, only⟩ := sturdy.way
  exact ⟨onlyWay_step notDestroy only stepped, tidy_step only sturdy.tidy stepped,
    named_step sturdy.named stepped, connected_step sturdy notDestroy stepped,
    soon_step sturdy notDestroy stepped⟩

/-! ### The way back -/

/-- How many helps are left at most. -/
def distance (provider : CollabProvider) : ℕ :=
  match provider.reconnects, provider.requests, provider.sockets with
  | _ :: _, _, _ => 3
  | [], _ :: _, _ => 2
  | [], [], socket :: _ =>
      match socket.readyState with
      | .connecting => 1
      | .isOpen => 0
      | .closing => 4
  | [], [], [] => 0

/-- When the last wait is over. -/
def deadline (provider : CollabProvider) : ℚ :=
  match provider.reconnects, provider.sockets with
  | timer :: _, _ => max provider.now timer.due
  | [], socket :: _ =>
      if socket.readyState = .closing then provider.now + RECONNECT_MAX_MS else provider.now
  | [], [] => provider.now

private theorem distance_token (only : OnlyWay provider .token) :
    provider.distance = 2 ∧ provider.deadline = provider.now := by
  obtain ⟨request, requests⟩ := only.isOn
  have sockets : provider.sockets = [] := only.isOff .socket (by decide)
  have reconnects : provider.reconnects = [] := only.isOff .reconnect (by decide)
  unfold distance deadline
  rw [reconnects, requests, sockets]
  exact ⟨rfl, rfl⟩

private theorem distance_reconnect {timer : Timer} (waits : provider.reconnects = [timer]) :
    provider.distance = 3 ∧ provider.deadline = max provider.now timer.due := by
  unfold distance deadline
  rw [waits]
  exact ⟨rfl, rfl⟩

private theorem distance_socket (only : OnlyWay provider .socket) {socket : Socket}
    (sockets : provider.sockets = [socket]) :
    (socket.readyState = .connecting → provider.distance = 1 ∧ provider.deadline = provider.now) ∧
    (socket.readyState = .isOpen → provider.distance = 0 ∧ provider.deadline = provider.now) ∧
    (socket.readyState = .closing →
      provider.distance = 4 ∧ provider.deadline = provider.now + RECONNECT_MAX_MS) := by
  have requests : provider.requests = [] := only.isOff .token (by decide)
  have reconnects : provider.reconnects = [] := only.isOff .reconnect (by decide)
  unfold distance deadline
  rw [reconnects, requests, sockets]
  refine ⟨fun state => ?_, fun state => ?_, fun state => ?_⟩
  · simp [state]
  · simp [state]
  · simp [state]

/-- A help leads on, and does not put off the last wait. -/
structure Helped (before after : CollabProvider) : Prop where
  sturdy : after.Sturdy
  fine : after.status ≠ .rejected
  closer : after.distance < before.distance
  deadline : after.deadline ≤ before.deadline

private theorem helped_token (sturdy : provider.Sturdy) {token : JsString}
    (helps : provider.help (.token token) = some after) : Helped provider after := by
  obtain ⟨way, only⟩ := sturdy.way
  obtain ⟨request, first, stepped⟩ := Option.bind_eq_some_iff.mp helps
  have later := sturdy_step sturdy (by simp) stepped
  obtain ⟨found, result⟩ := Option.ite_none_right_eq_some.mp stepped
  have isToken : way = .token := only.eq fun none => by
    rw [show provider.requests = [] from none] at first
    cases first
  subst isToken
  obtain ⟨idle, status⟩ := idle_of_settled only found
  have onSocket := onlyWay_onToken idle status token
  rw [onToken_of_alive idle.destroyed] at result onSocket
  cases result
  have sockets : provider.sockets ++ [⟨provider.fresh, token, ReadyState.connecting, []⟩] =
      [⟨provider.fresh, token, .connecting, []⟩] := by
    rw [show provider.sockets = [] from idle.sockets]
    rfl
  obtain ⟨distance, deadline⟩ := (distance_socket onSocket sockets).1 rfl
  obtain ⟨distance', deadline'⟩ := distance_token only
  refine ⟨later, onSocket.isOff .rejected (by decide), ?_, ?_⟩
  · rw [distance, distance']
    decide
  · rw [deadline, deadline']

private theorem states_send (provider : CollabProvider) (message : Message) :
    (provider.send message).sockets.map Socket.readyState =
      provider.sockets.map Socket.readyState := by
  show (provider.sockets.map _).map _ = _
  rw [List.map_map]
  apply List.map_congr_left
  intro socket _
  show Socket.readyState (if _ then _ else _) = _
  split
  · rfl
  · rfl

private theorem states_onOpen (provider : CollabProvider) (token : JsString) (step1 : List UInt8)
    (presence : Option (List UInt8)) :
    (provider.onOpen token step1 presence).sockets.map Socket.readyState =
      provider.sockets.map Socket.readyState := by
  have connected := congrArg (List.map Socket.readyState)
    (sockets_setStatus { provider.arm .stable CONNECTION_STABLE_MS with
      stableTimer := some provider.fresh } .connected).1
  have greeted := (states_send _ (.sync step1)).trans
    ((states_send _ (.auth token)).trans connected)
  unfold onOpen
  cases presence with
  | none => exact greeted
  | some payload => exact (states_send _ (.awareness payload)).trans greeted

private theorem helped_opens (sturdy : provider.Sturdy) {step1 : List UInt8}
    {presence : Option (List UInt8)} (helps : provider.help (.opens step1 presence) = some after) :
    Helped provider after := by
  obtain ⟨way, only⟩ := sturdy.way
  obtain ⟨socket, -, stepped⟩ := Option.bind_eq_some_iff.mp helps
  have later := sturdy_step sturdy (by simp) stepped
  obtain ⟨found, isFound, taken⟩ := Option.bind_eq_some_iff.mp stepped
  obtain ⟨connecting, result⟩ := Option.ite_none_right_eq_some.mp taken
  cases result
  have onSocket := only.of_socketOf isFound
  obtain ⟨current, sockets, -⟩ := onSocket.isOn
  have isCurrent : found = current := by
    have among := (mem_of_socketOf isFound).1
    rw [sockets] at among
    exact List.mem_singleton.mp among
  have marked : (provider.markOpen socket.id).sockets.map Socket.readyState = [.isOpen] := by
    have sameId : current.id = socket.id := by
      rw [← isCurrent]
      exact (mem_of_socketOf isFound).2
    simp [markOpen, sockets, sameId]
  have goesOn := onlyWay_onOpen ((keeps_markOpen provider socket.id).onlyWay onSocket) found.token
    step1 presence
  obtain ⟨opened, one, state⟩ := List.map_eq_singleton_iff.mp
    ((states_onOpen _ found.token step1 presence).trans marked)
  obtain ⟨distance, deadline⟩ := (distance_socket goesOn one).2.1 state
  obtain ⟨distance', deadline'⟩ := (distance_socket onSocket sockets).1 (isCurrent ▸ connecting)
  refine ⟨later, goesOn.isOff .rejected (by decide), ?_, ?_⟩
  · rw [distance, distance']
    decide
  · rw [deadline, deadline']
    exact (armsSession_onOpen (provider.markOpen socket.id) found.token step1 presence).now.le

/-- A close that is not terminal is followed by a reconnect. -/
theorem onlyWay_onClose_reconnect (idle : Idle provider) {code : ℕ}
    (notTerminal : ¬ isTerminalCloseCode code = true) (jitter : ℚ) :
    OnlyWay (provider.onClose code jitter) .reconnect := by
  have timers := idle_clearTimers idle
  unfold onClose
  rw [if_neg (by simp [timers.destroyed]), if_neg notTerminal]
  apply onlyWay_goOffline
  split
  · exact ⟨timers.requests, timers.sockets, timers.reconnects, timers.destroyed⟩
  · exact ⟨timers.requests, timers.sockets, timers.reconnects, timers.destroyed⟩

private theorem helped_closes (sturdy : provider.Sturdy) {code : ℕ} {jitter : ℚ}
    (helps : provider.help (.closes code jitter) = some after) : Helped provider after := by
  obtain ⟨way, only⟩ := sturdy.way
  obtain ⟨notTerminal, taken⟩ := Option.ite_none_left_eq_some.mp helps
  obtain ⟨socket, first, closes⟩ := Option.bind_eq_some_iff.mp taken
  obtain ⟨closing, stepped⟩ := Option.ite_none_right_eq_some.mp closes
  have later := sturdy_step sturdy (by simp) stepped
  obtain ⟨found, isFound, result⟩ := Option.bind_eq_some_iff.mp stepped
  have onSocket := only.of_socketOf isFound
  obtain ⟨current, sockets, -⟩ := onSocket.isOn
  have isCurrent : socket = current := by
    rw [sockets] at first
    exact (Option.some.inj first).symm
  obtain ⟨-, ends⟩ := Option.ite_none_right_eq_some.mp result
  have idle := idle_of_closed onSocket isFound code
  have onWay := onlyWay_onClose_reconnect idle notTerminal jitter
  rw [Option.some.inj ends] at onWay
  obtain ⟨armed, waits, -⟩ := onWay.isOn
  have now : after.now = provider.now := by
    rw [← Option.some.inj ends]
    exact (quiet_onClose _ code jitter).2.2
  obtain ⟨distance, deadline⟩ := distance_reconnect waits
  obtain ⟨distance', deadline'⟩ := (distance_socket onSocket sockets).2.2 (isCurrent ▸ closing)
  refine ⟨later, onWay.isOff .rejected (by decide), ?_, ?_⟩
  · rw [distance, distance']
    decide
  · have soon := later.soon armed (waits ▸ List.mem_singleton_self armed)
    rw [deadline, deadline', now]
    rw [now] at soon
    exact max_le (le_add_of_nonneg_right (by decide +kernel)) soon

private theorem helped_fires (sturdy : provider.Sturdy)
    (helps : provider.help .fires = some after) :
    Helped provider after := by
  obtain ⟨way, only⟩ := sturdy.way
  obtain ⟨timer, first, taken⟩ := Option.bind_eq_some_iff.mp helps
  obtain ⟨waited, waits, stepped⟩ := Option.bind_eq_some_iff.mp taken
  have rested := sturdy_step sturdy (by simp) waits
  have later := sturdy_step rested (by simp) stepped
  obtain ⟨-, passes⟩ := Option.ite_none_right_eq_some.mp waits
  have isReconnect : way = .reconnect := only.eq fun none => by
    rw [show provider.reconnects = [] from none] at first
    cases first
  subst isReconnect
  obtain ⟨armed, reconnects, -⟩ := only.isOn
  have isArmed : timer = armed := by
    rw [reconnects] at first
    exact (Option.some.inj first).symm
  obtain ⟨found, isFound, fires⟩ := Option.bind_eq_some_iff.mp stepped
  obtain ⟨-, result⟩ := Option.ite_none_right_eq_some.mp fires
  have among : found ∈ waited.timers := List.mem_of_find?_eq_some isFound
  have onWay : OnlyWay waited .reconnect := by
    rw [← Option.some.inj passes]
    exact ⟨only.alive, only.isOn, only.isOff, only.connected⟩
  have kind := rested.tidy.reconnects (onWay.isOff .socket (by decide)) found among
  have idle := idle_of_expired onWay among kind
  rw [onTimer_reconnect waited kind] at result
  have onToken := onlyWay_connect idle
  rw [Option.some.inj result] at onToken
  have now : after.now = max provider.now armed.due := by
    rw [← Option.some.inj result, (calm_connect (waited.expire found)).now]
    show waited.now = _
    rw [← Option.some.inj passes, isArmed]
    show provider.now + max 0 (armed.due - provider.now) = _
    rw [← max_add_add_left, add_zero, add_sub_cancel]
  obtain ⟨distance, deadline⟩ := distance_token onToken
  obtain ⟨distance', deadline'⟩ := distance_reconnect reconnects
  refine ⟨later, onToken.isOff .rejected (by decide), ?_, ?_⟩
  · rw [distance, distance']
    decide
  · rw [deadline, deadline', now]

private theorem helped (sturdy : provider.Sturdy) {support : Help}
    (helps : provider.help support = some after) : Helped provider after := by
  cases support with
  | token token => exact helped_token sturdy helps
  | opens step1 presence => exact helped_opens sturdy helps
  | closes code jitter => exact helped_closes sturdy helps
  | fires => exact helped_fires sturdy helps

/-! ### Something always helps -/

private theorem helps_token {request : TokenRequest} (requests : provider.requests = [request])
    (token : JsString) : (provider.help (.token token)).isSome := by
  show (provider.requests.head?.bind _).isSome
  rw [requests]
  show (provider.step (.tokenResolved request.id token)).isSome
  have found : (provider.requests.any fun pending => pending.id = request.id) = true := by
    simp [requests]
  show (if _ then _ else none : Option CollabProvider).isSome
  rw [if_pos found]
  rfl

private theorem socketOf_single {socket : Socket} (sockets : provider.sockets = [socket]) :
    provider.socketOf socket.id = some socket := by
  unfold socketOf
  rw [sockets]
  simp

private theorem helps_opens {socket : Socket} (sockets : provider.sockets = [socket])
    (connecting : socket.readyState = .connecting) (step1 : List UInt8)
    (presence : Option (List UInt8)) : (provider.help (.opens step1 presence)).isSome := by
  show (provider.sockets.head?.bind _).isSome
  rw [sockets]
  show ((provider.socketOf socket.id).bind _).isSome
  rw [socketOf_single sockets]
  show (if _ then _ else none : Option CollabProvider).isSome
  rw [if_pos connecting]
  rfl

/-- A socket that is being closed ends abnormally at the latest. -/
theorem helps_closes {socket : Socket} (sockets : provider.sockets = [socket])
    (closing : socket.readyState = .closing) : (provider.help (.closes 1006 0)).isSome := by
  show (if isTerminalCloseCode 1006 then none else _ : Option CollabProvider).isSome
  rw [if_neg (by decide), sockets]
  show (if _ then _ else none : Option CollabProvider).isSome
  rw [if_pos closing]
  show ((provider.socketOf socket.id).bind _).isSome
  rw [socketOf_single sockets]
  show (if (0 : ℚ) ≤ 0 ∧ (0 : ℚ) < 1 then _ else none : Option CollabProvider).isSome
  rw [if_pos ⟨le_refl 0, by decide +kernel⟩]
  rfl

private theorem helps_fires {timer : Timer} (reconnects : provider.reconnects = [timer])
    (timers : provider.timers = [timer]) : (provider.help .fires).isSome := by
  show (provider.reconnects.head?.bind _).isSome
  rw [reconnects]
  show ((provider.step (.elapses _)).bind _).isSome
  have forward : 0 ≤ max 0 (timer.due - provider.now) := le_max_left _ _
  have passes : provider.step (.elapses (max 0 (timer.due - provider.now))) =
      some { provider with now := provider.now + max 0 (timer.due - provider.now) } :=
    if_pos forward
  rw [passes]
  show ((provider.timers.find? fun armed => armed.id = timer.id).bind _).isSome
  have found : (provider.timers.find? fun armed => armed.id = timer.id) = some timer := by
    simp [timers]
  have due : timer.due ≤ provider.now + max 0 (timer.due - provider.now) := by
    have later := le_max_right 0 (timer.due - provider.now)
    linarith
  rw [found]
  show (if _ then _ else none : Option CollabProvider).isSome
  rw [if_pos due]
  rfl

/-- A provider that is not online, and has not been rejected, waits for something. -/
theorem helps_of_offline (sturdy : provider.Sturdy) (fine : provider.status ≠ .rejected)
    (offline : ¬ provider.Online) : ∃ support, (provider.help support).isSome := by
  obtain ⟨way, only⟩ := sturdy.way
  cases way with
  | token =>
      obtain ⟨request, requests⟩ := only.isOn
      exact ⟨.token [], helps_token requests []⟩
  | socket =>
      obtain ⟨socket, sockets, isCurrent⟩ := only.isOn
      cases state : socket.readyState with
      | connecting => exact ⟨.opens [] none, helps_opens sockets state [] none⟩
      | isOpen =>
          have connected := sturdy.connected socket (sockets ▸ List.mem_singleton_self socket) state
          exact absurd ⟨connected, socket, sockets, isCurrent, state⟩ offline
      | closing => exact ⟨.closes 1006 0, helps_closes sockets state⟩
  | reconnect =>
      obtain ⟨timer, reconnects, -⟩ := only.isOn
      have waiting := sturdy.tidy.reconnects (only.isOff .socket (by decide))
      have timers : provider.timers = [timer] := by
        rw [← reconnects]
        exact (List.filter_eq_self.mpr fun armed member =>
          decide_eq_true (waiting armed member)).symm
      exact ⟨.fires, helps_fires reconnects timers⟩
  | rejected => exact absurd only.isOn.1 fine

private theorem now_le_deadline (provider : CollabProvider) : provider.now ≤ provider.deadline := by
  unfold deadline
  split
  · exact le_max_left _ _
  · split
    · exact le_add_of_nonneg_right (by decide +kernel)
    · exact le_rfl
  · exact le_rfl

private theorem deadline_le (sturdy : provider.Sturdy) :
    provider.deadline ≤ provider.now + RECONNECT_MAX_MS := by
  have later : provider.now ≤ provider.now + RECONNECT_MAX_MS :=
    le_add_of_nonneg_right (by decide +kernel)
  unfold deadline
  split
  · next timer rest reconnects =>
      exact max_le later (sturdy.soon timer (reconnects ▸ List.mem_cons_self))
  · split
    · exact le_rfl
    · exact later
  · exact later

private theorem sturdy_of_reached
    (reached : ReachedWhen step (fun _ event => event ≠ .destroy) (· = new) provider) :
    provider.Sturdy := by
  apply reached.invariant Sturdy
  · intro provider isNew
    rw [isNew]
    exact sturdy_new
  · intro provider event after sturdy notDestroy stepped
    exact sturdy_step sturdy notDestroy stepped

/-- However connections failed before, a provider that was not rejected is online
once what it waits for comes, and spends no more than one longest backoff on it. -/
theorem recovers_inevitably
    (reached : ReachedWhen step (fun _ event => event ≠ .destroy) (· = new) provider)
    (fine : provider.status ≠ .rejected) :
    Inevitable help (fun later => later.Online ∧ later.now ≤ provider.now + RECONNECT_MAX_MS)
      provider := by
  have sturdy := sturdy_of_reached reached
  apply inevitable_of_decreases_on
    (fun later => later.Sturdy ∧ later.status ≠ .rejected ∧
      later.deadline ≤ provider.now + RECONNECT_MAX_MS) distance
  · intro earlier support later holds helps
    have step := helped holds.1 helps
    exact ⟨step.sturdy, step.fine, step.deadline.trans holds.2.2⟩
  · intro earlier support later holds helps
    exact (helped holds.1 helps).closer
  · intro earlier holds unmet
    apply helps_of_offline holds.1 holds.2.1
    intro online
    exact unmet ⟨online, (now_le_deadline earlier).trans holds.2.2⟩
  · exact ⟨sturdy, fine, deadline_le sturdy⟩

/-- A provider whose first request for a token failed, and whose first socket is being
closed. -/
def failing : List ProviderEvent :=
  [.tokenRejected 0 (1 / 2), .elapses 1000, .fires 1 none, .tokenResolved 2 [], .opened 3 [] none,
    .closing 3]

theorem recovers_inevitably_failing : ∃ provider : CollabProvider,
    provider.status = .connected ∧ provider.now = 1000 ∧ ¬ provider.Online ∧
      Inevitable help (fun later => later.Online ∧ later.now ≤ provider.now + RECONNECT_MAX_MS)
        provider := by
  let ends := (runWhen step (fun _ event => event ≠ .destroy) new failing).getD new
  have reached : ReachedWhen step (fun _ event => event ≠ .destroy) (· = new) ends :=
    reachedWhen_getD new failing new (by decide +kernel)
  have status : ends.status = .connected := by decide +kernel
  have now : ends.now = 1000 := by decide +kernel
  have state : ends.sockets.map Socket.readyState = [.closing] := by decide +kernel
  refine ⟨ends, status, now, fun online => ?_, recovers_inevitably reached (by rw [status]; decide)⟩
  obtain ⟨-, socket, sockets, -, isOpen⟩ := online
  rw [sockets] at state
  simp [isOpen] at state

end CollabProvider

end CollabEditor.Web
