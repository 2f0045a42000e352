import CollabEditor.Web.Provider

/-!
Owns the one way forward of a `CollabProvider`: until it is destroyed it waits
for a token, for the end of a socket or for the reconnect timer, or has been
rejected, and never for two of them.
-/

set_option autoImplicit false

namespace CollabEditor.Web

open CollabEditor.Library CollabEditor.Protocol

/-- What can bring a provider on. -/
inductive Way where
  | token
  | socket
  | reconnect
  | rejected
deriving DecidableEq

namespace CollabProvider

/-- The reconnect timers that are armed. -/
def reconnects (provider : CollabProvider) : List Timer :=
  provider.timers.filter fun timer => timer.kind = .reconnect

/-- The provider is on this way, once. -/
def IsOn (provider : CollabProvider) : Way → Prop
  | .token => ∃ request, provider.requests = [request]
  | .socket => ∃ socket, provider.sockets = [socket] ∧ provider.socket = some socket.id
  | .reconnect => ∃ timer, provider.reconnects = [timer] ∧ provider.reconnectTimer = some timer.id
  | .rejected => provider.status = .rejected ∧
      ∃ code, provider.closeCode = some code ∧ isTerminalCloseCode code = true

/-- Nothing of this way is there. -/
def IsOff (provider : CollabProvider) : Way → Prop
  | .token => provider.requests = []
  | .socket => provider.sockets = []
  | .reconnect => provider.reconnects = []
  | .rejected => provider.status ≠ .rejected

/-- The provider is on this way and on no other. -/
structure OnlyWay (provider : CollabProvider) (way : Way) : Prop where
  alive : provider.destroyed = false
  isOn : provider.IsOn way
  isOff : ∀ other, other ≠ way → provider.IsOff other
  connected : provider.status = .connected → way = .socket

/-! ### What the handlers leave alone -/

/-- Nothing happened that a way forward depends on. -/
structure Keeps (before after : CollabProvider) : Prop where
  requests : after.requests = before.requests
  sockets : after.sockets.map Socket.id = before.sockets.map Socket.id
  reconnects : after.reconnects = before.reconnects
  status : after.status = before.status
  socket : after.socket = before.socket
  reconnectTimer : after.reconnectTimer = before.reconnectTimer
  closeCode : after.closeCode = before.closeCode
  destroyed : after.destroyed = before.destroyed

private theorem Keeps.refl (provider : CollabProvider) : Keeps provider provider :=
  ⟨rfl, rfl, rfl, rfl, rfl, rfl, rfl, rfl⟩

private theorem Keeps.trans {first second third : CollabProvider} (front : Keeps first second)
    (back : Keeps second third) : Keeps first third where
  requests := back.requests.trans front.requests
  sockets := back.sockets.trans front.sockets
  reconnects := back.reconnects.trans front.reconnects
  status := back.status.trans front.status
  socket := back.socket.trans front.socket
  reconnectTimer := back.reconnectTimer.trans front.reconnectTimer
  closeCode := back.closeCode.trans front.closeCode
  destroyed := back.destroyed.trans front.destroyed

private theorem Keeps.isOn {before after : CollabProvider} (keeps : Keeps before after) {way : Way}
    (isOn : before.IsOn way) : after.IsOn way := by
  cases way with
  | token =>
      obtain ⟨request, only⟩ := isOn
      exact ⟨request, keeps.requests.trans only⟩
  | socket =>
      obtain ⟨socket, only, current⟩ := isOn
      have ids : after.sockets.map Socket.id = [socket.id] := by
        rw [keeps.sockets, only]
        rfl
      obtain ⟨kept, one, same⟩ := List.map_eq_singleton_iff.mp ids
      exact ⟨kept, one, by rw [keeps.socket, current, same]⟩
  | reconnect =>
      obtain ⟨timer, only, armed⟩ := isOn
      exact ⟨timer, keeps.reconnects.trans only, keeps.reconnectTimer.trans armed⟩
  | rejected =>
      obtain ⟨status, code, closed, terminal⟩ := isOn
      exact ⟨keeps.status.trans status, code, keeps.closeCode.trans closed, terminal⟩

private theorem Keeps.noSockets {before after : CollabProvider} (keeps : Keeps before after)
    (none : before.sockets = []) : after.sockets = [] := by
  have ids := keeps.sockets
  rw [none] at ids
  exact List.map_eq_nil_iff.mp ids

private theorem Keeps.isOff {before after : CollabProvider} (keeps : Keeps before after) {way : Way}
    (isOff : before.IsOff way) : after.IsOff way := by
  cases way with
  | token => exact keeps.requests.trans isOff
  | socket => exact keeps.noSockets isOff
  | reconnect => exact keeps.reconnects.trans isOff
  | rejected => exact fun rejected => isOff (keeps.status.symm.trans rejected)

theorem Keeps.onlyWay {before after : CollabProvider} (keeps : Keeps before after) {way : Way}
    (only : OnlyWay before way) : OnlyWay after way where
  alive := keeps.destroyed.trans only.alive
  isOn := keeps.isOn only.isOn
  isOff other different := keeps.isOff (only.isOff other different)
  connected connected := only.connected (keeps.status.symm.trans connected)

private theorem map_id_map_of_id {change : Socket → Socket}
    (same : ∀ socket, (change socket).id = socket.id) (sockets : List Socket) :
    (sockets.map change).map Socket.id = sockets.map Socket.id := by
  rw [List.map_map]
  exact List.map_congr_left fun socket _ => same socket

theorem keeps_send (provider : CollabProvider) (message : Message) :
    Keeps provider (provider.send message) :=
  ⟨rfl, map_id_map_of_id (fun socket => by split <;> rfl) _, rfl, rfl, rfl, rfl, rfl, rfl⟩

theorem keeps_closeSocket (provider : CollabProvider) (id : ℕ) :
    Keeps provider (provider.closeSocket id) :=
  ⟨rfl, map_id_map_of_id (fun socket => by split <;> rfl) _, rfl, rfl, rfl, rfl, rfl, rfl⟩

theorem keeps_markOpen (provider : CollabProvider) (id : ℕ) :
    Keeps provider (provider.markOpen id) :=
  ⟨rfl, map_id_map_of_id (fun socket => by split <;> rfl) _, rfl, rfl, rfl, rfl, rfl, rfl⟩

private theorem keeps_closeCurrent (provider : CollabProvider) :
    Keeps provider provider.closeCurrent := by
  unfold closeCurrent
  split
  · exact .refl provider
  · exact keeps_closeSocket provider _

theorem reconnects_arm (provider : CollabProvider) {kind : TimerKind} (other : kind ≠ .reconnect)
    (delay : ℚ) : (provider.arm kind delay).reconnects = provider.reconnects := by
  show (provider.timers ++ [_]).filter _ = _
  rw [List.filter_append, List.filter_cons_of_neg (by simpa using other), List.filter_nil,
    List.append_nil]
  rfl

private theorem keeps_arm (provider : CollabProvider) {kind : TimerKind} (other : kind ≠ .reconnect)
    (delay : ℚ) : Keeps provider (provider.arm kind delay) :=
  ⟨rfl, rfl, reconnects_arm provider other delay, rfl, rfl, rfl, rfl, rfl⟩

/-- A timer of another kind that is no longer armed. -/
theorem filter_kind_erase (timers : List Timer) {timer : Timer} {kind : TimerKind}
    (other : timer.kind ≠ kind) : (timers.erase timer).filter (fun armed => armed.kind = kind) =
      timers.filter fun armed => armed.kind = kind := by
  rw [← List.erase_filter]
  refine List.erase_of_not_mem fun member => ?_
  have same := (List.mem_filter.mp member).2
  exact other (of_decide_eq_true same)

/-- A timer of another kind that is armed again. -/
theorem filter_kind_rearm (timers : List Timer) {timer : Timer} {kind : TimerKind}
    (other : timer.kind ≠ kind) (interval : ℚ) : (timers.map fun armed =>
      if armed = timer then { armed with due := armed.due + interval } else armed).filter
        (fun armed => armed.kind = kind) = timers.filter fun armed => armed.kind = kind := by
  induction timers with
  | nil => rfl
  | cons armed rest inductionHypothesis =>
      rw [List.map_cons, List.filter_cons, List.filter_cons, inductionHypothesis]
      by_cases same : armed = timer
      · subst same
        simp [other]
      · simp [same]

/-- A timer of another kind that fires. -/
theorem keeps_expire (provider : CollabProvider) {timer : Timer}
    (other : timer.kind ≠ .reconnect) : Keeps provider (provider.expire timer) :=
  ⟨rfl, rfl, filter_kind_erase provider.timers other, rfl, rfl, rfl, rfl, rfl⟩

theorem keeps_rearm (provider : CollabProvider) {timer : Timer} (other : timer.kind ≠ .reconnect)
    (interval : ℚ) : Keeps provider (provider.rearm timer interval) :=
  ⟨rfl, rfl, filter_kind_rearm provider.timers other interval, rfl, rfl, rfl, rfl, rfl⟩

theorem keeps_startPinging (provider : CollabProvider) : Keeps provider provider.startPinging :=
  ⟨rfl, rfl, reconnects_arm provider (by decide) _, rfl, rfl, rfl, rfl, rfl⟩

theorem keeps_startAnnouncing (provider : CollabProvider) :
    Keeps provider provider.startAnnouncing :=
  ⟨rfl, rfl, reconnects_arm provider (by decide) _, rfl, rfl, rfl, rfl, rfl⟩

/-! ### The status and the timers -/

@[simp] theorem status_setStatus (provider : CollabProvider) (status : ConnectionStatus) :
    (provider.setStatus status).status = status := by
  unfold setStatus
  split
  · next same => exact same
  · rfl

/-- Only the status changes, among what a way depends on. -/
theorem keeps_setStatus (provider : CollabProvider) (status : ConnectionStatus) :
    Keeps { provider with status := status } (provider.setStatus status) := by
  unfold setStatus
  split
  · next same =>
      subst same
      exact .refl provider
  · exact ⟨rfl, rfl, rfl, rfl, rfl, rfl, rfl, rfl⟩

/-- Clearing timers arms none. -/
theorem reconnects_clear (provider : CollabProvider) (timer : Option ℕ)
    (none : provider.reconnects = []) : (provider.clear timer).reconnects = [] := by
  cases timer with
  | none => exact none
  | some id =>
      show (provider.timers.filter _).filter _ = []
      rw [List.filter_comm]
      show provider.reconnects.filter _ = []
      rw [none, List.filter_nil]

private theorem keeps_clear (provider : CollabProvider) (timer : Option ℕ)
    (none : provider.reconnects = []) : Keeps provider (provider.clear timer) := by
  have reconnects := reconnects_clear provider timer none
  cases timer with
  | none => exact .refl provider
  | some id => exact ⟨rfl, rfl, reconnects.trans none.symm, rfl, rfl, rfl, rfl, rfl⟩

/-- The fields are forgotten with the timers. -/
theorem keeps_clearTimers (provider : CollabProvider) (none : provider.reconnects = []) :
    Keeps { provider with reconnectTimer := Option.none } provider.clearTimers := by
  have first := keeps_clear provider provider.pingTimer none
  have second := keeps_clear _ provider.pongTimer (first.reconnects.trans none)
  have upToSecond := first.trans second
  have third := keeps_clear _ provider.awarenessTimer (upToSecond.reconnects.trans none)
  have upToThird := upToSecond.trans third
  have fourth := keeps_clear _ provider.stableTimer (upToThird.reconnects.trans none)
  have upToFourth := upToThird.trans fourth
  have fifth := keeps_clear _ provider.reconnectTimer (upToFourth.reconnects.trans none)
  have all := upToFourth.trans fifth
  exact ⟨all.requests, all.sockets, all.reconnects, all.status, all.socket, rfl, all.closeCode,
    all.destroyed⟩

/-! ### How a provider changes its way -/

/-- A provider that has nothing left to wait for, and no status that lasts. -/
structure Idle (provider : CollabProvider) : Prop where
  requests : provider.requests = []
  sockets : provider.sockets = []
  reconnects : provider.reconnects = []
  destroyed : provider.destroyed = false

private theorem Keeps.idle {before after : CollabProvider} (keeps : Keeps before after)
    (idle : Idle before) : Idle after :=
  ⟨keeps.requests.trans idle.requests, keeps.noSockets idle.sockets,
    keeps.reconnects.trans idle.reconnects, keeps.destroyed.trans idle.destroyed⟩

/-- A new status leaves a provider idle. -/
theorem idle_setStatus {provider : CollabProvider} (idle : Idle provider)
    (status : ConnectionStatus) : Idle (provider.setStatus status) :=
  (keeps_setStatus provider status).idle
    ⟨idle.requests, idle.sockets, idle.reconnects, idle.destroyed⟩

/-- `connect` waits for a token. -/
theorem onlyWay_connect {provider : CollabProvider} (idle : Idle provider) :
    OnlyWay provider.connect .token := by
  have connecting := idle_setStatus idle .connecting
  have connects : provider.connect = { provider.setStatus .connecting with
      requests := provider.requests ++ [⟨provider.fresh, provider.refreshToken⟩]
      fresh := provider.fresh + 1 } := if_neg (by simp [idle.destroyed])
  rw [connects]
  refine ⟨connecting.destroyed, ⟨⟨provider.fresh, provider.refreshToken⟩, ?_⟩,
    fun other different => ?_, ?_⟩
  · show provider.requests ++ [_] = _
    rw [idle.requests]
    rfl
  · cases other with
    | token => exact absurd rfl different
    | socket => exact connecting.sockets
    | reconnect => exact connecting.reconnects
    | rejected =>
        show (provider.setStatus .connecting).status ≠ .rejected
        rw [status_setStatus]
        decide
  · show (provider.setStatus .connecting).status = .connected → _
    rw [status_setStatus]
    intro connected
    cases connected

/-- `scheduleReconnect` waits for its timer. -/
theorem onlyWay_scheduleReconnect {provider : CollabProvider} (idle : Idle provider)
    (offline : provider.status = .offline) (jitter : ℚ) :
    OnlyWay (provider.scheduleReconnect jitter) .reconnect := by
  refine ⟨idle.destroyed,
    ⟨⟨provider.fresh, .reconnect, provider.now + backoff provider.attempt jitter⟩, ?_, rfl⟩,
    fun other different => ?_, fun connected => ?_⟩
  · show (provider.timers ++ [_]).filter _ = _
    rw [List.filter_append]
    show provider.reconnects ++ _ = _
    rw [idle.reconnects]
    rfl
  · cases other with
    | token => exact idle.requests
    | socket => exact idle.sockets
    | reconnect => exact absurd rfl different
    | rejected =>
        show provider.status ≠ .rejected
        rw [offline]
        decide
  · have isConnected : provider.status = .connected := connected
    rw [offline] at isConnected
    cases isConnected

theorem onlyWay_goOffline {provider : CollabProvider} (idle : Idle provider) (jitter : ℚ) :
    OnlyWay ((provider.setStatus .offline).scheduleReconnect jitter) .reconnect :=
  onlyWay_scheduleReconnect (idle_setStatus idle .offline) (status_setStatus _ _) jitter

/-- A token leads to a socket. -/
theorem onlyWay_onToken {provider : CollabProvider} (idle : Idle provider)
    (status : provider.status ≠ .rejected) (token : JsString) :
    OnlyWay (provider.onToken token) .socket := by
  have constructs : provider.onToken token = { provider with
      refreshToken := false
      sockets := provider.sockets ++ [⟨provider.fresh, token, .connecting, []⟩]
      socket := some provider.fresh
      fresh := provider.fresh + 1 } := if_neg (by simp [idle.destroyed])
  rw [constructs]
  refine ⟨idle.destroyed, ⟨⟨provider.fresh, token, .connecting, []⟩, ?_, rfl⟩,
    fun other different => ?_, fun _ => rfl⟩
  · show provider.sockets ++ [_] = _
    rw [idle.sockets]
    rfl
  · cases other with
    | token => exact idle.requests
    | socket => exact absurd rfl different
    | reconnect => exact idle.reconnects
    | rejected => exact status

/-- A terminal close code ends it. -/
theorem onlyWay_reject {provider : CollabProvider} (idle : Idle provider) {code : ℕ}
    (closed : provider.closeCode = some code) (terminal : isTerminalCloseCode code = true) :
    OnlyWay (provider.setStatus .rejected) .rejected := by
  have idleAfter := idle_setStatus idle .rejected
  have kept := (keeps_setStatus provider .rejected).closeCode
  refine ⟨idleAfter.destroyed, ⟨status_setStatus _ _, code, kept.trans closed, terminal⟩,
    fun other different => ?_, fun connected => ?_⟩
  · cases other with
    | token => exact idleAfter.requests
    | socket => exact idleAfter.sockets
    | reconnect => exact idleAfter.reconnects
    | rejected => exact absurd rfl different
  · rw [status_setStatus] at connected
    cases connected

theorem idle_clearTimers {provider : CollabProvider} (idle : Idle provider) :
    Idle provider.clearTimers :=
  (keeps_clearTimers provider idle.reconnects).idle
    ⟨idle.requests, idle.sockets, idle.reconnects, idle.destroyed⟩

/-- The end of a socket leads to a rejection or to a reconnect. -/
theorem onlyWay_onClose {provider : CollabProvider} (idle : Idle provider) {code : ℕ}
    (closed : provider.closeCode = some code) (jitter : ℚ) :
    ∃ way, OnlyWay (provider.onClose code jitter) way := by
  have timers := idle_clearTimers idle
  have kept : provider.clearTimers.closeCode = some code :=
    (keeps_clearTimers provider idle.reconnects).closeCode.trans closed
  unfold onClose
  rw [if_neg (by simp [timers.destroyed])]
  by_cases terminal : isTerminalCloseCode code = true
  · rw [if_pos terminal]
    exact ⟨.rejected, onlyWay_reject ⟨timers.requests, timers.sockets, timers.reconnects,
      timers.destroyed⟩ kept terminal⟩
  · rw [if_neg terminal]
    refine ⟨.reconnect, onlyWay_goOffline ?_ jitter⟩
    split
    · exact ⟨timers.requests, timers.sockets, timers.reconnects, timers.destroyed⟩
    · exact ⟨timers.requests, timers.sockets, timers.reconnects, timers.destroyed⟩

/-! ### Sockets that are open -/

/-- A socket opens: the provider stays with it. -/
theorem onlyWay_onOpen {provider : CollabProvider} (only : OnlyWay provider .socket)
    (token : JsString) (step1 : List UInt8) (presence : Option (List UInt8)) :
    OnlyWay (provider.onOpen token step1 presence) .socket := by
  have watched : Keeps provider
      { provider.arm .stable CONNECTION_STABLE_MS with stableTimer := some provider.fresh } :=
    ⟨rfl, rfl, reconnects_arm provider (by decide) _, rfl, rfl, rfl, rfl, rfl⟩
  have before := watched.onlyWay only
  unfold onOpen
  generalize ({ provider.arm .stable CONNECTION_STABLE_MS with
    stableTimer := some provider.fresh } : CollabProvider) = started at before
  -- The status is `connected` from here on.
  have connected : OnlyWay (started.setStatus .connected) .socket := by
    refine (keeps_setStatus started .connected).onlyWay
      ⟨before.alive, before.isOn, fun other different => ?_, fun _ => rfl⟩
    cases other with
    | rejected => exact fun rejected => nomatch rejected
    | token => exact before.isOff .token different
    | socket => exact before.isOff .socket different
    | reconnect => exact before.isOff .reconnect different
  have greeted := (keeps_send (started.setStatus .connected) (.auth token)).trans
    (keeps_send _ (.sync step1))
  have watching : ∀ {announced : CollabProvider}, Keeps (started.setStatus .connected) announced →
      OnlyWay announced.startPinging.startAnnouncing .socket := fun announced =>
    ((announced.trans (keeps_startPinging _)).trans (keeps_startAnnouncing _)).onlyWay connected
  cases presence with
  | none => exact watching greeted
  | some payload => exact watching (greeted.trans (keeps_send _ (.awareness payload)))

private theorem onlyWay_onFrame {provider : CollabProvider} (only : OnlyWay provider .socket)
    (frame : List UInt8) (reply : Option (List UInt8)) :
    OnlyWay (provider.onFrame frame reply) .socket := by
  unfold onFrame
  split
  · cases reply with
    | none => exact only
    | some payload => exact (keeps_send provider (.sync payload)).onlyWay only
  · have keeps := keeps_clear provider provider.pongTimer (only.isOff .reconnect (by decide))
    have forgotten : Keeps provider
        { provider.clear provider.pongTimer with pongTimer := none } :=
      ⟨keeps.requests, keeps.sockets, keeps.reconnects, keeps.status, keeps.socket,
        keeps.reconnectTimer, keeps.closeCode, keeps.destroyed⟩
    exact forgotten.onlyWay only
  · exact only

/-! ### Timers -/

/-- Every timer but the reconnect timer leaves the way as it is. -/
theorem keeps_onTimer (provider : CollabProvider) {timer : Timer}
    (other : timer.kind ≠ .reconnect) (presence : Option (List UInt8)) :
    Keeps provider (provider.onTimer timer presence) := by
  have expired := keeps_expire provider other
  have rearmed := keeps_rearm provider other
  unfold onTimer
  split
  · next kind => exact absurd kind other
  · have pinged := (rearmed PING_INTERVAL_MS).trans (keeps_send _ .ping)
    dsimp only
    split
    · exact rearmed PING_INTERVAL_MS
    · have armed := pinged.trans (keeps_arm _ (show TimerKind.pong ≠ .reconnect by decide)
        PONG_TIMEOUT_MS)
      exact ⟨armed.requests, armed.sockets, armed.reconnects, armed.status, armed.socket,
        armed.reconnectTimer, armed.closeCode, armed.destroyed⟩
  · exact expired.trans (keeps_closeCurrent _)
  · cases presence with
    | none => exact rearmed AWARENESS_REFRESH_MS
    | some payload => exact (rearmed AWARENESS_REFRESH_MS).trans (keeps_send _ (.awareness payload))
  · exact ⟨expired.requests, expired.sockets, expired.reconnects, expired.status, expired.socket,
      expired.reconnectTimer, expired.closeCode, expired.destroyed⟩

/-! ### One event -/

/-- What a provider has something of is its way. -/
theorem OnlyWay.eq {provider : CollabProvider} {way other : Way} (only : OnlyWay provider way)
    (present : ¬ provider.IsOff other) : way = other := by
  by_contra different
  exact present (only.isOff other (Ne.symm different))

/-- The only element goes when those with its key do. -/
theorem filter_ne_of_any {α : Type} (key : α → ℕ) {items : List α} {id : ℕ}
    (single : ∃ item, items = [item]) (found : ∃ item ∈ items, key item = id) :
    items.filter (fun item => key item ≠ id) = [] := by
  obtain ⟨only, rfl⟩ := single
  obtain ⟨item, member, same⟩ := found
  rw [List.mem_singleton] at member
  subst member
  rw [List.filter_cons_of_neg (by simp [same]), List.filter_nil]

/-- A request that is pending settles, and the provider is left idle. -/
theorem idle_of_settled {provider : CollabProvider} {way : Way} {request : ℕ}
    (only : OnlyWay provider way)
    (found : (provider.requests.any fun pending => pending.id = request) = true) :
    Idle { provider with
      requests := provider.requests.filter fun pending => pending.id ≠ request } ∧
      provider.status ≠ .rejected := by
  have pending : ∃ item ∈ provider.requests, item.id = request := by
    simpa using found
  have isToken : way = .token := only.eq fun none => by
    obtain ⟨item, member, -⟩ := pending
    rw [show provider.requests = [] from none] at member
    cases member
  subst isToken
  exact ⟨⟨filter_ne_of_any TokenRequest.id only.isOn pending, only.isOff .socket (by decide),
    only.isOff .reconnect (by decide), only.alive⟩, only.isOff .rejected (by decide)⟩

theorem mem_of_socketOf {provider : CollabProvider} {id : ℕ} {socket : Socket}
    (found : provider.socketOf id = some socket) : socket ∈ provider.sockets ∧ socket.id = id :=
  ⟨List.mem_of_find?_eq_some found, by simpa using List.find?_some found⟩

theorem OnlyWay.of_socketOf {provider : CollabProvider} {way : Way} {id : ℕ} {socket : Socket}
    (only : OnlyWay provider way) (found : provider.socketOf id = some socket) :
    OnlyWay provider .socket := by
  have isSocket : way = .socket := only.eq fun none => by
    have member := (mem_of_socketOf found).1
    rw [show provider.sockets = [] from none] at member
    cases member
  exact isSocket ▸ only

/-- The socket of a provider ends, and the provider is left idle. -/
theorem idle_of_closed {provider : CollabProvider} {id : ℕ} {socket : Socket}
    (only : OnlyWay provider .socket) (found : provider.socketOf id = some socket) (code : ℕ) :
    Idle { provider with
      sockets := provider.sockets.filter fun socket => socket.id ≠ id
      closeCode := some code } := by
  obtain ⟨current, one, -⟩ := only.isOn
  exact ⟨only.isOff .token (by decide),
    filter_ne_of_any Socket.id ⟨current, one⟩ ⟨socket, mem_of_socketOf found⟩,
    only.isOff .reconnect (by decide), only.alive⟩

/-- The reconnect timer fires, and the provider is left idle. -/
theorem idle_of_expired {provider : CollabProvider} {way : Way} {timer : Timer}
    (only : OnlyWay provider way) (member : timer ∈ provider.timers)
    (kind : timer.kind = .reconnect) : Idle (provider.expire timer) := by
  have armed : timer ∈ provider.reconnects := List.mem_filter.mpr ⟨member, decide_eq_true kind⟩
  have isReconnect : way = .reconnect := only.eq fun none => by
    rw [show provider.reconnects = [] from none] at armed
    cases armed
  subst isReconnect
  obtain ⟨single, one, -⟩ := only.isOn
  refine ⟨only.isOff .token (by decide), only.isOff .socket (by decide), ?_, only.alive⟩
  show (provider.timers.erase timer).filter _ = []
  rw [← List.erase_filter]
  show provider.reconnects.erase timer = []
  rw [one, List.mem_singleton] at armed
  rw [one, armed, List.erase_cons_head]

/-- An event other than `destroy` takes a provider from one way to one way. -/
theorem onlyWay_step {provider after : CollabProvider} {event : ProviderEvent} {way : Way}
    (notDestroy : event ≠ .destroy) (only : OnlyWay provider way)
    (stepped : provider.step event = some after) : ∃ next, OnlyWay after next := by
  cases moved_of_step stepped with
  | tokenResolved request token found =>
      obtain ⟨idle, status⟩ := idle_of_settled only found
      exact ⟨.socket, onlyWay_onToken idle status token⟩
  | tokenRejected request jitter found nonnegative belowOne =>
      exact ⟨.reconnect, onlyWay_goOffline (idle_of_settled only found).1 jitter⟩
  | opened id step1 presence socket found connecting =>
      have opened := (keeps_markOpen provider id).onlyWay (only.of_socketOf found)
      exact ⟨.socket, onlyWay_onOpen opened socket.token step1 presence⟩
  | errored id =>
      exact ⟨way, (keeps_closeSocket provider id).onlyWay only⟩
  | closing id =>
      exact ⟨way, (keeps_closeSocket provider id).onlyWay only⟩
  | closed id code jitter socket found nonnegative belowOne =>
      exact onlyWay_onClose (idle_of_closed (only.of_socketOf found) found code) rfl jitter
  | message id frame reply socket found isOpen =>
      exact ⟨.socket, onlyWay_onFrame (only.of_socketOf found) frame reply⟩
  | fires id presence timer found due =>
      by_cases kind : timer.kind = .reconnect
      · have idle := idle_of_expired only (List.mem_of_find?_eq_some found) kind
        rw [onTimer_reconnect provider kind]
        exact ⟨.token, onlyWay_connect idle⟩
      · exact ⟨way, (keeps_onTimer provider kind presence).onlyWay only⟩
  | docUpdate payload =>
      rw [if_neg (by simp [only.alive])]
      exact ⟨way, (keeps_send provider (.sync payload)).onlyWay only⟩
  | awarenessUpdate payload =>
      rw [if_neg (by simp [only.alive])]
      exact ⟨way, (keeps_send provider (.awareness payload)).onlyWay only⟩
  | elapses milliseconds forward =>
      have keeps : Keeps provider { provider with now := provider.now + milliseconds } :=
        ⟨rfl, rfl, rfl, rfl, rfl, rfl, rfl, rfl⟩
      exact ⟨way, keeps.onlyWay only⟩
  | destroy => exact absurd rfl notDestroy

/-! ### Every run -/

theorem onlyWay_new : OnlyWay new .token :=
  onlyWay_connect ⟨rfl, rfl, rfl, rfl⟩

/-- In every run without `destroy` a provider is on exactly one way forward, and
it is connected only while it has a socket. -/
theorem one_way_forward {provider : CollabProvider}
    (reached : ReachedWhen step (fun _ event => event ≠ .destroy) (· = new) provider) :
    ∃ way, OnlyWay provider way := by
  refine ReachedWhen.invariant (fun provider => ∃ way, OnlyWay provider way) ?_ ?_ reached
  · rintro provider rfl
    exact ⟨.token, onlyWay_new⟩
  · rintro provider event after ⟨way, only⟩ notDestroy stepped
    exact onlyWay_step notDestroy only stepped

/-- A socket opens and is lost. -/
def dropped : List ProviderEvent :=
  [.tokenResolved 0 [], .opened 1 [0] none, .errored 1, .closed 1 1006 0]

theorem one_way_forward_dropped :
    ∃ way, OnlyWay ((runWhen step (fun _ event => event ≠ .destroy) new dropped).getD new) way :=
  one_way_forward (reachedWhen_getD new dropped new (by decide))

end CollabProvider

end CollabEditor.Web
