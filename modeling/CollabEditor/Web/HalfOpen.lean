import CollabEditor.Web.TimerIds
import Mathlib.Algebra.Order.Field.Rat
import Mathlib.Tactic.Linarith

/-!
Owns the probe of a `CollabProvider`: how long a socket stays open from which no
pong comes, and that one which is answered in time is not closed for it. Time
passes as far as the window lets it before it runs a timer that is due.
-/

set_option autoImplicit false

namespace CollabEditor.Web

open CollabEditor.Library CollabEditor.Protocol

namespace CollabProvider

/-- The current socket is open. -/
def IsOpen (provider : CollabProvider) : Prop :=
  ∃ socket ∈ provider.sockets, socket.readyState = .isOpen

/-! ### What leaves the probe alone -/

/-- The timers of the probe are the same, and no socket opens. -/
structure Calm (before after : CollabProvider) : Prop where
  timers : ∀ timer : Timer, timer.kind = .ping ∨ timer.kind = .pong →
    (timer ∈ after.timers ↔ timer ∈ before.timers)
  pongTimer : after.pongTimer = before.pongTimer
  now : after.now = before.now
  isOpen : after.IsOpen → before.IsOpen
  past : before.PastConnecting → after.PastConnecting

private theorem Calm.refl (provider : CollabProvider) : Calm provider provider :=
  ⟨fun _ _ => Iff.rfl, rfl, rfl, id, id⟩

private theorem Calm.trans {first second third : CollabProvider} (front : Calm first second)
    (back : Calm second third) : Calm first third where
  timers timer probes := (back.timers timer probes).trans (front.timers timer probes)
  pongTimer := back.pongTimer.trans front.pongTimer
  now := back.now.trans front.now
  isOpen := front.isOpen ∘ back.isOpen
  past := back.past ∘ front.past

private theorem calm_send (provider : CollabProvider) (message : Message) :
    Calm provider (provider.send message) := by
  have keeps := keepsTimers_send provider message
  refine ⟨fun timer _ => Iff.rfl, rfl, rfl, fun isOpen => ?_, keeps.past⟩
  obtain ⟨socket, member, state⟩ := isOpen
  obtain ⟨earlier, among, same⟩ := List.mem_map.mp member
  refine ⟨earlier, among, ?_⟩
  rw [← state, ← same]
  split
  · rfl
  · rfl

private theorem calm_closeSocket (provider : CollabProvider) (id : ℕ) :
    Calm provider (provider.closeSocket id) := by
  have keeps := keepsTimers_closeSocket provider id
  refine ⟨fun timer _ => Iff.rfl, rfl, rfl, fun isOpen => ?_, keeps.past⟩
  obtain ⟨socket, member, state⟩ := isOpen
  obtain ⟨earlier, among, same⟩ := List.mem_map.mp member
  refine ⟨earlier, among, ?_⟩
  rw [← same] at state
  split at state
  · simp at state
  · exact state

private theorem calm_setStatus (provider : CollabProvider) (status : ConnectionStatus) :
    Calm provider (provider.setStatus status) := by
  unfold setStatus
  split
  · exact .refl provider
  · exact ⟨fun _ _ => Iff.rfl, rfl, rfl, id, id⟩

/-- A timer that is no probe is armed. -/
theorem calm_arm (provider : CollabProvider) {kind : TimerKind} (notPing : kind ≠ .ping)
    (notPong : kind ≠ .pong) (delay : ℚ) : Calm provider (provider.arm kind delay) := by
  refine ⟨fun timer probes => ?_, rfl, rfl, id, id⟩
  show timer ∈ provider.timers ++ [_] ↔ _
  rw [List.mem_append, List.mem_singleton]
  constructor
  · intro either
    apply either.resolve_right
    intro same
    rw [same] at probes
    exact probes.elim notPing notPong
  · exact Or.inl

private theorem calm_expire (provider : CollabProvider) {timer : Timer}
    (notPing : timer.kind ≠ .ping)
    (notPong : timer.kind ≠ .pong) : Calm provider (provider.expire timer) := by
  refine ⟨fun other probes => ?_, rfl, rfl, id, id⟩
  apply List.mem_erase_of_ne
  intro same
  rw [same] at probes
  exact probes.elim notPing notPong

private theorem calm_rearm (provider : CollabProvider) {timer : Timer}
    (notPing : timer.kind ≠ .ping) (notPong : timer.kind ≠ .pong) (interval : ℚ) :
    Calm provider (provider.rearm timer interval) := by
  refine ⟨fun other probes => ?_, rfl, rfl, id, id⟩
  show other ∈ provider.timers.map _ ↔ _
  constructor
  · intro member
    obtain ⟨earlier, among, same⟩ := List.mem_map.mp member
    split at same
    · next isTimer =>
        rw [← same, isTimer] at probes
        exact (probes.elim notPing notPong).elim
    · exact same ▸ among
  · intro member
    apply List.mem_map.mpr
    refine ⟨other, member, if_neg fun same => ?_⟩
    rw [same] at probes
    exact probes.elim notPing notPong

theorem calm_connect (provider : CollabProvider) : Calm provider provider.connect := by
  unfold connect
  split
  · exact .refl provider
  · have connecting := calm_setStatus provider .connecting
    exact ⟨connecting.timers, connecting.pongTimer, connecting.now, connecting.isOpen,
      connecting.past⟩

private theorem calm_scheduleReconnect (provider : CollabProvider) (jitter : ℚ) :
    Calm provider (provider.scheduleReconnect jitter) := by
  have armed := calm_arm provider (show TimerKind.reconnect ≠ .ping by decide)
    (show TimerKind.reconnect ≠ .pong by decide) (backoff provider.attempt jitter)
  exact ⟨armed.timers, armed.pongTimer, armed.now, armed.isOpen, armed.past⟩

private theorem calm_onToken (provider : CollabProvider) (token : JsString) :
    Calm provider (provider.onToken token) := by
  unfold onToken
  dsimp only
  split
  · exact ⟨fun _ _ => Iff.rfl, rfl, rfl, id, id⟩
  · refine ⟨fun _ _ => Iff.rfl, rfl, rfl, fun isOpen => ?_, fun past => ?_⟩
    · obtain ⟨socket, member, state⟩ := isOpen
      cases List.mem_append.mp member with
      | inl among => exact ⟨socket, among, state⟩
      | inr isNew =>
          rw [List.mem_singleton.mp isNew] at state
          simp at state
    · obtain ⟨socket, member, state⟩ := past
      exact ⟨socket, List.mem_append_left _ member, state⟩

/-! ### What ends the probe -/

theorem sockets_setStatus (provider : CollabProvider) (status : ConnectionStatus) :
    (provider.setStatus status).sockets = provider.sockets ∧
      (provider.setStatus status).pongTimer = provider.pongTimer ∧
      (provider.setStatus status).now = provider.now := by
  unfold setStatus
  split
  · exact ⟨rfl, rfl, rfl⟩
  · exact ⟨rfl, rfl, rfl⟩

/-- No pong is awaited of a socket that is gone. -/
theorem quiet_onClose (provider : CollabProvider) (code : ℕ) (jitter : ℚ) :
    (provider.onClose code jitter).sockets = provider.sockets ∧
      (provider.onClose code jitter).pongTimer = none ∧
      (provider.onClose code jitter).now = provider.now := by
  obtain ⟨timers, cleared⟩ := clearTimers_eq provider
  unfold onClose
  rw [cleared]
  dsimp only
  split
  · exact ⟨rfl, rfl, rfl⟩
  · split
    · exact sockets_setStatus _ .rejected
    · split
      · exact sockets_setStatus _ .offline
      · exact sockets_setStatus _ .offline

/-- The only socket is the one that is found. -/
theorem socket_unique {provider : CollabProvider} {way : Way} {id : ℕ} {socket other : Socket}
    (only : OnlyWay provider way) (found : provider.socketOf id = some socket)
    (member : other ∈ provider.sockets) : other = socket := by
  obtain ⟨current, one, -⟩ := (only.of_socketOf found).isOn
  have among := (mem_of_socketOf found).1
  rw [one, List.mem_singleton] at member among
  rw [member, among]

private theorem pongTimer_onOpen (provider : CollabProvider) (token : JsString) (step1 : List UInt8)
    (presence : Option (List UInt8)) :
    (provider.onOpen token step1 presence).pongTimer = provider.pongTimer := by
  unfold onOpen
  generalize watching : ({ provider.arm .stable CONNECTION_STABLE_MS with
    stableTimer := some provider.fresh } : CollabProvider) = watched
  have same : watched.pongTimer = provider.pongTimer := by
    rw [← watching]
    rfl
  have session : ∀ announced, KeepsTimers watched announced →
      announced.startPinging.startAnnouncing.pongTimer = provider.pongTimer := by
    intro announced keeps
    exact (congrFun keeps.timerOf .pong).trans same
  have greeted := ((keepsTimers_setStatus watched .connected).trans
    (keepsTimers_send _ (.auth token))).trans (keepsTimers_send _ (.sync step1))
  cases presence with
  | none => exact session _ greeted
  | some payload => exact session _ (greeted.trans (keepsTimers_send _ (.awareness payload)))

/-- A pong timeout closes the only socket there is. -/
theorem not_isOpen_closeCurrent {provider : CollabProvider} {current : Socket}
    (one : provider.sockets = [current]) (isCurrent : provider.socket = some current.id) :
    ¬ provider.closeCurrent.IsOpen := by
  intro isOpen
  obtain ⟨socket, member, state⟩ := isOpen
  have closed : provider.closeCurrent.sockets = [{ current with readyState := .closing }] := by
    unfold closeCurrent
    rw [isCurrent]
    simp [closeSocket, one]
  rw [closed, List.mem_singleton] at member
  rw [member] at state
  simp at state

end CollabProvider

/-! ### A provider that is watched -/

/-- A provider, with the time of the last pong or of the opening of its socket. -/
structure Prober where
  provider : CollabProvider
  heard : ℚ

namespace Prober

def new : Prober := ⟨.new, 0⟩

/-- The event is the opening of a socket, or a pong. -/
def hears : ProviderEvent → Bool
  | .opened _ _ _ => true
  | .message _ frame _ => decodeMessage frame = some .pong
  | _ => false

def step (prober : Prober) (event : ProviderEvent) : Option Prober :=
  (prober.provider.step event).map fun provider =>
    ⟨provider, if hears event then prober.provider.now else prober.heard⟩

/-- The window runs the timers of the probe at most `late` after they are due. -/
def punctual (late : ℚ) (prober : Prober) : ProviderEvent → Bool
  | .elapses milliseconds => prober.provider.timers.all fun timer =>
      (timer.kind ≠ .ping && timer.kind ≠ .pong) ||
        prober.provider.now + milliseconds ≤ timer.due + late
  | _ => true

/-- What is due, and when, while a provider probes its socket. -/
structure Watches (late : ℚ) (prober : Prober) : Prop where
  heard : prober.heard ≤ prober.provider.now
  /-- A ping is due within an interval. -/
  ping : ∀ timer ∈ prober.provider.timers, timer.kind = .ping →
    timer.due ≤ prober.provider.now + 20000
  /-- The pong that is awaited has been so since the peer was last heard of. -/
  pong : ∀ timer ∈ prober.provider.timers, timer.kind = .pong → prober.heard + 10000 ≤ timer.due
  onTime : ∀ timer ∈ prober.provider.timers, timer.kind = .ping ∨ timer.kind = .pong →
    prober.provider.now ≤ timer.due + late
  /-- An open socket is probed. -/
  pings : prober.provider.IsOpen → ∃ timer ∈ prober.provider.timers, timer.kind = .ping
  idle : prober.provider.IsOpen → prober.provider.pongTimer = none →
    ∀ timer ∈ prober.provider.timers, timer.kind = .ping → timer.due ≤ prober.heard + 20000
  awaits : prober.provider.IsOpen → prober.provider.pongTimer ≠ none →
    ∃ timer ∈ prober.provider.timers, timer.kind = .pong
  bounded : prober.provider.IsOpen → ∀ timer ∈ prober.provider.timers, timer.kind = .pong →
    timer.due ≤ prober.heard + 30000 + late
  past : prober.provider.pongTimer ≠ none → prober.provider.PastConnecting

variable {late : ℚ} {prober : Prober}

open CollabProvider

/-- What a watched provider promises of an open socket. -/
theorem Watches.silence (watches : prober.Watches late) (nonnegative : 0 ≤ late)
    (isOpen : prober.provider.IsOpen) :
    prober.provider.now ≤ prober.heard + 30000 + 2 * late := by
  by_cases free : prober.provider.pongTimer = none
  · obtain ⟨timer, member, kind⟩ := watches.pings isOpen
    have due := watches.idle isOpen free timer member kind
    have soon := watches.onTime timer member (Or.inl kind)
    linarith
  · obtain ⟨timer, member, kind⟩ := watches.awaits isOpen free
    have due := watches.bounded isOpen timer member kind
    have soon := watches.onTime timer member (Or.inr kind)
    linarith

private theorem Watches.calm (watches : prober.Watches late) {after : CollabProvider}
    (calm : Calm prober.provider after) : Watches late ⟨after, prober.heard⟩ where
  heard := by
    rw [calm.now]
    exact watches.heard
  ping timer member kind := by
    rw [calm.now]
    exact watches.ping timer ((calm.timers timer (Or.inl kind)).mp member) kind
  pong timer member kind :=
    watches.pong timer ((calm.timers timer (Or.inr kind)).mp member) kind
  onTime timer member probes := by
    rw [calm.now]
    exact watches.onTime timer ((calm.timers timer probes).mp member) probes
  pings isOpen := by
    obtain ⟨timer, member, kind⟩ := watches.pings (calm.isOpen isOpen)
    exact ⟨timer, (calm.timers timer (Or.inl kind)).mpr member, kind⟩
  idle isOpen free timer member kind :=
    watches.idle (calm.isOpen isOpen) (calm.pongTimer ▸ free) timer
      ((calm.timers timer (Or.inl kind)).mp member) kind
  awaits isOpen waiting := by
    obtain ⟨timer, member, kind⟩ := watches.awaits (calm.isOpen isOpen) (calm.pongTimer ▸ waiting)
    exact ⟨timer, (calm.timers timer (Or.inr kind)).mpr member, kind⟩
  bounded isOpen timer member kind :=
    watches.bounded (calm.isOpen isOpen) timer ((calm.timers timer (Or.inr kind)).mp member) kind
  past waiting := calm.past (watches.past (calm.pongTimer ▸ waiting))

private theorem watches_opened (watches : prober.Watches late) (nonnegative : 0 ≤ late) {way : Way}
    (only : OnlyWay prober.provider way) (tidy : prober.provider.Tidy) {id : ℕ} {socket : Socket}
    (found : prober.provider.socketOf id = some socket)
    (connecting : socket.readyState = .connecting) (step1 : List UInt8)
    (presence : Option (List UInt8)) :
    Watches late ⟨(prober.provider.markOpen id).onOpen socket.token step1 presence,
      prober.provider.now⟩ := by
  have none := noTimers_of_connecting only tidy found connecting
  have marked : (prober.provider.markOpen id).timers = [] := none
  have arms := armsSession_onOpen (prober.provider.markOpen id) socket.token step1 presence
  have free : prober.provider.pongTimer = .none := by
    by_contra waiting
    obtain ⟨other, member, past⟩ := watches.past waiting
    rw [socket_unique only found member] at past
    exact past connecting
  have stillFree := (pongTimer_onOpen (prober.provider.markOpen id) socket.token step1
    presence).trans free
  have now : ((prober.provider.markOpen id).onOpen socket.token step1 presence).now =
      prober.provider.now := arms.now
  -- the only timer of the probe is the ping that is armed now
  have pings : ∀ timer ∈ ((prober.provider.markOpen id).onOpen socket.token step1
      presence).timers, timer.kind = .ping ∨ timer.kind = .pong →
      timer.kind = .ping ∧ timer.due = prober.provider.now + 20000 := by
    intro timer member probes
    rw [arms.timers, marked] at member
    simp only [List.nil_append, List.mem_cons, List.not_mem_nil, or_false] at member
    rcases member with same | same | same
    · simp [same] at probes
    · rw [same]
      exact ⟨rfl, rfl⟩
    · simp [same] at probes
  constructor
  case heard => exact now.ge
  case ping =>
    intro timer member kind
    rw [now, (pings timer member (Or.inl kind)).2]
  case pong =>
    intro timer member kind
    have isPing := (pings timer member (Or.inr kind)).1
    simp [kind] at isPing
  case onTime =>
    intro timer member probes
    rw [now, (pings timer member probes).2]
    linarith
  case pings =>
    intro _
    have armed : ⟨(prober.provider.markOpen id).fresh + 1, .ping,
        (prober.provider.markOpen id).now + PING_INTERVAL_MS⟩ ∈
          ((prober.provider.markOpen id).onOpen socket.token step1 presence).timers := by
      rw [arms.timers]
      exact List.mem_append_right _ (List.mem_cons_of_mem _ List.mem_cons_self)
    exact ⟨_, armed, rfl⟩
  case idle =>
    intro _ _ timer member kind
    rw [(pings timer member (Or.inl kind)).2]
  case awaits =>
    intro _ waiting
    exact absurd stillFree waiting
  case bounded =>
    intro _ timer member kind
    have isPing := (pings timer member (Or.inr kind)).1
    simp [kind] at isPing
  case past =>
    intro waiting
    exact absurd stillFree waiting

/-- Without a socket there is nothing to watch. -/
theorem watches_of_noSockets {after : CollabProvider} {heard : ℚ} (none : after.sockets = [])
    (tidy : after.Tidy) (free : after.pongTimer = .none) (before : heard ≤ after.now) :
    Watches late ⟨after, heard⟩ := by
  have kinds := tidy.reconnects none
  have closed : ¬ after.IsOpen := by
    intro isOpen
    obtain ⟨socket, member, -⟩ := isOpen
    rw [none] at member
    exact List.not_mem_nil member
  constructor
  case heard => exact before
  case ping =>
    intro timer member kind
    simp [kinds timer member] at kind
  case pong =>
    intro timer member kind
    simp [kinds timer member] at kind
  case onTime =>
    intro timer member probes
    simp [kinds timer member] at probes
  case pings => exact fun isOpen => absurd isOpen closed
  case idle => exact fun isOpen => absurd isOpen closed
  case awaits => exact fun isOpen => absurd isOpen closed
  case bounded => exact fun isOpen => absurd isOpen closed
  case past => exact fun waiting => absurd free waiting

/-- A pong: no other is awaited until the next ping. -/
theorem watches_pong (watches : prober.Watches late) (tidy : prober.provider.Tidy)
    (named : prober.provider.Named) :
    Watches late ⟨{ prober.provider.clear prober.provider.pongTimer with pongTimer := none },
      prober.provider.now⟩ := by
  obtain ⟨timers, cleared⟩ := clear_eq prober.provider prober.provider.pongTimer
  have fewer : ∀ timer ∈ timers, timer ∈ prober.provider.timers ∧
      prober.provider.pongTimer ≠ some timer.id := by
    intro timer member
    apply mem_clear
    rw [cleared]
    exact member
  have noPong : ∀ timer ∈ timers, timer.kind ≠ .pong := by
    intro timer member kind
    obtain ⟨armed, other⟩ := fewer timer member
    have field := tidy.owned timer armed
    rw [kind] at field
    exact other field
  have keepsPing : ∀ timer ∈ prober.provider.timers, timer.kind = .ping → timer ∈ timers := by
    intro timer member kind
    have field := tidy.owned timer member
    rw [kind] at field
    have remains : timer ∈ (prober.provider.clear prober.provider.pongTimer).timers := by
      cases pong : prober.provider.pongTimer with
      | none => exact member
      | some id =>
          apply List.mem_filter.mpr
          refine ⟨member, decide_eq_true fun same => ?_⟩
          have kinds := named.distinct .ping .pong id (same ▸ field) pong
          simp at kinds
    rw [cleared] at remains
    exact remains
  rw [cleared]
  constructor
  case heard => exact le_rfl
  case ping => exact fun timer member kind => watches.ping timer (fewer timer member).1 kind
  case pong => exact fun timer member kind => absurd kind (noPong timer member)
  case onTime => exact fun timer member probes => watches.onTime timer (fewer timer member).1 probes
  case pings =>
    intro isOpen
    obtain ⟨timer, member, kind⟩ := watches.pings isOpen
    exact ⟨timer, keepsPing timer member kind, kind⟩
  case idle => exact fun _ _ timer member kind => watches.ping timer (fewer timer member).1 kind
  case awaits => exact fun _ waiting => absurd rfl waiting
  case bounded => exact fun _ timer member kind => absurd kind (noPong timer member)
  case past => exact fun waiting => absurd rfl waiting

/-- A timer of the rearmed ones is an old one, or the one that fired. -/
theorem mem_rearm {provider : CollabProvider} {timer other : Timer} {interval : ℚ}
    (member : other ∈ (provider.rearm timer interval).timers) :
    other ∈ provider.timers ∨ other = { timer with due := timer.due + interval } := by
  obtain ⟨earlier, among, same⟩ := List.mem_map.mp member
  split at same
  · next isTimer =>
      right
      rw [← same, isTimer]
  · left
    rwa [← same]

private theorem rearmed_mem {provider : CollabProvider} {timer : Timer}
    (member : timer ∈ provider.timers) (interval : ℚ) :
    { timer with due := timer.due + interval } ∈ (provider.rearm timer interval).timers :=
  List.mem_map.mpr ⟨timer, member, if_pos rfl⟩

/-- The interval fires while a pong is awaited: nothing is sent. -/
theorem watches_rearm (watches : prober.Watches late) {timer : Timer}
    (member : timer ∈ prober.provider.timers) (kind : timer.kind = .ping)
    (due : timer.due ≤ prober.provider.now) (waiting : prober.provider.pongTimer ≠ none) :
    Watches late ⟨prober.provider.rearm timer PING_INTERVAL_MS, prober.heard⟩ := by
  have interval : PING_INTERVAL_MS = 20000 := rfl
  have onTime := watches.onTime timer member (Or.inl kind)
  have later : ∀ other ∈ (prober.provider.rearm timer PING_INTERVAL_MS).timers,
      other ∈ prober.provider.timers ∨ other.kind = .ping ∧ other.due = timer.due + 20000 := by
    intro other among
    apply (mem_rearm among).imp_right
    intro same
    rw [same]
    exact ⟨kind, by rw [interval]⟩
  constructor
  case heard => exact watches.heard
  case ping =>
    intro other among isPing
    rcases later other among with old | ⟨-, again⟩
    · exact watches.ping other old isPing
    · show other.due ≤ prober.provider.now + 20000
      linarith
  case pong =>
    intro other among isPong
    rcases later other among with old | ⟨isPing, -⟩
    · exact watches.pong other old isPong
    · simp [isPong] at isPing
  case onTime =>
    intro other among probes
    rcases later other among with old | ⟨-, again⟩
    · exact watches.onTime other old probes
    · show prober.provider.now ≤ other.due + late
      linarith
  case pings => exact fun _ => ⟨_, rearmed_mem member _, kind⟩
  case idle => exact fun _ free => absurd free waiting
  case awaits =>
    intro isOpen _
    obtain ⟨pong, among, isPong⟩ := watches.awaits isOpen waiting
    refine ⟨pong, List.mem_map.mpr ⟨pong, among, if_neg fun same => ?_⟩, isPong⟩
    rw [same, kind] at isPong
    simp at isPong
  case bounded =>
    intro isOpen other among isPong
    rcases later other among with old | ⟨isPing, -⟩
    · exact watches.bounded isOpen other old isPong
    · simp [isPong] at isPing
  case past => exact watches.past

/-- A ping is sent, and a pong awaited. -/
theorem watches_ping (watches : prober.Watches late) (nonnegative : 0 ≤ late)
    (tidy : prober.provider.Tidy) {timer : Timer} (member : timer ∈ prober.provider.timers)
    (kind : timer.kind = .ping) (due : timer.due ≤ prober.provider.now)
    (free : prober.provider.pongTimer = none) :
    Watches late ⟨{ ((prober.provider.rearm timer PING_INTERVAL_MS).send .ping).arm .pong
      PONG_TIMEOUT_MS with
        pongTimer := some ((prober.provider.rearm timer PING_INTERVAL_MS).send .ping).fresh },
      prober.heard⟩ := by
  have sent := calm_send (prober.provider.rearm timer PING_INTERVAL_MS) .ping
  have heard := watches.heard
  have onTime := watches.onTime timer member (Or.inl kind)
  have noPong : ∀ other ∈ prober.provider.timers, other.kind ≠ .pong := by
    intro other among isPong
    have field := tidy.owned other among
    rw [isPong] at field
    exact nomatch free.symm.trans field
  have past : prober.provider.PastConnecting := tidy.quiet.resolve_right fun reconnects =>
    nomatch kind.symm.trans (reconnects timer member)
  -- the timers that are armed now
  have later : ∀ other ∈ (prober.provider.rearm timer PING_INTERVAL_MS).timers ++
      [⟨prober.provider.fresh, .pong, prober.provider.now + 10000⟩],
      other ∈ prober.provider.timers ∨ other.kind = .ping ∧ other.due = timer.due + 20000 ∨
        other.kind = .pong ∧ other.due = prober.provider.now + 10000 := by
    intro other among
    rcases List.mem_append.mp among with rearmed | isNew
    · apply (mem_rearm rearmed).imp_right
      intro same
      left
      rw [same]
      exact ⟨kind, rfl⟩
    · right
      right
      rw [List.mem_singleton.mp isNew]
      exact ⟨rfl, rfl⟩
  constructor
  case heard => exact heard
  case ping =>
    intro other among isPing
    show other.due ≤ prober.provider.now + 20000
    rcases later other among with old | ⟨-, again⟩ | ⟨isPong, -⟩
    · exact watches.ping other old isPing
    · linarith
    · simp [isPing] at isPong
  case pong =>
    intro other among isPong
    rcases later other among with old | ⟨isPing, -⟩ | ⟨-, awaited⟩
    · exact absurd isPong (noPong other old)
    · simp [isPong] at isPing
    · show prober.heard + 10000 ≤ other.due
      linarith
  case onTime =>
    intro other among probes
    show prober.provider.now ≤ other.due + late
    rcases later other among with old | ⟨-, again⟩ | ⟨-, awaited⟩
    · exact watches.onTime other old probes
    · linarith
    · linarith
  case pings => exact fun _ => ⟨_, List.mem_append_left _ (rearmed_mem member _), kind⟩
  case idle => exact fun _ waiting => nomatch waiting
  case awaits => exact fun _ _ => ⟨_, List.mem_append_right _ (List.mem_singleton_self _), rfl⟩
  case bounded =>
    intro isOpen other among isPong
    rcases later other among with old | ⟨isPing, -⟩ | ⟨-, awaited⟩
    · exact absurd isPong (noPong other old)
    · simp [isPong] at isPing
    · have pinged := watches.idle (sent.isOpen isOpen) free timer member kind
      show other.due ≤ prober.heard + 30000 + late
      linarith
  case past => exact fun _ => sent.past past

/-- No pong has come in time: the socket is closed. -/
theorem watches_timeout (watches : prober.Watches late) {way : Way}
    (only : OnlyWay prober.provider way) (tidy : prober.provider.Tidy) {timer : Timer}
    (member : timer ∈ prober.provider.timers) (kind : timer.kind = .pong) :
    Watches late ⟨(prober.provider.expire timer).closeCurrent, prober.heard⟩ := by
  have past : prober.provider.PastConnecting := tidy.quiet.resolve_right fun reconnects =>
    nomatch kind.symm.trans (reconnects timer member)
  have isSocket : way = .socket := only.eq fun none => by
    obtain ⟨socket, among, -⟩ := past
    rw [show prober.provider.sockets = [] from none] at among
    exact List.not_mem_nil among
  obtain ⟨current, one, isCurrent⟩ := (isSocket ▸ only).isOn
  have closed : ¬ (prober.provider.expire timer).closeCurrent.IsOpen :=
    not_isOpen_closeCurrent one isCurrent
  have keeps := keepsTimers_closeCurrent (prober.provider.expire timer)
  have fewer : ∀ other ∈ (prober.provider.expire timer).closeCurrent.timers,
      other ∈ prober.provider.timers := by
    intro other among
    rw [keeps.timers] at among
    exact List.mem_of_mem_erase among
  have now : (prober.provider.expire timer).closeCurrent.now = prober.provider.now := keeps.now
  have field : (prober.provider.expire timer).closeCurrent.pongTimer = prober.provider.pongTimer :=
    congrFun keeps.timerOf .pong
  constructor
  case heard => exact now ▸ watches.heard
  case ping =>
    intro other among isPing
    rw [now]
    exact watches.ping other (fewer other among) isPing
  case pong => exact fun other among isPong => watches.pong other (fewer other among) isPong
  case onTime =>
    intro other among probes
    rw [now]
    exact watches.onTime other (fewer other among) probes
  case pings => exact fun isOpen => absurd isOpen closed
  case idle => exact fun isOpen => absurd isOpen closed
  case awaits => exact fun isOpen => absurd isOpen closed
  case bounded => exact fun isOpen => absurd isOpen closed
  case past => exact fun waiting => keeps.past (watches.past (field ▸ waiting))

private theorem watches_fires (watches : prober.Watches late) (nonnegative : 0 ≤ late) {way : Way}
    (only : OnlyWay prober.provider way) (tidy : prober.provider.Tidy) {timer : Timer}
    (member : timer ∈ prober.provider.timers) (due : timer.due ≤ prober.provider.now)
    (presence : Option (List UInt8)) :
    Watches late ⟨prober.provider.onTimer timer presence, prober.heard⟩ := by
  unfold onTimer
  split
  · next kind =>
      have expired := calm_expire prober.provider (show timer.kind ≠ .ping by simp [kind])
        (show timer.kind ≠ .pong by simp [kind])
      exact watches.calm (expired.trans (calm_connect _))
  · next kind =>
      dsimp only
      split
      · next waiting =>
          apply watches_rearm watches member kind due
          intro free
          rw [show (prober.provider.rearm timer PING_INTERVAL_MS).pongTimer = none from free]
            at waiting
          simp at waiting
      · next free =>
          exact watches_ping watches nonnegative tidy member kind due
            (Option.not_isSome_iff_eq_none.mp free)
  · next kind => exact watches_timeout watches only tidy member kind
  · next kind =>
      have again := calm_rearm prober.provider (show timer.kind ≠ .ping by simp [kind])
        (show timer.kind ≠ .pong by simp [kind]) AWARENESS_REFRESH_MS
      cases presence with
      | none => exact watches.calm again
      | some payload => exact watches.calm (again.trans (calm_send _ _))
  · next kind =>
      have expired := calm_expire prober.provider (show timer.kind ≠ .ping by simp [kind])
        (show timer.kind ≠ .pong by simp [kind])
      exact watches.calm ⟨expired.timers, expired.pongTimer, expired.now, expired.isOpen,
        expired.past⟩

private theorem watches_message (watches : prober.Watches late) (tidy : prober.provider.Tidy)
    (named : prober.provider.Named) (id : ℕ) (frame : List UInt8) (reply : Option (List UInt8)) :
    Watches late ⟨prober.provider.onFrame frame reply,
      if hears (.message id frame reply) then prober.provider.now else prober.heard⟩ := by
  unfold onFrame
  split
  · next payload decodes =>
      have silent : hears (.message id frame reply) = false := by simp [hears, decodes]
      rw [silent]
      cases reply with
      | none => exact watches
      | some payload => exact watches.calm (calm_send _ _)
  · next decodes =>
      have heard : hears (.message id frame reply) = true := by simp [hears, decodes]
      rw [heard]
      exact watches_pong watches tidy named
  · next notPong =>
      have silent : hears (.message id frame reply) = false := by
        simp only [hears, decide_eq_false_iff_not]
        exact notPong
      rw [silent]
      exact watches

/-- A provider on its way, watched. -/
structure Sound (late : ℚ) (prober : Prober) : Prop where
  way : ∃ way, OnlyWay prober.provider way
  tidy : prober.provider.Tidy
  named : prober.provider.Named
  watches : prober.Watches late

private theorem watches_step {event : ProviderEvent} {after : CollabProvider}
    (sound : prober.Sound late) (nonnegative : 0 ≤ late) (notDestroy : event ≠ .destroy)
    (punctual : prober.punctual late event = true)
    (stepped : prober.provider.step event = some after) :
    Watches late ⟨after, if hears event then prober.provider.now else prober.heard⟩ := by
  obtain ⟨way, only⟩ := sound.way
  have watches := sound.watches
  cases moved_of_step stepped with
  | tokenResolved request token found =>
      apply watches.calm
      have settled : Calm prober.provider { prober.provider with
          requests := prober.provider.requests.filter fun pending => pending.id ≠ request } :=
        ⟨fun _ _ => Iff.rfl, rfl, rfl, id, id⟩
      exact settled.trans (calm_onToken _ token)
  | tokenRejected request jitter found lower upper =>
      apply watches.calm
      have settled : Calm prober.provider { prober.provider with
          requests := prober.provider.requests.filter fun pending => pending.id ≠ request } :=
        ⟨fun _ _ => Iff.rfl, rfl, rfl, id, id⟩
      exact (settled.trans (calm_setStatus _ .offline)).trans (calm_scheduleReconnect _ jitter)
  | opened id step1 presence socket found connecting =>
      exact watches_opened watches nonnegative only sound.tidy found connecting step1 presence
  | errored id => exact watches.calm (calm_closeSocket _ id)
  | closing id => exact watches.calm (calm_closeSocket _ id)
  | closed id code jitter socket found lower upper =>
      have tidy := tidy_step only sound.tidy stepped
      obtain ⟨sockets, free, now⟩ := quiet_onClose { prober.provider with
        sockets := prober.provider.sockets.filter fun socket => socket.id ≠ id
        closeCode := some code } code jitter
      have idle := idle_of_closed (only.of_socketOf found) found code
      apply watches_of_noSockets (sockets.trans idle.sockets) tidy free
      rw [now]
      exact watches.heard
  | message id frame reply socket found isOpen =>
      exact watches_message watches sound.tidy sound.named id frame reply
  | fires id presence timer found due =>
      exact watches_fires watches nonnegative only sound.tidy (List.mem_of_find?_eq_some found) due
        presence
  | docUpdate payload =>
      split
      · exact watches
      · exact watches.calm (calm_send _ _)
  | awarenessUpdate payload =>
      split
      · exact watches
      · exact watches.calm (calm_send _ _)
  | elapses milliseconds forward =>
      constructor
      case heard => exact watches.heard.trans (le_add_of_nonneg_right forward)
      case ping =>
        intro timer member kind
        have due := watches.ping timer member kind
        show timer.due ≤ prober.provider.now + milliseconds + 20000
        linarith
      case pong => exact watches.pong
      case onTime =>
        intro timer member probes
        have waits := List.all_eq_true.mp punctual timer member
        simp only [Bool.or_eq_true, Bool.and_eq_true, decide_eq_true_eq] at waits
        exact waits.resolve_left fun others => probes.elim others.1 others.2
      case pings => exact watches.pings
      case idle => exact watches.idle
      case awaits => exact watches.awaits
      case bounded => exact watches.bounded
      case past => exact watches.past
  | destroy => exact absurd rfl notDestroy

private theorem sound_step {event : ProviderEvent} {after : Prober} (sound : prober.Sound late)
    (nonnegative : 0 ≤ late) (notDestroy : event ≠ .destroy)
    (punctual : prober.punctual late event = true) (stepped : prober.step event = some after) :
    after.Sound late := by
  obtain ⟨provider, taken, same⟩ := Option.map_eq_some_iff.mp stepped
  obtain ⟨way, only⟩ := sound.way
  subst same
  exact ⟨onlyWay_step notDestroy only taken, tidy_step only sound.tidy taken,
    named_step sound.named taken, watches_step sound nonnegative notDestroy punctual taken⟩

private theorem sound_new : new.Sound late :=
  ⟨⟨.token, onlyWay_new⟩, tidy_new, named_new,
    watches_of_noSockets rfl tidy_new rfl le_rfl⟩

/-- In a window that runs the timers of the probe at most `late` after they are
due, a socket is no longer open when no pong has come for thirty seconds; and the
timeout that closes it never runs before ten seconds of silence. -/
theorem half_open_noticed (nonnegative : 0 ≤ late)
    (reached : ReachedWhen step
      (fun prober event => event ≠ .destroy ∧ prober.punctual late event = true) (· = new)
      prober) :
    (∀ socket ∈ prober.provider.sockets, socket.readyState = .isOpen →
      prober.provider.now ≤ prober.heard + 30000 + 2 * late) ∧
    ∀ timer ∈ prober.provider.timers, timer.kind = .pong → prober.heard + 10000 ≤ timer.due := by
  have sound : prober.Sound late := by
    apply reached.invariant (Sound late)
    · intro prober isNew
      rw [isNew]
      exact sound_new
    · intro prober event after sound allowed stepped
      exact sound_step sound nonnegative allowed.1 allowed.2 stepped
  exact ⟨fun socket member isOpen => sound.watches.silence nonnegative ⟨socket, member, isOpen⟩,
    sound.watches.pong⟩

/-- A socket opens and nothing is heard of it: it is pinged after twenty seconds,
and is still open ten seconds later. -/
def silent : List ProviderEvent :=
  [.tokenResolved 0 [], .opened 1 [0] none, .elapses 5000, .fires 2 none, .elapses 5000,
    .fires 4 none, .elapses 10000, .fires 3 none, .fires 4 none, .elapses 10000]

theorem half_open_noticed_silent : ∃ prober : Prober,
    prober.heard = 0 ∧ prober.provider.now = 30000 ∧
      (∀ socket ∈ prober.provider.sockets, socket.readyState = .isOpen →
        prober.provider.now ≤ prober.heard + 30000 + 2 * 0) ∧
      ∀ timer ∈ prober.provider.timers, timer.kind = .pong →
        prober.heard + 10000 ≤ timer.due := by
  let ends := (runWhen step
    (fun prober event => event ≠ .destroy ∧ prober.punctual 0 event = true) new silent).getD new
  have reached : ReachedWhen step
      (fun prober event => event ≠ .destroy ∧ prober.punctual 0 event = true) (· = new) ends :=
    reachedWhen_getD new silent new (by decide +kernel)
  have heard : ends.heard = 0 := by decide +kernel
  have now : ends.provider.now = 30000 := by decide +kernel
  exact ⟨ends, heard, now, half_open_noticed le_rfl reached⟩

end Prober

end CollabEditor.Web
