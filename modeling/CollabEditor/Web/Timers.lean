import CollabEditor.Web.WayForward

/-!
Owns the timers of a `CollabProvider`: every armed one is in the field it
belongs to, so that `clearTimers` leaves none armed, before and after `destroy`.
-/

set_option autoImplicit false

namespace CollabEditor.Web

open CollabEditor.Library CollabEditor.Protocol

namespace CollabProvider

/-- The field for the timers of a kind. -/
def timerOf (provider : CollabProvider) : TimerKind → Option ℕ
  | .reconnect => provider.reconnectTimer
  | .ping => provider.pingTimer
  | .pong => provider.pongTimer
  | .awareness => provider.awarenessTimer
  | .stable => provider.stableTimer

/-- Every armed timer is in its field. -/
def Owned (provider : CollabProvider) : Prop :=
  ∀ timer ∈ provider.timers, provider.timerOf timer.kind = some timer.id

/-- A socket has opened or is being closed. -/
def PastConnecting (provider : CollabProvider) : Prop :=
  ∃ socket ∈ provider.sockets, socket.readyState ≠ .connecting

/-- The timers of a provider are in their fields, and those of a socket are
armed only once it has opened. -/
structure Tidy (provider : CollabProvider) : Prop where
  owned : provider.Owned
  quiet : provider.PastConnecting ∨ ∀ timer ∈ provider.timers, timer.kind = .reconnect

/-! ### What becomes of the armed timers -/

/-- Fewer timers, in the same fields. -/
theorem Owned.mono {before after : CollabProvider} (owned : before.Owned)
    (timers : ∀ timer ∈ after.timers, ∃ earlier ∈ before.timers,
      earlier.kind = timer.kind ∧ earlier.id = timer.id)
    (fields : after.timerOf = before.timerOf) : after.Owned := by
  intro timer member
  obtain ⟨earlier, wasArmed, kind, id⟩ := timers timer member
  rw [fields, ← kind, ← id]
  exact owned earlier wasArmed

theorem Owned.same {before after : CollabProvider} (owned : before.Owned)
    (timers : after.timers = before.timers) (fields : after.timerOf = before.timerOf) :
    after.Owned :=
  owned.mono (fun timer member => ⟨timer, timers ▸ member, rfl, rfl⟩) fields

/-- A timer is armed when none of its kind is, and put in its field. -/
theorem Owned.arm {before after : CollabProvider} (owned : before.Owned) {kind : TimerKind}
    {due : ℚ} (timers : after.timers = before.timers ++ [⟨before.fresh, kind, due⟩])
    (field : after.timerOf kind = some before.fresh)
    (others : ∀ other, other ≠ kind → after.timerOf other = before.timerOf other)
    (unarmed : ∀ timer ∈ before.timers, timer.kind ≠ kind) : after.Owned := by
  intro timer member
  rw [timers] at member
  rcases List.mem_append.mp member with earlier | armed
  · rw [others timer.kind (unarmed timer earlier)]
    exact owned timer earlier
  · rw [List.mem_singleton.mp armed]
    exact field

/-- What `clear` leaves armed has another id. -/
theorem mem_clear {provider : CollabProvider} {id : Option ℕ} {timer : Timer}
    (member : timer ∈ (provider.clear id).timers) :
    timer ∈ provider.timers ∧ id ≠ some timer.id := by
  cases id with
  | none => exact ⟨member, fun impossible => nomatch impossible⟩
  | some id =>
      obtain ⟨armed, different⟩ := List.mem_filter.mp member
      refine ⟨armed, fun same => ?_⟩
      exact of_decide_eq_true different (Option.some.inj same).symm

theorem timers_clearTimers {provider : CollabProvider} (owned : provider.Owned) :
    provider.clearTimers.timers = [] := by
  refine List.eq_nil_iff_forall_not_mem.mpr fun timer member => ?_
  obtain ⟨fourth, notReconnect⟩ := mem_clear member
  obtain ⟨third, notStable⟩ := mem_clear fourth
  obtain ⟨second, notAwareness⟩ := mem_clear third
  obtain ⟨first, notPong⟩ := mem_clear second
  obtain ⟨armed, notPing⟩ := mem_clear first
  have field := owned timer armed
  cases kind : timer.kind with
  | reconnect =>
      rw [kind] at field
      exact notReconnect field
  | ping =>
      rw [kind] at field
      exact notPing field
  | pong =>
      rw [kind] at field
      exact notPong field
  | awareness =>
      rw [kind] at field
      exact notAwareness field
  | stable =>
      rw [kind] at field
      exact notStable field

theorem clear_eq (provider : CollabProvider) (id : Option ℕ) :
    ∃ timers, provider.clear id = { provider with timers := timers } := by
  cases id with
  | none => exact ⟨provider.timers, rfl⟩
  | some id => exact ⟨_, rfl⟩

theorem clearTimers_eq (provider : CollabProvider) :
    ∃ timers, provider.clearTimers = { provider with
      timers := timers
      pingTimer := none
      pongTimer := none
      awarenessTimer := none
      stableTimer := none
      reconnectTimer := none } := by
  obtain ⟨first, ping⟩ := clear_eq provider provider.pingTimer
  obtain ⟨second, pong⟩ := clear_eq { provider with timers := first } provider.pongTimer
  obtain ⟨third, awareness⟩ := clear_eq { provider with timers := second } provider.awarenessTimer
  obtain ⟨fourth, stable⟩ := clear_eq { provider with timers := third } provider.stableTimer
  obtain ⟨fifth, reconnect⟩ := clear_eq { provider with timers := fourth } provider.reconnectTimer
  refine ⟨fifth, ?_⟩
  unfold clearTimers
  rw [ping, pong, awareness, stable, reconnect]

/-! ### Handlers that arm nothing -/

/-- No timer is armed, cleared or counted, and no socket connects again. -/
structure KeepsTimers (before after : CollabProvider) : Prop where
  timers : after.timers = before.timers
  timerOf : after.timerOf = before.timerOf
  fresh : after.fresh = before.fresh
  now : after.now = before.now
  attempt : after.attempt = before.attempt
  ids : after.sockets.map Socket.id = before.sockets.map Socket.id
  past : before.PastConnecting → after.PastConnecting

theorem KeepsTimers.trans {first second third : CollabProvider} (front : KeepsTimers first second)
    (back : KeepsTimers second third) : KeepsTimers first third where
  timers := back.timers.trans front.timers
  timerOf := back.timerOf.trans front.timerOf
  fresh := back.fresh.trans front.fresh
  now := back.now.trans front.now
  attempt := back.attempt.trans front.attempt
  ids := back.ids.trans front.ids
  past := back.past ∘ front.past

private theorem PastConnecting.map {before after : CollabProvider} (past : before.PastConnecting)
    {change : Socket → Socket} (sockets : after.sockets = before.sockets.map change)
    (still : ∀ socket, socket.readyState ≠ .connecting →
      (change socket).readyState ≠ .connecting) : after.PastConnecting := by
  obtain ⟨socket, member, opened⟩ := past
  exact ⟨change socket, sockets ▸ List.mem_map_of_mem member, still socket opened⟩

theorem keepsTimers_send (provider : CollabProvider) (message : Message) :
    KeepsTimers provider (provider.send message) := by
  refine ⟨rfl, rfl, rfl, rfl, rfl, (keeps_send provider message).sockets,
    fun past => past.map rfl fun socket opened => ?_⟩
  split
  · exact opened
  · exact opened

theorem keepsTimers_closeSocket (provider : CollabProvider) (id : ℕ) :
    KeepsTimers provider (provider.closeSocket id) := by
  refine ⟨rfl, rfl, rfl, rfl, rfl, (keeps_closeSocket provider id).sockets,
    fun past => past.map rfl fun socket opened => ?_⟩
  split
  · exact fun connecting => nomatch connecting
  · exact opened

theorem keepsTimers_setStatus (provider : CollabProvider) (status : ConnectionStatus) :
    KeepsTimers provider (provider.setStatus status) := by
  unfold setStatus
  split
  · exact ⟨rfl, rfl, rfl, rfl, rfl, rfl, id⟩
  · exact ⟨rfl, rfl, rfl, rfl, rfl, rfl, id⟩

theorem keepsTimers_closeCurrent (provider : CollabProvider) :
    KeepsTimers provider provider.closeCurrent := by
  unfold closeCurrent
  split
  · exact ⟨rfl, rfl, rfl, rfl, rfl, rfl, id⟩
  · exact keepsTimers_closeSocket provider _

theorem timers_onTokenFailed (provider : CollabProvider) (jitter : ℚ) :
    (provider.onTokenFailed jitter).timers =
      provider.timers ++ [⟨provider.fresh, .reconnect,
        provider.now + backoff provider.attempt jitter⟩] := by
  obtain ⟨timers, -, fresh, now, attempt, -, -⟩ := keepsTimers_setStatus provider .offline
  show (provider.setStatus .offline).timers ++ [⟨(provider.setStatus .offline).fresh, .reconnect,
    (provider.setStatus .offline).now + backoff (provider.setStatus .offline).attempt jitter⟩] = _
  rw [timers, fresh, now, attempt]

/-- The timers a socket that opens arms, in the order of their ids. -/
structure ArmsSession (before after : CollabProvider) : Prop where
  timers : after.timers = before.timers ++
    [⟨before.fresh, .stable, before.now + CONNECTION_STABLE_MS⟩,
      ⟨before.fresh + 1, .ping, before.now + PING_INTERVAL_MS⟩,
      ⟨before.fresh + 2, .awareness, before.now + AWARENESS_REFRESH_MS⟩]
  stable : after.stableTimer = some before.fresh
  ping : after.pingTimer = some (before.fresh + 1)
  awareness : after.awarenessTimer = some (before.fresh + 2)
  now : after.now = before.now
  attempt : after.attempt = before.attempt
  ids : after.sockets.map Socket.id = before.sockets.map Socket.id
  past : before.PastConnecting → after.PastConnecting

theorem armsSession_onOpen (provider : CollabProvider) (token : JsString) (step1 : List UInt8)
    (presence : Option (List UInt8)) :
    ArmsSession provider (provider.onOpen token step1 presence) := by
  unfold onOpen
  generalize watching : ({ provider.arm .stable CONNECTION_STABLE_MS with
    stableTimer := some provider.fresh } : CollabProvider) = watched
  -- Between the first timer and the others frames are sent.
  have session : ∀ announced, KeepsTimers watched announced →
      ArmsSession provider announced.startPinging.startAnnouncing := by
    rintro announced ⟨timers, timerOf, fresh, now, attempt, ids, past⟩
    subst watching
    refine ⟨?_, ?_, ?_, ?_, now, attempt, ids, past⟩
    · show announced.timers ++ [⟨announced.fresh, .ping, announced.now + PING_INTERVAL_MS⟩] ++
        [⟨announced.fresh + 1, .awareness, announced.now + AWARENESS_REFRESH_MS⟩] = _
      rw [timers, fresh, now, List.append_assoc]
      exact List.append_assoc provider.timers _ _
    · exact congrFun timerOf .stable
    · show some announced.fresh = _
      rw [fresh]
      rfl
    · show some (announced.fresh + 1) = _
      rw [fresh]
      rfl
  have greeted := ((keepsTimers_setStatus watched .connected).trans
    (keepsTimers_send _ (.auth token))).trans (keepsTimers_send _ (.sync step1))
  cases presence with
  | none => exact session _ greeted
  | some payload => exact session _ (greeted.trans (keepsTimers_send _ (.awareness payload)))

/-! ### Providers that have not been destroyed -/

theorem tidy_of_noTimers {provider : CollabProvider} (none : provider.timers = []) :
    provider.Tidy where
  owned timer member := by
    rw [none] at member
    cases member
  quiet := by
    refine Or.inr fun timer member => ?_
    rw [none] at member
    cases member

/-- Fewer timers, in the same fields. -/
theorem Tidy.mono {before after : CollabProvider} (tidy : before.Tidy)
    (timers : ∀ timer ∈ after.timers, ∃ earlier ∈ before.timers,
      earlier.kind = timer.kind ∧ earlier.id = timer.id)
    (fields : after.timerOf = before.timerOf)
    (past : before.PastConnecting → after.PastConnecting) : after.Tidy where
  owned := tidy.owned.mono timers fields
  quiet := by
    refine tidy.quiet.imp past fun reconnects timer member => ?_
    obtain ⟨earlier, wasArmed, kind, -⟩ := timers timer member
    exact kind ▸ reconnects earlier wasArmed

private theorem Tidy.keep {before after : CollabProvider} (tidy : before.Tidy)
    (keeps : KeepsTimers before after) : after.Tidy :=
  tidy.mono (fun timer member => ⟨timer, keeps.timers ▸ member, rfl, rfl⟩) keeps.timerOf keeps.past

/-- Without a socket only a reconnect can be waited for. -/
theorem Tidy.reconnects {provider : CollabProvider} (tidy : provider.Tidy)
    (none : provider.sockets = []) : ∀ timer ∈ provider.timers, timer.kind = .reconnect := by
  rcases tidy.quiet with ⟨socket, member, -⟩ | reconnects
  · rw [none] at member
    cases member
  · exact reconnects

/-- A provider with no reconnect timer schedules one. -/
theorem tidy_scheduleReconnect {provider : CollabProvider} (none : provider.timers = [])
    (jitter : ℚ) : (provider.scheduleReconnect jitter).Tidy := by
  refine ⟨(tidy_of_noTimers none).owned.arm rfl rfl (fun other different => ?_) ?_,
    Or.inr fun timer member => ?_⟩
  · cases other with
    | reconnect => exact absurd rfl different
    | _ => rfl
  · intro timer member
    rw [none] at member
    cases member
  · have armed : timer ∈ provider.timers ++ [_] := member
    rw [none, List.nil_append] at armed
    rw [List.mem_singleton.mp armed]

/-- With only reconnects to wait for, and none of them, there is no timer. -/
theorem noTimers_of_reconnects {provider : CollabProvider}
    (waiting : ∀ timer ∈ provider.timers, timer.kind = .reconnect)
    (none : provider.reconnects = []) : provider.timers = [] := by
  refine List.eq_nil_iff_forall_not_mem.mpr fun timer member => ?_
  have isReconnect : timer ∈ provider.reconnects :=
    List.mem_filter.mpr ⟨member, decide_eq_true (waiting timer member)⟩
  rw [none] at isReconnect
  cases isReconnect

private theorem tidy_arm_session {before after : CollabProvider} (none : before.timers = [])
    (past : before.PastConnecting) (arms : ArmsSession before after) : after.Tidy := by
  refine ⟨fun timer member => ?_, Or.inl (arms.past past)⟩
  rw [arms.timers, none, List.nil_append] at member
  simp only [List.mem_cons, List.not_mem_nil, or_false] at member
  rcases member with rfl | rfl | rfl
  · exact arms.stable
  · exact arms.ping
  · exact arms.awareness

private theorem tidy_expire {provider : CollabProvider} (tidy : provider.Tidy) (timer : Timer) :
    (provider.expire timer).Tidy :=
  tidy.mono (fun timer member => ⟨timer, List.mem_of_mem_erase member, rfl, rfl⟩) rfl id

private theorem tidy_rearm {provider : CollabProvider} (tidy : provider.Tidy) (timer : Timer)
    (interval : ℚ) : (provider.rearm timer interval).Tidy := by
  refine tidy.mono (fun timer member => ?_) rfl id
  obtain ⟨earlier, wasArmed, rfl⟩ := List.mem_map.mp member
  refine ⟨earlier, wasArmed, ?_⟩
  split
  · exact ⟨rfl, rfl⟩
  · exact ⟨rfl, rfl⟩

private theorem tidy_connect {provider : CollabProvider} (tidy : provider.Tidy) :
    provider.connect.Tidy := by
  have connecting := tidy.keep (keepsTimers_setStatus provider .connecting)
  unfold connect
  split
  · exact tidy
  · exact connecting.mono (fun timer member => ⟨timer, member, rfl, rfl⟩) rfl id

/-- A ping is sent when no pong is awaited, and then one is. -/
theorem tidy_armPong {provider : CollabProvider} (tidy : provider.Tidy)
    (past : provider.PastConnecting) (free : provider.pongTimer = none) :
    Tidy { provider.arm .pong PONG_TIMEOUT_MS with pongTimer := some provider.fresh } := by
  refine ⟨tidy.owned.arm rfl rfl (fun other different => ?_) fun timer member kind => ?_,
    Or.inl past⟩
  · cases other with
    | pong => exact absurd rfl different
    | _ => rfl
  · have field := tidy.owned timer member
    rw [kind] at field
    exact nomatch free.symm.trans field

/-- Whatever timer fires, the others stay in their fields. -/
theorem tidy_onTimer {provider : CollabProvider} (tidy : provider.Tidy) {timer : Timer}
    (member : timer ∈ provider.timers) (presence : Option (List UInt8)) :
    (provider.onTimer timer presence).Tidy := by
  unfold onTimer
  split
  · exact tidy_connect (tidy_expire tidy timer)
  · next kind =>
      have again := tidy_rearm tidy timer PING_INTERVAL_MS
      have past : provider.PastConnecting := tidy.quiet.resolve_right fun reconnects =>
        nomatch kind.symm.trans (reconnects timer member)
      dsimp only
      split
      · exact again
      · next free =>
          have pings := keepsTimers_send (provider.rearm timer PING_INTERVAL_MS) .ping
          exact tidy_armPong (again.keep pings) (pings.past past)
            (Option.not_isSome_iff_eq_none.mp free)
  · exact (tidy_expire tidy timer).keep (keepsTimers_closeCurrent _)
  · cases presence with
    | none => exact tidy_rearm tidy timer AWARENESS_REFRESH_MS
    | some payload =>
        exact (tidy_rearm tidy timer AWARENESS_REFRESH_MS).keep (keepsTimers_send _ _)
  · exact (tidy_expire tidy timer).mono (fun timer member => ⟨timer, member, rfl, rfl⟩) rfl id

/-- A pong has come: the timer for it goes with its field. -/
theorem tidy_forgetPong {provider : CollabProvider} (tidy : provider.Tidy) :
    Tidy { provider.clear provider.pongTimer with pongTimer := none } := by
  have unchanged : (provider.clear provider.pongTimer).sockets = provider.sockets ∧
      ∀ kind, (provider.clear provider.pongTimer).timerOf kind = provider.timerOf kind := by
    cases provider.pongTimer with
    | none => exact ⟨rfl, fun kind => rfl⟩
    | some id => exact ⟨rfl, fun kind => by cases kind <;> rfl⟩
  refine ⟨fun timer member => ?_, ?_⟩
  · obtain ⟨armed, notPong⟩ := mem_clear member
    have field := tidy.owned timer armed
    have kept := unchanged.2 timer.kind
    cases kind : timer.kind with
    | pong =>
        rw [kind] at field
        exact absurd field notPong
    | _ =>
        rw [kind] at field kept
        exact kept.trans field
  · refine tidy.quiet.imp (fun past => ?_) fun reconnects timer member => ?_
    · obtain ⟨socket, among, opened⟩ := past
      exact ⟨socket, unchanged.1 ▸ among, opened⟩
    · exact reconnects timer (mem_clear member).1

private theorem tidy_onFrame {provider : CollabProvider} (tidy : provider.Tidy) (frame : List UInt8)
    (reply : Option (List UInt8)) : (provider.onFrame frame reply).Tidy := by
  unfold onFrame
  split
  · cases reply with
    | none => exact tidy
    | some payload => exact tidy.keep (keepsTimers_send _ _)
  · exact tidy_forgetPong tidy
  · exact tidy

/-- After `clearTimers` there is at most the reconnect that `onclose` schedules. -/
theorem tidy_onClose {provider : CollabProvider} (owned : provider.Owned) (code : ℕ) (jitter : ℚ) :
    (provider.onClose code jitter).Tidy := by
  have cleared := timers_clearTimers owned
  unfold onClose
  dsimp only
  split
  · exact tidy_of_noTimers cleared
  · split
    · exact tidy_of_noTimers ((keepsTimers_setStatus _ .rejected).timers.trans cleared)
    · refine tidy_scheduleReconnect ((keepsTimers_setStatus _ .offline).timers.trans ?_) jitter
      split
      · exact cleared
      · exact cleared

theorem timers_destroy {provider : CollabProvider} (owned : provider.Owned) :
    provider.destroy.timers = [] := by
  have marked : Owned { provider with destroyed := true } := owned.same rfl rfl
  exact (keepsTimers_closeCurrent _).timers.trans (timers_clearTimers marked)

/-- The socket that opens is the only one, and no timer is armed before. -/
theorem noTimers_of_connecting {provider : CollabProvider} {way : Way} {id : ℕ} {socket : Socket}
    (only : OnlyWay provider way) (tidy : provider.Tidy)
    (found : provider.socketOf id = some socket) (connecting : socket.readyState = .connecting) :
    provider.timers = [] := by
  have isSocket := only.of_socketOf found
  obtain ⟨current, one, -⟩ := isSocket.isOn
  refine noTimers_of_reconnects (tidy.quiet.resolve_left ?_) (isSocket.isOff .reconnect (by decide))
  rintro ⟨other, member, opened⟩
  have same := (mem_of_socketOf found).1
  rw [one, List.mem_singleton] at member same
  rw [member, ← same] at opened
  exact opened connecting

private theorem pastConnecting_markOpen {provider : CollabProvider} {id : ℕ} {socket : Socket}
    (found : provider.socketOf id = some socket) : (provider.markOpen id).PastConnecting := by
  obtain ⟨member, same⟩ := mem_of_socketOf found
  refine ⟨{ socket with readyState := .isOpen }, List.mem_map.mpr ⟨socket, member, ?_⟩,
    fun connecting => nomatch connecting⟩
  rw [if_pos same]

/-- A token leads to a socket that connects, and arms nothing. -/
theorem tidy_onToken {provider : CollabProvider} (tidy : provider.Tidy) (token : JsString) :
    (provider.onToken token).Tidy := by
  unfold onToken
  dsimp only
  split
  · exact tidy.mono (fun timer member => ⟨timer, member, rfl, rfl⟩) rfl id
  · refine tidy.mono (fun timer member => ⟨timer, member, rfl, rfl⟩) rfl ?_
    rintro ⟨socket, member, opened⟩
    exact ⟨socket, List.mem_append_left _ member, opened⟩

theorem tidy_step {provider after : CollabProvider} {event : ProviderEvent} {way : Way}
    (only : OnlyWay provider way) (tidy : provider.Tidy)
    (stepped : provider.step event = some after) : after.Tidy := by
  cases moved_of_step stepped with
  | tokenResolved request token found =>
      refine tidy_onToken ?_ token
      exact tidy.mono (fun timer member => ⟨timer, member, rfl, rfl⟩) rfl id
  | tokenRejected request jitter found nonnegative belowOne =>
      have idle := (idle_of_settled only found).1
      have none : provider.timers = [] :=
        noTimers_of_reconnects (tidy.reconnects idle.sockets) idle.reconnects
      refine tidy_scheduleReconnect ?_ jitter
      exact (keepsTimers_setStatus _ .offline).timers.trans none
  | opened id step1 presence socket found connecting =>
      have none := noTimers_of_connecting only tidy found connecting
      refine tidy_arm_session ?_ (pastConnecting_markOpen found) (armsSession_onOpen _ _ _ _)
      exact none
  | errored id =>
      exact tidy.keep (keepsTimers_closeSocket provider id)
  | closing id =>
      exact tidy.keep (keepsTimers_closeSocket provider id)
  | closed id code jitter socket found nonnegative belowOne =>
      refine tidy_onClose ?_ code jitter
      exact tidy.owned.same rfl rfl
  | message id frame reply socket found isOpen =>
      exact tidy_onFrame tidy frame reply
  | fires id presence timer found due =>
      exact tidy_onTimer tidy (List.mem_of_find?_eq_some found) presence
  | docUpdate payload =>
      rw [if_neg (by simp [only.alive])]
      exact tidy.keep (keepsTimers_send _ _)
  | awarenessUpdate payload =>
      rw [if_neg (by simp [only.alive])]
      exact tidy.keep (keepsTimers_send _ _)
  | elapses milliseconds forward =>
      exact tidy.mono (fun timer member => ⟨timer, member, rfl, rfl⟩) rfl id
  | destroy =>
      exact tidy_of_noTimers (timers_destroy tidy.owned)

theorem tidy_new : new.Tidy :=
  tidy_connect (tidy_of_noTimers rfl)

end CollabProvider

end CollabEditor.Web
