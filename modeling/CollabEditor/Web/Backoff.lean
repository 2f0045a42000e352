import CollabEditor.Web.TimerIds
import Mathlib.Algebra.Order.Field.Rat
import Mathlib.Tactic.Linarith

/-!
Owns the backoff of a `CollabProvider`: how long the n-th reconnect waits, and
that only a socket that stays open for its five seconds starts the count again.

The clock is a parameter, and so is each random number between zero and one.
When a timer runs late is a hypothesis where it matters.
-/

set_option autoImplicit false

namespace CollabEditor.Web

open CollabEditor.Library CollabEditor.Protocol

namespace CollabProvider

/-! ### What an event does to the count -/

/-- The timers of the five seconds of a socket. -/
def stables (provider : CollabProvider) : List Timer :=
  provider.timers.filter fun timer => timer.kind = .stable

/-- What of an event bears on the backoff. -/
inductive Sight where
  | opens (socket : ℕ)
  | closes (socket : ℕ)
  | runs (timer : Timer)
  | passes (milliseconds : ℚ)
  | other

def sight (provider : CollabProvider) : ProviderEvent → Sight
  | .opened id _ _ => .opens id
  | .closed id _ _ => .closes id
  | .fires id _ => (provider.timers.find? fun timer => timer.id = id).elim .other .runs
  | .elapses milliseconds => .passes milliseconds
  | _ => .other

/-- Nothing is counted, no reconnect is armed and no socket lost. -/
structure Waits (before after : CollabProvider) : Prop where
  stables : after.stables = before.stables
  reconnects : ∀ timer ∈ after.reconnects, timer ∈ before.reconnects
  attempt : after.attempt = before.attempt
  now : after.now = before.now
  sockets : before.sockets.map Socket.id ⊆ after.sockets.map Socket.id

/-- What an event does to the timers of the backoff and to `attempt`. -/
inductive Turn (before : CollabProvider) (sight : Sight) (after : CollabProvider) : Prop where
  | opens (id : ℕ) (seen : sight = .opens id) (none : before.stables = [])
      (stables : after.stables = [⟨before.fresh, .stable, before.now + CONNECTION_STABLE_MS⟩])
      (reconnects : after.reconnects = []) (attempt : after.attempt = before.attempt)
      (now : after.now = before.now) (sockets : id ∈ after.sockets.map Socket.id)
  /-- The wait for a token or the only socket has come to nothing. -/
  | schedules (id : ℕ) (jitter : ℚ) (nonnegative : 0 ≤ jitter) (belowOne : jitter < 1)
      (seen : sight = .other ∧ before.sockets = [] ∨
        ∃ socket, sight = .closes socket ∧ before.sockets.map Socket.id = [socket])
      (stables : after.stables = [])
      (reconnects : after.reconnects =
        [⟨id, .reconnect, before.now + backoff before.attempt jitter⟩])
      (unarmed : before.reconnects = [])
      (attempt : after.attempt = before.attempt + 1) (now : after.now = before.now)
  | ends (socket : ℕ) (seen : sight = .closes socket)
      (only : before.sockets.map Socket.id = [socket]) (stables : after.stables = [])
      (reconnects : after.reconnects = []) (attempt : after.attempt = before.attempt)
      (now : after.now = before.now)
  | survives (timer : Timer) (seen : sight = .runs timer) (armed : timer ∈ before.stables)
      (due : timer.due ≤ before.now) (stables : after.stables = before.stables.erase timer)
      (reconnects : after.reconnects = before.reconnects) (attempt : after.attempt = 0)
      (now : after.now = before.now)
      (sockets : after.sockets.map Socket.id = before.sockets.map Socket.id)
  | waits (seen : sight = .other ∨ ∃ timer, sight = .runs timer ∧ timer.kind ≠ .stable)
      (waits : Waits before after)
  | passes (milliseconds : ℚ) (seen : sight = .passes milliseconds) (forward : 0 ≤ milliseconds)
      (passed : after = { before with now := before.now + milliseconds })

private theorem Waits.refl (provider : CollabProvider) : Waits provider provider :=
  ⟨rfl, fun _ member => member, rfl, rfl, fun _ member => member⟩

private theorem Waits.keep {before middle after : CollabProvider} (waits : Waits before middle)
    (keeps : KeepsTimers middle after) : Waits before after where
  stables := by
    have same : after.stables = middle.stables := by
      unfold CollabProvider.stables
      rw [keeps.timers]
    exact same.trans waits.stables
  reconnects timer member := by
    have same : after.reconnects = middle.reconnects := by
      unfold CollabProvider.reconnects
      rw [keeps.timers]
    exact waits.reconnects timer (same ▸ member)
  attempt := keeps.attempt.trans waits.attempt
  now := keeps.now.trans waits.now
  sockets id member := keeps.ids.symm ▸ waits.sockets member

private theorem waits_of_keeps {before after : CollabProvider} (keeps : KeepsTimers before after) :
    Waits before after :=
  (Waits.refl before).keep keeps

private theorem waits_expire (provider : CollabProvider) {timer : Timer}
    (other : timer.kind ≠ .stable) :
    Waits provider (provider.expire timer) := by
  refine ⟨filter_kind_erase provider.timers other, fun later among => ?_, rfl, rfl,
    fun _ member => member⟩
  obtain ⟨armed, kind⟩ := List.mem_filter.mp among
  exact List.mem_filter.mpr ⟨List.mem_of_mem_erase armed, kind⟩

private theorem waits_rearm (provider : CollabProvider) {timer : Timer}
    (notStable : timer.kind ≠ .stable) (notReconnect : timer.kind ≠ .reconnect) (interval : ℚ) :
    Waits provider (provider.rearm timer interval) := by
  refine ⟨filter_kind_rearm provider.timers notStable interval, fun later among => ?_, rfl,
    rfl, fun _ member => member⟩
  rw [← (keeps_rearm provider notReconnect interval).reconnects]
  exact among

/-- `connect` arms nothing. -/
theorem waits_connect (provider : CollabProvider) : Waits provider provider.connect := by
  have connecting := waits_of_keeps (keepsTimers_setStatus provider .connecting)
  unfold connect
  split
  · exact .refl provider
  · exact ⟨connecting.stables, connecting.reconnects, connecting.attempt, connecting.now,
      connecting.sockets⟩

private theorem Waits.trans {first second third : CollabProvider} (front : Waits first second)
    (back : Waits second third) : Waits first third where
  stables := back.stables.trans front.stables
  reconnects timer member := front.reconnects timer (back.reconnects timer member)
  attempt := back.attempt.trans front.attempt
  now := back.now.trans front.now
  sockets _ member := back.sockets (front.sockets member)

/-- A timer of another kind than the two of the backoff is armed. -/
theorem waits_armPong (provider : CollabProvider) : Waits provider
    { provider.arm .pong PONG_TIMEOUT_MS with pongTimer := some provider.fresh } := by
  refine ⟨?_, fun timer member => ?_, rfl, rfl, fun _ member => member⟩
  · show (provider.timers ++ [_]).filter _ = _
    rw [List.filter_append]
    exact List.append_nil _
  · rw [← reconnects_arm provider (show TimerKind.pong ≠ .reconnect by decide) PONG_TIMEOUT_MS]
    exact member

/-- Going offline with no timer armed arms the reconnect and counts it. -/
theorem timers_goOffline {provider : CollabProvider} (none : provider.timers = []) (jitter : ℚ) :
    ((provider.setStatus .offline).scheduleReconnect jitter).timers =
      [⟨provider.fresh, .reconnect, provider.now + backoff provider.attempt jitter⟩] := by
  have scheduled := timers_onTokenFailed provider jitter
  rw [none] at scheduled
  exact scheduled

private theorem attempt_goOffline (provider : CollabProvider) (jitter : ℚ) :
    ((provider.setStatus .offline).scheduleReconnect jitter).attempt = provider.attempt + 1 ∧
      ((provider.setStatus .offline).scheduleReconnect jitter).now = provider.now := by
  have keeps := keepsTimers_setStatus provider .offline
  exact ⟨congrArg (· + 1) keeps.attempt, keeps.now⟩

private theorem turn_goOffline {before provider : CollabProvider} {sight : Sight}
    (none : provider.timers = []) (unarmed : before.reconnects = [])
    (attempt : provider.attempt = before.attempt) (now : provider.now = before.now) {jitter : ℚ}
    (nonnegative : 0 ≤ jitter) (belowOne : jitter < 1)
    (seen : sight = .other ∧ before.sockets = [] ∨
      ∃ socket, sight = .closes socket ∧ before.sockets.map Socket.id = [socket]) :
    Turn before sight ((provider.setStatus .offline).scheduleReconnect jitter) := by
  have timers := timers_goOffline none jitter
  have counted := attempt_goOffline provider jitter
  refine .schedules provider.fresh jitter nonnegative belowOne seen ?_ ?_ unarmed ?_ ?_
  · unfold stables
    rw [timers]
    rfl
  · unfold reconnects
    rw [timers, now, attempt]
    rfl
  · rw [counted.1, attempt]
  · rw [counted.2, now]

private theorem turn_reject {before provider : CollabProvider} {sight : Sight} {socket : ℕ}
    (none : provider.timers = []) (attempt : provider.attempt = before.attempt)
    (now : provider.now = before.now) (seen : sight = .closes socket)
    (only : before.sockets.map Socket.id = [socket]) :
    Turn before sight (provider.setStatus .rejected) := by
  have keeps := keepsTimers_setStatus provider .rejected
  have noTimers := keeps.timers.trans none
  refine .ends socket seen only ?_ ?_ (keeps.attempt.trans attempt) (keeps.now.trans now)
  · unfold stables
    rw [noTimers]
    rfl
  · unfold reconnects
    rw [noTimers]
    rfl

/-- The socket of a provider closes: it schedules a reconnect or is rejected. -/
theorem turn_onClose {before provider : CollabProvider} {sight : Sight} {socket : ℕ}
    (alive : provider.destroyed = false) (owned : provider.Owned)
    (attempt : provider.attempt = before.attempt) (now : provider.now = before.now)
    (unarmed : before.reconnects = []) (seen : sight = .closes socket)
    (only : before.sockets.map Socket.id = [socket]) (code : ℕ) {jitter : ℚ}
    (nonnegative : 0 ≤ jitter) (belowOne : jitter < 1) :
    Turn before sight (provider.onClose code jitter) := by
  have none := timers_clearTimers owned
  obtain ⟨timers, cleared⟩ := clearTimers_eq provider
  rw [cleared] at none
  unfold onClose
  rw [cleared]
  dsimp only at none ⊢
  rw [if_neg (by simp [alive])]
  split
  · exact turn_reject none attempt now seen only
  · refine turn_goOffline ?_ unarmed ?_ ?_ nonnegative belowOne (Or.inr ⟨socket, seen, only⟩)
    · split
      · exact none
      · exact none
    · split
      · exact attempt
      · exact attempt
    · split
      · exact now
      · exact now

/-- A timer that fires: that of the five seconds starts the count again. -/
theorem turn_onTimer {provider : CollabProvider} {timer : Timer}
    (member : timer ∈ provider.timers) (due : timer.due ≤ provider.now) {sight : Sight}
    (seen : sight = .runs timer) (presence : Option (List UInt8)) :
    Turn provider sight (provider.onTimer timer presence) := by
  have waits : ∀ {after : CollabProvider}, timer.kind ≠ .stable → Waits provider after →
      Turn provider sight after := fun other => .waits (Or.inr ⟨timer, seen, other⟩)
  unfold onTimer
  split
  · next kind =>
      have other : timer.kind ≠ .stable := by simp [kind]
      exact waits other ((waits_expire provider other).trans (waits_connect _))
  · next kind =>
      have other : timer.kind ≠ .stable := by simp [kind]
      have rearmed := waits_rearm provider other (by simp [kind]) PING_INTERVAL_MS
      dsimp only
      split
      · exact waits other rearmed
      · have pinged := rearmed.keep (keepsTimers_send _ .ping)
        exact waits other (pinged.trans (waits_armPong _))
  · next kind =>
      have other : timer.kind ≠ .stable := by simp [kind]
      exact waits other ((waits_expire provider other).keep (keepsTimers_closeCurrent _))
  · next kind =>
      have other : timer.kind ≠ .stable := by simp [kind]
      have rearmed := waits_rearm provider other (by simp [kind]) AWARENESS_REFRESH_MS
      cases presence with
      | none => exact waits other rearmed
      | some payload => exact waits other (rearmed.keep (keepsTimers_send _ _))
  · next kind =>
      refine .survives timer seen (List.mem_filter.mpr ⟨member, decide_eq_true kind⟩) due ?_ ?_ rfl
        rfl rfl
      · exact (List.erase_filter ..).symm
      · exact filter_kind_erase provider.timers (by simp [kind])

/-- A pong clears the timer that waits for it and no other. -/
theorem turn_onFrame {provider : CollabProvider} (tidy : provider.Tidy) (named : provider.Named)
    {sight : Sight} (seen : sight = .other) (frame : List UInt8) (reply : Option (List UInt8)) :
    Turn provider sight (provider.onFrame frame reply) := by
  unfold onFrame
  split
  · cases reply with
    | none => exact .waits (Or.inl seen) (.refl provider)
    | some payload => exact .waits (Or.inl seen) (waits_of_keeps (keepsTimers_send _ _))
  · have stays : (provider.clear provider.pongTimer).stables = provider.stables := by
      unfold stables
      cases pong : provider.pongTimer with
      | none => rfl
      | some id =>
          -- The id of a stable timer is in another field than that of the pong.
          have other : ∀ timer ∈ provider.stables, decide (timer.id ≠ id) = true := by
            intro timer member
            obtain ⟨armed, isStable⟩ := List.mem_filter.mp member
            have field := tidy.owned timer armed
            rw [of_decide_eq_true isStable] at field
            refine decide_eq_true fun same => ?_
            have kinds := named.distinct .stable .pong id (same ▸ field) pong
            cases kinds
          show (provider.timers.filter _).filter _ = _
          rw [List.filter_comm]
          exact List.filter_eq_self.mpr other
    have fewer : ∀ timer ∈ (provider.clear provider.pongTimer).reconnects,
        timer ∈ provider.reconnects := by
      intro timer member
      obtain ⟨armed, kind⟩ := List.mem_filter.mp member
      exact List.mem_filter.mpr ⟨(mem_clear armed).1, kind⟩
    obtain ⟨timers, cleared⟩ := clear_eq provider provider.pongTimer
    rw [cleared] at stays fewer ⊢
    exact .waits (Or.inl seen) ⟨stays, fewer, rfl, rfl, fun _ member => member⟩
  · exact .waits (Or.inl seen) (.refl provider)

theorem turn_of_step {provider after : CollabProvider} {event : ProviderEvent} {way : Way}
    (only : OnlyWay provider way) (tidy : provider.Tidy) (named : provider.Named)
    (notDestroy : event ≠ .destroy) (stepped : provider.step event = some after) :
    Turn provider (provider.sight event) after := by
  cases moved_of_step stepped with
  | tokenResolved request token found =>
      rw [onToken_of_alive]
      · refine .waits (Or.inl rfl) ⟨rfl, fun _ member => member, rfl, rfl, fun id member => ?_⟩
        rw [List.map_append]
        exact List.mem_append_left _ member
      · exact only.alive
  | tokenRejected request jitter found nonnegative belowOne =>
      have idle := (idle_of_settled only found).1
      have unarmed : provider.reconnects = [] := idle.reconnects
      have noSockets : provider.sockets = [] := idle.sockets
      refine turn_goOffline ?_ unarmed ?_ ?_ nonnegative belowOne (Or.inl ⟨rfl, noSockets⟩)
      · exact noTimers_of_reconnects (tidy.reconnects noSockets) unarmed
      · rfl
      · rfl
  | opened id step1 presence socket found connecting =>
      have none := noTimers_of_connecting only tidy found connecting
      have marked : (provider.markOpen id).timers = [] := none
      have arms := armsSession_onOpen (provider.markOpen id) socket.token step1 presence
      refine .opens id rfl ?_ ?_ ?_ arms.attempt arms.now ?_
      · unfold stables
        rw [none]
        rfl
      · unfold stables
        rw [arms.timers, marked]
        rfl
      · unfold reconnects
        rw [arms.timers, marked]
        rfl
      · rw [arms.ids, (keeps_markOpen provider id).sockets]
        obtain ⟨member, same⟩ := mem_of_socketOf found
        exact List.mem_map.mpr ⟨socket, member, same⟩
  | errored id =>
      exact .waits (Or.inl rfl) (waits_of_keeps (keepsTimers_closeSocket provider id))
  | closing id =>
      exact .waits (Or.inl rfl) (waits_of_keeps (keepsTimers_closeSocket provider id))
  | closed id code jitter socket found nonnegative belowOne =>
      have isSocket := only.of_socketOf found
      have unarmed : provider.reconnects = [] := isSocket.isOff .reconnect (by decide)
      obtain ⟨member, same⟩ := mem_of_socketOf found
      obtain ⟨current, one, -⟩ := isSocket.isOn
      have ids : provider.sockets.map Socket.id = [id] := by
        rw [one, List.mem_singleton] at member
        rw [one, List.map_singleton, ← member, same]
      refine turn_onClose ?_ ?_ ?_ ?_ unarmed rfl ids code nonnegative belowOne
      · exact only.alive
      · exact tidy.owned.same rfl rfl
      · rfl
      · rfl
  | message id frame reply socket found isOpen =>
      exact turn_onFrame tidy named rfl frame reply
  | fires id presence timer found due =>
      refine turn_onTimer (List.mem_of_find?_eq_some found) due ?_ presence
      show (provider.timers.find? _).elim _ _ = _
      rw [found]
      rfl
  | docUpdate payload =>
      rw [if_neg (by simp [only.alive])]
      exact .waits (Or.inl rfl) (waits_of_keeps (keepsTimers_send _ _))
  | awarenessUpdate payload =>
      rw [if_neg (by simp [only.alive])]
      exact .waits (Or.inl rfl) (waits_of_keeps (keepsTimers_send _ _))
  | elapses milliseconds forward =>
      exact .passes milliseconds rfl forward rfl
  | destroy => exact absurd rfl notDestroy

private theorem eq_elapses_of_sight {provider : CollabProvider} {event : ProviderEvent}
    {milliseconds : ℚ} (seen : provider.sight event = .passes milliseconds) :
    event = .elapses milliseconds := by
  cases event with
  | elapses other =>
      cases seen
      rfl
  | fires id presence =>
      have runs : (provider.timers.find? fun timer => timer.id = id).elim .other .runs =
        Sight.passes milliseconds := seen
      cases found : provider.timers.find? fun timer => timer.id = id with
      | none =>
          rw [found] at runs
          cases runs
      | some timer =>
          rw [found] at runs
          cases runs
  | _ => cases seen

/-- Half of the delay and all of it, whatever the jitter. -/
theorem backoff_between (attempt : ℕ) {jitter : ℚ} (nonnegative : 0 ≤ jitter)
    (belowOne : jitter < 1) :
    min 15000 (500 * 2 ^ attempt) / 2 ≤ backoff attempt jitter ∧
      backoff attempt jitter ≤ min 15000 (500 * 2 ^ attempt) := by
  have positive : (0 : ℚ) ≤ min 15000 (500 * 2 ^ attempt) :=
    le_min (by norm_num) (mul_nonneg (by norm_num) (pow_nonneg (by norm_num) _))
  unfold backoff RECONNECT_MAX_MS RECONNECT_BASE_MS
  generalize min (15000 : ℚ) (500 * 2 ^ attempt) = delay at positive
  constructor
  · nlinarith
  · nlinarith

end CollabProvider

/-! ### The count -/

/-- A provider, and what an observer of its events and timers counts. -/
structure Backoffs where
  provider : CollabProvider
  /-- The reconnects scheduled since construction, or since the window ran the
  timeout of five seconds of the socket that was open. -/
  scheduled : ℕ
  /-- The socket that has fired `open` and not `close`, and when it did. -/
  opened : Option (ℕ × ℚ)
  /-- `scheduled` when it fired `open`. -/
  scheduledAtOpen : ℕ
  /-- The reconnects scheduled since construction, or since the last socket that
  was open for five seconds by the clock, whether or not the window has run the
  timeout that ends with them. -/
  byClock : ℕ

namespace Backoffs

open CollabProvider

/-- A new provider. -/
def new : Backoffs := ⟨.new, 0, none, 0, 0⟩

/-- The five seconds of the socket that is open are over: the window runs the
timeout that ends with them. -/
def survives (history : Backoffs) : Sight → Bool
  | .runs timer => timer.kind = .stable && history.opened.any fun opened =>
      opened.2 + CONNECTION_STABLE_MS = timer.due
  | _ => false

/-- By the clock the socket that is open has been open for five seconds. -/
def overdue (history : Backoffs) : Bool :=
  history.opened.any fun opened => opened.2 + 5000 ≤ history.provider.now

/-- The reconnects an event schedules. -/
def schedules (history : Backoffs) (after : CollabProvider) : List Timer :=
  after.reconnects.filter fun timer => timer ∉ history.provider.timers

def next (history : Backoffs) (sight : Sight) (after : CollabProvider) : Backoffs where
  provider := after
  scheduled := (if history.survives sight then 0 else history.scheduled) +
    (history.schedules after).length
  opened := match sight with
    | .opens socket => some (socket, history.provider.now)
    | .closes socket => history.opened.filter fun opened => opened.1 ≠ socket
    | _ => history.opened
  scheduledAtOpen := match sight with
    | .opens _ => history.scheduled
    | _ => history.scheduledAtOpen
  byClock := (if history.overdue then 0 else history.byClock) + (history.schedules after).length

def step (history : Backoffs) (event : ProviderEvent) : Option Backoffs :=
  (history.provider.step event).map (history.next (history.provider.sight event))

/-- The count is `attempt`, and the timers of the five seconds are those of the
socket that is open. -/
structure Counts (history : Backoffs) : Prop where
  attempt : history.provider.attempt = history.scheduled
  timers : ∀ timer ∈ history.provider.stables, ∃ opened ∈ history.opened,
    opened.2 + CONNECTION_STABLE_MS = timer.due
  socket : ∀ opened ∈ history.opened, opened.1 ∈ history.provider.sockets.map Socket.id
  fiveSeconds : ∀ opened ∈ history.opened,
    history.provider.stables ≠ [] ∧ history.scheduled = history.scheduledAtOpen ∨
      opened.2 + CONNECTION_STABLE_MS ≤ history.provider.now ∧ history.scheduled = 0

private theorem schedules_eq_nil {history : Backoffs} {after : CollabProvider}
    (reconnects : ∀ timer ∈ after.reconnects, timer ∈ history.provider.reconnects) :
    history.schedules after = [] := by
  refine List.filter_eq_nil_iff.mpr fun timer member => ?_
  have armed := List.mem_of_mem_filter (reconnects timer member)
  simp [armed]

/-- Without a new reconnect, and with no five seconds over, the count stays. -/
theorem scheduled_next {history : Backoffs} {sight : Sight} {after : CollabProvider}
    (survives : history.survives sight = false) (schedules : history.schedules after = []) :
    (history.next sight after).scheduled = history.scheduled := by
  show (if history.survives sight then 0 else history.scheduled) +
    (history.schedules after).length = _
  rw [survives, schedules]
  rfl

/-- The timeout of the five seconds starts the count again. -/
theorem scheduled_survives {history : Backoffs} {timer : Timer} {after : CollabProvider}
    {opened : ℕ × ℚ} (armed : timer ∈ history.provider.stables)
    (isOpen : opened ∈ history.opened) (ends : opened.2 + CONNECTION_STABLE_MS = timer.due)
    (schedules : history.schedules after = []) :
    (history.next (.runs timer) after).scheduled = 0 := by
  have survives : history.survives (.runs timer) = true := by
    have isStable := (List.mem_filter.mp armed).2
    show (decide (timer.kind = .stable) && history.opened.any _) = true
    rw [isStable, Bool.true_and, Option.mem_def.mp isOpen]
    exact decide_eq_true ends
  show (if history.survives (.runs timer) then 0 else history.scheduled) +
    (history.schedules after).length = _
  rw [survives, schedules]
  rfl

private theorem schedules_of_unarmed {history : Backoffs} {after : CollabProvider}
    (none : after.reconnects = []) : history.schedules after = [] :=
  schedules_eq_nil fun timer member => by
    rw [none] at member
    cases member

/-- With no socket open nothing but `attempt` is to be compared. -/
theorem counts_of_closed {history : Backoffs} (closed : history.opened = none)
    (stables : history.provider.stables = [])
    (attempt : history.provider.attempt = history.scheduled) : history.Counts := by
  refine ⟨attempt, fun timer member => ?_, fun opened isOpen => ?_, fun opened isOpen => ?_⟩
  · rw [stables] at member
    cases member
  · rw [closed] at isOpen
    cases isOpen
  · rw [closed] at isOpen
    cases isOpen

/-- The end of the only socket is the end of the one that is open. -/
theorem opened_of_only {history : Backoffs} (counts : history.Counts) {socket : ℕ}
    (only : history.provider.sockets.map Socket.id = [socket]) :
    (history.opened.filter fun opened => opened.1 ≠ socket) = none := by
  cases isOpen : history.opened with
  | none => rfl
  | some opened =>
      have member := counts.socket opened isOpen
      rw [only, List.mem_singleton] at member
      rw [Option.filter_some, if_neg (by simp [member])]

private theorem opened_of_schedules {history : Backoffs} (counts : history.Counts) {sight : Sight}
    (seen : sight = .other ∧ history.provider.sockets = [] ∨
      ∃ socket, sight = .closes socket ∧ history.provider.sockets.map Socket.id = [socket])
    (after : CollabProvider) : (history.next sight after).opened = none := by
  rcases seen with ⟨rfl, none⟩ | ⟨socket, rfl, only⟩
  · refine Option.eq_none_iff_forall_not_mem.mpr fun opened isOpen => ?_
    have member := counts.socket opened isOpen
    rw [none] at member
    cases member
  · exact opened_of_only counts only

private theorem counts_schedules {history : Backoffs} (counts : history.Counts) {sight : Sight}
    {after : CollabProvider} {id : ℕ} {due : ℚ}
    (seen : sight = .other ∧ history.provider.sockets = [] ∨
      ∃ socket, sight = .closes socket ∧ history.provider.sockets.map Socket.id = [socket])
    (stables : after.stables = []) (reconnects : after.reconnects = [⟨id, .reconnect, due⟩])
    (unarmed : history.provider.reconnects = [])
    (attempt : after.attempt = history.provider.attempt + 1) :
    (history.next sight after).Counts ∧
      (history.next sight after).scheduled = history.scheduled + 1 := by
  have isNew : history.schedules after = [⟨id, .reconnect, due⟩] := by
    have absent : (⟨id, .reconnect, due⟩ : Timer) ∉ history.provider.timers := by
      intro member
      have isReconnect : (⟨id, .reconnect, due⟩ : Timer) ∈ history.provider.reconnects :=
        List.mem_filter.mpr ⟨member, rfl⟩
      rw [unarmed] at isReconnect
      cases isReconnect
    unfold schedules
    rw [reconnects, List.filter_cons_of_pos (by simp [absent]), List.filter_nil]
  have counted : (history.next sight after).scheduled = history.scheduled + 1 := by
    show (if history.survives sight then 0 else history.scheduled) +
      (history.schedules after).length = _
    rw [isNew]
    rcases seen with ⟨rfl, -⟩ | ⟨socket, rfl, -⟩ <;> rfl
  refine ⟨counts_of_closed (opened_of_schedules counts seen after) stables ?_, counted⟩
  rw [counted, ← counts.attempt]
  exact attempt

/-- What an observer notes of an event that only waits. -/
theorem same_of_waits (history : Backoffs) {sight : Sight}
    (seen : sight = .other ∨ ∃ timer, sight = .runs timer ∧ timer.kind ≠ .stable)
    (after : CollabProvider) : (history.next sight after).opened = history.opened ∧
      (history.next sight after).scheduledAtOpen = history.scheduledAtOpen ∧
      history.survives sight = false := by
  rcases seen with rfl | ⟨timer, rfl, other⟩
  · exact ⟨rfl, rfl, rfl⟩
  · refine ⟨rfl, rfl, ?_⟩
    show (decide (timer.kind = .stable) && history.opened.any _) = false
    rw [decide_eq_false other, Bool.false_and]

private theorem counts_next {history : Backoffs} {sight : Sight} {after : CollabProvider}
    (counts : history.Counts) (turn : Turn history.provider sight after) :
    (history.next sight after).Counts := by
  cases turn with
  | opens id seen none stables reconnects attempt now sockets =>
      subst seen
      have counted : (history.next (.opens id) after).scheduled = history.scheduled :=
        scheduled_next rfl (schedules_of_unarmed reconnects)
      refine ⟨attempt.trans (counts.attempt.trans counted.symm), fun timer member => ?_, ?_, ?_⟩
      · rw [show (history.next (.opens id) after).provider.stables = _ from stables,
          List.mem_singleton] at member
        exact ⟨(id, history.provider.now), rfl, by rw [member]⟩
      · rintro opened ⟨⟩
        exact sockets
      · rintro opened ⟨⟩
        left
        refine ⟨?_, counted⟩
        show after.stables ≠ []
        rw [stables]
        exact List.cons_ne_nil _ _
  | schedules id jitter nonnegative belowOne seen stables reconnects unarmed attempt now =>
      exact (counts_schedules counts seen stables reconnects unarmed attempt).1
  | ends socket seen only stables reconnects attempt now =>
      subst seen
      have counted : (history.next (.closes socket) after).scheduled = history.scheduled :=
        scheduled_next rfl (schedules_of_unarmed reconnects)
      exact counts_of_closed (opened_of_only counts only) stables
        (attempt.trans (counts.attempt.trans counted.symm))
  | survives timer seen armed due stables reconnects attempt now sockets =>
      subst seen
      obtain ⟨opened, isOpen, ends⟩ := counts.timers timer armed
      have counted := scheduled_survives armed isOpen ends
        (schedules_eq_nil fun timer member => reconnects ▸ member)
      refine ⟨attempt.trans counted.symm, fun later member => ?_, fun other isOther => ?_,
        fun other isOther => Or.inr ⟨?_, counted⟩⟩
      · rw [show (history.next (.runs timer) after).provider.stables = _ from stables] at member
        exact counts.timers later (List.mem_of_mem_erase member)
      · show other.1 ∈ after.sockets.map Socket.id
        rw [sockets]
        exact counts.socket other isOther
      · show other.2 + CONNECTION_STABLE_MS ≤ after.now
        rw [Option.mem_unique isOther isOpen, ends, now]
        exact due
  | waits seen waits =>
      have none := schedules_eq_nil waits.reconnects
      obtain ⟨opened, atOpen, survives⟩ := same_of_waits history seen after
      have counted := scheduled_next survives none
      refine ⟨waits.attempt.trans (counts.attempt.trans counted.symm), ?_, ?_, ?_⟩
      · rw [opened]
        show ∀ timer ∈ after.stables, _
        rw [waits.stables]
        exact counts.timers
      · rw [opened]
        exact fun opened isOpen => waits.sockets (counts.socket opened isOpen)
      · rw [opened, counted, atOpen]
        show ∀ opened ∈ history.opened, after.stables ≠ [] ∧ _ ∨ _ ≤ after.now ∧ _
        rw [waits.stables, waits.now]
        exact counts.fiveSeconds
  | passes milliseconds seen forward passed =>
      subst seen passed
      have counted : (history.next (.passes milliseconds) { history.provider with
          now := history.provider.now + milliseconds }).scheduled = history.scheduled :=
        scheduled_next rfl (schedules_eq_nil fun _ member => member)
      refine ⟨counts.attempt.trans counted.symm, counts.timers, counts.socket,
        fun opened isOpen => ?_⟩
      rw [counted]
      refine (counts.fiveSeconds opened isOpen).imp_right fun ⟨ended, again⟩ => ⟨?_, again⟩
      exact ended.trans (le_add_of_nonneg_right forward)

/-! ### The count by the clock -/

/-- The count by the clock is `scheduled`, up to what the socket that is open will
do to it. -/
structure Clocked (history : Backoffs) : Prop where
  closed : history.opened = none → history.byClock = history.scheduled
  isOpen : ∀ opened ∈ history.opened,
    opened.2 + 5000 ≤ history.provider.now ∨ history.byClock = history.scheduledAtOpen

/-- What `byClock` is before an event adds to it. -/
def byNow (history : Backoffs) : ℕ := if history.overdue then 0 else history.byClock

private theorem byClock_next {history : Backoffs} {sight : Sight} {after : CollabProvider}
    (schedules : history.schedules after = []) :
    (history.next sight after).byClock = history.byNow := by
  show history.byNow + (history.schedules after).length = _
  rw [schedules]
  rfl

/-- While no timeout of five seconds is due the counts agree. -/
theorem byNow_eq {history : Backoffs} (counts : history.Counts) (clocked : history.Clocked)
    (early : ∀ timer ∈ history.provider.stables, history.provider.now < timer.due) :
    history.byNow = history.scheduled := by
  unfold byNow overdue
  cases isOpen : history.opened with
  | none => exact clocked.closed isOpen
  | some opened =>
      simp only [Option.any_some, decide_eq_true_eq]
      rcases counts.fiveSeconds opened isOpen with ⟨armed, same⟩ | ⟨ended, again⟩
      · obtain ⟨timer, member⟩ := List.exists_mem_of_ne_nil _ armed
        obtain ⟨other, isOther, ends⟩ := counts.timers timer member
        have soon := early timer member
        rw [← ends, Option.mem_unique isOther isOpen] at soon
        have notYet : ¬opened.2 + 5000 ≤ history.provider.now := not_le_of_gt soon
        rw [if_neg notYet, same]
        exact (clocked.isOpen opened isOpen).resolve_left notYet
      · rw [again]
        exact if_pos ended

/-- With no socket open after it, an event leaves the counts the same. -/
theorem clocked_of_closed {history : Backoffs} (counts : history.Counts)
    (clocked : history.Clocked)
    (early : ∀ timer ∈ history.provider.stables, history.provider.now < timer.due)
    {sight : Sight} {after : CollabProvider} (survives : history.survives sight = false)
    (closed : (history.next sight after).opened = none) : (history.next sight after).Clocked := by
  refine ⟨fun _ => ?_, fun opened isOpen => ?_⟩
  · show history.byNow + (history.schedules after).length =
      (if history.survives sight then 0 else history.scheduled) + (history.schedules after).length
    rw [byNow_eq counts clocked early, survives]
    rfl
  · rw [closed] at isOpen
    cases isOpen

/-- The socket that is open stays open, and no reconnect is scheduled. -/
theorem clocked_of_kept {history : Backoffs} (clocked : history.Clocked) {sight : Sight}
    {after : CollabProvider} (opened : (history.next sight after).opened = history.opened)
    (atOpen : (history.next sight after).scheduledAtOpen = history.scheduledAtOpen)
    (scheduled : history.opened = none →
      (history.next sight after).scheduled = history.scheduled)
    (schedules : history.schedules after = []) (later : history.provider.now ≤ after.now) :
    (history.next sight after).Clocked := by
  have counted := @byClock_next history sight after schedules
  refine ⟨fun closed => ?_, fun socket isOpen => ?_⟩
  · rw [opened] at closed
    rw [counted, scheduled closed, ← clocked.closed closed]
    unfold byNow overdue
    rw [closed]
    rfl
  · rw [opened] at isOpen
    by_cases ended : socket.2 + 5000 ≤ history.provider.now
    · exact Or.inl (ended.trans later)
    · right
      rw [counted, atOpen, ← (clocked.isOpen socket isOpen).resolve_left ended]
      unfold byNow overdue
      rw [Option.mem_def.mp isOpen, Option.any_some, decide_eq_false ended]
      rfl

private theorem clocked_next {history : Backoffs} (counts : history.Counts)
    (clocked : history.Clocked)
    {sight : Sight} {after : CollabProvider} (turn : Turn history.provider sight after)
    (early : ∀ socket, sight = .closes socket →
      ∀ timer ∈ history.provider.stables, history.provider.now < timer.due) :
    (history.next sight after).Clocked := by
  cases turn with
  | opens id seen none stables reconnects attempt now sockets =>
      subst seen
      have same := byNow_eq counts clocked fun timer member => by
        rw [none] at member
        cases member
      refine ⟨nofun, fun opened isOpen => Or.inr ?_⟩
      exact (byClock_next (schedules_of_unarmed reconnects)).trans same
  | schedules id jitter nonnegative belowOne seen stables reconnects unarmed attempt now =>
      have closed := opened_of_schedules counts seen after
      rcases seen with ⟨rfl, none⟩ | ⟨socket, rfl, only⟩
      · -- a request fails while there is no socket, so no timeout is armed
        refine clocked_of_closed counts clocked (fun timer member => ?_) rfl closed
        obtain ⟨opened, isOpen, -⟩ := counts.timers timer member
        have among := counts.socket opened isOpen
        rw [none] at among
        cases among
      · exact clocked_of_closed counts clocked (early socket rfl) rfl closed
  | ends socket seen only stables reconnects attempt now =>
      subst seen
      exact clocked_of_closed counts clocked (early socket rfl) rfl (opened_of_only counts only)
  | survives timer seen armed due stables reconnects attempt now sockets =>
      subst seen
      obtain ⟨opened, isOpen, ends⟩ := counts.timers timer armed
      refine clocked_of_kept clocked rfl rfl (fun closed => ?_)
        (schedules_eq_nil fun timer member => reconnects ▸ member) now.ge
      rw [closed] at isOpen
      cases isOpen
  | waits seen waits =>
      have none := schedules_eq_nil waits.reconnects
      obtain ⟨opened, atOpen, survives⟩ := same_of_waits history seen after
      exact clocked_of_kept clocked opened atOpen (fun _ => scheduled_next survives none) none
        waits.now.ge
  | passes milliseconds seen forward passed =>
      subst seen passed
      exact clocked_of_kept clocked rfl rfl (fun _ => scheduled_next rfl
        (schedules_eq_nil fun _ member => member)) (schedules_eq_nil fun _ member => member)
        (le_add_of_nonneg_right forward)

/-! ### Every run -/

/-- No socket closes while the timeout of its five seconds is due and has yet to
run. -/
def inTime (history : Backoffs) : ProviderEvent → Bool
  | .closed _ _ _ => history.provider.stables.all fun timer =>
      history.provider.now < timer.due
  | _ => true

/-- The window runs the timeout of five seconds when it is due. -/
def onTime (history : Backoffs) : ProviderEvent → Bool
  | .elapses milliseconds => history.provider.stables.all fun timer =>
      history.provider.now + milliseconds ≤ timer.due
  | _ => true

/-- A provider on its way, with the count of its reconnects. -/
structure Counted (history : Backoffs) : Prop where
  way : ∃ way, OnlyWay history.provider way
  tidy : history.provider.Tidy
  named : history.provider.Named
  counts : history.Counts

private theorem counted_step {history after : Backoffs} {event : ProviderEvent}
    (counted : history.Counted) (notDestroy : event ≠ .destroy)
    (stepped : history.step event = some after) :
    Turn history.provider (history.provider.sight event) after.provider ∧
      after = history.next (history.provider.sight event) after.provider ∧ after.Counted := by
  obtain ⟨provider, taken, rfl⟩ := Option.map_eq_some_iff.mp stepped
  obtain ⟨way, only⟩ := counted.way
  have turn := turn_of_step only counted.tidy counted.named notDestroy taken
  exact ⟨turn, rfl, onlyWay_step notDestroy only taken, tidy_step only counted.tidy taken,
    named_step counted.named taken, counts_next counted.counts turn⟩

private theorem counted_new : new.Counted where
  way := ⟨.token, onlyWay_new⟩
  tidy := tidy_new
  named := named_new
  counts := counts_of_closed rfl rfl rfl

/-- What the count promises of a provider that has not been destroyed. -/
structure Backs (history : Backoffs) : Prop where
  /-- The n-th reconnect, counted in `scheduled`, waits for the n-th delay. -/
  waits : ∀ event after timer, history.step event = some after →
    timer ∈ after.provider.reconnects → timer ∉ history.provider.timers →
    after.scheduled = history.scheduled + 1 ∧
    min 15000 (500 * 2 ^ (after.scheduled - 1)) / 2 ≤ timer.due - history.provider.now ∧
    timer.due - history.provider.now ≤ min 15000 (500 * 2 ^ (after.scheduled - 1))
  /-- Before its five seconds are over a socket has not started the count again. -/
  sooner : ∀ opened ∈ history.opened, history.provider.now < opened.2 + 5000 →
    history.scheduled = history.scheduledAtOpen

/-- Only going offline arms a reconnect. -/
theorem waits_of_turn {history : Backoffs} {sight : Sight} {after : CollabProvider} {timer : Timer}
    (counts : history.Counts) (turn : Turn history.provider sight after)
    (isNew : timer ∈ after.reconnects) (absent : timer ∉ history.provider.timers) :
    (history.next sight after).scheduled = history.scheduled + 1 ∧
      (history.next sight after).opened = none ∧
      ∃ jitter, 0 ≤ jitter ∧ jitter < 1 ∧
        timer.due - history.provider.now = backoff history.scheduled jitter := by
  have earlier : timer ∉ history.provider.reconnects := fun member =>
    absent (List.mem_of_mem_filter member)
  cases turn with
  | opens id seen none stables reconnects attempt now sockets =>
      rw [reconnects] at isNew
      cases isNew
  | schedules id jitter nonnegative belowOne seen stables reconnects unarmed attempt now =>
      refine ⟨(counts_schedules counts seen stables reconnects unarmed attempt).2,
        opened_of_schedules counts seen after, jitter, nonnegative, belowOne, ?_⟩
      rw [reconnects, List.mem_singleton] at isNew
      rw [isNew, ← counts.attempt]
      exact add_sub_cancel_left _ _
  | ends socket seen only stables reconnects attempt now =>
      rw [reconnects] at isNew
      cases isNew
  | survives fired seen armed due stables reconnects attempt now sockets =>
      exact absurd (reconnects ▸ isNew) earlier
  | waits seen waits => exact absurd (waits.reconnects timer isNew) earlier
  | passes milliseconds seen forward passed =>
      subst passed
      exact absurd isNew earlier

private theorem backs_of_counted {history : Backoffs} (counted : history.Counted) :
    history.Backs := by
  refine ⟨fun event after timer stepped isNew absent => ?_, fun opened isOpen soon => ?_⟩
  · by_cases destroys : event = .destroy
    · subst destroys
      obtain ⟨provider, taken, rfl⟩ := Option.map_eq_some_iff.mp stepped
      cases taken
      have none := timers_destroy counted.tidy.owned
      have member : timer ∈ history.provider.destroy.timers := List.mem_of_mem_filter isNew
      rw [none] at member
      cases member
    · obtain ⟨turn, same, -⟩ := counted_step counted destroys stepped
      obtain ⟨counted', -, jitter, nonnegative, belowOne, waits⟩ :=
        waits_of_turn counted.counts turn isNew absent
      rw [← same] at counted'
      have between := backoff_between history.scheduled nonnegative belowOne
      rw [counted', waits, Nat.add_sub_cancel]
      exact ⟨rfl, between⟩
  · rcases counted.counts.fiveSeconds opened isOpen with ⟨-, same⟩ | ⟨ended, -⟩
    · exact same
    · exact absurd ended (not_le_of_gt soon)

/-- By the clock the n-th reconnect waits for the n-th delay. -/
def WaitsByClock (history : Backoffs) (event : ProviderEvent) : Prop :=
  ∀ after timer, history.step event = some after → timer ∈ after.provider.reconnects →
    timer ∉ history.provider.timers → 1 ≤ after.byClock ∧
    min 15000 (500 * 2 ^ (after.byClock - 1)) / 2 ≤ timer.due - history.provider.now ∧
    timer.due - history.provider.now ≤ min 15000 (500 * 2 ^ (after.byClock - 1))

private theorem early_of_inTime {history : Backoffs} {event : ProviderEvent}
    (inTime : history.inTime event = true) {socket : ℕ}
    (closes : history.provider.sight event = .closes socket) :
    ∀ timer ∈ history.provider.stables, history.provider.now < timer.due := by
  cases event with
  | closed id code jitter =>
      intro timer member
      exact of_decide_eq_true (List.all_eq_true.mp inTime timer member)
  | fires id presence =>
      have runs : (history.provider.timers.find? fun timer => timer.id = id).elim .other .runs =
        Sight.closes socket := closes
      cases found : history.provider.timers.find? fun timer => timer.id = id with
      | none =>
          rw [found] at runs
          cases runs
      | some timer =>
          rw [found] at runs
          cases runs
  | _ => cases closes

private theorem clocked_step {history after : Backoffs} {event : ProviderEvent}
    (counted : history.Counted) (clocked : history.Clocked) (notDestroy : event ≠ .destroy)
    (inTime : history.inTime event = true) (stepped : history.step event = some after) :
    after.Clocked := by
  obtain ⟨turn, same, -⟩ := counted_step counted notDestroy stepped
  rw [same]
  exact clocked_next counted.counts clocked turn fun _ closes => early_of_inTime inTime closes

private theorem waitsByClock_of_clocked {history : Backoffs} (counted : history.Counted)
    (clocked : history.Clocked) {event : ProviderEvent} (notDestroy : event ≠ .destroy)
    (inTime : history.inTime event = true) : history.WaitsByClock event := by
  intro after timer stepped isNew absent
  obtain ⟨one, atLeast, atMost⟩ :=
    (backs_of_counted counted).waits event after timer stepped isNew absent
  have agree : after.byClock = after.scheduled := by
    obtain ⟨turn, same, -⟩ := counted_step counted notDestroy stepped
    apply (clocked_step counted clocked notDestroy inTime stepped).closed
    rw [same]
    exact (waits_of_turn counted.counts turn isNew absent).2.1
  rw [agree]
  exact ⟨by omega, atLeast, atMost⟩

/-- In a window that is on time no timer of five seconds is overdue. -/
theorem onTime_step {history after : Backoffs} {event : ProviderEvent}
    (counted : history.Counted) (notDestroy : event ≠ .destroy)
    (onTime : history.onTime event = true)
    (early : ∀ timer ∈ history.provider.stables, history.provider.now ≤ timer.due)
    (stepped : history.step event = some after) :
    ∀ timer ∈ after.provider.stables, after.provider.now ≤ timer.due := by
  obtain ⟨turn, -, -⟩ := counted_step counted notDestroy stepped
  intro timer member
  cases turn with
  | opens id seen none stables reconnects attempt now sockets =>
      rw [stables, List.mem_singleton] at member
      rw [now, member]
      exact le_add_of_nonneg_right (by norm_num [CONNECTION_STABLE_MS])
  | schedules id jitter nonnegative belowOne seen stables reconnects unarmed attempt now =>
      rw [stables] at member
      cases member
  | ends socket seen only stables reconnects attempt now =>
      rw [stables] at member
      cases member
  | survives fired seen armed due stables reconnects attempt now sockets =>
      rw [stables] at member
      rw [now]
      exact early timer (List.mem_of_mem_erase member)
  | waits seen waits =>
      rw [waits.stables] at member
      rw [waits.now]
      exact early timer member
  | passes milliseconds seen forward passed =>
      rw [passed] at member ⊢
      rw [eq_elapses_of_sight seen] at onTime
      exact of_decide_eq_true (List.all_eq_true.mp onTime timer member)

/-- In a window that is on time a socket that has been open for more than five
seconds has started the count again. -/
theorem scheduled_of_onTime {history : Backoffs}
    (onTime : ReachedWhen step (fun history event => event ≠ .destroy ∧ history.onTime event)
      (· = new) history) {opened : ℕ × ℚ} (isOpen : opened ∈ history.opened)
    (ended : opened.2 + 5000 < history.provider.now) : history.scheduled = 0 := by
  obtain ⟨counted, early⟩ : history.Counted ∧
      ∀ timer ∈ history.provider.stables, history.provider.now ≤ timer.due := by
    refine onTime.invariant (fun history => history.Counted ∧
      ∀ timer ∈ history.provider.stables, history.provider.now ≤ timer.due) ?_ ?_
    · rintro history rfl
      exact ⟨counted_new, fun timer member => nomatch member⟩
    · rintro history event after ⟨counted, early⟩ ⟨notDestroy, onTime⟩ stepped
      exact ⟨(counted_step counted notDestroy stepped).2.2,
        onTime_step counted notDestroy onTime early stepped⟩
  rcases counted.counts.fiveSeconds opened isOpen with ⟨armed, -⟩ | ⟨-, again⟩
  · obtain ⟨timer, member⟩ := List.exists_mem_of_ne_nil _ armed
    obtain ⟨other, isOther, ends⟩ := counted.counts.timers timer member
    have late := early timer member
    rw [← ends, Option.mem_unique isOther isOpen] at late
    exact absurd late (not_le_of_gt ended)
  · exact again

/-- In a run in which no socket closes past an overdue timeout the counts agree. -/
theorem clocked_of_inTime {history : Backoffs}
    (inTime : ReachedWhen step (fun history event => event ≠ .destroy ∧ history.inTime event)
      (· = new) history) : history.Counted ∧ history.Clocked := by
  refine inTime.invariant (fun history => history.Counted ∧ history.Clocked) ?_ ?_
  · rintro history rfl
    exact ⟨counted_new, fun _ => rfl, nofun⟩
  · rintro history event after ⟨counted, clocked⟩ ⟨notDestroy, inTime⟩ stepped
    exact ⟨(counted_step counted notDestroy stepped).2.2,
      clocked_step counted clocked notDestroy inTime stepped⟩

/-- The n-th reconnect scheduled since construction, or since a socket stayed
open for five seconds, waits between half of the n-th delay and all of it; a
socket that closes sooner does not start the count again. The five seconds may
be the clock's in runs in which no socket closes past an overdue timeout, and a
window that runs its timers on time starts the count again for every socket
that stays open longer. -/
theorem reconnect_backs_off {history : Backoffs}
    (reached : ReachedWhen step (fun _ event => event ≠ .destroy) (· = new) history) :
    history.Backs ∧
      (ReachedWhen step (fun history event => event ≠ .destroy ∧ history.inTime event) (· = new)
        history → ∀ event, event ≠ .destroy → history.inTime event → history.WaitsByClock event) ∧
      (ReachedWhen step (fun history event => event ≠ .destroy ∧ history.onTime event) (· = new)
        history → ∀ opened ∈ history.opened, opened.2 + 5000 < history.provider.now →
        history.scheduled = 0) := by
  have counted : history.Counted := by
    refine reached.invariant Counted ?_ fun history event after counted notDestroy stepped =>
      (counted_step counted notDestroy stepped).2.2
    rintro history rfl
    exact counted_new
  refine ⟨backs_of_counted counted, fun runsInTime event notDestroy inTime => ?_, ?_⟩
  · obtain ⟨-, clocked⟩ := clocked_of_inTime runsInTime
    exact waitsByClock_of_clocked counted clocked notDestroy inTime
  · exact fun onTime opened isOpen ended => scheduled_of_onTime onTime isOpen ended

/-- After a failed request a socket opens and stays open for five seconds. -/
def recovers : List ProviderEvent :=
  [.tokenRejected 0 0, .elapses 250, .fires 1 none, .tokenResolved 2 [], .opened 3 [0] none,
    .elapses 5000, .fires 4 none, .elapses 1]

theorem reconnect_backs_off_recovers : ∃ history : Backoffs,
    history.opened = some (3, 250) ∧ history.scheduledAtOpen = 1 ∧ history.Backs ∧
      history.scheduled = 0 ∧ history.WaitsByClock (.closed 3 1006 0) := by
  let ends := (runWhen step (fun history event =>
    event ≠ .destroy ∧ history.inTime event ∧ history.onTime event) new recovers).getD new
  have both : ReachedWhen step (fun history event =>
      event ≠ .destroy ∧ history.inTime event ∧ history.onTime event) (· = new) ends :=
    reachedWhen_getD new recovers new (by decide +kernel)
  have inTime : ReachedWhen step (fun history event => event ≠ .destroy ∧ history.inTime event)
      (· = new) ends := both.mono fun _ _ allowed => ⟨allowed.1, allowed.2.1⟩
  have onTime : ReachedWhen step (fun history event => event ≠ .destroy ∧ history.onTime event)
      (· = new) ends := both.mono fun _ _ allowed => ⟨allowed.1, allowed.2.2⟩
  have reached : ReachedWhen step (fun _ event => event ≠ .destroy) (· = new) ends :=
    both.mono fun _ _ allowed => allowed.1
  have opened : ends.opened = some (3, 250) := by decide +kernel
  have atOpen : ends.scheduledAtOpen = 1 := by decide +kernel
  have ended : (250 : ℚ) + 5000 < ends.provider.now := by decide +kernel
  obtain ⟨backs, byClock, again⟩ := reconnect_backs_off reached
  exact ⟨ends, opened, atOpen, backs, again onTime (3, 250) opened ended,
    byClock inTime _ (by simp) (by decide +kernel)⟩

/-- After three failed requests a socket opens, and six seconds pass in which the
window runs none of its timers. -/
def overdueRun : List ProviderEvent :=
  [.tokenRejected 0 0, .elapses 250, .fires 1 none, .tokenRejected 2 0, .elapses 500,
    .fires 3 none, .tokenRejected 4 0, .elapses 1000, .fires 5 none, .tokenResolved 6 [],
    .opened 7 [0] none, .elapses 6000]

/-- The socket closes then: the reconnect, the first since a socket stayed open for
five seconds, waits for two. -/
theorem reconnect_waits_overdue : ¬∀ history event,
    ReachedWhen step (fun _ event => event ≠ .destroy) (· = new) history →
      event ≠ .destroy → history.WaitsByClock event := by
  intro always
  let ends := (runWhen step (fun _ event => event ≠ .destroy) new overdueRun).getD new
  have reached : ReachedWhen step (fun _ event => event ≠ .destroy) (· = new) ends :=
    reachedWhen_getD new overdueRun new (by decide +kernel)
  have taken : (ends.step (.closed 7 1006 0)).isSome := by decide +kernel
  let closed := (ends.step (.closed 7 1006 0)).getD new
  have stepped : ends.step (.closed 7 1006 0) = some closed := by
    obtain ⟨after, isAfter⟩ := Option.isSome_iff_exists.mp taken
    show _ = some ((ends.step (.closed 7 1006 0)).getD new)
    rw [isAfter]
    rfl
  have armed : (⟨11, .reconnect, 9750⟩ : Timer) ∈ closed.provider.reconnects := by decide +kernel
  have isNew : (⟨11, .reconnect, 9750⟩ : Timer) ∉ ends.provider.timers := by decide +kernel
  have waits := always ends (.closed 7 1006 0) reached (by simp) closed _ stepped armed isNew
  have first : closed.byClock = 1 := by decide +kernel
  have since : ends.provider.now = 7750 := by decide +kernel
  rw [first, since] at waits
  norm_num at waits

end Backoffs

end CollabEditor.Web
