import CollabEditor.Web.Timers

/-!
Owns what is left of a `CollabProvider` after `destroy`, whatever the requests
and sockets it leaves behind still deliver.
-/

set_option autoImplicit false

namespace CollabEditor.Web

open CollabEditor.Library CollabEditor.Protocol

/-- The same socket later, perhaps being closed by then. -/
def Socket.Ages (earlier later : Socket) : Prop :=
  later = earlier ∨ later = { earlier with readyState := .closing }

private theorem Socket.Ages.closing {earlier later : Socket} (ages : earlier.Ages later)
    (closing : earlier.readyState = .closing) : later.readyState = .closing := by
  rcases ages with rfl | rfl
  · exact closing
  · rfl

theorem Socket.Ages.same {earlier later : Socket} (ages : earlier.Ages later) :
    later.id = earlier.id ∧ later.token = earlier.token ∧ later.sent = earlier.sent := by
  rcases ages with rfl | rfl
  · exact ⟨rfl, rfl, rfl⟩
  · exact ⟨rfl, rfl, rfl⟩

namespace CollabProvider

/-! ### Destroyed providers -/

/-- A provider that was destroyed: its sockets are being closed, and all it can
still wait for are the token it had asked for and a reconnect. -/
structure Destroyed (provider : CollabProvider) : Prop where
  destroyed : provider.destroyed = true
  closing : ∀ socket ∈ provider.sockets, socket.readyState = .closing
  single : provider.sockets.length ≤ 1
  owned : provider.Owned
  reconnects : ∀ timer ∈ provider.timers, timer.kind = .reconnect
  requests : provider.requests = [] ∨
    provider.timers = [] ∧ ∃ request, provider.requests = [request]

/-- A provider on its way, or a destroyed one. -/
def Orderly (provider : CollabProvider) : Prop :=
  (∃ way, OnlyWay provider way ∧ provider.Tidy) ∨ provider.Destroyed

private theorem Orderly.owned {provider : CollabProvider} (orderly : provider.Orderly) :
    provider.Owned := by
  rcases orderly with ⟨way, -, tidy⟩ | destroyed
  · exact tidy.owned
  · exact destroyed.owned

/-- `destroy` clears the timers and closes the socket there is. -/
theorem destroy_eq (provider : CollabProvider) : ∃ timers, provider.destroy = { provider with
    destroyed := true
    timers := timers
    pingTimer := none
    pongTimer := none
    awarenessTimer := none
    stableTimer := none
    reconnectTimer := none
    socket := none
    sockets := provider.closeCurrent.sockets } := by
  obtain ⟨timers, cleared⟩ := clearTimers_eq { provider with destroyed := true }
  refine ⟨timers, ?_⟩
  unfold destroy
  rw [cleared]
  unfold closeCurrent
  cases provider.socket with
  | none => rfl
  | some id => rfl

private theorem closing_closeCurrent {provider : CollabProvider}
    (current : ∀ socket ∈ provider.sockets,
      provider.socket = some socket.id ∨ socket.readyState = .closing) :
    ∀ socket ∈ provider.closeCurrent.sockets, socket.readyState = .closing := by
  intro socket member
  unfold closeCurrent at member
  split at member
  · next none =>
      rcases current socket member with some | closing
      · exact nomatch none.symm.trans some
      · exact closing
  · next id isCurrent =>
      obtain ⟨earlier, among, rfl⟩ := List.mem_map.mp member
      split
      · rfl
      · next other =>
          rcases current earlier among with same | closing
          · exact absurd (Option.some.inj (same.symm.trans isCurrent)) other
          · exact closing

private theorem length_closeCurrent (provider : CollabProvider) :
    provider.closeCurrent.sockets.length = provider.sockets.length := by
  unfold closeCurrent
  split
  · rfl
  · exact List.length_map _

/-- A provider that is destroyed on its way. -/
theorem destroyed_destroy {provider : CollabProvider} (owned : provider.Owned)
    (current : ∀ socket ∈ provider.sockets,
      provider.socket = some socket.id ∨ socket.readyState = .closing)
    (single : provider.sockets.length ≤ 1)
    (requests : provider.requests = [] ∨ ∃ request, provider.requests = [request]) :
    provider.destroy.Destroyed := by
  have noTimers := timers_destroy owned
  have tidy := tidy_of_noTimers noTimers
  obtain ⟨timers, ends⟩ := destroy_eq provider
  refine ⟨?_, ?_, ?_, tidy.owned, ?_, ?_⟩
  · rw [ends]
  · rw [ends]
    exact closing_closeCurrent current
  · rw [ends]
    exact (length_closeCurrent provider).trans_le single
  · intro timer member
    rw [noTimers] at member
    cases member
  · rw [noTimers, ends]
    exact requests.imp id fun one => ⟨rfl, one⟩

theorem OnlyWay.current {provider : CollabProvider} {way : Way} (only : OnlyWay provider way) :
    ∀ socket ∈ provider.sockets,
      provider.socket = some socket.id ∨ socket.readyState = .closing := by
  intro socket member
  have isSocket : way = .socket := only.eq fun none => by
    rw [show provider.sockets = [] from none] at member
    cases member
  subst isSocket
  obtain ⟨one, sockets, current⟩ := only.isOn
  rw [sockets, List.mem_singleton] at member
  rw [member]
  exact Or.inl current

theorem OnlyWay.single {provider : CollabProvider} {way : Way} (only : OnlyWay provider way) :
    provider.sockets.length ≤ 1 := by
  by_cases isSocket : way = .socket
  · subst isSocket
    obtain ⟨socket, one, -⟩ := only.isOn
    rw [one, List.length_singleton]
  · rw [show provider.sockets = [] from only.isOff .socket (Ne.symm isSocket)]
    exact Nat.zero_le 1

theorem OnlyWay.requests {provider : CollabProvider} {way : Way} (only : OnlyWay provider way) :
    provider.requests = [] ∨ ∃ request, provider.requests = [request] := by
  by_cases isToken : way = .token
  · subst isToken
    exact Or.inr only.isOn
  · exact Or.inl (only.isOff .token (Ne.symm isToken))

/-! ### Events after `destroy` -/

/-- Nothing is made and nobody is told. -/
structure Stays (before after : CollabProvider) : Prop where
  destroyed : after.destroyed = true
  sockets : ∀ socket ∈ after.sockets, ∃ earlier ∈ before.sockets, earlier.Ages socket
  single : after.sockets.length ≤ before.sockets.length
  timers : ∀ timer ∈ after.timers, timer ∈ before.timers
  owned : after.Owned
  requests : after.requests = before.requests ∨ after.requests = []
  fresh : after.fresh = before.fresh
  notified : after.notified = before.notified

theorem mem_closeSocket {provider : CollabProvider} {id : ℕ} {socket : Socket}
    (member : socket ∈ (provider.closeSocket id).sockets) :
    ∃ earlier ∈ provider.sockets, earlier.Ages socket := by
  obtain ⟨earlier, among, rfl⟩ := List.mem_map.mp member
  refine ⟨earlier, among, ?_⟩
  split
  · exact Or.inr rfl
  · exact Or.inl rfl

theorem mem_closeCurrent {provider : CollabProvider} {socket : Socket}
    (member : socket ∈ provider.closeCurrent.sockets) :
    ∃ earlier ∈ provider.sockets, earlier.Ages socket := by
  unfold closeCurrent at member
  split at member
  · exact ⟨socket, member, Or.inl rfl⟩
  · exact mem_closeSocket member

/-- The only request there is settles. -/
theorem Destroyed.filter_requests {provider : CollabProvider} (ended : provider.Destroyed)
    {request : ℕ} (found : (provider.requests.any fun pending => pending.id = request) = true) :
    provider.timers = [] ∧
      provider.requests.filter (fun pending => pending.id ≠ request) = [] := by
  rcases ended.requests with none | ⟨noTimers, one⟩
  · rw [none] at found
    cases found
  · exact ⟨noTimers, filter_ne_of_any TokenRequest.id one (by simpa using found)⟩

/-- The end of a socket of a destroyed provider clears its timers. -/
theorem stays_onClose {provider : CollabProvider} (ended : provider.Destroyed)
    (id code : ℕ) (jitter : ℚ) : Stays provider (onClose { provider with
      sockets := provider.sockets.filter fun socket => socket.id ≠ id
      closeCode := some code } code jitter) := by
  generalize closes : ({ provider with
    sockets := provider.sockets.filter fun socket => socket.id ≠ id
    closeCode := some code } : CollabProvider) = closed
  have owned : closed.Owned := by
    subst closes
    exact ended.owned.same rfl rfl
  have noTimers := timers_clearTimers owned
  obtain ⟨timers, cleared⟩ := clearTimers_eq closed
  rw [cleared] at noTimers
  subst closes
  unfold onClose
  rw [cleared, if_pos ended.destroyed]
  refine ⟨ended.destroyed, fun socket member => ?_, List.length_filter_le _ _,
    fun timer member => ?_, fun timer member => ?_, Or.inl rfl, rfl, rfl⟩
  · exact ⟨socket, List.mem_of_mem_filter member, Or.inl rfl⟩
  · have armed : timer ∈ timers := member
    rw [show timers = [] from noTimers] at armed
    cases armed
  · have armed : timer ∈ timers := member
    rw [show timers = [] from noTimers] at armed
    cases armed

/-- What happens to a destroyed provider, but for a request that is rejected. -/
theorem stays_step {provider after : CollabProvider} {event : ProviderEvent}
    (ended : provider.Destroyed)
    (notRejected : ∀ request jitter, event ≠ .tokenRejected request jitter)
    (stepped : provider.step event = some after) : Stays provider after := by
  have same : ∀ socket ∈ provider.sockets, ∃ earlier ∈ provider.sockets, earlier.Ages socket :=
    fun socket member => ⟨socket, member, Or.inl rfl⟩
  have unchanged : Stays provider provider :=
    ⟨ended.destroyed, same, le_rfl, fun _ member => member, ended.owned, Or.inl rfl, rfl, rfl⟩
  cases moved_of_step stepped with
  | tokenResolved request token found =>
      have settled := (ended.filter_requests found).2
      rw [onToken_of_destroyed]
      · exact ⟨ended.destroyed, same, le_rfl, fun _ member => member, ended.owned.same rfl rfl,
          Or.inr settled, rfl, rfl⟩
      · exact ended.destroyed
  | tokenRejected request jitter found nonnegative belowOne =>
      exact absurd rfl (notRejected request jitter)
  | opened id step1 presence socket found connecting =>
      exact nomatch connecting.symm.trans (ended.closing socket (mem_of_socketOf found).1)
  | errored id =>
      exact ⟨ended.destroyed, fun _ => mem_closeSocket, (List.length_map _).le,
        fun _ member => member, ended.owned.same rfl rfl, Or.inl rfl, rfl, rfl⟩
  | closing id =>
      exact ⟨ended.destroyed, fun _ => mem_closeSocket, (List.length_map _).le,
        fun _ member => member, ended.owned.same rfl rfl, Or.inl rfl, rfl, rfl⟩
  | closed id code jitter socket found nonnegative belowOne =>
      exact stays_onClose ended id code jitter
  | message id frame reply socket found isOpen =>
      exact nomatch isOpen.symm.trans (ended.closing socket (mem_of_socketOf found).1)
  | fires id presence timer found due =>
      have kind := ended.reconnects timer (List.mem_of_find?_eq_some found)
      have expires : provider.onTimer timer presence = provider.expire timer :=
        (onTimer_reconnect provider kind presence).trans (if_pos ended.destroyed)
      rw [expires]
      exact ⟨ended.destroyed, same, le_rfl, fun _ member => List.mem_of_mem_erase member,
        ended.owned.mono (fun timer member =>
          ⟨timer, List.mem_of_mem_erase member, rfl, rfl⟩) rfl, Or.inl rfl, rfl, rfl⟩
  | docUpdate payload =>
      rw [if_pos ended.destroyed]
      exact unchanged
  | awarenessUpdate payload =>
      rw [if_pos ended.destroyed]
      exact unchanged
  | elapses milliseconds forward =>
      exact ⟨ended.destroyed, same, le_rfl, fun _ member => member, ended.owned.same rfl rfl,
        Or.inl rfl, rfl, rfl⟩
  | destroy =>
      have noTimers := timers_destroy ended.owned
      have owned := (tidy_of_noTimers noTimers).owned
      obtain ⟨timers, ends⟩ := destroy_eq provider
      rw [ends] at noTimers owned ⊢
      refine ⟨rfl, fun _ => mem_closeCurrent, (length_closeCurrent provider).le,
        fun timer member => ?_, owned, Or.inl rfl, rfl, rfl⟩
      rw [noTimers] at member
      cases member

private theorem Destroyed.stays {before after : CollabProvider} (ended : before.Destroyed)
    (stays : Stays before after) : after.Destroyed where
  destroyed := stays.destroyed
  closing socket member := by
    obtain ⟨earlier, among, ages⟩ := stays.sockets socket member
    exact ages.closing (ended.closing earlier among)
  single := stays.single.trans ended.single
  owned := stays.owned
  reconnects timer member := ended.reconnects timer (stays.timers timer member)
  requests := by
    rcases stays.requests with same | none
    · rw [same]
      refine ended.requests.imp_right fun ⟨noTimers, one⟩ => ⟨?_, one⟩
      exact List.eq_nil_iff_forall_not_mem.mpr fun timer member => by
        have earlier := stays.timers timer member
        rw [noTimers] at earlier
        cases earlier
    · exact Or.inl none

/-- The `catch` of `connect` schedules a reconnect even then. -/
theorem timers_of_rejected {provider after : CollabProvider} {request : ℕ} {jitter : ℚ}
    (stepped : provider.step (.tokenRejected request jitter) = some after) :
    after.timers ≠ [] := by
  obtain ⟨-, result⟩ := Option.ite_none_right_eq_some.mp stepped
  cases result
  rw [timers_onTokenFailed]
  exact List.append_ne_nil_of_right_ne_nil _ (List.cons_ne_nil _ _)

private theorem destroyed_onTokenFailed {provider : CollabProvider}
    (destroyed : provider.destroyed = true)
    (closing : ∀ socket ∈ provider.sockets, socket.readyState = .closing)
    (single : provider.sockets.length ≤ 1) (noTimers : provider.timers = [])
    (noRequests : provider.requests = []) (jitter : ℚ) :
    (provider.onTokenFailed jitter).Destroyed := by
  have offline := keeps_setStatus provider .offline
  have sockets : (provider.setStatus .offline).sockets = provider.sockets := by
    unfold setStatus
    split <;> rfl
  have timers := (keepsTimers_setStatus provider .offline).timers.trans noTimers
  have tidy := tidy_scheduleReconnect timers jitter
  refine ⟨offline.destroyed.trans destroyed, fun socket member => ?_, ?_, tidy.owned,
    fun timer member => ?_, Or.inl (offline.requests.trans noRequests)⟩
  · exact closing socket (sockets ▸ member)
  · exact sockets ▸ single
  · rw [timers_onTokenFailed, noTimers, List.nil_append, List.mem_singleton] at member
    rw [member]

theorem destroyed_step {provider after : CollabProvider} {event : ProviderEvent}
    (ended : provider.Destroyed) (stepped : provider.step event = some after) :
    after.Destroyed := by
  by_cases rejected : ∃ request jitter, event = .tokenRejected request jitter
  · obtain ⟨request, jitter, rfl⟩ := rejected
    obtain ⟨⟨found, -⟩, result⟩ := Option.ite_none_right_eq_some.mp stepped
    cases result
    obtain ⟨noTimers, settled⟩ := ended.filter_requests found
    refine destroyed_onTokenFailed ?_ ?_ ?_ ?_ ?_ jitter
    · exact ended.destroyed
    · exact ended.closing
    · exact ended.single
    · exact noTimers
    · exact settled
  · refine ended.stays (stays_step ended (fun request jitter same => ?_) stepped)
    exact rejected ⟨request, jitter, same⟩

/-! ### Every run -/

theorem orderly_step {provider after : CollabProvider} {event : ProviderEvent}
    (orderly : provider.Orderly) (stepped : provider.step event = some after) :
    after.Orderly := by
  rcases orderly with ⟨way, only, tidy⟩ | ended
  · by_cases destroys : event = .destroy
    · subst destroys
      cases stepped
      exact Or.inr (destroyed_destroy tidy.owned only.current only.single only.requests)
    · obtain ⟨next, goesOn⟩ := onlyWay_step destroys only stepped
      exact Or.inl ⟨next, goesOn, tidy_step only tidy stepped⟩
  · exact Or.inr (destroyed_step ended stepped)

private theorem orderly_of_reached {provider : CollabProvider}
    (reached : Reached step (· = new) provider) : provider.Orderly := by
  refine reached.invariant Orderly ?_ fun provider event after orderly _ stepped =>
    orderly_step orderly stepped
  rintro provider rfl
  exact Or.inl ⟨.token, onlyWay_new, tidy_new⟩

/-- Since a provider was destroyed no socket was constructed and no timer
armed, none is left, and no listener was called. -/
structure Silent (final later : CollabProvider) : Prop where
  constructed : ∀ socket ∈ later.sockets, socket.id ∈ final.sockets.map Socket.id
  /-- Sockets and timers take the ids from here. -/
  fresh : later.fresh = final.fresh
  timers : later.timers = []
  notified : later.notified = final.notified

/-- One event keeps the silence exactly when it rejects no request. -/
theorem silent_step {final provider after : CollabProvider} {event : ProviderEvent}
    (ended : provider.Destroyed) (silent : Silent final provider)
    (stepped : provider.step event = some after) :
    Silent final after ↔ ∀ request jitter, event ≠ .tokenRejected request jitter := by
  constructor
  · rintro later request jitter rfl
    exact timers_of_rejected stepped later.timers
  · intro notRejected
    have stays := stays_step ended notRejected stepped
    refine ⟨fun socket member => ?_, stays.fresh.trans silent.fresh,
      List.eq_nil_iff_forall_not_mem.mpr fun timer member => ?_,
      stays.notified.trans silent.notified⟩
    · obtain ⟨earlier, among, ages⟩ := stays.sockets socket member
      exact ages.same.1 ▸ silent.constructed earlier among
    · have earlier := stays.timers timer member
      rw [silent.timers] at earlier
      cases earlier

/-- `destroy` is final, whenever it is called, exactly as long as no token
request that was pending is rejected afterwards. -/
theorem destroy_is_final {provider : CollabProvider} (reached : Reached step (· = new) provider)
    (labels : List ProviderEvent) :
    Along step (Silent provider.destroy) provider.destroy labels ↔
      Meets step (fun _ event => ∀ request jitter, event ≠ .tokenRejected request jitter)
        provider.destroy labels := by
  have ended : provider.destroy.Destroyed := by
    rcases orderly_of_reached reached with ⟨way, only, tidy⟩ | ended
    · exact destroyed_destroy tidy.owned only.current only.single only.requests
    · have stepped : provider.step .destroy = some provider.destroy := rfl
      exact destroyed_step ended stepped
  have silent : Silent provider.destroy provider.destroy := by
    refine ⟨fun socket member => List.mem_map_of_mem member, rfl, ?_, rfl⟩
    exact timers_destroy (orderly_of_reached reached).owned
  exact along_iff_meets (Silent provider.destroy) Destroyed
    (fun provider event after ended stepped => destroyed_step ended stepped)
    (fun provider event after ended silent stepped => silent_step ended silent stepped)
    ended silent labels

/-- A socket opens. -/
def opens : List ProviderEvent :=
  [.tokenResolved 0 [], .opened 1 [0] none]

/-- A provider is destroyed while its socket is open; the `close` event comes
later. -/
theorem destroy_is_final_open :
    Along step (Silent ((run step new opens).getD new).destroy)
      ((run step new opens).getD new).destroy [.elapses 100, .closed 1 1005 0, .elapses 30000] := by
  have reached : Reached step (· = new) ((run step new opens).getD new) :=
    reachedWhen_getD new opens new (by decide +kernel)
  refine (destroy_is_final reached _).mpr ?_
  exact fun _ _ => ⟨fun _ _ => nofun, fun _ _ => ⟨fun _ _ => nofun, fun _ _ =>
    ⟨fun _ _ => nofun, trivial⟩⟩⟩

/-- The token request of a new provider is rejected after `destroy`: a listener
is called and a timer armed. -/
theorem destroy_not_final :
    Reached step (· = new) new ∧
      ¬ Along step (Silent new.destroy) new.destroy [.tokenRejected 0 0] := by
  refine ⟨.start rfl, fun along => ?_⟩
  have enabled : (new.destroy.step (.tokenRejected 0 0)).isSome := by decide +kernel
  obtain ⟨after, taken⟩ := Option.isSome_iff_exists.mp enabled
  have silent : Silent new.destroy after := along.2 after taken
  exact timers_of_rejected taken silent.timers

end CollabProvider

end CollabEditor.Web
