import CollabEditor.Web.Timers

/-!
Owns the ids of the timers of a `CollabProvider`: no two of its fields hold the
same one, so that clearing one timer never clears another.
-/

set_option autoImplicit false

namespace CollabEditor.Web

open CollabEditor.Library CollabEditor.Protocol

namespace CollabProvider

/-- The fields hold ids of different timers, all of them taken. -/
structure Named (provider : CollabProvider) : Prop where
  taken : ∀ kind id, provider.timerOf kind = some id → id < provider.fresh
  distinct : ∀ kind other id, provider.timerOf kind = some id →
    provider.timerOf other = some id → kind = other

/-- Fields that are kept or emptied. -/
theorem Named.mono {before after : CollabProvider} (named : before.Named)
    (fields : ∀ kind, after.timerOf kind = before.timerOf kind ∨ after.timerOf kind = none)
    (fresh : before.fresh ≤ after.fresh) : after.Named := by
  have earlier : ∀ kind id, after.timerOf kind = some id → before.timerOf kind = some id := by
    intro kind id field
    rcases fields kind with same | none
    · exact same ▸ field
    · exact nomatch none.symm.trans field
  exact ⟨fun kind id field => (named.taken kind id (earlier kind id field)).trans_le fresh,
    fun kind other id field field' =>
      named.distinct kind other id (earlier kind id field) (earlier other id field')⟩

/-- A timer that is armed takes the next id. -/
theorem Named.arm {before after : CollabProvider} (named : before.Named) (kind : TimerKind)
    (field : after.timerOf kind = some before.fresh)
    (others : ∀ other, other ≠ kind → after.timerOf other = before.timerOf other)
    (fresh : after.fresh = before.fresh + 1) : after.Named := by
  have taken : ∀ other id, after.timerOf other = some id →
      other = kind ∧ id = before.fresh ∨ before.timerOf other = some id ∧ id < before.fresh := by
    intro other id isField
    by_cases same : other = kind
    · subst same
      exact Or.inl ⟨rfl, Option.some.inj (isField.symm.trans field)⟩
    · rw [others other same] at isField
      exact Or.inr ⟨isField, named.taken other id isField⟩
  refine ⟨fun other id isField => ?_, fun first second id isFirst isSecond => ?_⟩
  · rcases taken other id isField with ⟨-, isFresh⟩ | ⟨-, earlier⟩
    · omega
    · omega
  · rcases taken first id isFirst with ⟨rfl, isFresh⟩ | ⟨before, earlier⟩
    · rcases taken second id isSecond with ⟨rfl, -⟩ | ⟨-, earlier⟩
      · rfl
      · omega
    · rcases taken second id isSecond with ⟨rfl, isFresh⟩ | ⟨before', -⟩
      · omega
      · exact named.distinct first second id before before'

private theorem Named.keep {before after : CollabProvider} (named : before.Named)
    (keeps : KeepsTimers before after) : after.Named :=
  named.mono (fun kind => Or.inl (congrFun keeps.timerOf kind)) keeps.fresh.ge

private theorem named_scheduleReconnect {provider : CollabProvider} (named : provider.Named)
    (jitter : ℚ) : (provider.scheduleReconnect jitter).Named := by
  refine named.arm .reconnect rfl (fun other different => ?_) rfl
  cases other with
  | reconnect => exact absurd rfl different
  | _ => rfl

private theorem named_onOpen {provider : CollabProvider} (named : provider.Named) (token : JsString)
    (step1 : List UInt8) (presence : Option (List UInt8)) :
    (provider.onOpen token step1 presence).Named := by
  have watched : Named { provider.arm .stable CONNECTION_STABLE_MS with
      stableTimer := some provider.fresh } := by
    refine named.arm .stable rfl (fun other different => ?_) rfl
    cases other with
    | stable => exact absurd rfl different
    | _ => rfl
  have pinging : ∀ announced : CollabProvider, announced.Named → announced.startPinging.Named := by
    intro announced named
    refine named.arm .ping rfl (fun other different => ?_) rfl
    cases other with
    | ping => exact absurd rfl different
    | _ => rfl
  have announcing : ∀ pinging : CollabProvider, pinging.Named → pinging.startAnnouncing.Named := by
    intro pinging named
    refine named.arm .awareness rfl (fun other different => ?_) rfl
    cases other with
    | awareness => exact absurd rfl different
    | _ => rfl
  unfold onOpen
  generalize ({ provider.arm .stable CONNECTION_STABLE_MS with
    stableTimer := some provider.fresh } : CollabProvider) = started at watched
  have greeted := ((keepsTimers_setStatus started .connected).trans
    (keepsTimers_send _ (.auth token))).trans (keepsTimers_send _ (.sync step1))
  cases presence with
  | none => exact announcing _ (pinging _ (watched.keep greeted))
  | some payload =>
      have announced := greeted.trans (keepsTimers_send _ (.awareness payload))
      exact announcing _ (pinging _ (watched.keep announced))

private theorem named_clearTimers {provider : CollabProvider} (named : provider.Named) :
    provider.clearTimers.Named := by
  obtain ⟨timers, cleared⟩ := clearTimers_eq provider
  rw [cleared]
  refine named.mono (fun kind => Or.inr ?_) le_rfl
  cases kind <;> rfl

private theorem named_onClose {provider : CollabProvider} (named : provider.Named) (code : ℕ)
    (jitter : ℚ) : (provider.onClose code jitter).Named := by
  have cleared : Named { provider.clearTimers with socket := none } :=
    (named_clearTimers named).mono (fun kind => Or.inl (by cases kind <;> rfl)) le_rfl
  unfold onClose
  dsimp only
  split
  · exact cleared
  · split
    · exact cleared.keep (keepsTimers_setStatus _ .rejected)
    · have refreshing : Named (if code = CloseCode.unauthorized.value then
          { ({ provider.clearTimers with socket := none } : CollabProvider) with
            refreshToken := true }
          else { provider.clearTimers with socket := none }) := by
        split
        · exact cleared.mono (fun kind => Or.inl (by cases kind <;> rfl)) le_rfl
        · exact cleared
      exact named_scheduleReconnect (refreshing.keep (keepsTimers_setStatus _ .offline)) jitter

private theorem named_connect {provider : CollabProvider} (named : provider.Named) :
    provider.connect.Named := by
  have connecting := keepsTimers_setStatus provider .connecting
  unfold connect
  split
  · exact named
  · exact (named.keep connecting).mono (fun kind => Or.inl (by cases kind <;> rfl))
      (by rw [connecting.fresh]; exact Nat.le_succ _)

private theorem named_onToken {provider : CollabProvider} (named : provider.Named)
    (token : JsString) :
    (provider.onToken token).Named := by
  unfold onToken
  dsimp only
  split
  · exact named.mono (fun kind => Or.inl (by cases kind <;> rfl)) le_rfl
  · exact named.mono (fun kind => Or.inl (by cases kind <;> rfl)) (Nat.le_succ _)

private theorem named_onTimer {provider : CollabProvider} (named : provider.Named) (timer : Timer)
    (presence : Option (List UInt8)) : (provider.onTimer timer presence).Named := by
  have expired : (provider.expire timer).Named :=
    named.mono (fun kind => Or.inl (by cases kind <;> rfl)) le_rfl
  have rearmed : ∀ interval, (provider.rearm timer interval).Named := fun interval =>
    named.mono (fun kind => Or.inl (by cases kind <;> rfl)) le_rfl
  unfold onTimer
  split
  · exact named_connect expired
  · dsimp only
    split
    · exact rearmed PING_INTERVAL_MS
    · have pinged := (rearmed PING_INTERVAL_MS).keep (keepsTimers_send _ .ping)
      refine pinged.arm .pong rfl (fun other different => ?_) rfl
      cases other with
      | pong => exact absurd rfl different
      | _ => rfl
  · exact expired.keep (keepsTimers_closeCurrent _)
  · cases presence with
    | none => exact rearmed AWARENESS_REFRESH_MS
    | some payload => exact (rearmed AWARENESS_REFRESH_MS).keep (keepsTimers_send _ _)
  · exact expired.mono (fun kind => Or.inl (by cases kind <;> rfl)) le_rfl

private theorem named_onFrame {provider : CollabProvider} (named : provider.Named)
    (frame : List UInt8) (reply : Option (List UInt8)) : (provider.onFrame frame reply).Named := by
  unfold onFrame
  split
  · cases reply with
    | none => exact named
    | some payload => exact named.keep (keepsTimers_send _ _)
  · obtain ⟨timers, cleared⟩ := clear_eq provider provider.pongTimer
    rw [cleared]
    refine named.mono (fun kind => ?_) le_rfl
    cases kind with
    | pong => exact Or.inr rfl
    | _ => exact Or.inl rfl
  · exact named

/-- No event mixes up two timers. -/
theorem named_step {provider after : CollabProvider} {event : ProviderEvent}
    (named : provider.Named) (stepped : provider.step event = some after) : after.Named := by
  have same : ∀ {after : CollabProvider}, (∀ kind, after.timerOf kind = provider.timerOf kind) →
      after.fresh = provider.fresh → after.Named := fun fields fresh =>
    named.mono (fun kind => Or.inl (fields kind)) fresh.ge
  cases moved_of_step stepped with
  | tokenResolved request token found =>
      refine named_onToken ?_ token
      exact same (fun kind => by cases kind <;> rfl) rfl
  | tokenRejected request jitter found nonnegative belowOne =>
      refine named_scheduleReconnect (Named.keep ?_ (keepsTimers_setStatus _ .offline)) jitter
      exact same (fun kind => by cases kind <;> rfl) rfl
  | opened id step1 presence socket found connecting =>
      refine named_onOpen ?_ _ _ _
      exact same (fun kind => by cases kind <;> rfl) rfl
  | errored id =>
      exact named.keep (keepsTimers_closeSocket provider id)
  | closing id =>
      exact named.keep (keepsTimers_closeSocket provider id)
  | closed id code jitter socket found nonnegative belowOne =>
      refine named_onClose ?_ code jitter
      exact same (fun kind => by cases kind <;> rfl) rfl
  | message id frame reply socket found isOpen =>
      exact named_onFrame named frame reply
  | fires id presence timer found due =>
      exact named_onTimer named timer presence
  | docUpdate payload =>
      split
      · exact named
      · exact named.keep (keepsTimers_send _ _)
  | awarenessUpdate payload =>
      split
      · exact named
      · exact named.keep (keepsTimers_send _ _)
  | elapses milliseconds forward =>
      exact same (fun kind => by cases kind <;> rfl) rfl
  | destroy =>
      have cleared : (clearTimers { provider with destroyed := true }).Named := by
        refine named_clearTimers ?_
        exact same (fun kind => by cases kind <;> rfl) rfl
      refine (cleared.keep (keepsTimers_closeCurrent _)).mono (fun kind => ?_) le_rfl
      exact Or.inl (by cases kind <;> rfl)

theorem named_new : new.Named := by
  refine named_connect ⟨fun kind id field => ?_, fun kind other id field _ => ?_⟩
  · cases kind <;> cases field
  · cases kind <;> cases field

end CollabProvider

end CollabEditor.Web
