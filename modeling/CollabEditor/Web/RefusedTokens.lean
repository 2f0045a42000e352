import CollabEditor.Web.SessionSource

/-!
Owns why a refused token is never presented again: the refusal survives in
`refreshToken` until the source has forgotten the token.
-/

set_option autoImplicit false

namespace CollabEditor.Web

open CollabEditor.Library CollabEditor.Protocol

namespace CollabProvider

/-! ### Events that settle nothing -/

/-- The sockets get frames, but no `Auth` with a token of another socket. -/
structure Talks (before after : CollabProvider) : Prop where
  requests : after.requests = before.requests
  refreshToken : after.refreshToken = before.refreshToken
  sockets : ∀ socket ∈ after.sockets, ∃ earlier ∈ before.sockets,
    earlier.token = socket.token ∧
      ∀ token, .auth token ∈ socket.sent → .auth token ∈ earlier.sent ∨ token = socket.token

private theorem talks_of_same {before after : CollabProvider}
    (requests : after.requests = before.requests)
    (refreshToken : after.refreshToken = before.refreshToken)
    (sockets : after.sockets = before.sockets) : Talks before after := by
  refine ⟨requests, refreshToken, fun socket member => ?_⟩
  exact ⟨socket, sockets ▸ member, rfl, fun token sent => Or.inl sent⟩

private theorem Talks.trans {first second third : CollabProvider} (front : Talks first second)
    (back : Talks second third) : Talks first third where
  requests := back.requests.trans front.requests
  refreshToken := back.refreshToken.trans front.refreshToken
  sockets socket member := by
    obtain ⟨middle, among, sameToken, sent⟩ := back.sockets socket member
    obtain ⟨earlier, among', sameToken', sent'⟩ := front.sockets middle among
    refine ⟨earlier, among', sameToken'.trans sameToken, fun token isSent => ?_⟩
    rcases sent token isSent with before | own
    · rw [← sameToken]
      exact sent' token before
    · exact Or.inr own

/-- A frame that is sent is no `Auth`, or carries the token of its socket. -/
theorem talks_send (provider : CollabProvider) (message : Message)
    (own : ∀ token, message = .auth token → ∀ socket ∈ provider.sockets, token = socket.token) :
    Talks provider (provider.send message) := by
  refine ⟨rfl, rfl, fun socket member => ?_⟩
  obtain ⟨earlier, among, rfl⟩ := List.mem_map.mp member
  refine ⟨earlier, among, ?_⟩
  split
  · refine ⟨rfl, fun token sent => ?_⟩
    rcases List.mem_append.mp sent with before | last
    · exact Or.inl before
    · exact Or.inr (own token (List.mem_singleton.mp last).symm earlier among)
  · exact ⟨rfl, fun token sent => Or.inl sent⟩

private theorem talks_send_other (provider : CollabProvider) (message : Message)
    (other : authToken message = none) : Talks provider (provider.send message) := by
  refine talks_send provider message fun token same => ?_
  rw [same] at other
  cases other

private theorem talks_closeSocket (provider : CollabProvider) (id : ℕ) :
    Talks provider (provider.closeSocket id) := by
  refine ⟨rfl, rfl, fun socket member => ?_⟩
  obtain ⟨earlier, among, ages⟩ := mem_closeSocket member
  obtain ⟨-, token, sent⟩ := ages.same
  exact ⟨earlier, among, token.symm, fun _ isSent => Or.inl (sent ▸ isSent)⟩

private theorem talks_closeCurrent (provider : CollabProvider) :
    Talks provider provider.closeCurrent := by
  unfold closeCurrent
  split
  · exact talks_of_same rfl rfl rfl
  · exact talks_closeSocket provider _

private theorem talks_setStatus (provider : CollabProvider) (status : ConnectionStatus) :
    Talks provider (provider.setStatus status) := by
  unfold setStatus
  split
  · exact talks_of_same rfl rfl rfl
  · exact talks_of_same rfl rfl rfl

private theorem talks_markOpen (provider : CollabProvider) (id : ℕ) :
    Talks provider (provider.markOpen id) := by
  refine ⟨rfl, rfl, fun socket member => ?_⟩
  obtain ⟨earlier, among, rfl⟩ := List.mem_map.mp member
  refine ⟨earlier, among, ?_⟩
  split
  · exact ⟨rfl, fun _ sent => Or.inl sent⟩
  · exact ⟨rfl, fun _ sent => Or.inl sent⟩

private theorem talks_onFrame (provider : CollabProvider) (frame : List UInt8)
    (reply : Option (List UInt8)) : Talks provider (provider.onFrame frame reply) := by
  unfold onFrame
  split
  · cases reply with
    | none => exact talks_of_same rfl rfl rfl
    | some payload => exact talks_send_other provider (.sync payload) rfl
  · obtain ⟨timers, cleared⟩ := clear_eq provider provider.pongTimer
    rw [cleared]
    exact talks_of_same rfl rfl rfl
  · exact talks_of_same rfl rfl rfl

/-- The first frame of a socket carries its token. -/
theorem talks_onOpen {provider : CollabProvider} {token : JsString}
    (own : ∀ socket ∈ provider.sockets, token = socket.token) (step1 : List UInt8)
    (presence : Option (List UInt8)) : Talks provider (provider.onOpen token step1 presence) := by
  have watched : Talks provider { provider.arm .stable CONNECTION_STABLE_MS with
      stableTimer := some provider.fresh } := talks_of_same rfl rfl rfl
  unfold onOpen
  generalize ({ provider.arm .stable CONNECTION_STABLE_MS with
    stableTimer := some provider.fresh } : CollabProvider) = started at watched
  have connected := watched.trans (talks_setStatus started .connected)
  have auth : Talks provider ((started.setStatus .connected).send (.auth token)) := by
    refine connected.trans (talks_send _ (.auth token) ?_)
    rintro _ ⟨⟩ socket member
    obtain ⟨earlier, among, same, -⟩ := connected.sockets socket member
    exact (own earlier among).trans same
  have greeted := auth.trans (talks_send_other _ (.sync step1) rfl)
  have session : ∀ announced : CollabProvider, Talks provider announced →
      Talks provider announced.startPinging.startAnnouncing := fun announced talks =>
    talks.trans (talks_of_same rfl rfl rfl)
  cases presence with
  | none => exact session _ greeted
  | some payload =>
      exact session _ (greeted.trans (talks_send_other _ (.awareness payload) rfl))

/-! ### What an event does to the token -/

/-- How an event moves a provider between its token requests and its sockets. -/
inductive Errand (before : CollabProvider) (event : ProviderEvent) (after : CollabProvider) :
    Prop where
  /-- A token is asked for, a new one if the last was refused. -/
  | asks (timer : ℕ) (presence : Option (List UInt8)) (seen : event = .fires timer presence)
      (none : before.requests = []) (id : ℕ) (asked : after.requests = [⟨id, before.refreshToken⟩])
      (sockets : after.sockets = [])
  | takes (request : TokenRequest) (token : JsString)
      (seen : event = .tokenResolved request.id token) (asked : before.requests = [request])
      (requests : after.requests = []) (id : ℕ)
      (sockets : after.sockets = [⟨id, token, .connecting, []⟩])
  | fails (request : TokenRequest) (jitter : ℚ) (seen : event = .tokenRejected request.id jitter)
      (asked : before.requests = [request]) (requests : after.requests = [])
      (refreshToken : after.refreshToken = before.refreshToken) (sockets : after.sockets = [])
  | loses (socket : Socket) (code : ℕ) (jitter : ℚ) (seen : event = .closed socket.id code jitter)
      (only : before.sockets = [socket]) (none : before.requests = [])
      (requests : after.requests = []) (sockets : after.sockets = [])
      (refused : code = CloseCode.unauthorized.value → after.refreshToken = true)
      (kept : before.refreshToken = true → after.refreshToken = true)
  | talks (settlesNone : ∀ source : SessionSource, source.settle event = source)
      (refusesNone : before.refuses event = []) (talks : Talks before after)

/-- Going offline or being rejected changes nothing of the token. -/
theorem setStatus_token (provider : CollabProvider) (status : ConnectionStatus) :
    (provider.setStatus status).requests = provider.requests ∧
      (provider.setStatus status).sockets = provider.sockets ∧
      (provider.setStatus status).refreshToken = provider.refreshToken := by
  unfold setStatus
  split
  · exact ⟨rfl, rfl, rfl⟩
  · exact ⟨rfl, rfl, rfl⟩

private theorem clearTimers_token (provider : CollabProvider) :
    provider.clearTimers.requests = provider.requests ∧
      provider.clearTimers.sockets = provider.sockets ∧
      provider.clearTimers.refreshToken = provider.refreshToken ∧
      provider.clearTimers.destroyed = provider.destroyed := by
  obtain ⟨timers, cleared⟩ := clearTimers_eq provider
  rw [cleared]
  exact ⟨rfl, rfl, rfl, rfl⟩

/-- `onclose` remembers a refusal, and forgets none. -/
theorem token_onClose {provider : CollabProvider} (alive : provider.destroyed = false)
    (code : ℕ) (jitter : ℚ) :
    (provider.onClose code jitter).requests = provider.requests ∧
      (provider.onClose code jitter).sockets = provider.sockets ∧
      (code = CloseCode.unauthorized.value →
        (provider.onClose code jitter).refreshToken = true) ∧
      (provider.refreshToken = true → (provider.onClose code jitter).refreshToken = true) := by
  obtain ⟨requests, sockets, refreshToken, destroyed⟩ := clearTimers_token provider
  unfold onClose
  dsimp only
  rw [if_neg (by simp [destroyed, alive])]
  split
  · next terminal =>
      have rejected := setStatus_token { provider.clearTimers with socket := none } .rejected
      refine ⟨rejected.1.trans requests, rejected.2.1.trans sockets, fun refused => ?_,
        fun kept => rejected.2.2.trans (refreshToken.trans kept)⟩
      rw [refused] at terminal
      exact absurd terminal (by decide)
  · split
    · have offline := setStatus_token { provider.clearTimers with
        socket := none, refreshToken := true } .offline
      exact ⟨offline.1.trans requests, offline.2.1.trans sockets, fun _ => offline.2.2,
        fun _ => offline.2.2⟩
    · next other =>
        have offline := setStatus_token { provider.clearTimers with socket := none } .offline
        exact ⟨offline.1.trans requests, offline.2.1.trans sockets,
          fun refused => absurd refused other,
          fun kept => offline.2.2.trans (refreshToken.trans kept)⟩

/-- The request that settles is the one there is. -/
theorem OnlyWay.request_of_any {provider : CollabProvider} {way : Way} {request : ℕ}
    (only : OnlyWay provider way)
    (found : (provider.requests.any fun pending => pending.id = request) = true) :
    ∃ pending, provider.requests = [pending] ∧ pending.id = request := by
  rcases only.requests with none | ⟨pending, one⟩
  · rw [none] at found
    cases found
  · rw [one] at found
    exact ⟨pending, one, by simpa using found⟩

/-- Every timer but the reconnect timer at most sends frames. -/
theorem talks_onTimer (provider : CollabProvider) {timer : Timer}
    (other : timer.kind ≠ .reconnect) (presence : Option (List UInt8)) :
    Talks provider (provider.onTimer timer presence) := by
  have expired : Talks provider (provider.expire timer) := talks_of_same rfl rfl rfl
  have rearmed : ∀ interval, Talks provider (provider.rearm timer interval) :=
    fun interval => talks_of_same rfl rfl rfl
  unfold onTimer
  split
  · next kind => exact absurd kind other
  · dsimp only
    split
    · exact rearmed PING_INTERVAL_MS
    · have pinged := (rearmed PING_INTERVAL_MS).trans (talks_send_other _ .ping rfl)
      exact pinged.trans (talks_of_same rfl rfl rfl)
  · exact expired.trans (talks_closeCurrent _)
  · cases presence with
    | none => exact rearmed AWARENESS_REFRESH_MS
    | some payload =>
        exact (rearmed AWARENESS_REFRESH_MS).trans (talks_send_other _ (.awareness payload) rfl)
  · exact expired.trans (talks_of_same rfl rfl rfl)

private theorem errand_of_step {provider after : CollabProvider} {event : ProviderEvent} {way : Way}
    (only : OnlyWay provider way) (notDestroy : event ≠ .destroy)
    (stepped : provider.step event = some after) : Errand provider event after := by
  cases moved_of_step stepped with
  | tokenResolved request token found =>
      obtain ⟨pending, asked, rfl⟩ := only.request_of_any found
      have idle := (idle_of_settled only found).1
      have noSockets : provider.sockets = [] := idle.sockets
      rw [onToken_of_alive]
      · refine .takes pending token rfl asked idle.requests provider.fresh ?_
        dsimp only
        rw [noSockets]
        rfl
      · exact only.alive
  | tokenRejected request jitter found nonnegative belowOne =>
      obtain ⟨pending, asked, rfl⟩ := only.request_of_any found
      have idle := (idle_of_settled only found).1
      obtain ⟨requests, sockets, refreshToken⟩ := setStatus_token { provider with
        requests := provider.requests.filter fun other => other.id ≠ pending.id } .offline
      exact .fails pending jitter rfl asked (requests.trans idle.requests) refreshToken
        (sockets.trans idle.sockets)
  | opened id step1 presence socket found connecting =>
      refine .talks (fun _ => rfl) rfl ((talks_markOpen provider id).trans (talks_onOpen ?_ _ _))
      intro other member
      obtain ⟨earlier, among, same, -⟩ := (talks_markOpen provider id).sockets other member
      obtain ⟨current, one, -⟩ := (only.of_socketOf found).isOn
      have member' := (mem_of_socketOf found).1
      rw [one, List.mem_singleton] at member' among
      rw [← same, among, member']
  | errored id =>
      exact .talks (fun _ => rfl) rfl (talks_closeSocket provider id)
  | closing id =>
      exact .talks (fun _ => rfl) rfl (talks_closeSocket provider id)
  | closed id code jitter socket found nonnegative belowOne =>
      have isSocket := only.of_socketOf found
      have idle := idle_of_closed isSocket found code
      obtain ⟨member, rfl⟩ := mem_of_socketOf found
      obtain ⟨current, one, -⟩ := isSocket.isOn
      have only : provider.sockets = [socket] := by
        rw [one, List.mem_singleton] at member
        rw [one, member]
      obtain ⟨requests, sockets, refused, kept⟩ := token_onClose idle.destroyed code jitter
      exact .loses socket code jitter rfl only idle.requests (requests.trans idle.requests)
        (sockets.trans idle.sockets) refused kept
  | message id frame reply socket found isOpen =>
      exact .talks (fun _ => rfl) rfl (talks_onFrame provider frame reply)
  | fires id presence timer found due =>
      by_cases kind : timer.kind = .reconnect
      · have idle := idle_of_expired only (List.mem_of_find?_eq_some found) kind
        have noRequests : provider.requests = [] := idle.requests
        have sockets := (setStatus_token (provider.expire timer) .connecting).2.1
        rw [onTimer_reconnect provider kind, connect, if_neg (by simp [idle.destroyed])]
        refine .asks id presence rfl noRequests provider.fresh ?_ (sockets.trans idle.sockets)
        show provider.requests ++ [_] = _
        rw [noRequests]
        rfl
      · exact .talks (fun _ => rfl) rfl (talks_onTimer provider kind presence)
  | docUpdate payload =>
      rw [if_neg (by simp [only.alive])]
      exact .talks (fun _ => rfl) rfl (talks_send_other provider (.sync payload) rfl)
  | awarenessUpdate payload =>
      rw [if_neg (by simp [only.alive])]
      exact .talks (fun _ => rfl) rfl (talks_send_other provider (.awareness payload) rfl)
  | elapses milliseconds forward =>
      exact .talks (fun _ => rfl) rfl (talks_of_same rfl rfl rfl)
  | destroy => exact absurd rfl notDestroy

/-! ### Destroyed providers -/

/-- A destroyed provider opens no socket. -/
theorem Destroyed.ages_step {provider after : CollabProvider} (ended : provider.Destroyed)
    {event : ProviderEvent} (stepped : provider.step event = some after) :
    ∀ socket ∈ after.sockets, ∃ earlier ∈ provider.sockets, earlier.Ages socket := by
  by_cases rejected : ∃ request jitter, event = .tokenRejected request jitter
  · obtain ⟨request, jitter, rfl⟩ := rejected
    obtain ⟨-, result⟩ := Option.ite_none_right_eq_some.mp stepped
    cases result
    intro socket member
    obtain ⟨-, sockets, -⟩ := setStatus_token { provider with
      requests := provider.requests.filter fun pending => pending.id ≠ request } .offline
    exact ⟨socket, sockets ▸ member, Or.inl rfl⟩
  · exact (stays_step ended (fun request jitter same => rejected ⟨request, jitter, same⟩)
      stepped).sockets

/-- A destroyed provider has no socket once its last one is closed. -/
theorem Destroyed.sockets_of_closed {provider after : CollabProvider}
    (ended : provider.Destroyed) {id code : ℕ} {jitter : ℚ}
    (stepped : provider.step (.closed id code jitter) = some after) : after.sockets = [] := by
  obtain ⟨socket, found, taken⟩ := Option.bind_eq_some_iff.mp stepped
  obtain ⟨-, result⟩ := Option.ite_none_right_eq_some.mp taken
  cases result
  obtain ⟨member, rfl⟩ := mem_of_socketOf found
  have one : provider.sockets = [socket] := by
    obtain ⟨only, isOnly⟩ := List.length_eq_one_iff.mp
      (Nat.le_antisymm ended.single (List.length_pos_of_mem member))
    rw [isOnly, List.mem_singleton] at member
    rw [isOnly, member]
  obtain ⟨-, sockets, -, destroyed⟩ := clearTimers_token { provider with
    sockets := provider.sockets.filter fun other => other.id ≠ socket.id
    closeCode := some code }
  unfold onClose
  dsimp only
  rw [if_pos (destroyed.trans ended.destroyed)]
  refine sockets.trans ?_
  simp [one]

end CollabProvider

/-! ### The source -/

namespace SessionSource

/-- The calls that have not come back to the provider. -/
def calls (source : SessionSource) : List ℕ :=
  source.waiting ++ source.resolved.map Prod.fst ++ source.rejected

/-- A call either returns the cached token or waits for a new one. -/
theorem call_cases (source : SessionSource) (name : JsString) (request : TokenRequest)
    (date : ℚ) :
    (∃ session, source.session = some session ∧ request.refresh = false ∧
      source.call name request date =
        { source with resolved := source.resolved ++ [(request.id, session.token)] }) ∨
    ∃ session posted, (session = none ∨ session = source.session ∧ request.refresh = false) ∧
      source.call name request date = { source with
        session := session
        inFlight := true
        posted := posted
        waiting := source.waiting ++ [request.id] } := by
  have awaits : ∀ asked : SessionSource, ∃ posted, asked.await name request.id = { asked with
      inFlight := true, posted := posted, waiting := asked.waiting ++ [request.id] } := by
    intro asked
    unfold await
    cases asked with
    | mk session inFlight posted waiting resolved rejected =>
        cases inFlight with
        | true => exact ⟨posted, rfl⟩
        | false => exact ⟨posted ++ [name], rfl⟩
  unfold call
  cases refresh : request.refresh with
  | true =>
      obtain ⟨posted, waits⟩ := awaits { source with session := none }
      exact Or.inr ⟨none, posted, Or.inl rfl, waits⟩
  | false =>
      obtain ⟨posted, waits⟩ := awaits source
      cases cached : source.session with
      | none =>
          refine Or.inr ⟨none, posted, Or.inl rfl, ?_⟩
          simp [cached, waits]
      | some session =>
          by_cases valid : date < session.expiresAt - RENEW_MARGIN_MS
          · refine Or.inl ⟨session, rfl, rfl, ?_⟩
            simp [cached, valid]
          · refine Or.inr ⟨some session, posted, Or.inr ⟨rfl, rfl⟩, ?_⟩
            simp [cached, valid, waits]

/-- With one call at most it does not matter where it is. -/
theorem append_comm_of_short {α : Type} {front back : List α}
    (short : (front ++ back).length ≤ 1) : front ++ back = back ++ front := by
  cases front with
  | nil => exact (List.append_nil back).symm
  | cons first rest =>
      rw [List.length_append, List.length_cons] at short
      have none : back = [] := List.eq_nil_of_length_eq_zero (by omega)
      rw [none, List.append_nil, List.nil_append]

private theorem calls_fetched (source : SessionSource) (short : source.calls.length ≤ 1)
    (token : JsString) (expiresIn date : ℚ) :
    (source.fetched token expiresIn date).calls = source.calls := by
  have shorter : (source.waiting ++ source.resolved.map Prod.fst).length ≤ 1 := by
    unfold calls at short
    rw [List.length_append] at short
    omega
  show [] ++ (source.resolved ++ source.waiting.map fun id => (id, token)).map Prod.fst ++
    source.rejected = _
  unfold calls
  rw [append_comm_of_short shorter, List.map_append, List.map_map, List.nil_append]
  congr 2
  exact List.map_id _

private theorem calls_failed (source : SessionSource) (short : source.calls.length ≤ 1) :
    source.failed.calls = source.calls := by
  show [] ++ source.resolved.map Prod.fst ++ (source.rejected ++ source.waiting) = _
  unfold calls at short ⊢
  rw [List.append_assoc] at short
  rw [List.nil_append, ← List.append_assoc, List.append_assoc source.waiting]
  exact (append_comm_of_short short).symm

/-- The only call is settled: none is left. -/
theorem calls_resolved {source : SessionSource} {request : ℕ} {token : JsString}
    (only : source.calls = [request]) (answered : (request, token) ∈ source.resolved) :
    (source.settle (.tokenResolved request token)).calls = [] := by
  have lengths := congrArg List.length only
  have some := List.length_pos_of_mem answered
  simp only [calls, List.length_append, List.length_map, List.length_singleton] at lengths
  have waiting : source.waiting = [] := List.eq_nil_of_length_eq_zero (by omega)
  have rejected : source.rejected = [] := List.eq_nil_of_length_eq_zero (by omega)
  simp only [calls, waiting, rejected, List.nil_append, List.append_nil] at only
  have filtered : (source.resolved.filter fun answer => answer.1 ≠ request) = [] := by
    refine List.filter_eq_nil_iff.mpr fun answer member => ?_
    have same : answer.1 ∈ source.resolved.map Prod.fst := List.mem_map_of_mem member
    rw [only, List.mem_singleton] at same
    simp [same]
  show source.waiting ++ (source.resolved.filter _).map Prod.fst ++ source.rejected = []
  rw [waiting, filtered, rejected]
  rfl

private theorem calls_rejected {source : SessionSource} {request : ℕ} (jitter : ℚ)
    (only : source.calls = [request]) (refused : request ∈ source.rejected) :
    (source.settle (.tokenRejected request jitter)).calls = [] := by
  have lengths := congrArg List.length only
  have some := List.length_pos_of_mem refused
  simp only [calls, List.length_append, List.length_map, List.length_singleton] at lengths
  have waiting : source.waiting = [] := List.eq_nil_of_length_eq_zero (by omega)
  have resolved : source.resolved = [] := List.eq_nil_of_length_eq_zero (by omega)
  simp only [calls, waiting, resolved, List.map_nil, List.nil_append] at only
  show source.waiting ++ source.resolved.map Prod.fst ++ source.rejected.filter _ = []
  rw [waiting, resolved, only]
  simp

end SessionSource

/-! ### The invariant of a provider on its way -/

namespace Client

/-- The endpoint returned the token, and the server has not refused it. -/
def Valid (client : Client) (token : JsString) : Prop :=
  token ∈ client.issued ∧ token ∉ client.refused

/-- Every token a provider may still present is valid; a refused one can only be
in the cache, and then the next call asks for another. -/
structure Presents (client : Client) : Prop where
  way : ∃ way, CollabProvider.OnlyWay client.provider way
  tidy : client.provider.Tidy
  calls : client.source.calls = client.provider.requests.map TokenRequest.id
  refused : ∀ token ∈ client.refused, token ∈ client.issued
  session : ∀ session ∈ client.source.session, session.token ∈ client.issued ∧
    (session.token ∈ client.refused →
      client.provider.refreshToken = true ∧ client.provider.requests = [])
  resolved : ∀ answer ∈ client.source.resolved, client.Valid answer.2
  sockets : ∀ socket ∈ client.provider.sockets, client.Valid socket.token ∧
    ∀ token, .auth token ∈ socket.sent → token = socket.token

/-- What the provider awaits is all the source has to answer. -/
theorem Presents.short {client : Client} (presents : client.Presents) :
    client.source.calls.length ≤ 1 := by
  obtain ⟨way, only⟩ := presents.way
  rw [presents.calls, List.length_map]
  rcases only.requests with none | ⟨request, one⟩
  · rw [none]
    exact Nat.zero_le 1
  · rw [one, List.length_singleton]

/-- With a request pending no refused token is cached. -/
theorem Presents.cached {client : Client} (presents : client.Presents) {request : TokenRequest}
    (asked : client.provider.requests = [request]) :
    ∀ session ∈ client.source.session, client.Valid session.token := by
  intro session cached
  obtain ⟨issued, refused⟩ := presents.session session cached
  refine ⟨issued, fun isRefused => ?_⟩
  have none := (refused isRefused).2
  rw [asked] at none
  cases none

/-- A new token has not been refused. -/
theorem presents_fetched {client : Client} (presents : client.Presents) {token : JsString}
    (expiresIn date : ℚ) (fresh : token ∉ client.issued) :
    Presents { client with
      source := client.source.fetched token expiresIn date
      issued := client.issued ++ [token] } := by
  have notRefused : token ∉ client.refused := fun refused => fresh (presents.refused token refused)
  have still : ∀ other, client.Valid other →
      other ∈ client.issued ++ [token] ∧ other ∉ client.refused := fun other valid =>
    ⟨List.mem_append_left _ valid.1, valid.2⟩
  have isValid : token ∈ client.issued ++ [token] ∧ token ∉ client.refused :=
    ⟨List.mem_append_right _ (List.mem_singleton.mpr rfl), notRefused⟩
  refine ⟨presents.way, presents.tidy, ?_, fun other refused => ?_, ?_, fun answer member => ?_,
    fun socket member => ?_⟩
  · exact (client.source.calls_fetched presents.short token expiresIn date).trans presents.calls
  · exact List.mem_append_left _ (presents.refused other refused)
  · rintro session ⟨⟩
    exact ⟨isValid.1, fun refused => absurd refused notRefused⟩
  · rcases List.mem_append.mp member with earlier | new
    · exact still _ (presents.resolved answer earlier)
    · obtain ⟨id, -, rfl⟩ := List.mem_map.mp new
      exact isValid
  · obtain ⟨valid, sent⟩ := presents.sockets socket member
    exact ⟨still _ valid, sent⟩

private theorem presents_failed {client : Client} (presents : client.Presents) :
    Presents { client with source := client.source.failed } :=
  ⟨presents.way, presents.tidy, (client.source.calls_failed presents.short).trans presents.calls,
    presents.refused, presents.session, presents.resolved, presents.sockets⟩

/-- The calls of a provider that asks for nothing. -/
theorem asked_of_subset {before after : CollabProvider}
    (fewer : ∀ request ∈ after.requests, request ∈ before.requests) :
    before.asked after = [] := by
  refine List.filter_eq_nil_iff.mpr fun request member => ?_
  have earlier := List.mem_map_of_mem (f := TokenRequest.id) (fewer request member)
  simp [earlier]

/-- What a call of a provider with nothing pending returns or waits for. -/
theorem presents_asks {client : Client} (presents : client.Presents)
    (none : client.provider.requests = []) {after : CollabProvider} {id : ℕ} (date : ℚ)
    (way : ∃ way, CollabProvider.OnlyWay after way) (tidy : after.Tidy)
    (asked : after.requests = [⟨id, client.provider.refreshToken⟩])
    (sockets : after.sockets = []) :
    Presents { client with
      provider := after
      source := client.source.call client.name ⟨id, client.provider.refreshToken⟩ date } := by
  have idle : client.source.calls = [] := by
    rw [presents.calls, none]
    rfl
  obtain ⟨⟨waiting, resolved⟩, rejected⟩ : (client.source.waiting = [] ∧
      client.source.resolved.map Prod.fst = []) ∧ client.source.rejected = [] := by
    rw [← List.append_eq_nil_iff, ← List.append_eq_nil_iff]
    exact idle
  have noSockets : ∀ socket ∈ after.sockets, client.Valid socket.token ∧
      ∀ token, .auth token ∈ socket.sent → token = socket.token := by
    intro socket member
    rw [sockets] at member
    cases member
  -- Only a provider without a refusal to remember uses the cache.
  have cached : client.provider.refreshToken = false → ∀ session ∈ client.source.session,
      client.Valid session.token := by
    intro kept session isCached
    obtain ⟨issued, refused⟩ := presents.session session isCached
    refine ⟨issued, fun isRefused => ?_⟩
    exact Bool.false_ne_true (kept.symm.trans (refused isRefused).1)
  rcases client.source.call_cases client.name ⟨id, client.provider.refreshToken⟩ date with
    ⟨session, isCached, kept, called⟩ | ⟨session, posted, isKept, called⟩
  · rw [called]
    have valid := cached kept session isCached
    refine ⟨way, tidy, ?_, presents.refused, fun other isCached' => ?_, fun answer member => ?_,
      noSockets⟩
    · simp [SessionSource.calls, waiting, resolved, rejected, asked]
    · exact ⟨(cached kept other isCached').1, fun refused =>
        absurd refused (cached kept other isCached').2⟩
    · rcases List.mem_append.mp member with earlier | new
      · exact presents.resolved answer earlier
      · rw [List.mem_singleton.mp new]
        exact valid
  · rw [called]
    refine ⟨way, tidy, ?_, presents.refused, fun other isCached => ?_, presents.resolved,
      noSockets⟩
    · simp [SessionSource.calls, waiting, resolved, rejected, asked]
    · rcases isKept with rfl | ⟨rfl, kept⟩
      · cases isCached
      · exact ⟨(cached kept other isCached).1, fun refused =>
          absurd refused (cached kept other isCached).2⟩

/-- All the only socket can have been refused for is its own token. -/
theorem Presents.refuses_own {client : Client} (presents : client.Presents) {socket : Socket}
    (only : client.provider.sockets = [socket]) (code : ℕ) (jitter : ℚ) :
    ∀ token ∈ client.provider.refuses (.closed socket.id code jitter),
      code = CloseCode.unauthorized.value ∧ token = socket.token := by
  intro token refused
  have found : client.provider.socketOf socket.id = some socket := by
    unfold CollabProvider.socketOf
    rw [only]
    exact List.find?_cons_of_pos (decide_eq_true rfl)
  simp only [CollabProvider.refuses, found] at refused
  split at refused
  · next unauthorized =>
      obtain ⟨message, sent, carries⟩ : ∃ message ∈ socket.sent,
          authToken message = some token := by
        simpa using refused
      have own := (presents.sockets socket (by rw [only]; exact List.mem_singleton.mpr rfl)).2
      cases message with
      | auth carried =>
          cases carries
          exact ⟨unauthorized, own token sent⟩
      | _ => cases carries
  · cases refused

private theorem presents_takes {client : Client} (presents : client.Presents)
    {request : TokenRequest} {token : JsString} {after : CollabProvider} {id : ℕ}
    (answered : (request.id, token) ∈ client.source.resolved)
    (asked : client.provider.requests = [request]) (way : ∃ way, CollabProvider.OnlyWay after way)
    (tidy : after.Tidy) (requests : after.requests = [])
    (sockets : after.sockets = [⟨id, token, .connecting, []⟩]) :
    Presents { client with
      provider := after
      source := client.source.settle (.tokenResolved request.id token) } := by
  have only : client.source.calls = [request.id] := by
    rw [presents.calls, asked]
    rfl
  refine ⟨way, tidy, ?_, presents.refused, fun session cached => ?_, fun answer member => ?_,
    fun socket member => ?_⟩
  · rw [requests]
    exact SessionSource.calls_resolved only answered
  · have valid := presents.cached asked session cached
    exact ⟨valid.1, fun refused => absurd refused valid.2⟩
  · exact presents.resolved answer (List.mem_of_mem_filter member)
  · rw [sockets, List.mem_singleton] at member
    rw [member]
    exact ⟨presents.resolved _ answered, nofun⟩

private theorem presents_fails {client : Client} (presents : client.Presents)
    {request : TokenRequest}
    {after : CollabProvider} (jitter : ℚ) (rejected : request.id ∈ client.source.rejected)
    (asked : client.provider.requests = [request]) (way : ∃ way, CollabProvider.OnlyWay after way)
    (tidy : after.Tidy) (requests : after.requests = []) (sockets : after.sockets = []) :
    Presents { client with
      provider := after
      source := client.source.settle (.tokenRejected request.id jitter) } := by
  have only : client.source.calls = [request.id] := by
    rw [presents.calls, asked]
    rfl
  refine ⟨way, tidy, ?_, presents.refused, fun session cached => ?_, presents.resolved,
    fun socket member => ?_⟩
  · rw [requests]
    exact SessionSource.calls_rejected jitter only rejected
  · have valid := presents.cached asked session cached
    exact ⟨valid.1, fun refused => absurd refused valid.2⟩
  · rw [sockets] at member
    cases member

/-- The refusal of a token is remembered while it may be cached. -/
theorem presents_loses {client : Client} (presents : client.Presents) {socket : Socket}
    {code : ℕ} {jitter : ℚ} {after : CollabProvider}
    (only : client.provider.sockets = [socket]) (none : client.provider.requests = [])
    (way : ∃ way, CollabProvider.OnlyWay after way) (tidy : after.Tidy)
    (requests : after.requests = []) (sockets : after.sockets = [])
    (refused : code = CloseCode.unauthorized.value → after.refreshToken = true)
    (kept : client.provider.refreshToken = true → after.refreshToken = true) :
    Presents { client with
      provider := after
      refused := client.refused ++ client.provider.refuses (.closed socket.id code jitter) } := by
  have member : socket ∈ client.provider.sockets := by
    rw [only]
    exact List.mem_singleton.mpr rfl
  obtain ⟨valid, own⟩ := presents.sockets socket member
  have idle : client.source.calls = [] := by
    rw [presents.calls, none]
    rfl
  have noAnswers : client.source.resolved = [] := by
    unfold SessionSource.calls at idle
    simpa using (List.append_eq_nil_iff.mp (List.append_eq_nil_iff.mp idle).1).2
  have isRefused := presents.refuses_own only code jitter
  refine ⟨way, tidy, ?_, fun token member => ?_, fun session cached => ?_,
    fun answer member => ?_, fun other member => ?_⟩
  · rw [requests]
    exact idle
  · rcases List.mem_append.mp member with earlier | new
    · exact presents.refused token earlier
    · rw [(isRefused token new).2]
      exact valid.1
  · obtain ⟨issued, earlier⟩ := presents.session session cached
    refine ⟨issued, fun member => ⟨?_, requests⟩⟩
    rcases List.mem_append.mp member with before | new
    · exact kept (earlier before).1
    · exact refused (isRefused _ new).1
  · have earlier : answer ∈ client.source.resolved := member
    rw [noAnswers] at earlier
    cases earlier
  · rw [sockets] at member
    cases member

private theorem presents_talks {client : Client} (presents : client.Presents)
    {after : CollabProvider} (way : ∃ way, CollabProvider.OnlyWay after way) (tidy : after.Tidy)
    (talks : CollabProvider.Talks client.provider after) :
    Presents { client with provider := after } := by
  refine ⟨way, tidy, ?_, presents.refused, ?_, presents.resolved, fun socket member => ?_⟩
  · rw [talks.requests]
    exact presents.calls
  · rw [talks.refreshToken, talks.requests]
    exact presents.session
  · obtain ⟨earlier, among, same, sent⟩ := talks.sockets socket member
    obtain ⟨valid, own⟩ := presents.sockets earlier among
    rw [same] at valid own
    refine ⟨valid, fun token isSent => ?_⟩
    rcases sent token isSent with before | same
    · exact own token before
    · exact same

/-- A step of the provider, with what its source makes of it. -/
theorem presents_browser {client : Client} (presents : client.Presents) {event : ProviderEvent}
    {after : CollabProvider} (notDestroy : event ≠ .destroy) (date : ℚ)
    (admits : client.source.admits event = true)
    (stepped : client.provider.step event = some after) :
    Presents { client with
      provider := after
      source := (client.provider.asked after).foldl
        (fun source request => source.call client.name request date)
        (client.source.settle event)
      refused := client.refused ++ client.provider.refuses event } := by
  obtain ⟨way, only⟩ := presents.way
  have way := CollabProvider.onlyWay_step notDestroy only stepped
  have tidy := CollabProvider.tidy_step only presents.tidy stepped
  have unrefused : client.provider.refuses event = [] →
      client.refused ++ client.provider.refuses event = client.refused := fun none => by
    rw [none, List.append_nil]
  have unasked : after.requests = [] → client.provider.asked after = [] := fun none =>
    asked_of_subset (by rw [none]; nofun)
  cases CollabProvider.errand_of_step only notDestroy stepped with
  | asks timer presence seen none id asked sockets =>
      subst seen
      have calls : client.provider.asked after = [⟨id, client.provider.refreshToken⟩] := by
        unfold CollabProvider.asked
        rw [none, asked]
        rfl
      rw [calls, unrefused rfl]
      exact presents_asks presents none date way tidy asked sockets
  | takes request token seen asked requests id sockets =>
      subst seen
      rw [unasked requests, unrefused rfl]
      exact presents_takes presents (of_decide_eq_true admits) asked way tidy requests sockets
  | fails request jitter seen asked requests refreshToken sockets =>
      subst seen
      rw [unasked requests, unrefused rfl]
      exact presents_fails presents jitter (of_decide_eq_true admits) asked way tidy requests
        sockets
  | loses socket code jitter seen only none requests sockets refused kept =>
      subst seen
      rw [unasked requests]
      exact presents_loses presents only none way tidy requests sockets refused kept
  | talks settlesNone refusesNone talks =>
      rw [asked_of_subset fun request member => talks.requests ▸ member, unrefused refusesNone,
        settlesNone]
      exact presents_talks presents way tidy talks

/-! ### Whole runs -/

/-- A destroyed provider: what its socket still has to its name was not refused. -/
structure Ended (client : Client) : Prop where
  destroyed : client.provider.Destroyed
  sent : ∀ socket ∈ client.provider.sockets, ∀ token, .auth token ∈ socket.sent →
    token ∉ client.refused

/-- What holds of every client that is reached. -/
def Kept (client : Client) : Prop :=
  client.Presents ∨ client.Ended

private theorem Kept.sent {client : Client} (kept : client.Kept) :
    ∀ socket ∈ client.provider.sockets, ∀ token, .auth token ∈ socket.sent →
      token ∉ client.refused := by
  rcases kept with presents | ended
  · intro socket member token sent
    obtain ⟨valid, own⟩ := presents.sockets socket member
    rw [own token sent]
    exact valid.2
  · exact ended.sent

private theorem ended_destroy {client : Client} (presents : client.Presents)
    (source : SessionSource) :
    Ended { client with
      provider := client.provider.destroy
      source := source
      refused := client.refused ++ client.provider.refuses .destroy } := by
  obtain ⟨way, only⟩ := presents.way
  refine ⟨CollabProvider.destroyed_destroy presents.tidy.owned only.current only.single
    only.requests, fun socket member token sent => ?_⟩
  obtain ⟨timers, ends⟩ := client.provider.destroy_eq
  rw [ends] at member
  obtain ⟨earlier, among, ages⟩ := CollabProvider.mem_closeCurrent member
  rw [ages.same.2.2] at sent
  show token ∉ client.refused ++ []
  rw [List.append_nil]
  exact Kept.sent (Or.inl presents) earlier among token sent

private theorem ended_browser {client : Client} (ended : client.Ended) {event : ProviderEvent}
    {after : CollabProvider} (source : SessionSource)
    (stepped : client.provider.step event = some after) :
    Ended { client with
      provider := after
      source := source
      refused := client.refused ++ client.provider.refuses event } := by
  refine ⟨CollabProvider.destroyed_step ended.destroyed stepped,
    fun socket member token sent refused => ?_⟩
  obtain ⟨earlier, among, ages⟩ := ended.destroyed.ages_step stepped socket member
  rw [ages.same.2.2] at sent
  rcases List.mem_append.mp refused with before | new
  · exact ended.sent earlier among token sent before
  · -- Only the end of a socket refuses anything, and there was no other socket.
    cases event with
    | closed id code jitter =>
        have none := ended.destroyed.sockets_of_closed stepped
        rw [show after.sockets = [] from none] at member
        cases member
    | _ => cases new

private theorem kept_step {client after : Client} {event : ClientEvent} (kept : client.Kept)
    (fresh : client.neverTwice event = true) (stepped : client.step event = some after) :
    after.Kept := by
  cases event with
  | renamed name =>
      cases stepped
      rcases kept with presents | ended
      · exact Or.inl ⟨presents.way, presents.tidy, presents.calls, presents.refused,
          presents.session, presents.resolved, presents.sockets⟩
      · exact Or.inr ⟨ended.destroyed, ended.sent⟩
  | browser event date =>
      obtain ⟨admits, taken⟩ := Option.ite_none_right_eq_some.mp stepped
      obtain ⟨provider, goesOn, rfl⟩ := Option.map_eq_some_iff.mp taken
      rcases kept with presents | ended
      · by_cases destroys : event = .destroy
        · subst destroys
          cases goesOn
          exact Or.inr (ended_destroy presents _)
        · exact Or.inl (presents_browser presents destroys date admits goesOn)
      · exact Or.inr (ended_browser ended _ goesOn)
  | sessionFetched token expiresIn date =>
      obtain ⟨-, result⟩ := Option.ite_none_right_eq_some.mp stepped
      cases result
      have notIssued : token ∉ client.issued := fun member =>
        of_decide_eq_true (List.all_eq_true.mp fresh token member) rfl
      rcases kept with presents | ended
      · exact Or.inl (presents_fetched presents expiresIn date notIssued)
      · exact Or.inr ⟨ended.destroyed, ended.sent⟩
  | sessionFailed =>
      obtain ⟨-, result⟩ := Option.ite_none_right_eq_some.mp stepped
      cases result
      rcases kept with presents | ended
      · exact Or.inl (presents_failed presents)
      · exact Or.inr ⟨ended.destroyed, ended.sent⟩

/-- The first call of a new client waits. -/
theorem presents_new (name : JsString) (date : ℚ) : (new name date).Presents := by
  refine ⟨⟨_, CollabProvider.onlyWay_new⟩, CollabProvider.tidy_new, rfl, nofun, nofun, nofun, nofun⟩

private theorem kept_of_reached {client : Client}
    (reached : ReachedWhen step (fun client event => client.neverTwice event = true)
      (fun client => ∃ name date, client = new name date) client) : client.Kept := by
  refine reached.invariant Kept ?_ ?_
  · rintro client ⟨name, date, rfl⟩
    exact Or.inl (presents_new name date)
  · intro client event after kept fresh stepped
    exact kept_step kept fresh stepped

/-- What was refused stays refused. -/
theorem refused_of_reached {client later : Client} {token : JsString}
    (refused : token ∈ client.refused)
    (reached : ReachedWhen step (fun client event => client.neverTwice event = true)
      (· = client) later) : token ∈ later.refused := by
  refine reached.invariant (fun later => token ∈ later.refused) ?_ ?_
  · rintro later rfl
    exact refused
  · intro client event after earlier fresh stepped
    cases event with
    | renamed name =>
        cases stepped
        exact earlier
    | browser event date =>
        obtain ⟨-, taken⟩ := Option.ite_none_right_eq_some.mp stepped
        obtain ⟨provider, -, rfl⟩ := Option.map_eq_some_iff.mp taken
        exact List.mem_append_left _ earlier
    | sessionFetched token expiresIn date =>
        obtain ⟨-, result⟩ := Option.ite_none_right_eq_some.mp stepped
        cases result
        exact earlier
    | sessionFailed =>
        obtain ⟨-, result⟩ := Option.ite_none_right_eq_some.mp stepped
        cases result
        exact earlier

/-- Once a socket on which a token was sent closes with `Unauthorized`, no socket
ever sends it again. -/
theorem refused_never_presented {client closed later : Client} {socket : Socket}
    {token : JsString} {jitter date : ℚ}
    (reached : ReachedWhen step (fun client event => client.neverTwice event = true)
      (fun client => ∃ name date, client = new name date) client)
    (found : client.provider.socketOf socket.id = some socket)
    (sent : .auth token ∈ socket.sent)
    (closes : client.step (.browser (.closed socket.id CloseCode.unauthorized.value jitter) date) =
      some closed)
    (afterwards : ReachedWhen step (fun client event => client.neverTwice event = true)
      (· = closed) later) :
    ∀ other ∈ later.provider.sockets, .auth token ∉ other.sent := by
  have refused : token ∈ closed.refused := by
    unfold step at closes
    obtain ⟨-, taken⟩ := Option.ite_none_right_eq_some.mp closes
    obtain ⟨provider, -, rfl⟩ := Option.map_eq_some_iff.mp taken
    refine List.mem_append_right _ ?_
    simp only [CollabProvider.refuses, found]
    simpa using ⟨Message.auth token, sent, rfl⟩
  have reachedLater := (ReachedWhen.next reached rfl closes).trans afterwards
  intro other member presented
  exact (kept_of_reached reachedLater).sent other member token presented
    (refused_of_reached refused afterwards)

/-- A token is fetched and presented on a socket. -/
def presentsFirst : List ClientEvent :=
  [.sessionFetched [49] 3600 0, .browser (.tokenResolved 0 [49]) 1,
    .browser (.opened 1 [0] none) 2]

/-- The reconnect fetches another and presents that. -/
def presentsSecond : List ClientEvent :=
  [.renamed [98], .browser (.elapses 500) 502, .browser (.fires 5 none) 502,
    .sessionFetched [50] 3600 503, .browser (.tokenResolved 6 [50]) 503,
    .browser (.opened 7 [0] none) 504]

theorem refused_never_presented_renewed : ∃ later : Client,
    later.refused = [[49]] ∧
      later.provider.sockets.map Socket.sent = [[.auth [50], .sync [0]]] ∧
      ∀ other ∈ later.provider.sockets, .auth [49] ∉ other.sent := by
  let client := (runWhen step (fun client event => client.neverTwice event = true)
    (new [97] 0) presentsFirst).getD (new [97] 0)
  let closed := (client.step (.browser (.closed 1 CloseCode.unauthorized.value 0) 3)).getD client
  let later := (runWhen step (fun client event => client.neverTwice event = true) closed
    presentsSecond).getD closed
  have reached : ReachedWhen step (fun client event => client.neverTwice event = true)
      (· = new [97] 0) client := reachedWhen_getD _ presentsFirst _ (by decide +kernel)
  have started : ReachedWhen step (fun client event => client.neverTwice event = true)
      (fun client => ∃ name date, client = new name date) client :=
    .trans (.start ⟨[97], 0, rfl⟩) reached
  have afterwards : ReachedWhen step (fun client event => client.neverTwice event = true)
      (· = closed) later := reachedWhen_getD closed presentsSecond closed (by decide +kernel)
  let socket : Socket := ⟨1, [49], .isOpen, [.auth [49], .sync [0]]⟩
  have found : client.provider.socketOf socket.id = some socket := rfl
  have sent : .auth [49] ∈ socket.sent := List.mem_cons_self
  have closes : client.step
      (.browser (.closed socket.id CloseCode.unauthorized.value 0) 3) = some closed := rfl
  refine ⟨later, by decide +kernel, by decide +kernel, ?_⟩
  exact refused_never_presented started found sent closes afterwards

end Client

end CollabEditor.Web
