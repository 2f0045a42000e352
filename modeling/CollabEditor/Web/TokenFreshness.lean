import CollabEditor.Web.SignIn
import CollabEditor.Web.SessionSource

/-!
Owns how long the tokens that a session source hands out still last: the client
counts their lifetime on its own clock, from the moment the response arrives, and
the server on its own, from the second in which it wrote it.

Assumes that neither clock is set meanwhile: one is ahead of the other by as
much all the time.
-/

set_option autoImplicit false

namespace CollabEditor.Web

open CollabEditor.Library

/-! ### A client and the endpoint -/

/-- What the two sides are, how far the client's clock is ahead, and how long a
response takes at most. -/
structure Signing where
  verifier : Http.TokenVerifier
  ttlSeconds : ℤ
  ahead : ℚ
  delay : ℕ

/-- A client with the endpoint that grants its sessions. -/
structure SessionExchange where
  client : Client
  /-- `Date.now()` at the server. -/
  now : ℕ
  /-- The response that is on its way, with the time it was written. -/
  response : Option (Http.Response × ℕ)

inductive ExchangeEvent where
  | elapses (milliseconds : ℕ)
  | renamed (name : JsString)
  | browser (event : ProviderEvent)
  /-- The endpoint gets the request in these chunks. -/
  | answers (sub : JsString) (chunks : List (List UInt8))
  | arrives
  /-- `fetch` rejects. -/
  | fails

namespace SessionExchange

/-- `Date.now()` at the client. -/
def date (signing : Signing) (exchange : SessionExchange) : ℚ := exchange.now + signing.ahead

/-- `fetchSession` reads the response. -/
def read (signing : Signing) (exchange : SessionExchange) (response : Http.Response) :
    ClientEvent :=
  match readSession response with
  | none => .sessionFailed
  | some (token, expiresIn) => .sessionFetched token expiresIn (exchange.date signing)

def step (signing : Signing) (exchange : SessionExchange) :
    ExchangeEvent → Option SessionExchange
  | .elapses milliseconds => some { exchange with now := exchange.now + milliseconds }
  | .renamed name =>
      (exchange.client.step (.renamed name)).map fun client => { exchange with client := client }
  | .browser event =>
      (exchange.client.step (.browser event (exchange.date signing))).map fun client =>
        { exchange with client := client }
  | .answers sub chunks =>
      if exchange.client.source.inFlight ∧ exchange.response = none ∧
          (exchange.client.source.posted.getLast?).map (fun name =>
            Http.bytesOf (sessionBody name)) = some chunks.flatten then
        ((Http.createSession ⟨signing.verifier.sign, signing.ttlSeconds, exchange.now⟩ sub
            chunks).responses.head?).map fun response =>
          { exchange with response := some (response, exchange.now) }
      else none
  | .arrives =>
      exchange.response.bind fun response =>
        (exchange.client.step (exchange.read signing response.1)).map fun client =>
          { exchange with client := client, response := none }
  | .fails =>
      (exchange.client.step .sessionFailed).map fun client =>
        { exchange with client := client, response := none }

/-- The response arrives in time, if it does now. -/
def OnTime (signing : Signing) (exchange : SessionExchange) : ExchangeEvent → Prop
  | .arrives => (exchange.response.all fun response =>
      decide (exchange.now ≤ response.2 + signing.delay)) = true
  | _ => True

instance (signing : Signing) (exchange : SessionExchange) :
    ∀ event, Decidable (exchange.OnTime signing event)
  | .arrives => inferInstanceAs (Decidable (_ = true))
  | .elapses _ | .renamed _ | .browser _ | .answers _ _ | .fails => isTrue trivial

/-- A client that has just been made. -/
def Initial (signing : Signing) (exchange : SessionExchange) : Prop :=
  exchange.response = none ∧
    ∃ name, exchange.client = Client.new name (exchange.date signing)

end SessionExchange

/-! ### The response -/

/-- What a client reads of the response to a name it has posted. -/
theorem readSession_posted {context : Http.TokenContext} {sub name : JsString}
    {chunks : List (List UInt8)} (posts : chunks.flatten = Http.bytesOf (sessionBody name))
    {response : Http.Response}
    (written : response ∈ (Http.createSession context sub chunks).responses)
    {token : JsString} {expiresIn : ℚ} (reads : readSession response = some (token, expiresIn)) :
    token = Http.issueToken context sub (Http.trim name) ∧ expiresIn = context.ttlSeconds := by
  have refused : ∀ refusal : Http.Response, refusal.status = 400 → readSession refusal = none := by
    intro refusal status
    rw [readSession, if_neg (by simp [status])]
  have given : Http.nameOf (.object [(Json.text "name", .string name)]) =
      some (some (.string name)) := rfl
  unfold Http.createSession at written
  rw [Http.readBody_eq, posts] at written
  by_cases fits : (Http.bytesOf (sessionBody name)).length ≤ Http.MAX_BODY_BYTES
  · rw [if_pos fits, sessionBody,
      Http.decoded_bytesOf (Json.wellFormed_stringify _ (writable_sessionBody name)),
      Option.bind_some, Json.parse_stringify (writable_sessionBody name)] at written
    simp only [given] at written
    split at written
    · rw [List.mem_singleton.mp written, refused _ rfl] at reads
      cases reads
    · rw [List.mem_singleton.mp written, readSession_granted] at reads
      cases reads
      exact ⟨rfl, rfl⟩
  · rw [if_neg fits, Option.bind_none] at written
    rw [List.mem_singleton.mp written, refused _ rfl] at reads
    cases reads

/-! ### The calls of a source -/

namespace SessionSource

/-- A token that a source had when its lifetime was not nearly over. -/
def Caches (source : SessionSource) (date : ℚ) (token : JsString) : Prop :=
  ∃ session, source.session = some session ∧ session.token = token ∧
    date < session.expiresAt - RENEW_MARGIN_MS

/-- What the calls of a provider make of a source. -/
structure Called (before after : SessionSource) (date : ℚ) : Prop where
  session : ∀ session, after.session = some session → before.session = some session
  posted : ∀ name ∈ before.posted, name ∈ after.posted
  resolved : ∀ answer ∈ after.resolved, answer ∈ before.resolved ∨ before.Caches date answer.2

private theorem Called.trans {first second third : SessionSource} {date : ℚ}
    (front : Called first second date) (back : Called second third date) :
    Called first third date where
  session := fun session isSession => front.session session (back.session session isSession)
  posted := fun name member => back.posted name (front.posted name member)
  resolved := fun answer member => by
    rcases back.resolved answer member with was | ⟨session, isSession, token, fresh⟩
    · exact front.resolved answer was
    · exact Or.inr ⟨session, front.session session isSession, token, fresh⟩

private theorem called_await (source : SessionSource) (name : JsString) (request : ℕ) (date : ℚ) :
    Called source (source.await name request) date := by
  unfold await
  dsimp only
  split
  · exact ⟨fun _ same => same, fun _ member => member, fun _ member => Or.inl member⟩
  · exact ⟨fun _ same => same, fun _ member => List.mem_append_left _ member,
      fun _ member => Or.inl member⟩

private theorem Called.forgetful {source after : SessionSource} {date : ℚ}
    (called : Called { source with session := none } after date) : Called source after date where
  session := fun session isSession => nomatch called.session session isSession
  posted := called.posted
  resolved := fun answer member => by
    rcases called.resolved answer member with was | ⟨session, isSession, -⟩
    · exact Or.inl was
    · cases isSession

private theorem called_call (source : SessionSource) (name : JsString) (request : TokenRequest)
    (date : ℚ) : Called source (source.call name request date) date := by
  cases refresh : request.refresh with
  | true =>
      apply Called.forgetful
      have forgets : source.call name request date =
          ({ source with session := none } : SessionSource).await name request.id := by
        simp [call, refresh]
      rw [forgets]
      exact called_await _ name request.id date
  | false =>
      cases cached : source.session with
      | none =>
          have waits : source.call name request date = source.await name request.id := by
            simp [call, refresh, cached]
          rw [waits]
          exact called_await source name request.id date
      | some session =>
          by_cases fresh : date < session.expiresAt - RENEW_MARGIN_MS
          · have returns : source.call name request date =
                { source with resolved := source.resolved ++ [(request.id, session.token)] } := by
              simp [call, refresh, cached, fresh]
            rw [returns]
            refine ⟨fun _ same => same, fun _ member => member, fun answer member => ?_⟩
            rcases List.mem_append.mp member with was | last
            · exact Or.inl was
            · rw [List.mem_singleton.mp last]
              exact Or.inr ⟨session, cached, rfl, fresh⟩
          · have waits : source.call name request date = source.await name request.id := by
              simp [call, refresh, cached, fresh]
            rw [waits]
            exact called_await source name request.id date

private theorem called_foldl (source : SessionSource) (name : JsString)
    (requests : List TokenRequest) (date : ℚ) :
    Called source (requests.foldl (fun source request => source.call name request date) source)
      date := by
  induction requests generalizing source with
  | nil => exact ⟨fun _ same => same, fun _ member => member, fun _ member => Or.inl member⟩
  | cons request rest inductionHypothesis =>
      exact (called_call source name request date).trans
        (inductionHypothesis (source.call name request date))

/-- The provider goes on with a call. -/
theorem called_settle (source : SessionSource) (event : ProviderEvent) (date : ℚ) :
    Called source (source.settle event) date := by
  unfold settle
  split
  · refine ⟨fun _ same => same, fun _ member => member, fun answer member => Or.inl ?_⟩
    exact List.mem_of_mem_filter member
  · exact ⟨fun _ same => same, fun _ member => member, fun _ member => Or.inl member⟩
  · exact ⟨fun _ same => same, fun _ member => member, fun _ member => Or.inl member⟩

end SessionSource

/-! ### What is cached and what is on its way -/

namespace SessionExchange

/-- The token was written for a name that the client has posted. -/
structure Granted (signing : Signing) (posted : List JsString) (token : JsString)
    (issued : ℕ) (sub name : JsString) : Prop where
  posted : name ∈ posted
  token : token =
    Http.issueToken ⟨signing.verifier.sign, signing.ttlSeconds, issued⟩ sub (Http.trim name)

/-- What the exchange is at between events: the session that is cached has been
delivered in time, and a response that is on its way was written for a name that
was posted. -/
structure Sound (signing : Signing) (exchange : SessionExchange) : Prop where
  session : ∀ session, exchange.client.source.session = some session →
    ∃ issued delivered sub name,
      Granted signing exchange.client.source.posted session.token issued sub name ∧
      delivered ≤ issued + signing.delay ∧
      session.expiresAt = delivered + signing.ahead + (signing.ttlSeconds : ℚ) * 1000
  response : ∀ response written, exchange.response = some (response, written) →
    ∃ sub name chunks, name ∈ exchange.client.source.posted ∧
      chunks.flatten = Http.bytesOf (sessionBody name) ∧
      response ∈ (Http.createSession ⟨signing.verifier.sign, signing.ttlSeconds, written⟩ sub
        chunks).responses

private theorem Granted.mono {signing : Signing} {posted later : List JsString} {token : JsString}
    {issued : ℕ} {sub name : JsString} (granted : Granted signing posted token issued sub name)
    (kept : ∀ name ∈ posted, name ∈ later) : Granted signing later token issued sub name :=
  ⟨kept name granted.posted, granted.token⟩

variable {signing : Signing} {exchange after : SessionExchange}

private theorem sound_initial (initial : exchange.Initial signing) : exchange.Sound signing := by
  obtain ⟨none, name, fresh⟩ := initial
  constructor
  case session =>
    intro session isSession
    rw [fresh] at isSession
    cases isSession
  case response =>
    intro response written isResponse
    rw [none] at isResponse
    cases isResponse

/-- The source knows no session that it did not know, and answers calls with that
one only. -/
theorem Sound.called {client : Client} (sound : exchange.Sound signing)
    (called : SessionSource.Called exchange.client.source client.source (exchange.date signing)) :
    { exchange with client := client }.Sound signing := by
  constructor
  case session =>
    intro session isSession
    obtain ⟨issued, delivered, sub, name, granted, inTime, expires⟩ :=
      sound.session session (called.session session isSession)
    exact ⟨issued, delivered, sub, name, granted.mono called.posted, inTime, expires⟩
  case response =>
    intro response written isResponse
    obtain ⟨sub, name, chunks, posted, rest⟩ := sound.response response written isResponse
    exact ⟨sub, name, chunks, called.posted name posted, rest⟩

/-- What one event makes of an exchange, as far as sessions go. -/
inductive Deals (signing : Signing) (exchange : SessionExchange) :
    ExchangeEvent → SessionExchange → Prop where
  | quiet (event : ExchangeEvent) (later : SessionExchange)
      (source : later.client.source = exchange.client.source)
      (response : later.response = exchange.response) (forward : exchange.now ≤ later.now) :
      Deals signing exchange event later
  | calls (event : ProviderEvent) (client : Client)
      (called : SessionSource.Called exchange.client.source client.source
        (exchange.date signing)) :
      Deals signing exchange (.browser event) { exchange with client := client }
  | answers (sub name : JsString) (chunks : List (List UInt8)) (response : Http.Response)
      (posted : name ∈ exchange.client.source.posted)
      (posts : chunks.flatten = Http.bytesOf (sessionBody name))
      (written : response ∈ (Http.createSession
        ⟨signing.verifier.sign, signing.ttlSeconds, exchange.now⟩ sub chunks).responses) :
      Deals signing exchange (.answers sub chunks)
        { exchange with response := some (response, exchange.now) }
  | delivers (response : Http.Response) (written : ℕ) (token : JsString) (expiresIn : ℚ)
      (issued : List JsString) (isResponse : exchange.response = some (response, written))
      (reads : readSession response = some (token, expiresIn)) :
      Deals signing exchange .arrives { exchange with
        client := { exchange.client with
          source := exchange.client.source.fetched token expiresIn (exchange.date signing)
          issued := issued }
        response := none }
  | fails (event : ExchangeEvent) :
      Deals signing exchange event { exchange with
        client := { exchange.client with source := exchange.client.source.failed }
        response := none }

private theorem deals_of_step {event : ExchangeEvent}
    (stepped : exchange.step signing event = some after) :
    Deals signing exchange event after := by
  cases event with
  | elapses milliseconds =>
      cases stepped
      exact .quiet _ _ rfl rfl (Nat.le_add_right _ _)
  | renamed name =>
      cases stepped
      exact .quiet _ _ rfl rfl le_rfl
  | browser event =>
      obtain ⟨client, moved, rfl⟩ := Option.map_eq_some_iff.mp stepped
      obtain ⟨-, taken⟩ := Option.ite_none_right_eq_some.mp moved
      obtain ⟨provider, -, rfl⟩ := Option.map_eq_some_iff.mp taken
      apply Deals.calls
      exact (SessionSource.called_settle _ event _).trans (SessionSource.called_foldl _ _ _ _)
  | answers sub chunks =>
      obtain ⟨⟨-, -, posts⟩, taken⟩ := Option.ite_none_right_eq_some.mp stepped
      obtain ⟨response, written, rfl⟩ := Option.map_eq_some_iff.mp taken
      obtain ⟨name, isLast, same⟩ := Option.map_eq_some_iff.mp posts
      exact .answers sub name chunks response (List.mem_of_getLast? isLast) same.symm
        (List.mem_of_mem_head? written)
  | arrives =>
      obtain ⟨⟨response, written⟩, isResponse, taken⟩ := Option.bind_eq_some_iff.mp stepped
      obtain ⟨client, moved, rfl⟩ := Option.map_eq_some_iff.mp taken
      unfold read at moved
      split at moved
      · obtain ⟨-, result⟩ := Option.ite_none_right_eq_some.mp moved
        cases result
        exact .fails _
      · next token expiresIn reads =>
          obtain ⟨-, result⟩ := Option.ite_none_right_eq_some.mp moved
          cases result
          exact .delivers response written token expiresIn _ isResponse reads
  | fails =>
      obtain ⟨client, moved, rfl⟩ := Option.map_eq_some_iff.mp stepped
      obtain ⟨-, result⟩ := Option.ite_none_right_eq_some.mp moved
      cases result
      exact .fails _

private theorem inTime_of_response (onTime : exchange.OnTime signing .arrives)
    {response : Http.Response}
    {written : ℕ} (isResponse : exchange.response = some (response, written)) :
    exchange.now ≤ written + signing.delay := by
  rw [OnTime, isResponse] at onTime
  exact of_decide_eq_true onTime

private theorem sound_step {event : ExchangeEvent} (sound : exchange.Sound signing)
    (onTime : exchange.OnTime signing event) (stepped : exchange.step signing event = some after) :
    after.Sound signing := by
  cases deals_of_step stepped with
  | quiet _ _ source response forward =>
      constructor
      case session =>
        rw [source]
        exact sound.session
      case response =>
        rw [source, response]
        exact sound.response
  | calls event client called => exact sound.called called
  | answers sub name chunks response posted posts written =>
      constructor
      case session => exact sound.session
      case response =>
        intro other time isResponse
        cases isResponse
        exact ⟨sub, name, chunks, posted, posts, written⟩
  | delivers response written token expiresIn issued isResponse reads =>
      obtain ⟨sub, name, chunks, posted, posts, wrote⟩ :=
        sound.response response written isResponse
      obtain ⟨isToken, isLifetime⟩ := readSession_posted posts wrote reads
      constructor
      case session =>
        intro session isSession
        cases isSession
        refine ⟨written, exchange.now, sub, name, ⟨posted, isToken⟩, ?_, ?_⟩
        · exact inTime_of_response onTime isResponse
        · rw [isLifetime]
          rfl
      case response =>
        intro other time isOther
        cases isOther
  | fails =>
      constructor
      case session => exact sound.session
      case response =>
        intro other time isOther
        cases isOther

/-! ### What is handed out -/

/-- A token is verified until the second that its claims name is over. -/
theorem verified_until (signing : Signing) (issued : ℕ) (sub name : JsString)
    {now : Http.Timestamp}
    (early : now.milliseconds + 1000 ≤ issued + signing.ttlSeconds * 1000) :
    Http.verifyToken signing.verifier
        (Http.issueToken ⟨signing.verifier.sign, signing.ttlSeconds, issued⟩ sub name) now =
      .claims (Http.issuedClaims signing.ttlSeconds issued sub name).members := by
  have verified := (Http.verifyToken_dotted signing.verifier now (Http.SessionClaims.noDot _)
    (Http.sign_noDot signing.verifier _)).trans (Http.verifyParts_session signing.verifier
      (Http.issuedClaims signing.ttlSeconds issued sub name) now)
  rw [if_neg] at verified
  · exact verified
  · show ¬ ((issued / 1000 : ℕ) + signing.ttlSeconds) * 1000 < now.milliseconds
    omega

/-- The lifetime that is left of a token, at least, when it is handed out. -/
def left (signing : Signing) : ℤ := min 60 signing.ttlSeconds * 1000 - 1000 - signing.delay

/-- A token that was cached is not nearly over. -/
theorem Sound.cached (sound : exchange.Sound signing) {token : JsString}
    (caches : exchange.client.source.Caches (exchange.date signing) token) :
    ∃ sub name issued, Granted signing exchange.client.source.posted token issued sub name ∧
      (exchange.now : ℤ) + left signing + 1000 ≤ issued + signing.ttlSeconds * 1000 := by
  obtain ⟨session, isSession, rfl, fresh⟩ := caches
  obtain ⟨issued, delivered, sub, name, granted, inTime, expires⟩ :=
    sound.session session isSession
  refine ⟨sub, name, issued, granted, ?_⟩
  have unexpired : (exchange.now : ℚ) + 60000 < delivered + signing.ttlSeconds * 1000 := by
    rw [expires, date, RENEW_MARGIN_MS] at fresh
    linarith only [fresh]
  have unexpired : (exchange.now : ℤ) + 60000 < delivered + signing.ttlSeconds * 1000 := by
    exact_mod_cast unexpired
  unfold left
  omega

/-- Whatever happens to a client and whatever its clock shows, a token that its
source hands out was written for a name it has posted, and lasts for a minute, or
for its whole lifetime if that is less, but for the second that the server rounds
off and the time a response takes. -/
theorem handed_out_lasts
    (reached : ReachedWhen (step signing) (OnTime signing) (Initial signing) exchange)
    {event : ExchangeEvent} (onTime : exchange.OnTime signing event)
    (stepped : exchange.step signing event = some after) {answer : ℕ × JsString}
    (given : answer ∈ after.client.source.resolved)
    (isNew : answer ∉ exchange.client.source.resolved) :
    ∃ sub name issued, Granted signing after.client.source.posted answer.2 issued sub name ∧
      ∀ now : Http.Timestamp, now.milliseconds ≤ after.now + left signing →
        Http.verifyToken signing.verifier answer.2 now =
          .claims (Http.issuedClaims signing.ttlSeconds issued sub (Http.trim name)).members := by
  have sound : exchange.Sound signing := by
    apply reached.invariant (Sound signing)
    · intro exchange initial
      exact sound_initial initial
    · intro exchange event after sound onTime stepped
      exact sound_step sound onTime stepped
  obtain ⟨sub, name, issued, granted, lasting⟩ : ∃ sub name issued,
      Granted signing after.client.source.posted answer.2 issued sub name ∧
        (after.now : ℤ) + left signing + 1000 ≤ issued + signing.ttlSeconds * 1000 := by
    cases deals_of_step stepped with
    | quiet _ _ source response forward =>
        rw [source] at given
        exact absurd given isNew
    | calls event client called =>
        rcases called.resolved answer given with was | caches
        · exact absurd was isNew
        · obtain ⟨sub, name, issued, granted, lasting⟩ := sound.cached caches
          exact ⟨sub, name, issued, granted.mono called.posted, lasting⟩
    | answers sub name chunks response posted posts written => exact absurd given isNew
    | delivers response written token expiresIn issued isResponse reads =>
        obtain ⟨sub, name, chunks, posted, posts, wrote⟩ :=
          sound.response response written isResponse
        obtain ⟨isToken, -⟩ := readSession_posted posts wrote reads
        have inTime := inTime_of_response onTime isResponse
        rcases List.mem_append.mp given with was | waited
        · exact absurd was isNew
        · obtain ⟨id, -, rfl⟩ := List.mem_map.mp waited
          refine ⟨sub, name, written, ⟨posted, isToken⟩, ?_⟩
          unfold left
          show (exchange.now : ℤ) + _ + 1000 ≤ _
          omega
    | fails => exact absurd given isNew
  refine ⟨sub, name, issued, granted, fun now early => ?_⟩
  rw [granted.token]
  exact verified_until signing issued sub (Http.trim name) (by omega)

/-- A client whose clock is four seconds ahead, and an endpoint whose responses
take half a second at most. -/
def fourAhead : Signing := ⟨Http.rollingHash, 3600, 4000, 500⟩

/-- The first token of a client is handed out as its response arrives. -/
theorem handed_out_lasts_first :
    ∃ (exchange after : SessionExchange) (answer : ℕ × JsString),
      exchange.step fourAhead .arrives = some after ∧ answer ∈ after.client.source.resolved ∧
      ∃ sub name issued, Granted fourAhead after.client.source.posted answer.2 issued sub name ∧
        ∀ now : Http.Timestamp, now.milliseconds ≤ after.now + left fourAhead →
          Http.verifyToken fourAhead.verifier answer.2 now = .claims
            (Http.issuedClaims fourAhead.ttlSeconds issued sub (Http.trim name)).members := by
  obtain ⟨exchange, reached, onTime, arrived⟩ := exists_reachedWhen_of_runWhen
    (step fourAhead) (OnTime fourAhead) (Initial fourAhead)
    ⟨.new (Json.text "ada") 5000, 1000, none⟩
    [.answers (Json.text "u") [Http.bytesOf (sessionBody (Json.text "ada"))], .elapses 200]
    (fun exchange => exchange.OnTime fourAhead .arrives ∧
      ((exchange.step fourAhead .arrives).any fun after =>
        decide (exchange.client.source.resolved = []) &&
          !after.client.source.resolved.isEmpty) = true)
    ⟨rfl, Json.text "ada", by rfl⟩ (by decide +kernel)
  obtain ⟨after, stepped, answered⟩ := (Option.any_eq_true _ _).mp arrived
  obtain ⟨none, some⟩ := Bool.and_eq_true_iff.mp answered
  obtain ⟨answer, given⟩ := List.isEmpty_eq_false_iff_exists_mem.mp (Bool.not_eq_true' _ ▸ some)
  refine ⟨exchange, after, answer, stepped, given, ?_⟩
  apply handed_out_lasts reached onTime stepped given
  rw [of_decide_eq_true none]
  exact List.not_mem_nil

end SessionExchange

end CollabEditor.Web
