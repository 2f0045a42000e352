import CollabEditor.Web.Destroy

/-!
Owns `sessionSource` of `auth.ts`, the cache of a session token with its shared
request, and a `CollabProvider` that has a source of its own.
-/

set_option autoImplicit false

namespace CollabEditor.Web

open CollabEditor.Library CollabEditor.Protocol

/-- `Session`. -/
structure Session where
  token : JsString
  expiresAt : ℚ

def RENEW_MARGIN_MS : ℚ := 60000

/-- What `sessionSource` closes over, with the calls of the function it returned:
those that await `inFlight`, and those whose promise is settled. -/
structure SessionSource where
  session : Option Session
  /-- `fetchSession` was called and has not settled. -/
  inFlight : Bool
  /-- The names `fetchSession` has posted. -/
  posted : List JsString
  waiting : List ℕ
  resolved : List (ℕ × JsString)
  rejected : List ℕ

namespace SessionSource

/-- `sessionSource(name)`. -/
def new : SessionSource := ⟨none, false, [], [], [], []⟩

/-- `fetchSession` up to its `await`. -/
def fetchSession (source : SessionSource) (name : JsString) : SessionSource :=
  { source with inFlight := true, posted := source.posted ++ [name] }

/-- `session = await inFlight`, with a request of its own if there is none. -/
def await (source : SessionSource) (name : JsString) (request : ℕ) : SessionSource :=
  let fetching := if source.inFlight then source else source.fetchSession name
  { fetching with waiting := fetching.waiting ++ [request] }

/-- A call of the function, with what `name()` and `Date.now()` say. -/
def call (source : SessionSource) (name : JsString) (request : TokenRequest) (date : ℚ) :
    SessionSource :=
  let asked := if request.refresh then { source with session := none } else source
  match asked.session with
  | some session =>
      if date < session.expiresAt - RENEW_MARGIN_MS then
        { asked with resolved := asked.resolved ++ [(request.id, session.token)] }
      else asked.await name request.id
  | none => asked.await name request.id

/-- `fetchSession` resolves: every call that waits sets the session and returns
its token. -/
def fetched (source : SessionSource) (token : JsString) (expiresIn date : ℚ) : SessionSource :=
  { source with
    session := some ⟨token, date + expiresIn * 1000⟩
    inFlight := false
    waiting := []
    resolved := source.resolved ++ source.waiting.map fun id => (id, token) }

/-- `fetchSession` throws, and so does every call that waits. -/
def failed (source : SessionSource) : SessionSource :=
  { source with
    inFlight := false
    waiting := []
    rejected := source.rejected ++ source.waiting }

/-- The promise a provider awaits is settled as the source says. -/
def admits (source : SessionSource) : ProviderEvent → Bool
  | .tokenResolved request token => (request, token) ∈ source.resolved
  | .tokenRejected request _ => request ∈ source.rejected
  | _ => true

/-- The provider has gone on with a call. -/
def settle (source : SessionSource) : ProviderEvent → SessionSource
  | .tokenResolved request _ =>
      { source with resolved := source.resolved.filter fun answer => answer.1 ≠ request }
  | .tokenRejected request _ =>
      { source with rejected := source.rejected.filter fun id => id ≠ request }
  | _ => source

end SessionSource

/-- The token of an `Auth` message. -/
def authToken : Message → Option JsString
  | .auth token => some token
  | _ => none

namespace CollabProvider

/-- The calls of `getToken` an event has led to. -/
def asked (before after : CollabProvider) : List TokenRequest :=
  after.requests.filter fun request => request.id ∉ before.requests.map TokenRequest.id

/-- The tokens that were sent on a socket that closes with `Unauthorized`. -/
def refuses (provider : CollabProvider) : ProviderEvent → List JsString
  | .closed id code _ =>
      if code = CloseCode.unauthorized.value then
        (provider.socketOf id).toList.flatMap fun socket => socket.sent.filterMap authToken
      else []
  | _ => []

end CollabProvider

/-- A provider with a source of its own, what the session endpoint has returned
and what the server has refused. -/
structure Client where
  /-- `userRef.current.name`. -/
  name : JsString
  provider : CollabProvider
  source : SessionSource
  issued : List JsString
  refused : List JsString

inductive ClientEvent where
  | renamed (name : JsString)
  /-- An event of the provider, when `Date.now()` says `date`. -/
  | browser (event : ProviderEvent) (date : ℚ)
  | sessionFetched (token : JsString) (expiresIn date : ℚ)
  | sessionFailed

namespace Client

/-- `new CollabProvider({ getToken: sessionSource(name), .. })`. -/
def new (name : JsString) (date : ℚ) : Client where
  name := name
  provider := .new
  source := CollabProvider.new.requests.foldl
    (fun source request => source.call name request date) .new
  issued := []
  refused := []

def step (client : Client) : ClientEvent → Option Client
  | .renamed name => some { client with name := name }
  | .browser event date =>
      if client.source.admits event then
        (client.provider.step event).map fun provider =>
          { client with
            provider := provider
            source := (client.provider.asked provider).foldl
              (fun source request => source.call client.name request date)
              (client.source.settle event)
            refused := client.refused ++ client.provider.refuses event }
      else none
  | .sessionFetched token expiresIn date =>
      if client.source.inFlight then
        some { client with
          source := client.source.fetched token expiresIn date
          issued := client.issued ++ [token] }
      else none
  | .sessionFailed =>
      if client.source.inFlight then some { client with source := client.source.failed } else none

/-- The endpoint does not return a token again. -/
def neverTwice (client : Client) : ClientEvent → Bool
  | .sessionFetched token _ _ => client.issued.all fun earlier => earlier ≠ token
  | _ => true

end Client

end CollabEditor.Web
