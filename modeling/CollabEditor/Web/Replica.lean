import CollabEditor.Web.Destroy
import CollabEditor.Ws.Session

/-!
Owns a `CollabProvider` together with the document it syncs, and that it is a
client of the session model: one that links itself to a room, acts as an
`Endpoint` while its socket is there, and keeps its document when it is lost.

Nothing is assumed of the encoding. Does not own the send buffer of the socket.
-/

set_option autoImplicit false

namespace CollabEditor.Web

open CollabEditor.Library CollabEditor.Protocol CollabEditor.Yjs
open CollabEditor.Rooms (SyncMessage)
open CollabEditor.Ws (Endpoint ClientAction)

universe u

/-- How `y-protocols` puts messages and presence into bytes. -/
structure Encoding (Op : Type u) where
  sync : SyncMessage Op → List UInt8
  /-- `none` when reading throws. -/
  readSync : List UInt8 → Option (SyncMessage Op)
  awareness : List AwarenessEntry → List UInt8

/-- A provider and its document. -/
structure Replica (Op : Type u) where
  provider : CollabProvider
  doc : Doc Op

/-- An event that puts nothing of the document or the presence into frames. -/
def ProviderEvent.isPlain : ProviderEvent → Bool
  | .opened _ _ _ | .message _ _ _ | .fires _ _ | .docUpdate _ | .awarenessUpdate _ => false
  | _ => true

inductive ReplicaEvent (Op : Type u) where
  | browser (event : ProviderEvent)
  | opened (socket : ℕ) (presence : Option (List AwarenessEntry))
  | message (socket : ℕ) (frame : List UInt8)
  | fires (timer : ℕ) (presence : Option (List AwarenessEntry))
  | edit (update : Update Op)
  | announce (entries : List AwarenessEntry)

variable {Op : Type u} [DecidableEq Op] [Causality Op]

namespace Encoding

/-- The sync message of a frame. -/
def read (encoding : Encoding Op) (frame : List UInt8) : Option (SyncMessage Op) :=
  match decodeMessage frame with
  | some (.sync payload) => encoding.readSync payload
  | _ => none

/-- What `readSyncMessage` writes. -/
def reply (encoding : Encoding Op) (doc : Doc Op) : SyncMessage Op → Option (List UInt8)
  | .step1 vector => some (encoding.sync (.step2 (doc.encodeStateAsUpdate vector)))
  | _ => none

end Encoding

namespace Replica

def step (encoding : Encoding Op) (replica : Replica Op) :
    ReplicaEvent Op → Option (Replica Op)
  | .browser event =>
      if event.isPlain then
        (replica.provider.step event).map fun provider => { replica with provider := provider }
      else none
  | .opened socket presence =>
      (replica.provider.step (.opened socket (encoding.sync (.step1 replica.doc.stateVector))
        (presence.map encoding.awareness))).map fun provider =>
          { replica with provider := provider }
  | .message socket frame =>
      let received := encoding.read frame
      let reply := received.bind (encoding.reply replica.doc)
      (replica.provider.step (.message socket frame reply)).map fun provider =>
        ⟨provider, replica.doc.apply ((received.map SyncMessage.carried).getD ∅)⟩
  | .fires timer presence =>
      (replica.provider.step (.fires timer (presence.map encoding.awareness))).map fun provider =>
        { replica with provider := provider }
  | .edit update =>
      if update ⊆ (replica.doc.apply update).integrated then
        match replica.doc.event update with
        | none => some { replica with doc := replica.doc.apply update }
        | some fresh =>
            (replica.provider.step (.docUpdate (encoding.sync (.update fresh)))).map fun provider =>
              ⟨provider, replica.doc.apply update⟩
      else none
  | .announce entries =>
      (replica.provider.step (.awarenessUpdate (encoding.awareness entries))).map fun provider =>
        { replica with provider := provider }

/-- `useCollab` makes a document and its provider. -/
def start (doc : Doc Op) : Replica Op := ⟨.new, doc⟩

end Replica

/-! ### A client of the session model -/

/-- A client that has a document, and at times a socket. -/
inductive Link (Op : Type u) where
  | offline (doc : Doc Op)
  | linked (endpoint : Endpoint Op)

inductive LinkEvent (Op : Type u) where
  | connects
  | acts (action : ClientAction Op)
  /-- The server's next frame is there. -/
  | arrives (frame : Rooms.Message Op)
  | ends

namespace Link

def step : Link Op → LinkEvent Op → Option (Link Op)
  | .offline doc, .connects => some (.linked ⟨doc, false, [], [], .unauthenticated, []⟩)
  | .offline doc, .acts (.edit update) =>
      if update ⊆ (doc.apply update).integrated then some (.offline (doc.apply update)) else none
  | .linked endpoint, .acts action => (endpoint.act action).map .linked
  | .linked endpoint, .arrives frame =>
      some (.linked { endpoint with down := endpoint.down ++ [frame] })
  | .linked endpoint, .ends => some (.offline endpoint.doc)
  | _, _ => none

end Link

namespace Replica

/-- There is a socket, and it is not being closed. -/
def isLinked (replica : Replica Op) : Bool :=
  replica.provider.sockets.any fun socket => socket.readyState ≠ .closing

/-- What a timer does. -/
def timerDeeds (replica : Replica Op) (presence : Option (List AwarenessEntry)) (timer : Timer) :
    List (LinkEvent Op) :=
  match timer.kind with
  | .ping => if replica.provider.pongTimer.isSome then [] else [.acts .ping]
  | .pong => [.ends]
  | .awareness => presence.toList.map fun entries => .acts (.announce entries)
  | .reconnect | .stable => []

/-- What the next frame of the server does, if it is a sync message. -/
def readDeeds : Option (SyncMessage Op) → List (LinkEvent Op)
  | none => []
  | some message => [.arrives (.sync message), .acts .onFrame]

/-- What an event is to a client of the session model. -/
def deeds (encoding : Encoding Op) (replica : Replica Op) :
    ReplicaEvent Op → List (LinkEvent Op)
  | .browser (.tokenResolved _ _) => if replica.provider.destroyed then [] else [.connects]
  | .browser (.errored _) | .browser (.closing _) | .browser (.closed _ _ _)
  | .browser .destroy => if replica.isLinked then [.ends] else []
  | .browser _ => []
  -- the session model does not look at tokens
  | .opened _ presence => [.acts (.onopen "" presence)]
  | .message _ frame => readDeeds (encoding.read frame)
  | .fires id presence =>
      if replica.isLinked then
        (replica.provider.timers.find? fun timer => timer.id = id).elim []
          (replica.timerDeeds presence)
      else []
  | .edit update => [.acts (.edit update)]
  | .announce entries => if replica.isLinked then [.acts (.announce entries)] else []

end Replica

/-- The frame is on the wire as this message. -/
inductive Carries (encoding : Encoding Op) : Rooms.Message Op → Message → Prop where
  | auth (token : String) (presented : JsString) : Carries encoding (.auth token) (.auth presented)
  | sync (message : SyncMessage Op) :
      Carries encoding (.sync message) (.sync (encoding.sync message))
  | awareness (entries : List AwarenessEntry) :
      Carries encoding (.awareness entries) (.awareness (encoding.awareness entries))
  | ping : Carries encoding .ping .ping

/-- The socket of the provider is that of the endpoint: everything that was sent on
it is what the endpoint has sent. -/
structure Bears (encoding : Encoding Op) (provider : CollabProvider) (endpoint : Endpoint Op)
    (socket : Socket) : Prop where
  sockets : provider.sockets = [socket]
  current : provider.socket = some socket.id
  state : socket.readyState = if endpoint.opened then .isOpen else .connecting
  sent : List.Forall₂ (Carries encoding) endpoint.up socket.sent
  down : endpoint.down = []
  stage : endpoint.stage = .unauthenticated

/-- The client of the session model that a replica is. -/
def Shows (encoding : Encoding Op) (replica : Replica Op) : Link Op → Prop
  | .offline doc =>
      doc = replica.doc ∧ ∀ socket ∈ replica.provider.sockets, socket.readyState = .closing
  | .linked endpoint =>
      endpoint.doc = replica.doc ∧ ∃ socket, Bears encoding replica.provider endpoint socket

variable {encoding : Encoding Op} {provider after : CollabProvider} {endpoint : Endpoint Op}
  {socket : Socket}

/-! ### What is put on the socket -/

section

omit [DecidableEq Op] [Causality Op]

private theorem Bears.same {encoding : Encoding Op} {endpoint : Endpoint Op}
    (bears : Bears encoding provider endpoint socket)
    (sockets : after.sockets = provider.sockets) (current : after.socket = provider.socket) :
    Bears encoding after endpoint socket :=
  ⟨sockets.trans bears.sockets, current.trans bears.current, bears.state, bears.sent, bears.down,
    bears.stage⟩

private theorem Bears.learns (bears : Bears encoding provider endpoint socket) (doc : Doc Op) :
    Bears encoding provider { endpoint with doc := doc } socket :=
  ⟨bears.sockets, bears.current, bears.state, bears.sent, bears.down, bears.stage⟩

private theorem Bears.send (bears : Bears encoding provider endpoint socket)
    {frame : Rooms.Message Op} {message : Message} (carries : Carries encoding frame message) :
    ∃ later, Bears encoding (provider.send message) (endpoint.send [frame]) later := by
  have sends : (provider.send message).sockets = [if socket.readyState = .isOpen then
      { socket with sent := socket.sent ++ [message] } else socket] := by
    unfold CollabProvider.send
    simp [bears.sockets, bears.current]
  unfold Endpoint.send
  by_cases opened : endpoint.opened = true
  · have isOpen : socket.readyState = .isOpen := by
      rw [bears.state, if_pos opened]
    rw [if_pos isOpen] at sends
    rw [if_pos opened]
    refine ⟨_, sends, bears.current, ?_, ?_, bears.down, bears.stage⟩
    · show socket.readyState = if endpoint.opened then _ else _
      exact bears.state
    · exact List.rel_append bears.sent (.cons carries .nil)
  · have connecting : ¬ socket.readyState = .isOpen := by
      rw [bears.state, if_neg opened]
      decide
    rw [if_neg connecting] at sends
    rw [if_neg opened]
    exact ⟨socket, sends, bears.current, bears.state, bears.sent, bears.down, bears.stage⟩

private theorem Bears.setStatus (bears : Bears encoding provider endpoint socket)
    {status : ConnectionStatus} : Bears encoding (provider.setStatus status) endpoint socket := by
  unfold CollabProvider.setStatus
  split
  · exact bears
  · exact bears.same rfl rfl

private theorem Bears.probing (bears : Bears encoding provider endpoint socket) :
    Bears encoding provider.startPinging.startAnnouncing endpoint socket :=
  bears.same rfl rfl

private theorem send_send (endpoint : Endpoint Op) (front back : List (Rooms.Message Op)) :
    (endpoint.send front).send back = endpoint.send (front ++ back) := by
  unfold Endpoint.send
  by_cases opened : endpoint.opened = true
  · simp [opened]
  · simp [opened]

private theorem send_nil (endpoint : Endpoint Op) : endpoint.send [] = endpoint := by
  unfold Endpoint.send
  split
  · rw [List.append_nil]
  · rfl

private theorem doc_send (endpoint : Endpoint Op) (frames : List (Rooms.Message Op)) :
    (endpoint.send frames).doc = endpoint.doc := by
  unfold Endpoint.send
  split
  · rfl
  · rfl

end

/-- `onopen` greets the room with what the endpoint does. -/
theorem Bears.onOpen (bears : Bears encoding provider endpoint socket) (token : JsString)
    (presence : Option (List AwarenessEntry)) :
    ∃ later, Bears encoding ((provider.markOpen socket.id).onOpen token
      (encoding.sync (.step1 endpoint.doc.stateVector)) (presence.map encoding.awareness))
      (endpoint.onOpen "" presence) later := by
  have marked : Bears encoding (provider.markOpen socket.id) { endpoint with opened := true }
      { socket with readyState := .isOpen } := by
    refine ⟨?_, bears.current, rfl, bears.sent, bears.down, bears.stage⟩
    simp [CollabProvider.markOpen, bears.sockets]
  have watched : Bears encoding { (provider.markOpen socket.id).arm .stable
      CONNECTION_STABLE_MS with stableTimer := some (provider.markOpen socket.id).fresh }
      { endpoint with opened := true } { socket with readyState := .isOpen } :=
    marked.same rfl rfl
  obtain ⟨first, presented⟩ := watched.setStatus.send (.auth "" token)
  obtain ⟨second, greeted⟩ := presented.send (.sync (.step1 endpoint.doc.stateVector))
  rw [send_send] at greeted
  unfold CollabProvider.onOpen Endpoint.onOpen
  cases presence with
  | none => exact ⟨second, greeted.probing⟩
  | some entries =>
      obtain ⟨third, announced⟩ := greeted.send (.awareness entries)
      rw [send_send] at announced
      exact ⟨third, announced.probing⟩

/-! ### What a replica shows -/

/-- Every socket is being closed. -/
def Closing (provider : CollabProvider) : Prop :=
  ∀ socket ∈ provider.sockets, socket.readyState = .closing

section

omit [DecidableEq Op] [Causality Op]

private theorem Bears.not_closing (bears : Bears encoding provider endpoint socket) :
    socket.readyState ≠ .closing := by
  rw [bears.state]
  split
  · decide
  · decide

private theorem Bears.socketOf (bears : Bears encoding provider endpoint socket) {id : ℕ}
    {found : Socket}
    (isFound : provider.socketOf id = some found) : found = socket ∧ socket.id = id := by
  unfold CollabProvider.socketOf at isFound
  have member := List.mem_of_find?_eq_some isFound
  rw [bears.sockets, List.mem_singleton] at member
  have isId := List.find?_some isFound
  rw [member] at isId
  exact ⟨member, of_decide_eq_true isId⟩

private theorem Bears.isLinked {replica : Replica Op}
    (bears : Bears encoding replica.provider endpoint socket) : replica.isLinked = true := by
  unfold Replica.isLinked
  rw [bears.sockets]
  simpa using bears.not_closing

/-- A provider with a socket is on its way. -/
theorem Bears.alive (bears : Bears encoding provider endpoint socket)
    (orderly : provider.Orderly) : provider.destroyed = false := by
  rcases orderly with ⟨way, only, -⟩ | ended
  · exact only.alive
  · have member : socket ∈ provider.sockets := bears.sockets ▸ List.mem_singleton_self socket
    exact absurd (ended.closing socket member) bears.not_closing

private theorem isLinked_of_closing {replica : Replica Op} (closing : Closing replica.provider) :
    replica.isLinked = false := by
  unfold Replica.isLinked
  rw [List.any_eq_false]
  intro socket member
  simpa using closing socket member

end

private theorem Closing.send (closing : Closing provider) (message : Message) :
    Closing (provider.send message) := by
  intro socket member
  obtain ⟨earlier, among, rfl⟩ := List.mem_map.mp member
  split
  · exact closing earlier among
  · exact closing earlier among

private theorem Closing.closeSocket (closing : Closing provider) (id : ℕ) :
    Closing (provider.closeSocket id) := by
  intro socket member
  obtain ⟨earlier, among, rfl⟩ := List.mem_map.mp member
  split
  · rfl
  · exact closing earlier among

private theorem Closing.closeCurrent (closing : Closing provider) :
    Closing provider.closeCurrent := by
  unfold CollabProvider.closeCurrent
  split
  · exact closing
  · exact closing.closeSocket _

private theorem sockets_connect (provider : CollabProvider) :
    provider.connect.sockets = provider.sockets ∧ provider.connect.socket = provider.socket := by
  unfold CollabProvider.connect
  split
  · exact ⟨rfl, rfl⟩
  · unfold CollabProvider.setStatus
    split
    · exact ⟨rfl, rfl⟩
    · exact ⟨rfl, rfl⟩

private theorem Closing.onTimer (closing : Closing provider) (timer : Timer)
    (presence : Option (List UInt8)) : Closing (provider.onTimer timer presence) := by
  unfold CollabProvider.onTimer
  split
  · intro socket member
    rw [(sockets_connect _).1] at member
    exact closing socket member
  · dsimp only
    split
    · exact closing
    · have rearmed : Closing (provider.rearm timer PING_INTERVAL_MS) := closing
      exact rearmed.send .ping
  · have expired : Closing (provider.expire timer) := closing
    exact expired.closeCurrent
  · cases presence with
    | none => exact closing
    | some payload =>
        have rearmed : Closing (provider.rearm timer AWARENESS_REFRESH_MS) := closing
        exact rearmed.send (.awareness payload)
  · exact closing

section

omit [DecidableEq Op] [Causality Op]

private theorem Bears.closeSocket (bears : Bears encoding provider endpoint socket) {id : ℕ}
    (isId : socket.id = id) : Closing (provider.closeSocket id) := by
  intro later member
  unfold CollabProvider.closeSocket at member
  rw [bears.sockets, List.map_singleton, List.mem_singleton, if_pos isId] at member
  rw [member]

private theorem Bears.closeCurrent (bears : Bears encoding provider endpoint socket) :
    Closing provider.closeCurrent := by
  unfold CollabProvider.closeCurrent
  rw [bears.current]
  exact bears.closeSocket rfl

/-- Neither the sockets nor the document have changed. -/
theorem Shows.same {before later : Replica Op} {link : Link Op} (shows : Shows encoding before link)
    (doc : later.doc = before.doc) (sockets : later.provider.sockets = before.provider.sockets)
    (current : later.provider.socket = before.provider.socket) : Shows encoding later link := by
  cases link with
  | offline stored =>
      obtain ⟨same, closing⟩ := shows
      exact ⟨same.trans doc.symm, fun socket member => closing socket (sockets ▸ member)⟩
  | linked endpoint =>
      obtain ⟨same, socket, bears⟩ := shows
      exact ⟨same.trans doc.symm, socket, bears.same sockets current⟩

end

/-- What the replica does is what the client of the session model does. -/
def Follows (encoding : Encoding Op) (link : Link Op) (deeds : List (LinkEvent Op))
    (after : Replica Op) : Prop :=
  ∃ later, run Link.step link deeds = some later ∧ Shows encoding after later

variable {replica later : Replica Op} {link : Link Op}

private theorem follows_nothing (shows : Shows encoding replica link)
    (doc : later.doc = replica.doc) (sockets : later.provider.sockets = replica.provider.sockets)
    (current : later.provider.socket = replica.provider.socket) :
    Follows encoding link [] later :=
  ⟨link, rfl, shows.same doc sockets current⟩

/-- The socket is there no longer, or not for long. -/
theorem follows_ends (shows : Shows encoding replica link) (doc : later.doc = replica.doc)
    (closing : Closing later.provider) :
    Follows encoding link (if replica.isLinked then [.ends] else []) later := by
  cases link with
  | offline stored =>
      rw [if_neg (by rw [isLinked_of_closing shows.2]; decide)]
      exact ⟨_, rfl, shows.1.trans doc.symm, closing⟩
  | linked endpoint =>
      obtain ⟨same, socket, bears⟩ := shows
      rw [if_pos bears.isLinked]
      exact ⟨.offline endpoint.doc, rfl, same.trans doc.symm, closing⟩

private theorem sockets_offline (provider : CollabProvider) (jitter : ℚ) :
    ((provider.setStatus .offline).scheduleReconnect jitter).sockets = provider.sockets ∧
      ((provider.setStatus .offline).scheduleReconnect jitter).socket = provider.socket := by
  unfold CollabProvider.setStatus
  split
  · exact ⟨rfl, rfl⟩
  · exact ⟨rfl, rfl⟩

private theorem sockets_onClose (provider : CollabProvider) (code : ℕ) (jitter : ℚ) :
    (provider.onClose code jitter).sockets = provider.sockets := by
  obtain ⟨timers, cleared⟩ := CollabProvider.clearTimers_eq provider
  unfold CollabProvider.onClose
  rw [cleared]
  dsimp only
  split
  · rfl
  · split
    · unfold CollabProvider.setStatus
      split
      · rfl
      · rfl
    · refine (sockets_offline _ jitter).1.trans ?_
      split
      · rfl
      · rfl

/-- A token comes to a provider that has no socket. -/
theorem follows_token (orderly : replica.provider.Orderly) (shows : Shows encoding replica link)
    {request : ℕ} {token : JsString}
    (found : (replica.provider.requests.any fun pending => pending.id = request) = true) :
    Follows encoding link (if replica.provider.destroyed then [] else [.connects])
      { replica with provider := { replica.provider with
        requests := replica.provider.requests.filter fun pending =>
          pending.id ≠ request }.onToken token } := by
  rcases orderly with ⟨way, only, -⟩ | ended
  · obtain ⟨idle, -⟩ := CollabProvider.idle_of_settled only found
    have noSockets : replica.provider.sockets = [] := idle.sockets
    rw [if_neg (by simp [only.alive]), CollabProvider.onToken_of_alive idle.destroyed]
    cases link with
    | offline stored =>
        refine ⟨.linked ⟨stored, false, [], [], .unauthenticated, []⟩, rfl, shows.1,
          ⟨replica.provider.fresh, token, .connecting, []⟩, ?_, rfl, rfl, .nil, rfl, rfl⟩
        show replica.provider.sockets ++ [_] = _
        rw [noSockets]
        rfl
    | linked endpoint =>
        obtain ⟨-, socket, bears⟩ := shows
        cases noSockets.symm.trans bears.sockets
  · have settled : ({ replica.provider with
        requests := replica.provider.requests.filter fun pending =>
          pending.id ≠ request } : CollabProvider).destroyed = true := ended.destroyed
    rw [if_pos ended.destroyed, CollabProvider.onToken_of_destroyed settled]
    exact follows_nothing shows rfl rfl rfl

/-- A socket is closed from its own side or from the other. -/
theorem follows_closing (shows : Shows encoding replica link) {id : ℕ} {found : Socket}
    (isFound : replica.provider.socketOf id = some found) :
    Follows encoding link (if replica.isLinked then [.ends] else [])
      { replica with provider := replica.provider.closeSocket id } := by
  refine follows_ends shows (by rfl) ?_
  cases link with
  | offline stored => exact Closing.closeSocket shows.2 id
  | linked endpoint =>
      obtain ⟨-, socket, bears⟩ := shows
      exact bears.closeSocket (bears.socketOf isFound).2

private theorem follows_closed (shows : Shows encoding replica link) {id : ℕ} {found : Socket}
    (isFound : replica.provider.socketOf id = some found) (code : ℕ) (jitter : ℚ) :
    Follows encoding link (if replica.isLinked then [.ends] else [])
      { replica with provider := { replica.provider with
        sockets := replica.provider.sockets.filter fun socket => socket.id ≠ id
        closeCode := some code }.onClose code jitter } := by
  refine follows_ends shows (by rfl) ?_
  intro later member
  rw [sockets_onClose] at member
  obtain ⟨among, other⟩ := List.mem_filter.mp member
  cases link with
  | offline stored => exact shows.2 later among
  | linked endpoint =>
      obtain ⟨-, socket, bears⟩ := shows
      rw [bears.sockets, List.mem_singleton] at among
      rw [among, (bears.socketOf isFound).2] at other
      simp at other

private theorem follows_destroy (shows : Shows encoding replica link) :
    Follows encoding link (if replica.isLinked then [.ends] else [])
      { replica with provider := replica.provider.destroy } := by
  refine follows_ends shows (by rfl) ?_
  obtain ⟨timers, ends⟩ := CollabProvider.destroy_eq replica.provider
  intro later member
  have among : later ∈ replica.provider.closeCurrent.sockets := by
    rw [ends] at member
    exact member
  cases link with
  | offline stored => exact Closing.closeCurrent shows.2 later among
  | linked endpoint =>
      obtain ⟨-, socket, bears⟩ := shows
      exact bears.closeCurrent later among

private theorem follows_browser (orderly : replica.provider.Orderly)
    (shows : Shows encoding replica link) {event : ProviderEvent} (plain : event.isPlain = true)
    (stepped : replica.provider.step event = some after) :
    Follows encoding link (replica.deeds encoding (.browser event))
      { replica with provider := after } := by
  cases event with
  | tokenResolved request token =>
      obtain ⟨found, result⟩ := Option.ite_none_right_eq_some.mp stepped
      cases result
      exact follows_token orderly shows found
  | tokenRejected request jitter =>
      obtain ⟨-, result⟩ := Option.ite_none_right_eq_some.mp stepped
      cases result
      obtain ⟨sockets, current⟩ := sockets_offline { replica.provider with
        requests := replica.provider.requests.filter fun pending => pending.id ≠ request } jitter
      exact follows_nothing shows rfl sockets current
  | errored id =>
      obtain ⟨socket, found, result⟩ := Option.map_eq_some_iff.mp stepped
      cases result
      exact follows_closing shows found
  | closing id =>
      obtain ⟨socket, found, result⟩ := Option.map_eq_some_iff.mp stepped
      cases result
      exact follows_closing shows found
  | closed id code jitter =>
      obtain ⟨socket, found, taken⟩ := Option.bind_eq_some_iff.mp stepped
      obtain ⟨-, result⟩ := Option.ite_none_right_eq_some.mp taken
      cases result
      exact follows_closed shows found code jitter
  | elapses milliseconds =>
      obtain ⟨-, result⟩ := Option.ite_none_right_eq_some.mp stepped
      cases result
      exact follows_nothing shows rfl rfl rfl
  | destroy =>
      cases stepped
      exact follows_destroy shows
  | opened id step1 presence => cases plain
  | message id frame reply => cases plain
  | fires id presence => cases plain
  | docUpdate payload => cases plain
  | awarenessUpdate payload => cases plain

/-- One action of an endpoint, whose socket is still there afterwards. -/
theorem follows_act {endpoint after : Endpoint Op} {action : ClientAction Op}
    (acts : endpoint.act action = some after) {socket : Socket}
    (bears : Bears encoding later.provider after socket) (doc : after.doc = later.doc) :
    Follows encoding (.linked endpoint) [.acts action] later := by
  refine ⟨.linked after, ?_, doc, socket, bears⟩
  rw [run_singleton]
  show (endpoint.act action).map Link.linked = _
  rw [acts]
  rfl

private theorem follows_opened (shows : Shows encoding replica link) {id : ℕ} {found : Socket}
    (isFound : replica.provider.socketOf id = some found)
    (connecting : found.readyState = .connecting) (presence : Option (List AwarenessEntry)) :
    Follows encoding link [.acts (.onopen "" presence)]
      { replica with
        provider := (replica.provider.markOpen id).onOpen found.token
          (encoding.sync (.step1 replica.doc.stateVector)) (presence.map encoding.awareness) } := by
  cases link with
  | offline stored =>
      have member := List.mem_of_find?_eq_some isFound
      exact nomatch connecting.symm.trans (shows.2 found member)
  | linked endpoint =>
      obtain ⟨same, socket, bears⟩ := shows
      obtain ⟨isSocket, isId⟩ := bears.socketOf isFound
      have closed : ¬ endpoint.opened = true := by
        intro opened
        rw [isSocket, bears.state, if_pos opened] at connecting
        cases connecting
      obtain ⟨later, goesOn⟩ := bears.onOpen found.token presence
      rw [isId, same] at goesOn
      have acts : endpoint.act (.onopen "" presence) = some (endpoint.onOpen "" presence) := by
        apply if_neg
        rw [bears.stage]
        simpa using closed
      exact follows_act acts goesOn ((doc_send _ _).trans same)

omit [Causality Op] in
private theorem apply_empty (doc : Doc Op) : doc.apply ∅ = doc := by
  unfold Doc.apply
  rw [Finset.union_empty]

/-- A frame that nothing is answered to. -/
theorem sockets_onFrame (frame : List UInt8) :
    (provider.onFrame frame none).sockets = provider.sockets ∧
      (provider.onFrame frame none).socket = provider.socket := by
  unfold CollabProvider.onFrame
  split
  · exact ⟨rfl, rfl⟩
  · obtain ⟨timers, cleared⟩ := CollabProvider.clear_eq provider provider.pongTimer
    rw [cleared]
    exact ⟨rfl, rfl⟩
  · exact ⟨rfl, rfl⟩

omit [DecidableEq Op] [Causality Op] in
private theorem onFrame_of_read {frame : List UInt8} {message : SyncMessage Op}
    (reads : encoding.read frame = some message) (reply : Option (List UInt8)) :
    provider.onFrame frame reply =
      (reply.map fun payload => provider.send (.sync payload)).getD provider := by
  unfold Encoding.read at reads
  unfold CollabProvider.onFrame
  split at reads
  · next payload decodes =>
      rw [decodes]
      cases reply with
      | none => rfl
      | some payload => rfl
  · cases reads

/-- A frame that arrives is taken. -/
theorem run_arrives {endpoint : Endpoint Op} {message : Rooms.Message Op}
    (down : endpoint.down = []) (stage : endpoint.stage = .unauthenticated) :
    run Link.step (.linked endpoint) [.arrives message, .acts .onFrame] =
      some (.linked (endpoint.onFrame message)) := by
  obtain ⟨doc, opened, up, frames, reached, queued⟩ := endpoint
  cases down
  cases stage
  rfl

/-- A frame of the server is read, and answered if it is a step 1. -/
theorem follows_message (shows : Shows encoding replica link) {id : ℕ} {found : Socket}
    (isFound : replica.provider.socketOf id = some found) (isOpen : found.readyState = .isOpen)
    (frame : List UInt8) :
    Follows encoding link (Replica.readDeeds (encoding.read frame))
      ⟨replica.provider.onFrame frame ((encoding.read frame).bind (encoding.reply replica.doc)),
        replica.doc.apply (((encoding.read frame).map SyncMessage.carried).getD ∅)⟩ := by
  cases link with
  | offline stored =>
      have member := List.mem_of_find?_eq_some isFound
      exact nomatch isOpen.symm.trans (shows.2 found member)
  | linked endpoint =>
      obtain ⟨same, socket, bears⟩ := shows
      cases reads : encoding.read frame with
      | none =>
          refine ⟨.linked endpoint, rfl, same.trans (apply_empty replica.doc).symm, socket, ?_⟩
          exact bears.same (sockets_onFrame frame).1 (sockets_onFrame frame).2
      | some message =>
          refine ⟨_, run_arrives bears.down bears.stage, ?_⟩
          rw [onFrame_of_read reads]
          cases message with
          | step1 vector =>
              obtain ⟨later, goesOn⟩ :=
                bears.send (.sync (.step2 (replica.doc.encodeStateAsUpdate vector)))
              refine ⟨?_, later, ?_⟩
              · exact (doc_send _ _).trans (same.trans (apply_empty replica.doc).symm)
              · show Bears encoding _ (endpoint.send [.sync (.step2 _)]) later
                rw [same]
                exact goesOn
          | step2 update =>
              exact ⟨congrArg (Doc.apply · update) same, socket, bears.learns _⟩
          | update update =>
              exact ⟨congrArg (Doc.apply · update) same, socket, bears.learns _⟩

/-- A timer runs. -/
theorem follows_fires (shows : Shows encoding replica link) {id : ℕ} {timer : Timer}
    (found : replica.provider.timers.find? (fun timer => timer.id = id) = some timer)
    (presence : Option (List AwarenessEntry)) :
    Follows encoding link
      (if replica.isLinked then
        (replica.provider.timers.find? fun timer => timer.id = id).elim []
          (replica.timerDeeds presence)
      else [])
      { replica with
        provider := replica.provider.onTimer timer (presence.map encoding.awareness) } := by
  cases link with
  | offline stored =>
      rw [if_neg (by rw [isLinked_of_closing shows.2]; decide)]
      exact ⟨.offline stored, rfl, shows.1, Closing.onTimer shows.2 timer _⟩
  | linked endpoint =>
      obtain ⟨same, socket, bears⟩ := shows
      rw [if_pos bears.isLinked, found]
      show Follows encoding _ (replica.timerDeeds presence timer) _
      unfold Replica.timerDeeds CollabProvider.onTimer
      cases timer.kind with
      | reconnect =>
          obtain ⟨sockets, current⟩ := sockets_connect (replica.provider.expire timer)
          exact ⟨.linked endpoint, rfl, same, socket, bears.same sockets current⟩
      | ping =>
          have again : Bears encoding (replica.provider.rearm timer PING_INTERVAL_MS) endpoint
              socket := bears.same rfl rfl
          dsimp only
          by_cases waiting : replica.provider.pongTimer.isSome = true
          · have stillWaiting : (replica.provider.rearm timer
                PING_INTERVAL_MS).pongTimer.isSome = true := waiting
            rw [if_pos waiting, if_pos stillWaiting]
            exact ⟨.linked endpoint, rfl, same, socket, again⟩
          · have stillFree : ¬ (replica.provider.rearm timer
                PING_INTERVAL_MS).pongTimer.isSome = true := waiting
            rw [if_neg waiting, if_neg stillFree]
            obtain ⟨later, goesOn⟩ := again.send .ping
            exact follows_act rfl (goesOn.same rfl rfl) ((doc_send _ _).trans same)
      | pong =>
          have expired : Bears encoding (replica.provider.expire timer) endpoint socket :=
            bears.same rfl rfl
          exact ⟨.offline endpoint.doc, rfl, same, expired.closeCurrent⟩
      | awareness =>
          have again : Bears encoding (replica.provider.rearm timer AWARENESS_REFRESH_MS) endpoint
              socket := bears.same rfl rfl
          cases presence with
          | none => exact ⟨.linked endpoint, rfl, same, socket, again⟩
          | some entries =>
              obtain ⟨later, goesOn⟩ := again.send (.awareness entries)
              exact follows_act rfl goesOn ((doc_send _ _).trans same)
      | stable => exact ⟨.linked endpoint, rfl, same, socket, bears.same rfl rfl⟩

private theorem follows_edit (orderly : replica.provider.Orderly)
    (shows : Shows encoding replica link)
    {update : Update Op} (stepped : replica.step encoding (.edit update) = some later) :
    Follows encoding link [.acts (.edit update)] later := by
  obtain ⟨whole, edited⟩ := Option.ite_none_right_eq_some.mp stepped
  cases link with
  | offline stored =>
      have goesOn : run Link.step (.offline stored) [.acts (.edit update)] =
          some (.offline (stored.apply update)) := by
        rw [run_singleton]
        exact if_pos (shows.1 ▸ whole)
      refine ⟨_, goesOn, ?_⟩
      cases isEvent : replica.doc.event update with
      | none =>
          rw [isEvent] at edited
          cases edited
          exact ⟨congrArg (Doc.apply · update) shows.1, shows.2⟩
      | some fresh =>
          rw [isEvent] at edited
          cases edited
          refine ⟨congrArg (Doc.apply · update) shows.1, ?_⟩
          dsimp only
          split
          · exact shows.2
          · exact Closing.send shows.2 _
  | linked endpoint =>
      obtain ⟨same, socket, bears⟩ := shows
      have acts : endpoint.act (.edit update) = some (endpoint.edit update) := by
        exact if_pos (same ▸ whole)
      have doc : (endpoint.edit update).doc = replica.doc.apply update :=
        (doc_send _ _).trans (congrArg (Doc.apply · update) same)
      have learned := bears.learns (endpoint.doc.apply update)
      have sends : endpoint.edit update = { endpoint with doc := endpoint.doc.apply update }.send
          ((replica.doc.event update).toList.map fun fresh => .sync (.update fresh)) := by
        unfold Endpoint.edit
        rw [same]
      cases isEvent : replica.doc.event update with
      | none =>
          rw [isEvent] at edited sends
          cases edited
          have nothing := sends.trans (send_nil _)
          exact follows_act acts (nothing ▸ learned) doc
      | some fresh =>
          rw [isEvent] at edited sends
          cases edited
          obtain ⟨later, goesOn⟩ := learned.send (.sync (.update fresh))
          have edits : Bears encoding
              (replica.provider.send (.sync (encoding.sync (.update fresh))))
              (endpoint.edit update) later := by
            rw [sends]
            exact goesOn
          rw [if_neg (by simp [bears.alive orderly])]
          exact follows_act acts edits doc

private theorem follows_announce (orderly : replica.provider.Orderly)
    (shows : Shows encoding replica link) (entries : List AwarenessEntry) :
    Follows encoding link (if replica.isLinked then [.acts (.announce entries)] else [])
      { replica with provider := if replica.provider.destroyed then replica.provider
        else replica.provider.send (.awareness (encoding.awareness entries)) } := by
  cases link with
  | offline stored =>
      rw [if_neg (by rw [isLinked_of_closing shows.2]; decide)]
      refine ⟨.offline stored, rfl, shows.1, ?_⟩
      split
      · exact shows.2
      · exact Closing.send shows.2 _
  | linked endpoint =>
      obtain ⟨same, socket, bears⟩ := shows
      rw [if_pos bears.isLinked, if_neg (by simp [bears.alive orderly])]
      obtain ⟨later, goesOn⟩ := bears.send (.awareness entries)
      exact follows_act rfl goesOn ((doc_send _ _).trans same)

/-- Every event of a replica is something a client of the session model does. -/
theorem follows_step (orderly : replica.provider.Orderly) (shows : Shows encoding replica link)
    {event : ReplicaEvent Op} (stepped : replica.step encoding event = some later) :
    Follows encoding link (replica.deeds encoding event) later := by
  cases event with
  | browser event =>
      obtain ⟨plain, taken⟩ := Option.ite_none_right_eq_some.mp stepped
      obtain ⟨after, moved, rfl⟩ := Option.map_eq_some_iff.mp taken
      exact follows_browser orderly shows plain moved
  | opened id presence =>
      obtain ⟨after, moved, rfl⟩ := Option.map_eq_some_iff.mp stepped
      obtain ⟨socket, found, taken⟩ := Option.bind_eq_some_iff.mp moved
      obtain ⟨connecting, result⟩ := Option.ite_none_right_eq_some.mp taken
      cases result
      exact follows_opened shows found connecting presence
  | message id frame =>
      obtain ⟨after, moved, rfl⟩ := Option.map_eq_some_iff.mp stepped
      obtain ⟨socket, found, taken⟩ := Option.bind_eq_some_iff.mp moved
      obtain ⟨isOpen, result⟩ := Option.ite_none_right_eq_some.mp taken
      cases result
      exact follows_message shows found isOpen frame
  | fires id presence =>
      obtain ⟨after, moved, rfl⟩ := Option.map_eq_some_iff.mp stepped
      obtain ⟨timer, found, taken⟩ := Option.bind_eq_some_iff.mp moved
      obtain ⟨-, result⟩ := Option.ite_none_right_eq_some.mp taken
      cases result
      exact follows_fires shows found presence
  | edit update => exact follows_edit orderly shows stepped
  | announce entries =>
      cases stepped
      exact follows_announce orderly shows entries

private theorem orderly_of_step (orderly : replica.provider.Orderly) {event : ReplicaEvent Op}
    (stepped : replica.step encoding event = some later) : later.provider.Orderly := by
  have moves : ∀ {event : ProviderEvent} {after : CollabProvider},
      replica.provider.step event = some after → after.Orderly :=
    fun moved => CollabProvider.orderly_step orderly moved
  cases event with
  | browser event =>
      obtain ⟨-, taken⟩ := Option.ite_none_right_eq_some.mp stepped
      obtain ⟨after, moved, rfl⟩ := Option.map_eq_some_iff.mp taken
      exact moves moved
  | opened id presence =>
      obtain ⟨after, moved, rfl⟩ := Option.map_eq_some_iff.mp stepped
      exact moves moved
  | message id frame =>
      obtain ⟨after, moved, rfl⟩ := Option.map_eq_some_iff.mp stepped
      exact moves moved
  | fires id presence =>
      obtain ⟨after, moved, rfl⟩ := Option.map_eq_some_iff.mp stepped
      exact moves moved
  | edit update =>
      obtain ⟨-, edited⟩ := Option.ite_none_right_eq_some.mp stepped
      cases isEvent : replica.doc.event update with
      | none =>
          rw [isEvent] at edited
          cases edited
          exact orderly
      | some fresh =>
          rw [isEvent] at edited
          obtain ⟨after, moved, rfl⟩ := Option.map_eq_some_iff.mp edited
          exact moves moved
  | announce entries =>
      have moved : replica.provider.step (.awarenessUpdate (encoding.awareness entries)) =
          some (if replica.provider.destroyed then replica.provider
            else replica.provider.send (.awareness (encoding.awareness entries))) := rfl
      cases stepped
      exact moves moved

omit [DecidableEq Op] [Causality Op] in
private theorem shows_start (encoding : Encoding Op) (doc : Doc Op) :
    Shows encoding (Replica.start doc) (.offline doc) :=
  ⟨rfl, nofun⟩

/-- Whatever happens to a provider and its document, the two are a client of the
session model: what has been sent on the socket that is there is what the
client's endpoint has sent since it was made, from the document it had then. -/
theorem replica_is_client (doc : Doc Op) {events : List (ReplicaEvent Op)}
    (ran : run (Replica.step encoding) (Replica.start doc) events = some replica) :
    ∃ link, run (run Link.step) (.offline doc)
      (translated (Replica.step encoding) (Replica.deeds encoding) (Replica.start doc) events) =
        some link ∧ Shows encoding replica link := by
  have starts : (Replica.start doc).provider.Orderly ∧
      Shows encoding (Replica.start doc) (.offline doc) :=
    ⟨Or.inl ⟨.token, CollabProvider.onlyWay_new, CollabProvider.tidy_new⟩,
      shows_start encoding doc⟩
  obtain ⟨link, follows, -, shows⟩ := run_simulated
    (fun (replica : Replica Op) link => replica.provider.Orderly ∧ Shows encoding replica link)
    (fun replica link event later related stepped => by
      obtain ⟨next, goesOn, shows⟩ := follows_step related.1 related.2 stepped
      exact ⟨next, goesOn, orderly_of_step related.1 stepped, shows⟩) starts ran
  exact ⟨link, follows, shows⟩

/-- What two visitors write. -/
def written : List ItemId := [⟨7, 0⟩, ⟨7, 1⟩, ⟨8, 0⟩]

/-- A byte for each operation they write. -/
def flags (content : Update ItemId) : List UInt8 :=
  written.map fun op => if op ∈ content then 1 else 0

def flagged (bytes : List UInt8) : Update ItemId :=
  (((written.zip bytes).filter fun pair => pair.2 = 1).map Prod.fst).toFinset

def flagEncoding : Encoding ItemId where
  sync
    | .step1 vector => 0 :: flags vector
    | .step2 content => 1 :: flags content
    | .update content => 2 :: flags content
  readSync
    | 0 :: vector => some (.step1 (flagged vector))
    | 1 :: content => some (.step2 (flagged content))
    | 2 :: content => some (.update (flagged content))
    | _ => none
  awareness _ := [0]

/-- A socket opens and is asked for what the document has; an edit is sent on it,
and another one made when it is lost. The next socket is asked what the room does
not have, and brings what the other visitor wrote. -/
def reconnecting : List (ReplicaEvent ItemId) :=
  [.browser (.tokenResolved 0 []), .opened 1 none, .message 1 [0, 0, 0, 0, 0],
    .edit {⟨7, 0⟩}, .browser (.closed 1 1006 0), .edit {⟨7, 1⟩}, .browser (.elapses 250),
    .fires 5 none, .browser (.tokenResolved 6 []), .opened 7 none,
    .message 7 [0, 0, 1, 0, 0], .message 7 [0, 2, 0, 0, 1]]

theorem replica_is_client_reconnected : ∃ (replica : Replica ItemId) (link : Link ItemId),
    replica.provider.sockets.map Socket.sent =
        [[.auth [], .sync [0, 1, 1, 0], .sync [1, 0, 1, 0]]] ∧
      replica.doc.integrated = {⟨7, 0⟩, ⟨7, 1⟩, ⟨8, 0⟩} ∧
      run (run Link.step) (.offline Doc.empty)
        (translated (Replica.step flagEncoding) (Replica.deeds flagEncoding)
          (Replica.start Doc.empty) reconnecting) = some link ∧
      Shows flagEncoding replica link := by
  have enabled : ((run (Replica.step flagEncoding) (Replica.start Doc.empty) reconnecting).any
      fun replica => decide (replica.provider.sockets.map Socket.sent =
          [[.auth [], .sync [0, 1, 1, 0], .sync [1, 0, 1, 0]]] ∧
        replica.doc.integrated = {⟨7, 0⟩, ⟨7, 1⟩, ⟨8, 0⟩})) = true := by
    decide +kernel
  obtain ⟨replica, ran, ends⟩ := (Option.any_eq_true _ _).mp enabled
  obtain ⟨sent, shown⟩ := of_decide_eq_true ends
  obtain ⟨link, follows, shows⟩ := replica_is_client Doc.empty ran
  exact ⟨replica, link, sent, shown, follows, shows⟩

end CollabEditor.Web
