import CollabEditor.Http.Verification
import CollabEditor.Web.Navigation
import CollabEditor.Ws.Connection

/-!
Owns the way of a name from the screen to the server: what `fetchSession` posts
and reads, the token it brings back, and the socket that token is sent on.
-/

set_option autoImplicit false

namespace CollabEditor.Web

open CollabEditor.Library CollabEditor.Protocol CollabEditor.Ws

/-! ### The request for a session -/

/-- `JSON.stringify({ name: name() })`. -/
def sessionBody (name : JsString) : JsString :=
  Json.stringify (.object [(Json.text "name", .string name)])

/-- What `fetchSession` takes from the value of a body; `none` for one that has no
token and lifetime. -/
def grantOf : Json → Option (JsString × ℚ)
  | .object members =>
      match Json.get? members (Json.text "token"), Json.get? members (Json.text "expiresIn") with
      | some (.string token), some (.number expiresIn) =>
          some (token, Json.literalValue expiresIn)
      | _, _ => none
  | _ => none

/-- `fetchSession` once the response is there: the token with its lifetime; `none`
when it throws. -/
def readSession (response : Http.Response) : Option (JsString × ℚ) :=
  if 200 ≤ response.status ∧ response.status ≤ 299 then
    (Json.parse (Utf16.encode (Utf8.textDecode (Http.bytesOf response.payload)))).bind grantOf
  else none

/-- The services of a connection that checks tokens with `verifyToken`. A token it
throws for is nobody's either. -/
def tokenServices {Room : Type} (verifier : Http.TokenVerifier)
    (handleSync handleAwareness : Room → List UInt8 → Option Room) :
    Services (List (JsString × Json)) Room where
  verifyToken now token :=
    if inRange : now.natAbs ≤ 8640000000000000 then
      match Http.verifyToken verifier token ⟨now, inRange⟩ with
      | .claims members => some members
      | _ => none
    else none
  handleSync := handleSync
  handleAwareness := handleAwareness

/-! ### Names that can be shown -/

/-- Not empty, not too long, and not beginning with white space. -/
structure Presentable (name : JsString) : Prop where
  begins : ∃ unit rest, name = unit :: rest ∧ Http.isTrimmed unit = false
  short : name.length ≤ 32

private theorem presentable_nameIn {draft : JsString} (nonempty : nameIn draft ≠ []) :
    Presentable (nameIn draft) where
  begins := by
    obtain ⟨unit, rest, same⟩ := List.exists_cons_of_ne_nil nonempty
    have inTrimmed : nameIn draft <+: draft.dropWhile Http.isTrimmed :=
      (List.take_prefix 32 _).trans (List.rdropWhile_prefix Http.isTrimmed _)
    rw [same] at inTrimmed
    obtain ⟨after, whole⟩ := inTrimmed
    have first : (draft.dropWhile Http.isTrimmed).head? = some unit := by
      rw [← whole]
      rfl
    have kept := List.head?_dropWhile_not Http.isTrimmed draft
    rw [first] at kept
    exact ⟨unit, rest, same, by simpa using kept⟩
  short := List.length_take_le 32 _

private theorem presentable_displayName {name : JsString} (presentable : Presentable name)
    (draft : JsString) : Presentable (displayName draft name) := by
  unfold displayName
  split
  · exact presentable
  · next nonempty => exact presentable_nameIn nonempty

private theorem presentable_picks (picks : Picks) : Presentable picks.user.name := by
  have all : ∀ animal : Fin ANIMALS.length,
      ((ANIMALS.get animal).head?.any fun unit => !Http.isTrimmed unit) = true ∧
        (ANIMALS.get animal).length ≤ 32 := by decide +kernel
  obtain ⟨head, short⟩ := all picks.animal
  refine ⟨?_, short⟩
  obtain ⟨unit, first, kept⟩ := (Option.any_eq_true _ _).mp head
  obtain ⟨rest, same⟩ := List.head?_eq_some_iff.mp first
  exact ⟨unit, rest, same, by simpa using kept⟩

/-- What the server trims a name to is a name it grants. -/
theorem Presentable.trimmed {name : JsString} (presentable : Presentable name) :
    1 ≤ (Http.trim name).length ∧ (Http.trim name).length ≤ 32 := by
  obtain ⟨unit, rest, same, kept⟩ := presentable.begins
  have short := presentable.short
  have front : name.dropWhile Http.isTrimmed = name := by
    rw [same]
    exact List.dropWhile_cons_of_neg (by simp [kept])
  rw [Http.trim, front]
  constructor
  · apply List.length_pos_of_ne_nil
    intro none
    have all := List.rdropWhile_eq_nil_iff.mp none
    have trimmed := all unit (by simp [same])
    rw [kept] at trimmed
    exact Bool.false_ne_true trimmed
  · have length := (List.rdropWhile_prefix Http.isTrimmed name).length_le
    omega

/-! ### The body that is posted -/

private theorem length_decode_le (value : JsString) :
    (Utf16.decode value).length ≤ value.length := by
  fun_induction Utf16.decode value with
  | case1 => simp
  | case2 unit => simp
  | case3 unit next rest pair inductionHypothesis =>
      simp only [List.length_cons]
      omega
  | case4 unit next rest notPair inductionHypothesis =>
      simp only [List.length_cons] at inductionHypothesis ⊢
      omega

private theorem length_utf8_le (chars : List Char) :
    (Utf8.encode chars).length ≤ 4 * chars.length := by
  induction chars with
  | nil => simp [Utf8.encode]
  | cons char rest inductionHypothesis =>
      have one : (String.utf8EncodeChar char).length ≤ 4 := by
        rw [String.length_utf8EncodeChar]
        exact char.utf8Size_le_four
      have whole : Utf8.encode (char :: rest) = String.utf8EncodeChar char ++ Utf8.encode rest := by
        simp [Utf8.encode]
      rw [whole, List.length_append, List.length_cons]
      omega

/-- A string takes at most four bytes for each of its units. -/
theorem length_bytesOf_le (value : JsString) : (Http.bytesOf value).length ≤ 4 * value.length := by
  have bytes := length_utf8_le (Utf16.decode value)
  have units := length_decode_le value
  rw [Http.bytesOf]
  omega

private theorem length_quoteUnit_le (unit : UInt16) : (Json.quoteUnit unit).length ≤ 6 := by
  unfold Json.quoteUnit
  split_ifs <;> simp [Json.escapeUnit]

private theorem length_quoteUnits_le (value : JsString) :
    (Json.quoteUnits value).length ≤ 6 * value.length := by
  fun_induction Json.quoteUnits value with
  | case1 => simp
  | case2 unit => exact length_quoteUnit_le unit
  | case3 unit next rest pair inductionHypothesis =>
      simp only [List.length_cons]
      omega
  | case4 unit next rest notPair inductionHypothesis =>
      have one := length_quoteUnit_le unit
      simp only [List.length_append, List.length_cons] at inductionHypothesis ⊢
      omega

/-- The body a name is posted in. -/
theorem sessionBody_eq (name : JsString) :
    sessionBody name =
      Json.text "\x7b\"name\":\"" ++ (Json.quoteUnits name ++ Json.text "\"\x7d") := by
  have key : Json.quote (Json.text "name") = Json.text "\"name\"" := by decide
  show 0x7B :: (Json.quote (Json.text "name") ++ 0x3A :: Json.quote name) ++ [0x7D] = _
  rw [key]
  simp [Json.quote, Json.text, Utf16.encode, Utf16.units]

/-- The body of a name that is shown is never too large. -/
theorem Presentable.fits {name : JsString} (presentable : Presentable name) :
    (Http.bytesOf (sessionBody name)).length ≤ Http.MAX_BODY_BYTES := by
  have bytes := length_bytesOf_le (sessionBody name)
  have quoted := length_quoteUnits_le name
  have short := presentable.short
  have front : (Json.text "\x7b\"name\":\"").length = 9 := by decide
  have back : (Json.text "\"\x7d").length = 2 := by decide
  rw [sessionBody_eq, List.length_append, List.length_append, front, back] at bytes
  rw [Http.MAX_BODY_BYTES, sessionBody_eq]
  omega

theorem writable_sessionBody (name : JsString) :
    Json.Writable (.object [(Json.text "name", .string name)]) := ⟨trivial, trivial⟩

/-- However the body arrives, the session is granted to the name without the white
space around it. -/
theorem Presentable.granted {name : JsString} (presentable : Presentable name)
    (context : Http.TokenContext) (sub : JsString) {chunks : List (List UInt8)}
    (posts : chunks.flatten = Http.bytesOf (sessionBody name)) :
    Http.createSession context sub chunks =
      ⟨[Http.granted context sub (Http.trim name)], false⟩ := by
  have fits := presentable.fits
  have read : Http.readBody chunks = some (sessionBody name) := by
    rw [Http.readBody_eq, posts, if_pos fits, sessionBody,
      Http.decoded_bytesOf (Json.wellFormed_stringify _ (writable_sessionBody name))]
  have parsed : Json.parse (sessionBody name) = some (.object [(Json.text "name", .string name)]) :=
    Json.parse_stringify (writable_sessionBody name)
  have given : Http.nameOf (.object [(Json.text "name", .string name)]) =
      some (some (.string name)) := rfl
  obtain ⟨lower, upper⟩ := presentable.trimmed
  unfold Http.createSession
  rw [read, Option.bind_some, parsed]
  simp only [given]
  exact if_neg (show ¬ ((Http.trim name).length < 1 ∨ (Http.trim name).length > 32) by omega)

/-! ### The token that comes back -/

private theorem token_ascii (verifier : Http.TokenVerifier) (ttlSeconds : ℤ) (issued : ℕ)
    (sub name : JsString) :
    ∀ unit ∈ Http.issueToken ⟨verifier.sign, ttlSeconds, issued⟩ sub name, unit.toNat < 0x80 := by
  intro unit member
  rcases List.mem_append.mp member with inBody | inSignature
  · obtain ⟨value, small, rfl⟩ := Base64url.mem_encode _ inBody
    exact Base64url.digit_ascii value small
  · rcases List.mem_cons.mp inSignature with rfl | signed
    · decide
    · exact Http.sign_ascii verifier _ unit signed

private theorem transmissible_of_ascii {token : JsString}
    (ascii : ∀ unit ∈ token, unit.toNat < 0x80) :
    Transmissible token := by
  obtain ⟨chars, same, small⟩ := Utf16.ascii_encode ascii
  refine ⟨chars, same.symm, fun marked => ?_⟩
  exact absurd (small _ (List.mem_of_head? marked)) (by decide)

/-- What the response that grants a session is an object of. -/
def grantedMembers (context : Http.TokenContext) (sub name : JsString) : List (JsString × Json) :=
  [(Json.text "token", .string (Http.issueToken context sub name)),
    (Json.text "user", .object [(Json.text "id", .string sub), (Json.text "name", .string name)]),
    (Json.text "expiresIn", Http.numeral context.ttlSeconds)]

private theorem writable_granted (context : Http.TokenContext) (sub name : JsString) :
    Json.Writable (.object (grantedMembers context sub name)) :=
  ⟨trivial, ⟨trivial, trivial, trivial⟩, Json.isNumber_integer context.ttlSeconds, trivial⟩

private theorem head_decode_brace (rest : JsString) :
    (Utf16.decode (0x7B :: rest)).head? = some (Utf16.lone 0x7B) := by
  cases rest with
  | nil => rfl
  | cons next others =>
      have notHigh : Utf16.isHigh 0x7B = false := by decide
      rw [Utf16.decode, if_neg (by simp [notHigh]), List.head?_cons]

/-- The client reads the token and the lifetime that were granted. -/
theorem readSession_granted (context : Http.TokenContext) (sub name : JsString) :
    readSession (Http.granted context sub name) =
      some (Http.issueToken context sub name, (context.ttlSeconds : ℚ)) := by
  have writable := writable_granted context sub name
  have wellFormed := Json.wellFormed_stringify _ writable
  have payload : (Http.granted context sub name).payload =
      (Json.object (grantedMembers context sub name)).stringify := rfl
  have status : (Http.granted context sub name).status = 200 := rfl
  have unmarked : (Utf16.decode (Json.object (grantedMembers context sub name)).stringify).head? ≠
      some '\uFEFF' := by
    have begins := head_decode_brace
      (Json.stringifyMembers (grantedMembers context sub name) ++ [0x7D])
    intro marked
    have same := Option.some.inj (begins.symm.trans marked)
    exact absurd same (by decide)
  have token : Json.get? (grantedMembers context sub name) (Json.text "token") =
      some (.string (Http.issueToken context sub name)) := rfl
  have expiresIn : Json.get? (grantedMembers context sub name) (Json.text "expiresIn") =
      some (Http.numeral context.ttlSeconds) := rfl
  have read :
      Utf16.encode (Utf8.textDecode (Http.bytesOf (Http.granted context sub name).payload)) =
        (Json.object (grantedMembers context sub name)).stringify := by
    rw [payload, Http.bytesOf, Utf8.textDecode_encode unmarked, Utf16.encode_decode wellFormed]
  unfold readSession
  rw [read, status, if_pos ⟨by decide, by decide⟩, Json.parse_stringify writable,
    Option.bind_some]
  unfold grantOf
  simp only [token, expiresIn]
  show some (_, Json.literalValue (Json.text (toString context.ttlSeconds))) = _
  rw [Json.literalValue_integer]

/-! ### The socket the token is sent on -/

section

variable {Room : Type} (verifier : Http.TokenVerifier) (limits : Limits) (began : ℤ)

/-- A new connection. -/
def stranger : Connection (List (JsString × Json)) Room := .start limits began

/-- One that belongs to a user and opens its document. -/
def signedIn (members : List (JsString × Json)) : Connection (List (JsString × Json)) Room :=
  { stranger limits began with authTimer := false, user := some members, joining := true }

/-- What becomes of a token of the process when it is the first frame of a
connection. -/
theorem step_token (handleSync handleAwareness : Room → List UInt8 → Option Room)
    (ttlSeconds : ℤ) (issued : ℕ) (sub name : JsString) (now : Http.Timestamp)
    (fits : (encodeMessage (.auth
      (Http.issueToken ⟨verifier.sign, ttlSeconds, issued⟩ sub name))).length ≤ limits.maxPayload) :
    (stranger limits began).step limits (tokenServices verifier handleSync handleAwareness)
        (.message (encodeMessage (.auth
          (Http.issueToken ⟨verifier.sign, ttlSeconds, issued⟩ sub name))) now.milliseconds) =
      some (
        if (Http.issuedClaims ttlSeconds issued sub name).exp * 1000 < now.milliseconds then
          (stranger limits began).close .unauthorized
        else signedIn limits began (Http.issuedClaims ttlSeconds issued sub name).members) := by
  have ascii := token_ascii verifier ttlSeconds issued sub name
  have verified : Http.verifyToken verifier
      (Http.issueToken ⟨verifier.sign, ttlSeconds, issued⟩ sub name) now = _ :=
    (Http.verifyToken_dotted verifier now (Http.SessionClaims.noDot _)
      (Http.sign_noDot verifier _)).trans
      (Http.verifyParts_session verifier (Http.issuedClaims ttlSeconds issued sub name) now)
  generalize Http.issueToken ⟨verifier.sign, ttlSeconds, issued⟩ sub name = token at *
  have decodes : decodeMessage (encodeMessage (.auth token)) = some (.auth token) := by
    apply decodeMessage_encodeMessage
    intro other same
    cases same
    exact transmissible_of_ascii ascii
  have accepts : (tokenServices verifier handleSync handleAwareness).verifyToken now.milliseconds
      token =
        if (Http.issuedClaims ttlSeconds issued sub name).exp * 1000 < now.milliseconds then none
        else some (Http.issuedClaims ttlSeconds issued sub name).members := by
    show (if inRange : now.milliseconds.natAbs ≤ 8640000000000000 then
      match Http.verifyToken verifier token ⟨now.milliseconds, inRange⟩ with
      | .claims members => some members
      | _ => none
      else none) = _
    rw [dif_pos now.inRange, verified]
    split_ifs <;> rfl
  have handled : (stranger limits began).onMessage limits
      (tokenServices verifier handleSync handleAwareness) (encodeMessage (.auth token))
      now.milliseconds = (stranger limits began).authenticate
        (tokenServices verifier handleSync handleAwareness) token now.milliseconds := by
    unfold Connection.onMessage
    rw [decodes]
    rfl
  have stepped : (stranger limits began).step limits
      (tokenServices verifier handleSync handleAwareness)
      (.message (encodeMessage (.auth token)) now.milliseconds) =
        some ((stranger limits began).onMessage limits
          (tokenServices verifier handleSync handleAwareness) (encodeMessage (.auth token))
          now.milliseconds) := by
    have listens : ¬ ((stranger limits began :
        Connection (List (JsString × Json)) Room).readyState = .closed ∨
        (stranger limits began : Connection (List (JsString × Json)) Room).deaf = true) := by
      simp [stranger, Connection.start]
    have calm : ¬ (stranger limits began :
        Connection (List (JsString × Json)) Room).escaped = true := by
      simp [stranger, Connection.start]
    unfold Connection.step
    rw [if_neg calm]
    simp only [if_neg listens, if_neg (Nat.not_lt_of_le fits)]
  rw [stepped, handled, Connection.authenticate, accepts]
  split_ifs <;> rfl

end

/-! ### Every name a tab comes to show -/

/-- The names a deed brings are of a kind. -/
def Deed.Names {Room Name : Type} (holds : Name → Prop) : Deed Room Name → Prop
  | .enter _ name => holds name
  | .rename name => holds name
  | _ => True

private theorem Visitor.name_of_step {Room Name : Type} {holds : Name → Prop}
    {visitor next : Visitor Room Name} {deed : Deed Room Name} (held : holds visitor.name)
    (names : deed.Names holds) (taken : visitor.step deed = some next) : holds next.name := by
  cases deed with
  | arrive place =>
      have := Option.some.inj taken
      subst this
      exact held
  | stay =>
      have := Option.some.inj taken
      subst this
      exact held
  | back =>
      obtain ⟨places, -, same⟩ := Option.map_eq_some_iff.mp taken
      subst same
      exact held
  | forward =>
      obtain ⟨places, -, same⟩ := Option.map_eq_some_iff.mp taken
      subst same
      exact held
  | enter room name =>
      have := Option.some.inj taken
      subst this
      exact names
  | leave =>
      have := Option.some.inj taken
      subst this
      exact held
  | rename name =>
      have := Option.some.inj taken
      subst this
      exact names

namespace Tab

variable {hosts : HostParser}

/-- Every control that sets a name sets one that can be shown. -/
theorem names_deed {tab : Tab} (presentable : Presentable tab.userName) (event : TabEvent) :
    (tab.deed hosts event).Names Presentable := by
  cases event with
  | create draftName buffers =>
      rw [deed]
      cases createRoomId buffers with
      | none => exact trivial
      | some id => exact presentable_displayName presentable draftName
  | join draftName code =>
      rw [deed]
      cases parseRoomInput hosts code with
      | none => exact trivial
      | some id => exact presentable_displayName presentable draftName
  | pass draft =>
      rw [deed]
      cases tab.roomId with
      | none => exact trivial
      | some id => exact presentable_displayName presentable draft
  | commit draft =>
      rw [deed]
      by_cases empty : nameIn draft = []
      · rw [if_pos empty]
        exact trivial
      · rw [if_neg empty]
        exact presentable_nameIn empty
  | _ => exact trivial

private theorem Follows.userName_eq {tab : Tab} {visitor : Visitor JsString JsString}
    (follows : tab.Follows hosts visitor) : tab.userName = visitor.name := by
  obtain ⟨user, joined, -, name, -, shown⟩ := follows.shows
  rw [userName, shown, ← name]
  rfl

private theorem presentable_of_run {url : Url} (site : url.IsSite hosts) (picks : Picks)
    {events : List TabEvent} {tab : Tab}
    (ran : run (step hosts) (opened url picks) events = some tab) : Presentable tab.userName := by
  obtain ⟨visitor, -, follows, presentable⟩ :=
    run_simulated (fun tab visitor => tab.Follows hosts visitor ∧ Presentable visitor.name)
      (fun tab visitor event later related taken => by
        obtain ⟨next, visited, follows⟩ := related.1.step taken
        have shown : Presentable tab.userName := related.1.userName_eq ▸ related.2
        exact ⟨next, visited, follows,
          Visitor.name_of_step related.2 (names_deed shown event) visited⟩)
      ⟨follows_opened site picks, presentable_picks picks⟩ ran
  rw [follows.userName_eq]
  exact presentable

/-- Whatever has been done in a tab, the name it shows gets a session, however the
request is cut into chunks; the page reads the token that was issued; and a socket
that begins with that token belongs to the name until the token expires. -/
theorem tab_signs_in {url : Url} (site : url.IsSite hosts) (picks : Picks)
    {events : List TabEvent} {tab : Tab}
    (ran : run (step hosts) (opened url picks) events = some tab)
    (verifier : Http.TokenVerifier) (ttlSeconds : ℤ) (issued : ℕ) (sub : JsString)
    {chunks : List (List UInt8)}
    (posts : chunks.flatten = Http.bytesOf (sessionBody tab.userName)) :
    Http.createSession ⟨verifier.sign, ttlSeconds, issued⟩ sub chunks =
      ⟨[Http.granted ⟨verifier.sign, ttlSeconds, issued⟩ sub (Http.trim tab.userName)], false⟩ ∧
    readSession
        (Http.granted ⟨verifier.sign, ttlSeconds, issued⟩ sub (Http.trim tab.userName)) =
      some (Http.issueToken ⟨verifier.sign, ttlSeconds, issued⟩ sub (Http.trim tab.userName),
        (ttlSeconds : ℚ)) ∧
    ∀ (Room : Type) (handleSync handleAwareness : Room → List UInt8 → Option Room)
      (limits : Limits) (began : ℤ) (now : Http.Timestamp),
      (encodeMessage (.auth (Http.issueToken ⟨verifier.sign, ttlSeconds, issued⟩ sub
        (Http.trim tab.userName)))).length ≤ limits.maxPayload →
      (stranger limits began).step limits (tokenServices verifier handleSync handleAwareness)
          (.message (encodeMessage (.auth (Http.issueToken ⟨verifier.sign, ttlSeconds, issued⟩ sub
            (Http.trim tab.userName)))) now.milliseconds) =
        some (
          if (Http.issuedClaims ttlSeconds issued sub (Http.trim tab.userName)).exp * 1000 <
              now.milliseconds then (stranger limits began).close .unauthorized
          else signedIn limits began
            (Http.issuedClaims ttlSeconds issued sub (Http.trim tab.userName)).members) := by
  have presentable := presentable_of_run site picks ran
  refine ⟨presentable.granted _ sub posts, readSession_granted _ sub _, ?_⟩
  intro Room handleSync handleAwareness limits began now fits
  exact step_token verifier limits began handleSync handleAwareness ttlSeconds issued sub _ now fits

/-- The name that is typed at the gate is the one the socket belongs to. -/
theorem tab_signs_in_returning :
    ∃ tab, run (step localHosts) (opened localPage firstPicks) returning = some tab ∧
      tab.userName = Json.text "ada" ∧
      (stranger Limits.default 0).step Limits.default
          (tokenServices Http.rollingHash (fun (room : Unit) _ => some room)
            fun room _ => some room)
          (.message (encodeMessage (.auth (Http.issueToken
            ⟨Http.rollingHash.sign, 3600, 0⟩ (Json.text "u") (Json.text "ada")))) 0) =
        some (signedIn Limits.default 0
          (Http.issuedClaims 3600 0 (Json.text "u") (Json.text "ada")).members) := by
  have named : (run (step localHosts) (opened localPage firstPicks) returning).map userName =
      some (Json.text "ada") := by decide +kernel
  obtain ⟨tab, ran, name⟩ := Option.map_eq_some_iff.mp named
  have trimmed : Http.trim (Json.text "ada") = Json.text "ada" := by decide +kernel
  have fits : (encodeMessage (.auth (Http.issueToken ⟨Http.rollingHash.sign, 3600, 0⟩
      (Json.text "u") (Json.text "ada")))).length ≤ Limits.default.maxPayload := by decide +kernel
  have posts : [Http.bytesOf (sessionBody tab.userName)].flatten =
      Http.bytesOf (sessionBody tab.userName) := List.flatten_singleton
  obtain ⟨-, -, signs⟩ := tab_signs_in localPage_isSite firstPicks ran Http.rollingHash 3600 0
    (Json.text "u") posts
  rw [name, trimmed] at signs
  refine ⟨tab, ran, name, ?_⟩
  have signed := signs Unit (fun room _ => some room) (fun room _ => some room) Limits.default 0
    ⟨0, by decide⟩ fits
  rw [if_neg (by decide)] at signed
  exact signed

end Tab

end CollabEditor.Web
