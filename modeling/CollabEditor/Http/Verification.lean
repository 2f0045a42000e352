import CollabEditor.Http.Session
import CollabEditor.Library.Binary64
import CollabEditor.Library.JsonNumber

/-!
Owns the verifying half of `auth.ts`: which tokens are accepted, and when those
that were issued stop being so. The hash and the decoder of base64url belong to
the platform.
-/

set_option autoImplicit false

namespace CollabEditor.Http

open CollabEditor.Library

/-- What `verifyToken` reads besides its argument. -/
structure TokenVerifier where
  /-- HMAC-SHA256 under the key of the process. -/
  hmac : List UInt8 → Vector UInt8 32
  /-- `Buffer.from(value, 'base64url')`. -/
  fromBase64url : JsString → List UInt8
  /-- It reads back what `toString('base64url')` wrote. -/
  fromBase64url_encode : ∀ bytes, fromBase64url (Base64url.encode bytes) = bytes

/-- What `Date.now()` returns: a time value, which is no further from the epoch
than 100 million days. -/
structure Timestamp where
  milliseconds : ℤ
  inRange : milliseconds.natAbs ≤ 8640000000000000

/-- How `verifyToken` ends. -/
inductive Verified where
  | claims (members : List (JsString × Json))
  | undefined
  | throws

namespace TokenVerifier

/-- `sign`. -/
def sign (verifier : TokenVerifier) (body : JsString) : JsString :=
  Base64url.encode (verifier.hmac (bytesOf body)).toList

end TokenVerifier

/-- `constantTimeEquals`. -/
def constantTimeEquals (a b : JsString) : Bool :=
  (bytesOf a).length = (bytesOf b).length ∧ bytesOf a = bytesOf b

/-- `typeof` of a property is `'string'`. -/
def isString : Option Json → Bool
  | some (.string _) => true
  | _ => false

/-- `claims.exp * 1000 < Date.now()`. -/
def expired (exp : JsString) (now : Timestamp) : Bool :=
  ((Binary64.round (Json.literalValue exp)).times 1000).Lt now.milliseconds

/-- What `verifyToken` does with the value that was parsed. -/
def checkClaims (claims : Json) (now : Timestamp) : Verified :=
  match claims with
  -- The properties are read outside the `try`.
  | .null => .throws
  | .object members =>
      if ¬ isString (Json.get? members (Json.text "sub")) ∨
          ¬ isString (Json.get? members (Json.text "name")) then .undefined
      else
        match Json.get? members (Json.text "exp") with
        | some (.number exp) => if expired exp now then .undefined else .claims members
        | _ => .undefined
  -- Nothing else has a `sub` that is a string.
  | _ => .undefined

/-- `verifyToken`, once the token is split. -/
def verifyParts (verifier : TokenVerifier) (body signature : JsString) (now : Timestamp) :
    Verified :=
  if body = [] ∨ signature = [] then .undefined
  else if ¬ constantTimeEquals signature (verifier.sign body) then .undefined
  else
    match Json.parse (BodyReader.decoded (verifier.fromBase64url body)) with
    | none => .undefined
    | some claims => checkClaims claims now

/-- `verifyToken`. A part that is absent is as falsy as an empty one. -/
def verifyToken (verifier : TokenVerifier) (token : JsString) (now : Timestamp) : Verified :=
  let parts := token.splitOn 0x2E
  verifyParts verifier ((parts[0]?).getD []) ((parts[1]?).getD []) now

/-! ### The tokens that are meant -/

/-- The members are those of a session that has not expired. -/
structure Current (members : List (JsString × Json)) (now : Timestamp) : Prop where
  sub : ∃ sub, Json.get? members (Json.text "sub") = some (.string sub)
  name : ∃ name, Json.get? members (Json.text "name") = some (.string name)
  exp : ∃ exp, Json.get? members (Json.text "exp") = some (.number exp) ∧ expired exp now = false

/-- The token is a body and its signature, with a dot between them, and the body
encodes the claims of a session that has not expired. -/
structure Signs (verifier : TokenVerifier) (token body : JsString)
    (members : List (JsString × Json)) (now : Timestamp) : Prop where
  shape : token = body ++ 0x2E :: verifier.sign body
  noDot : 0x2E ∉ body
  decodes : Json.parse (BodyReader.decoded (verifier.fromBase64url body)) = some (.object members)
  current : Current members now

def Acceptable (verifier : TokenVerifier) (token : JsString) (members : List (JsString × Json))
    (now : Timestamp) : Prop :=
  ∃ body, Signs verifier token body members now

/-- The token goes on with a dot behind one that is acceptable. -/
def Continues (verifier : TokenVerifier) (token : JsString) (now : Timestamp) : Prop :=
  ∃ front rest members, token = front ++ 0x2E :: rest ∧ Acceptable verifier front members now

/-! ### Signatures -/

theorem sign_ascii (verifier : TokenVerifier) (body : JsString) :
    ∀ unit ∈ verifier.sign body, unit.toNat < 0x80 := by
  intro unit member
  obtain ⟨value, small, rfl⟩ := Base64url.mem_encode _ member
  exact Base64url.digit_ascii value small

theorem sign_noDot (verifier : TokenVerifier) (body : JsString) : 0x2E ∉ verifier.sign body := by
  intro member
  obtain ⟨value, small, same⟩ := Base64url.mem_encode _ member
  exact Base64url.digit_ne_dot value small same.symm

private theorem sign_ne_nil (verifier : TokenVerifier) (body : JsString) :
    verifier.sign body ≠ [] := by
  refine Base64url.encode_ne_nil fun none => ?_
  have length := congrArg List.length none
  rw [Vector.length_toList] at length
  cases length

private theorem constantTimeEquals_iff {a b : JsString} (ascii : ∀ unit ∈ b, unit.toNat < 0x80) :
    constantTimeEquals a b = true ↔ a = b := by
  rw [constantTimeEquals, decide_eq_true_eq]
  constructor
  · rintro ⟨-, same⟩
    exact Utf16.eq_of_decode_eq ascii (Utf8.encode_injective same)
  · rintro rfl
    exact ⟨rfl, rfl⟩

/-! ### The claims of a body -/

private theorem isString_iff {value : Option Json} :
    isString value = true ↔ ∃ string, value = some (.string string) := by
  constructor
  · intro isOne
    unfold isString at isOne
    split at isOne
    · next string => exact ⟨string, rfl⟩
    · cases isOne
  · rintro ⟨string, rfl⟩
    rfl

private theorem checkClaims_iff {claims : Json} {now : Timestamp}
    {members : List (JsString × Json)} :
    checkClaims claims now = .claims members ↔ claims = .object members ∧ Current members now := by
  constructor
  · intro accepted
    unfold checkClaims at accepted
    split at accepted
    · cases accepted
    · next held =>
        split at accepted
        · cases accepted
        · next strings =>
            rw [not_or, not_not, not_not, isString_iff, isString_iff] at strings
            split at accepted
            · next exp isNumber =>
                split at accepted
                · cases accepted
                · next notExpired =>
                    obtain rfl : held = members := Verified.claims.inj accepted
                    exact ⟨rfl, strings.1, strings.2, exp, isNumber,
                      Bool.eq_false_iff.mpr notExpired⟩
            · cases accepted
    · cases accepted
  · rintro ⟨rfl, current⟩
    obtain ⟨exp, isNumber, notExpired⟩ := current.exp
    have strings : ¬ (¬ isString (Json.get? members (Json.text "sub")) ∨
        ¬ isString (Json.get? members (Json.text "name"))) := by
      rw [not_or, not_not, not_not]
      exact ⟨isString_iff.mpr current.sub, isString_iff.mpr current.name⟩
    simp only [checkClaims]
    rw [if_neg strings, isNumber]
    show (if expired exp now = true then _ else _) = _
    rw [notExpired, if_neg Bool.false_ne_true]

/-- An empty body encodes no claims. -/
theorem parse_empty (verifier : TokenVerifier) :
    Json.parse (BodyReader.decoded (verifier.fromBase64url [])) = none := by
  have empty := verifier.fromBase64url_encode []
  rw [Base64url.encode] at empty
  rw [empty]
  rfl

private theorem verifyParts_iff {verifier : TokenVerifier} {body signature : JsString}
    {now : Timestamp} {members : List (JsString × Json)} (noDot : 0x2E ∉ body) :
    verifyParts verifier body signature now = .claims members ↔
      Signs verifier (body ++ 0x2E :: signature) body members now := by
  have equal := @constantTimeEquals_iff signature _ (sign_ascii verifier body)
  constructor
  · intro accepted
    unfold verifyParts at accepted
    split at accepted
    · cases accepted
    · split at accepted
      · cases accepted
      · next matched =>
          have same := equal.mp (not_not.mp matched)
          split at accepted
          · cases accepted
          · next claims decoded =>
              obtain ⟨rfl, current⟩ := checkClaims_iff.mp accepted
              exact ⟨by rw [same], noDot, decoded, current⟩
  · rintro ⟨shape, -, decodes, current⟩
    have same : signature = verifier.sign body :=
      (List.cons.inj (List.append_cancel_left shape)).2
    have nonempty : ¬ (body = [] ∨ signature = []) := by
      rintro (rfl | none)
      · rw [parse_empty] at decodes
        cases decodes
      · exact sign_ne_nil verifier body (same.symm.trans none)
    unfold verifyParts
    rw [if_neg nonempty, if_neg (not_not.mpr (equal.mpr same)), decodes]
    exact checkClaims_iff.mpr ⟨rfl, current⟩

/-! ### Splitting a token -/

private theorem verifyToken_undotted {token : JsString} (verifier : TokenVerifier) (now : Timestamp)
    (noDot : 0x2E ∉ token) : verifyToken verifier token now = .undefined := by
  rw [verifyToken, List.splitOn_eq_singleton noDot]
  exact if_pos (Or.inr rfl)

theorem verifyToken_dotted {body signature : JsString} (verifier : TokenVerifier) (now : Timestamp)
    (inBody : 0x2E ∉ body) (inSignature : 0x2E ∉ signature) :
    verifyToken verifier (body ++ 0x2E :: signature) now =
      verifyParts verifier body signature now := by
  rw [verifyToken, List.splitOn_append_cons_self_of_not_mem inBody,
    List.splitOn_eq_singleton inSignature]
  rfl

/-- What stands behind the second dot is not read. -/
theorem verifyToken_continued {body signature : JsString} (verifier : TokenVerifier)
    (now : Timestamp) (rest : JsString) (inBody : 0x2E ∉ body) (inSignature : 0x2E ∉ signature) :
    verifyToken verifier (body ++ 0x2E :: (signature ++ 0x2E :: rest)) now =
      verifyParts verifier body signature now := by
  rw [verifyToken, List.splitOn_append_cons_self_of_not_mem inBody,
    List.splitOn_append_cons_self_of_not_mem inSignature]
  rfl

/-- A text is cut at its first dot in one way. -/
theorem dotted_injective {front other rest behind : JsString} (inFront : 0x2E ∉ front)
    (inOther : 0x2E ∉ other) (same : front ++ 0x2E :: rest = other ++ 0x2E :: behind) :
    front = other ∧ rest = behind := by
  have parts := congrArg (List.splitOn 0x2E) same
  rw [List.splitOn_append_cons_self_of_not_mem inFront,
    List.splitOn_append_cons_self_of_not_mem inOther] at parts
  obtain rfl := (List.cons.inj parts).1
  exact ⟨rfl, (List.cons.inj (List.append_cancel_left same)).2⟩

/-- The body of an acceptable token is what stands before its first dot. -/
theorem Signs.parts {verifier : TokenVerifier} {body rest other : JsString}
    {members : List (JsString × Json)} {now : Timestamp} (inBody : 0x2E ∉ body)
    (signs : Signs verifier (body ++ 0x2E :: rest) other members now) :
    other = body ∧ rest = verifier.sign body := by
  obtain ⟨rfl, same⟩ := dotted_injective inBody signs.noDot signs.shape
  exact ⟨rfl, same⟩

/-! ### The tokens that are accepted -/

/-- The token is answered with claims exactly when it is acceptable with them. -/
def Exact (verifier : TokenVerifier) (token : JsString) (now : Timestamp) : Prop :=
  ∀ members, verifyToken verifier token now = .claims members ↔
    Acceptable verifier token members now

private theorem acceptable_dotted {verifier : TokenVerifier} {body signature : JsString}
    {members : List (JsString × Json)} {now : Timestamp} (inBody : 0x2E ∉ body) :
    Acceptable verifier (body ++ 0x2E :: signature) members now ↔
      verifyParts verifier body signature now = .claims members := by
  rw [verifyParts_iff inBody]
  constructor
  · rintro ⟨other, signs⟩
    obtain ⟨rfl, -⟩ := signs.parts inBody
    exact signs
  · exact fun signs => ⟨body, signs⟩

/-- A token goes on behind an acceptable one from its second dot on. -/
theorem continues_dotted_iff {verifier : TokenVerifier} {body behind : JsString} {now : Timestamp}
    (inBody : 0x2E ∉ body) :
    Continues verifier (body ++ 0x2E :: behind) now ↔
      ∃ signature rest members, behind = signature ++ 0x2E :: rest ∧ 0x2E ∉ signature ∧
        Acceptable verifier (body ++ 0x2E :: signature) members now := by
  constructor
  · rintro ⟨front, rest, members, same, other, signs⟩
    rw [signs.shape, List.append_assoc, List.cons_append] at same
    obtain ⟨rfl, same⟩ := dotted_injective inBody signs.noDot same
    exact ⟨verifier.sign body, rest, members, same, sign_noDot verifier body, body,
      signs.shape ▸ signs⟩
  · rintro ⟨signature, rest, members, rfl, -, acceptable⟩
    refine ⟨body ++ 0x2E :: signature, rest, members, ?_, acceptable⟩
    rw [List.append_assoc, List.cons_append]

private theorem exact_iff (verifier : TokenVerifier) (token : JsString) (now : Timestamp) :
    Exact verifier token now ↔ ¬ Continues verifier token now := by
  by_cases dotted : 0x2E ∈ token
  · obtain ⟨body, behind, rfl, inBody⟩ := List.eq_append_cons_of_mem dotted
    rw [continues_dotted_iff inBody]
    by_cases again : 0x2E ∈ behind
    · obtain ⟨signature, rest, rfl, inSignature⟩ := List.eq_append_cons_of_mem again
      -- Two dots: nothing is acceptable, whatever the first two parts are.
      have unacceptable : ∀ members, ¬ Acceptable verifier
          (body ++ 0x2E :: (signature ++ 0x2E :: rest)) members now := by
        rintro members ⟨other, signs⟩
        obtain ⟨-, same⟩ := signs.parts inBody
        exact sign_noDot verifier body (same ▸ again)
      have read := verifyToken_continued verifier now rest inBody inSignature
      constructor
      · rintro exact ⟨other, others, members, same, noDot, acceptable⟩
        obtain ⟨rfl, -⟩ := dotted_injective inSignature noDot same
        refine unacceptable members ((exact members).mp ?_)
        exact read.trans ((acceptable_dotted inBody).mp acceptable)
      · intro single members
        refine iff_of_false (fun accepted => single ?_) (unacceptable members)
        exact ⟨signature, rest, members, rfl, inSignature,
          (acceptable_dotted inBody).mpr (read.symm.trans accepted)⟩
    · refine iff_of_true (fun members => ?_) ?_
      · rw [verifyToken_dotted verifier now inBody again, acceptable_dotted inBody]
      · rintro ⟨signature, rest, members, rfl, -, -⟩
        exact again (List.mem_append_right _ List.mem_cons_self)
  · refine iff_of_true (fun members => ?_) ?_
    · rw [verifyToken_undotted verifier now dotted]
      refine iff_of_false (fun same => by cases same) ?_
      rintro ⟨body, signs⟩
      exact dotted (signs.shape ▸ List.mem_append_right _ List.mem_cons_self)
    · rintro ⟨front, rest, members, rfl, -⟩
      exact dotted (List.mem_append_right _ List.mem_cons_self)

/-! ### The tokens that are issued -/

/-- The claims that `issueToken` signs at a time. -/
def issuedClaims (ttlSeconds : ℤ) (issued : ℕ) (sub name : JsString) : SessionClaims :=
  ⟨sub, name, (issued / 1000 : ℕ) + ttlSeconds⟩

def SessionClaims.members (claims : SessionClaims) : List (JsString × Json) :=
  [(Json.text "sub", .string claims.sub), (Json.text "name", .string claims.name),
    (Json.text "exp", numeral claims.exp)]

private theorem SessionClaims.json_eq (claims : SessionClaims) :
    claims.json = .object claims.members := rfl

private theorem SessionClaims.writable (claims : SessionClaims) : Json.Writable claims.json :=
  ⟨trivial, trivial, Json.isNumber_integer claims.exp, trivial⟩

/-- Text without lone surrogates survives its bytes. -/
theorem decoded_bytesOf {value : JsString} (wellFormed : Utf16.WellFormed value) :
    BodyReader.decoded (bytesOf value) = value := by
  rw [BodyReader.decoded, bytesOf, Utf8.decode_encode, Utf16.encode_decode wellFormed]

private theorem expired_numeral (exp : ℤ) (now : Timestamp) :
    expired (Json.text (toString exp)) now = true ↔ exp * 1000 < now.milliseconds := by
  have inRange := now.inRange
  rw [expired, decide_eq_true_eq, Json.literalValue_integer]
  exact Binary64.times_round_lt_iff exp (by decide) (by omega)

private theorem checkClaims_session (claims : SessionClaims) (now : Timestamp) :
    checkClaims claims.json now =
      if claims.exp * 1000 < now.milliseconds then .undefined else .claims claims.members := by
  have sub : Json.get? claims.members (Json.text "sub") = some (.string claims.sub) := rfl
  have name : Json.get? claims.members (Json.text "name") = some (.string claims.name) := rfl
  have exp : Json.get? claims.members (Json.text "exp") = some (numeral claims.exp) := rfl
  rw [SessionClaims.json_eq]
  simp only [checkClaims]
  rw [sub, name, exp]
  show (if expired (Json.text (toString claims.exp)) now = true then _ else _) = _
  simp only [expired_numeral]

/-- The body that `issueToken` signs. -/
def SessionClaims.body (claims : SessionClaims) : JsString :=
  Base64url.encode (bytesOf claims.json.stringify)

theorem SessionClaims.noDot (claims : SessionClaims) : 0x2E ∉ claims.body := by
  intro member
  obtain ⟨value, small, same⟩ := Base64url.mem_encode _ member
  exact Base64url.digit_ne_dot value small same.symm

private theorem SessionClaims.decodes (claims : SessionClaims) (verifier : TokenVerifier) :
    Json.parse (BodyReader.decoded (verifier.fromBase64url claims.body)) = some claims.json := by
  rw [SessionClaims.body, verifier.fromBase64url_encode,
    decoded_bytesOf (Json.wellFormed_stringify _ claims.writable),
    Json.parse_stringify claims.writable]

private theorem SessionClaims.body_ne_nil (claims : SessionClaims) : claims.body ≠ [] := by
  intro none
  have nothing := Base64url.decode_encode (bytesOf claims.json.stringify)
  rw [← SessionClaims.body, none] at nothing
  have empty := decoded_bytesOf (Json.wellFormed_stringify _ claims.writable)
  rw [← nothing] at empty
  cases empty

/-- What becomes of a body that the process signed. -/
theorem verifyParts_session (verifier : TokenVerifier) (claims : SessionClaims) (now : Timestamp) :
    verifyParts verifier claims.body (verifier.sign claims.body) now =
      if claims.exp * 1000 < now.milliseconds then .undefined else .claims claims.members := by
  have nonempty : ¬ (claims.body = [] ∨ verifier.sign claims.body = []) := by
    rintro (none | none)
    · exact claims.body_ne_nil none
    · exact sign_ne_nil verifier _ none
  have equal := (constantTimeEquals_iff (sign_ascii verifier claims.body)).mpr rfl
  rw [verifyParts, if_neg nonempty, if_neg (not_not.mpr equal), claims.decodes verifier,
    ← checkClaims_session]

/-- A string is accepted exactly when it is a body with its signature, the body
encoding the claims of a session that has not expired, unless it goes on behind
such a token; and what is issued is accepted with its own claims until these
expire, and not afterwards. -/
theorem verifyToken_exact_iff (verifier : TokenVerifier) :
    (∀ token now, Exact verifier token now ↔ ¬ Continues verifier token now) ∧
    ∀ ttlSeconds issued sub name now,
      verifyToken verifier (issueToken ⟨verifier.sign, ttlSeconds, issued⟩ sub name) now =
        if (issuedClaims ttlSeconds issued sub name).exp * 1000 < now.milliseconds then .undefined
        else .claims (issuedClaims ttlSeconds issued sub name).members := by
  refine ⟨exact_iff verifier, fun ttlSeconds issued sub name now => ?_⟩
  exact (verifyToken_dotted verifier now (SessionClaims.noDot _) (sign_noDot verifier _)).trans
    (verifyParts_session verifier _ now)

/-- Whatever the hash is, the token of an hour with a dot and an `x` behind it is
accepted. -/
theorem continued_accepted :
    ¬ ∃ verifier : TokenVerifier, ∀ (token : JsString) (now : Timestamp),
      Exact verifier token now := by
  rintro ⟨verifier, exact⟩
  let claims : SessionClaims := ⟨Json.text "u", Json.text "n", 3600⟩
  let now : Timestamp := ⟨0, by decide⟩
  let signature := verifier.sign claims.body
  have accepted :
      verifyToken verifier (claims.body ++ 0x2E :: (signature ++ [0x2E, 0x78])) now =
        .claims claims.members := by
    rw [verifyToken_continued verifier now [0x78] claims.noDot (sign_noDot verifier _),
      verifyParts_session]
    exact if_neg (by decide)
  obtain ⟨other, signs⟩ := (exact _ now claims.members).mp accepted
  obtain ⟨-, same⟩ := signs.parts claims.noDot
  have length := congrArg List.length same
  rw [List.length_append] at length
  exact absurd length (by simp [signature])

/-- A platform with a hash that every byte goes into. -/
def rollingHash : TokenVerifier where
  hmac bytes := (Vector.range 32).map fun place =>
    bytes.foldl (fun sum byte => 31 * sum + byte) (UInt8.ofNat place)
  fromBase64url := Base64url.decode
  fromBase64url_encode := Base64url.decode_encode

end CollabEditor.Http
