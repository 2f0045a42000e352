import CollabEditor.Library.Base64url
import CollabEditor.Library.Json
import Mathlib.Data.Int.Notation

/-!
Owns the issuing half of `auth.ts`: the claims of a session and the token that
carries them. The signature is what it is given.
-/

set_option autoImplicit false

namespace CollabEditor.Http

open CollabEditor.Library

/-- What `issueToken` reads besides its argument. -/
structure TokenContext where
  /-- The HMAC of a body under the key of the process, in base64url. -/
  sign : JsString → JsString
  /-- `config.auth.ttlSeconds`. -/
  ttlSeconds : ℤ
  /-- `Date.now()`. -/
  now : ℕ

/-- `SessionClaims`. -/
structure SessionClaims where
  sub : JsString
  name : JsString
  /-- Unix seconds. -/
  exp : ℤ

/-- The literal of an integer. -/
def numeral (value : ℤ) : Json := .number (Json.text (toString value))

/-- The object `JSON.stringify` is given. -/
def SessionClaims.json (claims : SessionClaims) : Json :=
  .object [(Json.text "sub", .string claims.sub), (Json.text "name", .string claims.name),
    (Json.text "exp", numeral claims.exp)]

/-- `Buffer.from(value)` of a string. -/
def bytesOf (value : JsString) : List UInt8 := Utf8.encode (Utf16.decode value)

/-- `issueToken`. -/
def issueToken (context : TokenContext) (sub name : JsString) : JsString :=
  let claims : SessionClaims := ⟨sub, name, (context.now / 1000 : ℕ) + context.ttlSeconds⟩
  let body := Base64url.encode (bytesOf claims.json.stringify)
  body ++ 0x2E :: context.sign body

end CollabEditor.Http
