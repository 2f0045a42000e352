import CollabEditor.Http.Session
import CollabEditor.Library.Url
import CollabEditor.Ws.Gateway

/-!
Owns the links of `room.ts` and the server address of `config.ts`: how a room id
is made, written into an address and read back. The page is its URL.
-/

set_option autoImplicit false

namespace CollabEditor.Web

open CollabEditor.Library CollabEditor.Ws

/-! ### Making an id -/

def ALPHABET : JsString := Utf16.encode "abcdefghjkmnpqrstuvwxyz23456789".toList
def GROUPS : ℕ := 3
def GROUP_SIZE : ℕ := 4

/-- `limit` of `createRoomId`. -/
def limit : ℕ := 256 - 256 % ALPHABET.length

/-- The loop over the bytes of a buffer. -/
def pushBytes (chars : JsString) : List UInt8 → JsString
  | [] => chars
  | byte :: rest =>
      if byte.toNat ≥ limit then pushBytes chars rest
      else
        let pushed := chars ++ [ALPHABET.getD (byte.toNat % ALPHABET.length) 0]
        if pushed.length = GROUPS * GROUP_SIZE then pushed else pushBytes pushed rest

/-- The loop of `createRoomId` over what `getRandomValues` fills the buffer with;
`none` while it goes on. -/
def drawChars (chars : JsString) : List (List UInt8) → Option JsString
  | [] => if chars.length < GROUPS * GROUP_SIZE then none else some chars
  | buffer :: buffers =>
      if chars.length < GROUPS * GROUP_SIZE then drawChars (pushBytes chars buffer) buffers
      else some chars

/-- The characters in groups. -/
def grouped (chars : JsString) : JsString :=
  [0x2D].intercalate ((List.range GROUPS).map fun group =>
    chars.extract (group * GROUP_SIZE) ((group + 1) * GROUP_SIZE))

/-- `createRoomId`. -/
def createRoomId (buffers : List (List UInt8)) : Option JsString :=
  (drawChars [] buffers).map grouped

/-! ### Addresses -/

/-- `/^[A-Za-z0-9_-]{1,64}$/`. -/
def ROOM_ID : Regex UInt16 := .seq .start (.seq (.many isIdUnit 1 64) .finish)

/-- `\/?$`. -/
def atSlash : Regex UInt16 := .seq (.optional (.text (Utf16.encode ['/']))) .finish

/-- `/^\/r\/([A-Za-z0-9_-]{1,64})\/?$/`. -/
def roomPath : Regex UInt16 := .seq .start (idAfter "/r/" atSlash)

/-- `/\/r\/([A-Za-z0-9_-]{1,64})\/?$/`. -/
def roomLink : Regex UInt16 := idAfter "/r/" atSlash

/-- `location.pathname`. -/
def pathnameOf (url : Url) : JsString := Utf16.encode url.pathname

/-- `roomFromLocation`. -/
def roomFromLocation (location : Url) : Option JsString :=
  (roomPath.exec (pathnameOf location)).bind fun found => found.captures 1

/-- `roomUrl`. -/
def roomUrl (location : Url) (roomId : JsString) : JsString :=
  Utf16.encode location.origin ++ (Utf16.encode "/r/".toList ++ roomId)

/-- `pushRoom`; `none` when it throws. -/
def pushRoom (hosts : HostParser) (location : Url) (roomId : JsString) : Option Url :=
  (Url.parse hosts (some location) (Utf16.decode (Utf16.encode "/r/".toList ++ roomId))).bind
    fun url =>
      if url.scheme = location.scheme ∧ url.host = location.host ∧ url.port = location.port then
        some url
      else none

/-- `parseRoomInput`. -/
def parseRoomInput (hosts : HostParser) (value : JsString) : Option JsString :=
  let trimmed := Http.trim value
  if trimmed = [] then none
  else
    match Url.parse hosts none (Utf16.decode trimmed) with
    | some url => (roomLink.exec (pathnameOf url)).bind fun found => found.captures 1
    | none => if (ROOM_ID.exec trimmed).isSome then some trimmed else none

/-! ### The server -/

/-- `import.meta.env`. -/
structure Env where
  dev : Bool
  wsUrl : Option JsString

/-- `serverUrl`. -/
def serverUrl (env : Env) (location : Url) : JsString :=
  let scheme := if location.scheme = "https".toList then "wss" else "ws"
  let fallback :=
    if env.dev then scheme.toList ++ "://".toList ++ location.hostname ++ ":8080".toList
    else scheme.toList ++ "://".toList ++ location.hostText
  env.wsUrl.getD (Utf16.encode fallback)

/-- `encodeURIComponent`; `none` when it throws. -/
def encodeURIComponent (value : JsString) : Option JsString :=
  if Utf16.encode (Utf16.decode value) = value then
    some (PercentEncoding.encode (Utf16.decode value))
  else none

/-- `socketUrl`. -/
def socketUrl (env : Env) (location : Url) (documentId : JsString) : Option JsString :=
  (encodeURIComponent documentId).map fun encoded =>
    serverUrl env location ++ (Utf16.encode "/doc/".toList ++ encoded)

/-- The path that `new WebSocket(url)` asks for. -/
def requestPath (hosts : HostParser) (location : Url) (url : JsString) : Option JsString :=
  (Url.parse hosts (some location) (Utf16.decode url)).map pathnameOf

end CollabEditor.Web
