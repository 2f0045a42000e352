import CollabEditor.Library.Utf8

/-!
Owns the wire format of `packages/protocol`: one type byte, then the payload.
-/

namespace CollabEditor.Protocol

open CollabEditor.Library

/-- `Message`. -/
inductive Message where
  | sync (payload : List UInt8)
  | awareness (payload : List UInt8)
  | ping
  | pong
  | auth (token : JsString)
deriving DecidableEq

namespace MessageType

def sync : UInt8 := 0
def awareness : UInt8 := 1
def ping : UInt8 := 2
def pong : UInt8 := 3
def auth : UInt8 := 4

end MessageType

/-- `encodeMessage`. -/
def encodeMessage : Message → List UInt8
  | .sync payload => MessageType.sync :: payload
  | .awareness payload => MessageType.awareness :: payload
  | .ping => [MessageType.ping]
  | .pong => [MessageType.pong]
  | .auth token => MessageType.auth :: Utf8.encode (Utf16.decode token)

/-- `decodeMessage`; `none` when it throws. -/
def decodeMessage : List UInt8 → Option Message
  | [] => none
  | type :: payload =>
      if type = MessageType.sync then some (.sync payload)
      else if type = MessageType.awareness then some (.awareness payload)
      else if type = MessageType.ping then some .ping
      else if type = MessageType.pong then some .pong
      else if type = MessageType.auth then
        some (.auth (Utf16.encode (Utf8.textDecode payload)))
      else none

/-- A token that survives the wire: scalar values, no leading byte order mark. -/
def Transmissible (token : JsString) : Prop :=
  ∃ chars : List Char, token = Utf16.encode chars ∧ chars.head? ≠ some '\uFEFF'

theorem decodeMessage_encodeMessage {message : Message}
    (transmissible : ∀ token, message = .auth token → Transmissible token) :
    decodeMessage (encodeMessage message) = some message := by
  cases message with
  | auth token =>
      obtain ⟨chars, rfl, unmarked⟩ := transmissible token rfl
      show some (Message.auth (Utf16.encode (Utf8.textDecode (Utf8.encode
        (Utf16.decode (Utf16.encode chars)))))) = _
      rw [Utf16.decode_encode, Utf8.textDecode_encode unmarked]
  | _ => rfl

/-! ### Close codes -/

/-- `CloseCode`. -/
inductive CloseCode where
  | unauthorized
  | documentNotSpecified
  | rateLimited
  | backpressure
  | serverShuttingDown
  | documentUnavailable
deriving DecidableEq

def CloseCode.value : CloseCode → ℕ
  | .unauthorized => 4001
  | .documentNotSpecified => 4002
  | .rateLimited => 4003
  | .backpressure => 4004
  | .serverShuttingDown => 4005
  | .documentUnavailable => 4006

/-- `TERMINAL`. -/
def terminal : List ℕ := [CloseCode.documentNotSpecified.value]

/-- `isTerminalCloseCode`. -/
def isTerminalCloseCode (code : ℕ) : Bool := code ∈ terminal

end CollabEditor.Protocol
