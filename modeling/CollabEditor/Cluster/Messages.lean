import CollabEditor.Library.Utf8

/-!
Owns the framing of `cluster/messages.ts`: a kind, the origin under a length of
one byte, and the payload.
-/

set_option autoImplicit false

namespace CollabEditor.Cluster.Wire

open CollabEditor.Library

inductive BusKind where
  | update
  | awareness
  | stateRequest
deriving DecidableEq

def BusKind.value : BusKind → UInt8
  | .update => 0
  | .awareness => 1
  | .stateRequest => 2

/-- The kind of a first byte. -/
def BusKind.ofValue (value : UInt8) : Option BusKind :=
  if value = BusKind.update.value then some .update
  else if value = BusKind.awareness.value then some .awareness
  else if value = BusKind.stateRequest.value then some .stateRequest
  else none

structure BusMessage where
  kind : BusKind
  origin : JsString
  payload : List UInt8
deriving DecidableEq

/-- `textEncoder.encode(origin)`. -/
def originBytes (origin : JsString) : List UInt8 := Utf8.encode (Utf16.decode origin)

/-- `encodeBusMessage`; `none` when it throws. -/
def encodeBusMessage (message : BusMessage) : Option (List UInt8) :=
  let origin := originBytes message.origin
  if origin.length > 255 then none
  else some (message.kind.value :: UInt8.ofNat origin.length :: origin ++ message.payload)

/-- `decodeBusMessage`; `none` when it throws. -/
def decodeBusMessage : List UInt8 → Option BusMessage
  | kind :: originLength :: rest =>
      (BusKind.ofValue kind).bind fun kind =>
        if rest.length < originLength.toNat then none
        else some {
          kind := kind
          origin := Utf16.encode (Utf8.textDecode (rest.take originLength.toNat))
          payload := rest.drop originLength.toNat }
  | _ => none

theorem encodeBusMessage_eq_none_iff (message : BusMessage) :
    encodeBusMessage message = none ↔ 255 < (originBytes message.origin).length := by
  unfold encodeBusMessage
  dsimp only
  split
  · next long => exact iff_of_true rfl long
  · next short => exact iff_of_false (Option.some_ne_none _) short

end CollabEditor.Cluster.Wire
