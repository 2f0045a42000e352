import CollabEditor.Cluster.RedisBus

/-!
Owns what the framing of `cluster/messages.ts` keeps of a message, and so which
instances hand on what one of them publishes.

Text is encoded and decoded as `Library.Utf8` does it, which replaces lone
surrogates and drops a leading byte order mark.
-/

set_option autoImplicit false

namespace CollabEditor.Cluster.Wire

open CollabEditor.Library

/-! ### Frames -/

@[simp] theorem BusKind.ofValue_value (kind : BusKind) : ofValue kind.value = some kind := by
  cases kind with
  | update => rfl
  | awareness => rfl
  | stateRequest => rfl

private theorem BusKind.ofValue_isSome_iff (value : UInt8) :
    (ofValue value).isSome ↔ value ∈ [0, 1, 2] := by
  unfold ofValue
  split
  · next isUpdate => exact iff_of_true rfl (by simp [isUpdate, BusKind.value])
  · next notUpdate =>
      split
      · next isAwareness => exact iff_of_true rfl (by simp [isAwareness, BusKind.value])
      · next notAwareness =>
          split
          · next isRequest => exact iff_of_true rfl (by simp [isRequest, BusKind.value])
          · next notRequest =>
              simp only [BusKind.value] at notUpdate notAwareness notRequest
              simp [notUpdate, notAwareness, notRequest]

/-- A kind there is, and bytes enough for the origin. -/
def Framed (frame : List UInt8) : Prop :=
  2 ≤ frame.length ∧ frame.getD 0 0 ∈ [0, 1, 2] ∧ 2 + (frame.getD 1 0).toNat ≤ frame.length

private theorem decodeBusMessage_isSome_iff (frame : List UInt8) :
    (decodeBusMessage frame).isSome ↔ Framed frame := by
  cases frame with
  | nil => exact iff_of_false Bool.false_ne_true fun framed => absurd framed.1 (by decide)
  | cons kind frame =>
      cases frame with
      | nil => exact iff_of_false Bool.false_ne_true fun framed => absurd framed.1 (by simp)
      | cons originLength rest =>
          have framed : Framed (kind :: originLength :: rest) ↔
              (BusKind.ofValue kind).isSome ∧ originLength.toNat ≤ rest.length := by
            rw [BusKind.ofValue_isSome_iff]
            simp only [Framed, List.length_cons, List.getD_cons_zero, List.getD_cons_succ]
            constructor
            · rintro ⟨-, known, fits⟩
              exact ⟨known, by omega⟩
            · rintro ⟨known, fits⟩
              exact ⟨by omega, known, by omega⟩
          rw [framed, decodeBusMessage]
          cases BusKind.ofValue kind with
          | none => simp
          | some known =>
              dsimp only [Option.bind_some]
              split
              · next short => exact iff_of_false Bool.false_ne_true fun both => by omega
              · next fits => exact iff_of_true rfl ⟨rfl, by omega⟩

/-- Decoding gives back everything but, perhaps, the origin. -/
theorem decode_of_encode {message : BusMessage} {frame : List UInt8}
    (encodes : encodeBusMessage message = some frame) :
    decodeBusMessage frame = some { message with
      origin := Utf16.encode (Utf8.textDecode (originBytes message.origin)) } := by
  unfold encodeBusMessage at encodes
  dsimp only at encodes
  split at encodes
  · cases encodes
  · next fits =>
      cases encodes
      have length : (UInt8.ofNat (originBytes message.origin).length).toNat =
          (originBytes message.origin).length := Utf8.toNat_ofNat (by omega)
      rw [List.cons_append, List.cons_append, decodeBusMessage, BusKind.ofValue_value,
        Option.bind_some, length, if_neg (by simp), List.take_left, List.drop_left]

theorem originBytes_encode (chars : List Char) :
    originBytes (Utf16.encode chars) = Utf8.encode chars := by
  rw [originBytes, Utf16.decode_encode]

/-- The decoder drops the mark an origin begins with, and nothing else. -/
theorem origin_kept_iff (chars : List Char) :
    Utf16.encode (Utf8.textDecode (originBytes (Utf16.encode chars))) = Utf16.encode chars ↔
      chars.head? ≠ some '\uFEFF' := by
  rw [originBytes_encode]
  constructor
  · intro kept marked
    cases chars with
    | nil => cases marked
    | cons first rest =>
        obtain rfl : first = '\uFEFF' := Option.some.inj marked
        have same := congrArg Utf16.decode kept
        rw [Utf16.decode_encode, Utf16.decode_encode, Utf8.textDecode_marked] at same
        exact List.cons_ne_self _ _ same.symm
  · intro unmarked
    rw [Utf8.textDecode_encode unmarked]

/-! ### The echo filter -/

namespace RedisDocumentBus

/-- `publish`: the channel and the frame, or nothing when it throws. -/
def publish (bus : RedisDocumentBus) (documentId : JsString) (kind : BusKind)
    (payload : List UInt8) : Option (JsString × List UInt8) :=
  (encodeBusMessage ⟨kind, bus.instanceId, payload⟩).map fun frame =>
    (channelOf documentId, frame)

end RedisDocumentBus

/-- A message that its frame keeps: decoding returns it, and of the instances
that listen just the one that published it ignores it. -/
structure Faithful (message : BusMessage) : Prop where
  returns : ∃ frame, encodeBusMessage message = some frame ∧
    decodeBusMessage frame = some message
  ignored : ∀ (sender receiver : RedisDocumentBus) (documentId channel : JsString)
    (frame : List UInt8), sender.instanceId = message.origin →
    sender.publish documentId message.kind message.payload = some (channel, frame) →
    (receiver.listeners channel).isSome →
    (receiver.heard channel frame = none ↔ sender.instanceId = receiver.instanceId)

private theorem faithful_of_returns {message : BusMessage} {frame : List UInt8}
    (encodes : encodeBusMessage message = some frame)
    (decodes : decodeBusMessage frame = some message) : Faithful message := by
  refine ⟨⟨frame, encodes, decodes⟩, ?_⟩
  intro sender receiver documentId channel published own publishes listens
  obtain ⟨sent, encodes', pair⟩ := Option.map_eq_some_iff.mp publishes
  cases pair
  rw [own] at encodes'
  obtain rfl : frame = published := Option.some.inj (encodes.symm.trans encodes')
  obtain ⟨listener, isListener⟩ := Option.isSome_iff_exists.mp listens
  unfold RedisDocumentBus.heard
  rw [isListener, decodes, own]
  dsimp only [Option.bind_some]
  split
  · next same => exact iff_of_true rfl same
  · next other => exact iff_of_false (Option.some_ne_none _) other

/-- The framing keeps a message exactly when its origin does not begin with a
byte order mark, and decodes exactly the frames there are. -/
theorem faithful_iff (kind : BusKind) {chars : List Char}
    (fits : (Utf8.encode chars).length ≤ 255) (payload : List UInt8) :
    (Faithful ⟨kind, Utf16.encode chars, payload⟩ ↔ chars.head? ≠ some '\uFEFF') ∧
      ∀ frame, (decodeBusMessage frame).isSome ↔ Framed frame := by
  refine ⟨?_, decodeBusMessage_isSome_iff⟩
  rw [← origin_kept_iff]
  constructor
  · intro faithful
    obtain ⟨frame, encodes, decodes⟩ := faithful.returns
    have same := Option.some.inj ((decode_of_encode encodes).symm.trans decodes)
    exact congrArg BusMessage.origin same
  · intro kept
    have encodes : encodeBusMessage ⟨kind, Utf16.encode chars, payload⟩ ≠ none := by
      rw [Ne, encodeBusMessage_eq_none_iff, originBytes_encode]
      omega
    obtain ⟨frame, encoded⟩ := Option.ne_none_iff_exists'.mp encodes
    have decodes := decode_of_encode encoded
    dsimp only at decodes
    rw [kept] at decodes
    exact faithful_of_returns encoded decodes

theorem faithful_iff_ascii :
    (Faithful ⟨.update, Utf16.encode ['s', 'r', 'v'], [1]⟩ ↔
      ['s', 'r', 'v'].head? ≠ some '\uFEFF') ∧
      ∀ frame, (decodeBusMessage frame).isSome ↔ Framed frame :=
  faithful_iff .update (by decide) [1]

/-- An instance whose id begins with a byte order mark hears itself. -/
theorem marked_not_faithful :
    ¬ Faithful ⟨.update, Utf16.encode ['\uFEFF', 'a'], [1]⟩ := by
  intro faithful
  let bus : RedisDocumentBus := ⟨Utf16.encode ['\uFEFF', 'a'], fun _ => some 0⟩
  have publishes : bus.publish [] .update [1] =
      some (channelOf [], [0, 4, 0xEF, 0xBB, 0xBF, 97, 1]) := by decide
  have ignores := (faithful.ignored bus bus [] _ _ rfl publishes rfl).mpr rfl
  revert ignores
  decide

end CollabEditor.Cluster.Wire
