import CollabEditor.Cluster.Messages
import Mathlib.Logic.Function.Basic

/-!
Owns `RedisDocumentBus` as one process sees it: the listeners of its channels,
the rooms behind them, and what becomes of the bytes the broker delivers. Yjs is
what it is given; its calls may throw.
-/

set_option autoImplicit false

namespace CollabEditor.Cluster.Wire

open CollabEditor.Library

universe u v

/-- What a call of Yjs leaves, and whether it threw. -/
structure Attempted (State : Type u) where
  state : State
  threw : Bool

/-- The calls of Yjs and of its awareness protocol. -/
structure Yjs (Doc : Type u) (Presence : Type v) where
  emptyDoc : Doc
  noPresence : Presence
  applyUpdate : Doc → List UInt8 → Attempted Doc
  applyAwarenessUpdate : Presence → List UInt8 → Attempted Presence
  encodeStateAsUpdate : Doc → List UInt8
  /-- `encodeAwarenessUpdate` of all states. -/
  encodeAwarenessUpdate : Presence → List UInt8
  /-- `getStates().size`. -/
  stateCount : Presence → ℕ

/-- The document and presence of a `Room`, and how many clients it has. -/
structure Room (Doc : Type u) (Presence : Type v) where
  doc : Doc
  presence : Presence
  clientCount : ℕ
deriving DecidableEq

/-- What a call of a room's method did: the room it leaves, the frames it handed
to the publisher and whether it threw. -/
structure Handled (Doc : Type u) (Presence : Type v) where
  room : Room Doc Presence
  published : List (List UInt8)
  threw : Bool

variable {Doc : Type u} {Presence : Type v}

namespace Room

/-- `new Room(..)`. -/
def new (yjs : Yjs Doc Presence) : Room Doc Presence := ⟨yjs.emptyDoc, yjs.noPresence, 0⟩

/-- `answerStateRequest` of a room on the bus of an instance. -/
def answerStateRequest (yjs : Yjs Doc Presence) (instanceId : JsString)
    (room : Room Doc Presence) : Handled Doc Presence :=
  match encodeBusMessage ⟨.update, instanceId, yjs.encodeStateAsUpdate room.doc⟩ with
  | none => ⟨room, [], true⟩
  | some update =>
      if yjs.stateCount room.presence = 0 then ⟨room, [update], false⟩
      else
        match encodeBusMessage
          ⟨.awareness, instanceId, yjs.encodeAwarenessUpdate room.presence⟩ with
        | none => ⟨room, [update], true⟩
        | some awareness => ⟨room, [update, awareness], false⟩

/-- `receive`. -/
def receive (yjs : Yjs Doc Presence) (instanceId : JsString) (room : Room Doc Presence)
    (message : BusMessage) : Handled Doc Presence :=
  match message.kind with
  | .update =>
      let applied := yjs.applyUpdate room.doc message.payload
      ⟨{ room with doc := applied.state }, [], applied.threw⟩
  | .awareness =>
      let applied := yjs.applyAwarenessUpdate room.presence message.payload
      ⟨{ room with presence := applied.state }, [], applied.threw⟩
  | .stateRequest =>
      if room.clientCount > 0 then room.answerStateRequest yjs instanceId else ⟨room, [], false⟩

/-- `requestState`; `none` when it throws. -/
def requestState (instanceId : JsString) : Option (List UInt8) :=
  encodeBusMessage ⟨.stateRequest, instanceId, []⟩

end Room

/-! ### The bus -/

/-- `RedisDocumentBus`: its listeners, by the room each hands messages to. Rooms
are numbered as they are made. -/
structure RedisDocumentBus where
  instanceId : JsString
  listeners : JsString → Option ℕ

/-- `CHANNEL_PREFIX`. -/
def channelPrefix : JsString := Utf16.encode "cce:doc:".toList

def channelOf (documentId : JsString) : JsString := channelPrefix ++ documentId

namespace RedisDocumentBus

/-- `subscribe`, up to its await; what the broker answers is only logged. -/
def subscribe (bus : RedisDocumentBus) (documentId : JsString) (room : ℕ) : RedisDocumentBus :=
  { bus with listeners := Function.update bus.listeners (channelOf documentId) (some room) }

/-- `unsubscribe`, up to its await. -/
def unsubscribe (bus : RedisDocumentBus) (documentId : JsString) : RedisDocumentBus :=
  { bus with listeners := Function.update bus.listeners (channelOf documentId) none }

/-- What `onMessage` calls a listener with. -/
def heard (bus : RedisDocumentBus) (channel : JsString) (frame : List UInt8) :
    Option (ℕ × BusMessage) :=
  (bus.listeners channel).bind fun listener =>
    (decodeBusMessage frame).bind fun message =>
      if message.origin = bus.instanceId then none else some (listener, message)

private theorem heard_eq_some_iff {bus : RedisDocumentBus} {channel : JsString} {frame : List UInt8}
    {listener : ℕ} {message : BusMessage} :
    bus.heard channel frame = some (listener, message) ↔
      bus.listeners channel = some listener ∧ decodeBusMessage frame = some message ∧
        message.origin ≠ bus.instanceId := by
  constructor
  · intro heard
    obtain ⟨_, listens, taken⟩ := Option.bind_eq_some_iff.mp heard
    obtain ⟨_, decodes, filtered⟩ := Option.bind_eq_some_iff.mp taken
    obtain ⟨foreign, same⟩ := Option.ite_none_left_eq_some.mp filtered
    cases same
    exact ⟨listens, decodes, foreign⟩
  · rintro ⟨listens, decodes, foreign⟩
    rw [heard, listens, Option.bind_some, decodes, Option.bind_some, if_neg foreign]

end RedisDocumentBus

/-- The bus of a process and every room it has made. -/
structure Process (Doc : Type u) (Presence : Type v) where
  bus : RedisDocumentBus
  objects : List (Room Doc Presence)

/-- What a delivery did; an exception that escapes ends the process. -/
structure Delivery (Doc : Type u) (Presence : Type v) where
  process : Process Doc Presence
  published : List (List UInt8)
  escaped : Bool

/-- `onMessage`. -/
def onMessage (yjs : Yjs Doc Presence) (process : Process Doc Presence) (channel : JsString)
    (frame : List UInt8) : Delivery Doc Presence :=
  match process.bus.listeners channel with
  | none => ⟨process, [], false⟩
  | some listener =>
      match decodeBusMessage frame with
      | none => ⟨process, [], false⟩
      | some message =>
          if message.origin = process.bus.instanceId then ⟨process, [], false⟩
          else
            match process.objects[listener]? with
            | none => ⟨process, [], false⟩
            | some room =>
                let handled := room.receive yjs process.bus.instanceId message
                ⟨{ process with objects := process.objects.set listener handled.room },
                  handled.published, handled.threw⟩

section

variable {yjs : Yjs Doc Presence} {process : Process Doc Presence} {channel : JsString}
  {listener : ℕ} {frame : List UInt8}

private theorem onMessage_unheard (unheard : process.bus.heard channel frame = none) :
    onMessage yjs process channel frame = ⟨process, [], false⟩ := by
  unfold onMessage
  split
  · rfl
  · next listens =>
      split
      · rfl
      · next decodes =>
          split
          · rfl
          · next foreign =>
              have heard := RedisDocumentBus.heard_eq_some_iff.mpr ⟨listens, decodes, foreign⟩
              rw [unheard] at heard
              cases heard

/-- What another instance has sent is handed to the room behind the channel. -/
theorem onMessage_heard {message : BusMessage} {room : Room Doc Presence}
    (heard : process.bus.heard channel frame = some (listener, message))
    (behind : process.objects[listener]? = some room) :
    onMessage yjs process channel frame =
      let handled := room.receive yjs process.bus.instanceId message
      ⟨{ process with objects := process.objects.set listener handled.room },
        handled.published, handled.threw⟩ := by
  obtain ⟨listens, decodes, foreign⟩ := RedisDocumentBus.heard_eq_some_iff.mp heard
  unfold onMessage
  rw [listens]
  dsimp only
  rw [decodes]
  dsimp only
  rw [if_neg foreign, behind]

/-- A delivery changes no listener and makes no room. -/
theorem onMessage_keeps (yjs : Yjs Doc Presence) (process : Process Doc Presence)
    (channel : JsString) (frame : List UInt8) :
    (onMessage yjs process channel frame).process.bus = process.bus ∧
      (onMessage yjs process channel frame).process.objects.length = process.objects.length := by
  unfold onMessage
  split
  · exact ⟨rfl, rfl⟩
  · split
    · exact ⟨rfl, rfl⟩
    · split
      · exact ⟨rfl, rfl⟩
      · split
        · exact ⟨rfl, rfl⟩
        · exact ⟨rfl, List.length_set⟩

end

/-! ### What is discarded -/

/-- The payload is one that Yjs accepts; a state request needs none. -/
def Accepts (yjs : Yjs Doc Presence) (room : Room Doc Presence) (message : BusMessage) : Prop :=
  match message.kind with
  | .update => (yjs.applyUpdate room.doc message.payload).threw = false
  | .awareness => (yjs.applyAwarenessUpdate room.presence message.payload).threw = false
  | .stateRequest => True

/-- A room can answer a state request: there is nobody to answer for, or the id
of the instance fits its field. -/
def Answers (instanceId : JsString) (room : Room Doc Presence) (message : BusMessage) : Prop :=
  message.kind = .stateRequest → room.clientCount > 0 → (originBytes instanceId).length ≤ 255

private theorem answerStateRequest_threw_iff (yjs : Yjs Doc Presence) (instanceId : JsString)
    (room : Room Doc Presence) :
    (room.answerStateRequest yjs instanceId).threw = false ↔
      (originBytes instanceId).length ≤ 255 := by
  have fails : ∀ kind payload, encodeBusMessage ⟨kind, instanceId, payload⟩ = none ↔
      255 < (originBytes instanceId).length :=
    fun kind payload => encodeBusMessage_eq_none_iff ⟨kind, instanceId, payload⟩
  by_cases fits : (originBytes instanceId).length ≤ 255
  · refine iff_of_true ?_ fits
    unfold Room.answerStateRequest
    split
    · next long =>
        have := (fails _ _).mp long
        omega
    · split
      · rfl
      · split
        · next long =>
            have := (fails _ _).mp long
            omega
        · rfl
  · refine iff_of_false ?_ fits
    have long := (fails .update (yjs.encodeStateAsUpdate room.doc)).mpr (by omega)
    rw [Room.answerStateRequest, long]
    exact Bool.noConfusion

/-- A room takes a message without throwing exactly when it accepts the payload
and can answer. -/
theorem receive_threw_iff (yjs : Yjs Doc Presence) (instanceId : JsString)
    (room : Room Doc Presence) (message : BusMessage) :
    (room.receive yjs instanceId message).threw = false ↔
      Accepts yjs room message ∧ Answers instanceId room message := by
  unfold Room.receive Accepts Answers
  cases message.kind with
  | update => exact ⟨fun quiet => ⟨quiet, fun other => by cases other⟩, And.left⟩
  | awareness => exact ⟨fun quiet => ⟨quiet, fun other => by cases other⟩, And.left⟩
  | stateRequest =>
      dsimp only
      split
      · next occupied =>
          rw [answerStateRequest_threw_iff]
          exact ⟨fun fits => ⟨trivial, fun _ _ => fits⟩, fun both => both.2 rfl occupied⟩
      · next empty => exact iff_of_true rfl ⟨trivial, fun _ occupied => absurd occupied empty⟩

/-- The frame is a bus message with a payload that the room accepts. -/
def Valid (yjs : Yjs Doc Presence) (room : Room Doc Presence) (frame : List UInt8) : Prop :=
  ∃ message, decodeBusMessage frame = some message ∧ Accepts yjs room message

/-- `onMessage` returns, and a frame that is not valid for the room behind the
channel has no effect. -/
structure Discards (yjs : Yjs Doc Presence) (process : Process Doc Presence) (channel : JsString)
    (room : Room Doc Presence) (frame : List UInt8) : Prop where
  returns : (onMessage yjs process channel frame).escaped = false
  unchanged : ¬ Valid yjs room frame → (onMessage yjs process channel frame).process = process

/-- A frame is nothing to the room, or something it can take: it does not decode,
it is the instance's own, or the room accepts its payload and can answer it. -/
def Takeable (yjs : Yjs Doc Presence) (instanceId : JsString) (room : Room Doc Presence)
    (frame : List UInt8) : Prop :=
  ∀ message, decodeBusMessage frame = some message → message.origin ≠ instanceId →
    Accepts yjs room message ∧ Answers instanceId room message

/-- On a channel with a listener, malformed traffic is discarded as long as it is
malformed as a bus message; what Yjs cannot apply is thrown out of the handler. -/
theorem onMessage_discards_iff {yjs : Yjs Doc Presence} {process : Process Doc Presence}
    {channel : JsString} {listener : ℕ} {room : Room Doc Presence}
    (listens : process.bus.listeners channel = some listener)
    (behind : process.objects[listener]? = some room) (frame : List UInt8) :
    Discards yjs process channel room frame ↔ Takeable yjs process.bus.instanceId room frame := by
  have ignored : onMessage yjs process channel frame = ⟨process, [], false⟩ →
      Discards yjs process channel room frame := by
    intro result
    exact ⟨by rw [result], fun _ => by rw [result]⟩
  cases heard : process.bus.heard channel frame with
  | none =>
      refine iff_of_true (ignored (onMessage_unheard heard)) fun message decodes foreign => ?_
      rw [RedisDocumentBus.heard_eq_some_iff.mpr ⟨listens, decodes, foreign⟩] at heard
      cases heard
  | some call =>
      obtain ⟨listener', message⟩ := call
      obtain ⟨listens', decodes, foreign⟩ := RedisDocumentBus.heard_eq_some_iff.mp heard
      obtain rfl := Option.some.inj (listens.symm.trans listens')
      have result := @onMessage_heard Doc Presence yjs process channel listener frame message
        room heard behind
      have only : Takeable yjs process.bus.instanceId room frame ↔
          Accepts yjs room message ∧ Answers process.bus.instanceId room message := by
        constructor
        · intro takeable
          exact takeable message decodes foreign
        · intro taken other decoded _
          obtain rfl := Option.some.inj (decodes.symm.trans decoded)
          exact taken
      rw [only, ← receive_threw_iff]
      constructor
      · intro discards
        have returns := discards.returns
        rw [result] at returns
        exact returns
      · intro quiet
        refine ⟨by rw [result]; exact quiet, fun invalid => ?_⟩
        exact absurd ⟨message, decodes, ((receive_threw_iff _ _ _ _).mp quiet).1⟩ invalid

/-- Yjs for documents of no content: the empty updates are applied, and anything
else is malformed. -/
def emptyYjs : Yjs Unit Unit where
  emptyDoc := ()
  noPresence := ()
  applyUpdate _ update := ⟨(), update ≠ [0, 0]⟩
  applyAwarenessUpdate _ update := ⟨(), update ≠ [0]⟩
  encodeStateAsUpdate _ := [0, 0]
  encodeAwarenessUpdate _ := [0]
  stateCount _ := 0

/-- A process with one room, which is open for one client. -/
def oneRoom : Process Unit Unit where
  bus := RedisDocumentBus.subscribe ⟨Utf16.encode ['a'], fun _ => none⟩ (Utf16.encode ['d']) 0
  objects := [⟨(), (), 1⟩]

private theorem oneRoom_listens :
    oneRoom.bus.listeners (channelOf (Utf16.encode ['d'])) = some 0 := by
  show Function.update (fun _ : JsString => (none : Option ℕ)) (channelOf (Utf16.encode ['d']))
    (some 0) (channelOf (Utf16.encode ['d'])) = some 0
  rw [Function.update_self]

theorem onMessage_discards_iff_kind :
    Discards emptyYjs oneRoom (channelOf (Utf16.encode ['d'])) ⟨(), (), 1⟩ [3, 1, 98, 255] := by
  refine (onMessage_discards_iff oneRoom_listens rfl _).mpr fun message decoded => ?_
  cases decoded

/-- An update of another instance with a payload that is none ends the process. -/
theorem payload_escapes :
    ¬ ∀ (process : Process Unit Unit) (channel : JsString) (listener : ℕ) (room : Room Unit Unit)
      (frame : List UInt8), process.bus.listeners channel = some listener →
      process.objects[listener]? = some room → Discards emptyYjs process channel room frame := by
  intro discards
  have returns := (discards oneRoom (channelOf (Utf16.encode ['d'])) 0 ⟨(), (), 1⟩ [0, 1, 98, 255]
    oneRoom_listens rfl).returns
  have heard : (oneRoom.bus.heard (channelOf (Utf16.encode ['d'])) [0, 1, 98, 255]) =
      some (0, ⟨.update, Utf16.encode ['b'], [255]⟩) :=
    RedisDocumentBus.heard_eq_some_iff.mpr ⟨oneRoom_listens, by decide, by decide⟩
  rw [onMessage_heard heard rfl] at returns
  revert returns
  decide

end CollabEditor.Cluster.Wire
