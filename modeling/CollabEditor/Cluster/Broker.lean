import Mathlib.Algebra.Ring.Nat
import CollabEditor.Cluster.BusFraming
import CollabEditor.Library.Transition
import CollabEditor.Rooms.Room

/-!
Owns `cluster/redis-bus.ts` for one document that several instances have open:
the broker hands a copy of each frame to every subscriber, the publisher
included, and the copies arrive in any order. The frames are those of
`cluster/messages.ts`; Yjs, which is given, writes and reads their payloads. An
exception that escapes a handler ends its process.
-/

namespace CollabEditor

open CollabEditor.Library CollabEditor.Yjs CollabEditor.Rooms

universe u v

/-- How Yjs writes payloads, and what it reads from them; `none` when it throws. -/
structure Payloads (Op : Type u) where
  writeUpdate : Update Op → List UInt8
  writeAwareness : List AwarenessEntry → List UInt8
  readUpdate : List UInt8 → Option (Update Op)
  readAwareness : List UInt8 → Option (List AwarenessEntry)

namespace Payloads

variable {Op : Type u}

/-- `{ kind, origin, payload }`. -/
def write (payloads : Payloads Op) (origin : JsString) : BusMessage Op → Cluster.Wire.BusMessage
  | .update content => ⟨.update, origin, payloads.writeUpdate content⟩
  | .awareness entries => ⟨.awareness, origin, payloads.writeAwareness entries⟩
  | .stateRequest => ⟨.stateRequest, origin, []⟩

def read (payloads : Payloads Op) (message : Cluster.Wire.BusMessage) : Option (BusMessage Op) :=
  match message.kind with
  | .update => (payloads.readUpdate message.payload).map .update
  | .awareness => (payloads.readAwareness message.payload).map .awareness
  | .stateRequest => some .stateRequest

end Payloads

/-- The rooms of the instances, `none` for one that has ended, and the frames on
their way, with the instance each goes to. -/
structure Broker (n : ℕ) (Client : Type v) (Op : Type u) where
  rooms : Fin n → Option (Room Client Op)
  inFlight : List (Fin n × List UInt8)

/-- What a call of `onMessage` does. -/
inductive Handling (Client : Type v) (Op : Type u) where
  /-- The frame is malformed, or taken for the instance's own. -/
  | ignored
  /-- The room received the message and published some frames. -/
  | handled (room : Room Client Op) (frames : List (List UInt8))
  | threw

namespace Broker

variable {n : ℕ} {Client : Type v} {Op : Type u}

/-- `publish` of the bus of an instance; `none` when it throws. -/
def publish (payloads : Payloads Op) (instanceId : JsString) (message : BusMessage Op) :
    Option (List UInt8) :=
  Cluster.Wire.encodeBusMessage (payloads.write instanceId message)

/-- The calls of `publish` that one handler makes, until one throws. -/
def publishAll (payloads : Payloads Op) (instanceId : JsString) :
    List (BusMessage Op) → Option (List (List UInt8))
  | [] => some []
  | message :: rest =>
      (publish payloads instanceId message).bind fun frame =>
        (publishAll payloads instanceId rest).map (frame :: ·)

/-- The copies the broker hands out. -/
def copies (n : ℕ) (frame : List UInt8) : List (Fin n × List UInt8) :=
  (List.finRange n).map fun receiver => (receiver, frame)

/-- `kind` of a frame, if it is one. -/
def kindOf (frame : List UInt8) : Option Cluster.Wire.BusKind :=
  (Cluster.Wire.decodeBusMessage frame).map Cluster.Wire.BusMessage.kind

/-- A published frame is one, of the kind of its message. -/
theorem kindOf_publish {payloads : Payloads Op} {instanceId : JsString} {message : BusMessage Op}
    {frame : List UInt8} (publishes : publish payloads instanceId message = some frame) :
    kindOf frame = some (payloads.write instanceId message).kind := by
  unfold kindOf
  rw [Cluster.Wire.decode_of_encode publishes]
  rfl

private theorem publishAll_eq_some {payloads : Payloads Op} {instanceId : JsString}
    {messages : List (BusMessage Op)} {frames : List (List UInt8)}
    (publishes : publishAll payloads instanceId messages = some frames) :
    frames.length = messages.length ∧ ∀ frame ∈ frames, ∃ message ∈ messages,
      publish payloads instanceId message = some frame := by
  induction messages generalizing frames with
  | nil =>
      cases publishes
      exact ⟨rfl, fun _ member => nomatch member⟩
  | cons message rest inductionHypothesis =>
      obtain ⟨first, isFirst, later⟩ := Option.bind_eq_some_iff.mp publishes
      obtain ⟨others, areOthers, rfl⟩ := Option.map_eq_some_iff.mp later
      obtain ⟨length, each⟩ := inductionHypothesis areOthers
      refine ⟨congrArg (· + 1) length, fun frame member => ?_⟩
      rcases List.mem_cons.mp member with rfl | isOther
      · exact ⟨message, List.mem_cons_self, isFirst⟩
      · obtain ⟨sent, inRest, isSent⟩ := each frame isOther
        exact ⟨sent, List.mem_cons_of_mem _ inRest, isSent⟩

private theorem origin_write (payloads : Payloads Op) (origin : JsString)
    (message : BusMessage Op) :
    (payloads.write origin message).origin = origin := by
  cases message with
  | update content => rfl
  | awareness entries => rfl
  | stateRequest => rfl

private theorem kind_of_read {payloads : Payloads Op} {message : Cluster.Wire.BusMessage}
    (reads : payloads.read message = some .stateRequest) : message.kind = .stateRequest := by
  unfold Payloads.read at reads
  split at reads
  · simp at reads
  · simp at reads
  · next isRequest => exact isRequest

variable [DecidableEq Client] [DecidableEq Op] [Causality Op]

/-- `onMessage`, whose listener is the room's `receive`. -/
def onMessage (payloads : Payloads Op) (instanceId : JsString) (room : Room Client Op)
    (frame : List UInt8) : Handling Client Op :=
  match Cluster.Wire.decodeBusMessage frame with
  | none => .ignored
  | some message =>
      if message.origin = instanceId then .ignored
      else
        match payloads.read message with
        | none => .threw
        | some received =>
            let outcome := room.receive received
            match publishAll payloads instanceId (published outcome.2) with
            | none => .threw
            | some frames => .handled outcome.1 frames

/-- The frame at `index` arrives. -/
def step (payloads : Payloads Op) (instanceId : Fin n → JsString) (broker : Broker n Client Op)
    (index : ℕ) : Option (Broker n Client Op) :=
  broker.inFlight[index]?.map fun (receiver, frame) =>
    let rest := broker.inFlight.eraseIdx index
    match broker.rooms receiver with
    | none => { broker with inFlight := rest }
    | some room =>
        match onMessage payloads (instanceId receiver) room frame with
        | .ignored => { broker with inFlight := rest }
        | .handled room frames =>
            { rooms := Function.update broker.rooms receiver (some room)
              inFlight := rest ++ frames.flatMap (copies n) }
        | .threw =>
            { rooms := Function.update broker.rooms receiver none
              inFlight := rest }

/-! ### What handling a frame publishes -/

private theorem length_published_receive (room : Room Client Op) (message : BusMessage Op) :
    (published (room.receive message).2).length ≤ 2 := by
  cases message with
  | update content =>
      rw [Room.receive, room.published_applyUpdate, if_neg fun both => both.2 rfl]
      exact Nat.zero_le 2
  | awareness entries =>
      rw [Room.receive, room.changeAwareness_publishes_nothing]
      exact Nat.zero_le 2
  | stateRequest =>
      rw [Room.receive]
      dsimp only
      split
      · rw [Room.answerStateRequest]
        split
        · exact Nat.le_succ 1
        · exact le_refl 2
      · exact Nat.zero_le 2

/-- What a document or presence message triggers stays on the instance. -/
theorem published_receive_eq_nil (room : Room Client Op) {message : BusMessage Op}
    (noRequest : message ≠ .stateRequest) : published (room.receive message).2 = [] := by
  rw [List.eq_nil_iff_forall_not_mem]
  intro answer member
  exact noRequest (room.published_receive member).1

private theorem stateRequest_not_mem_published (room : Room Client Op) (message : BusMessage Op) :
    .stateRequest ∉ published (room.receive message).2 := by
  intro member
  rcases (room.published_receive member).2.2 with ⟨entries, presence⟩ | update
  · cases presence
  · cases update

/-- A frame that is handled is a message of another origin, which the room
receives, and its answers are published. -/
theorem of_handled {payloads : Payloads Op} {instanceId : JsString} {room room' : Room Client Op}
    {frame : List UInt8} {frames : List (List UInt8)}
    (handles : onMessage payloads instanceId room frame = .handled room' frames) :
    ∃ message received, Cluster.Wire.decodeBusMessage frame = some message ∧
      payloads.read message = some received ∧
      publishAll payloads instanceId (published (room.receive received).2) = some frames := by
  unfold onMessage at handles
  split at handles
  · cases handles
  · next message decodes =>
      split at handles
      · cases handles
      · split at handles
        · cases handles
        · next received reads =>
            dsimp only at handles
            split at handles
            · cases handles
            · next publishes =>
                cases handles
                exact ⟨message, received, decodes, reads, publishes⟩

/-- Only a state request is answered, at most twice, and never with another one. -/
theorem answers_of_handled {payloads : Payloads Op} {instanceId : JsString}
    {room room' : Room Client Op} {frame : List UInt8} {frames : List (List UInt8)}
    (handles : onMessage payloads instanceId room frame = .handled room' frames) :
    (kindOf frame ≠ some .stateRequest → frames = []) ∧ frames.length ≤ 2 ∧
      ∀ answer ∈ frames, kindOf answer ≠ some .stateRequest := by
  obtain ⟨message, received, decodes, reads, publishes⟩ := of_handled handles
  obtain ⟨length, each⟩ := publishAll_eq_some publishes
  refine ⟨fun noRequest => ?_, ?_, fun answer member isRequest => ?_⟩
  · have other : received ≠ .stateRequest := by
      rintro rfl
      apply noRequest
      unfold kindOf
      rw [decodes]
      exact congrArg some (kind_of_read reads)
    rw [published_receive_eq_nil room other, List.length_nil] at length
    exact List.eq_nil_of_length_eq_zero length
  · rw [length]
    exact length_published_receive room received
  · obtain ⟨sent, inPublished, isSent⟩ := each answer member
    rw [kindOf_publish isSent] at isRequest
    cases sent with
    | stateRequest => exact stateRequest_not_mem_published room received inPublished
    | update content => cases isRequest
    | awareness entries => cases isRequest

/-! ### Draining -/

/-- Frames whose handling a copy of a frame can bring about, itself included: a
state request may be answered with two frames of `n` copies each. -/
def weight (n : ℕ) (frame : List UInt8) : ℕ :=
  if kindOf frame = some .stateRequest then 2 * n + 1 else 1

/-- Frames that can still be handled. -/
def load (broker : Broker n Client Op) : ℕ :=
  (broker.inFlight.map fun copy => weight n copy.2).sum

private theorem weight_pos (n : ℕ) (frame : List UInt8) : 0 < weight n frame := by
  unfold weight
  split
  · exact Nat.succ_pos _
  · exact Nat.one_pos

/-- The copies of frames that are no state requests weigh one each. -/
theorem weight_copies (n : ℕ) {frames : List (List UInt8)}
    (noRequests : ∀ frame ∈ frames, kindOf frame ≠ some .stateRequest) :
    ((frames.flatMap (copies n)).map fun copy => weight n copy.2).sum = frames.length * n := by
  induction frames with
  | nil => simp
  | cons frame rest inductionHypothesis =>
      have light : weight n frame = 1 := if_neg (noRequests frame List.mem_cons_self)
      have first : ((copies n frame).map fun copy => weight n copy.2).sum = n := by
        simp [copies, Function.comp_def, light]
      rw [List.flatMap_cons, List.map_append, List.sum_append, first,
        inductionHypothesis fun other member => noRequests other (List.mem_cons_of_mem _ member),
        List.length_cons, Nat.succ_mul, Nat.add_comm]

/-- The answers to a frame weigh less than the copy that brought it. -/
theorem weight_answers {payloads : Payloads Op} {instanceId : JsString}
    {room room' : Room Client Op} {frame : List UInt8} {frames : List (List UInt8)}
    (handles : onMessage payloads instanceId room frame = .handled room' frames) :
    ((frames.flatMap (copies n)).map fun copy => weight n copy.2).sum < weight n frame := by
  obtain ⟨silent, two, noRequests⟩ := answers_of_handled handles
  rw [weight_copies n noRequests]
  by_cases request : kindOf frame = some .stateRequest
  · have bound := Nat.mul_le_mul_right n two
    rw [weight, if_pos request]
    omega
  · rw [silent request, List.length_nil, Nat.zero_mul]
    exact weight_pos n frame

private theorem load_lt_of_step {payloads : Payloads Op} {instanceId : Fin n → JsString}
    {broker broker' : Broker n Client Op} {index : ℕ}
    (stepped : broker.step payloads instanceId index = some broker') :
    broker'.load < broker.load := by
  obtain ⟨⟨receiver, frame⟩, found, rfl⟩ := Option.map_eq_some_iff.mp stepped
  have removed : broker.load = weight n frame +
      ((broker.inFlight.eraseIdx index).map fun copy => weight n copy.2).sum := by
    obtain ⟨inBounds, isCopy⟩ := List.getElem?_eq_some_iff.mp found
    have perm := List.getElem_cons_eraseIdx_perm inBounds
    rw [isCopy] at perm
    have sums := List.Perm.sum_nat (perm.map fun copy => weight n copy.2)
    exact sums.symm
  have positive := weight_pos n frame
  have lighter : ((broker.inFlight.eraseIdx index).map fun copy => weight n copy.2).sum <
      broker.load := by
    omega
  dsimp only
  split
  · exact lighter
  · split
    · exact lighter
    · next handles =>
        have answers := weight_answers (n := n) handles
        show ((broker.inFlight.eraseIdx index ++ _).map _).sum < _
        rw [List.map_append, List.sum_append]
        omega
    · exact lighter

/-- Whatever is in flight and in whatever order it arrives, the bus drains. -/
theorem drains (payloads : Payloads Op) (instanceId : Fin n → JsString)
    (broker : Broker n Client Op) :
    Inevitable (step payloads instanceId) (fun broker => broker.inFlight = []) broker := by
  refine inevitable_of_decreases load (fun _ _ _ => load_lt_of_step) ?_ broker
  intro broker busy
  refine ⟨0, ?_⟩
  obtain ⟨copy, rest, inFlight⟩ := List.exists_cons_of_ne_nil busy
  simp [step, inFlight]

/-! ### What an instance makes of its own frames -/

/-- No traffic of the bus goes on for ever, and no instance handles its own. -/
structure NoRelayLoops (payloads : Payloads Op) (instanceId : Fin n → JsString)
    (broker : Broker n Client Op) : Prop where
  drains : Inevitable (step payloads instanceId) (fun broker => broker.inFlight = []) broker
  answers : ∀ server room frame room' frames, broker.rooms server = some room →
    onMessage payloads (instanceId server) room frame = .handled room' frames →
      (kindOf frame ≠ some .stateRequest → frames = []) ∧ frames.length ≤ 2 ∧
        ∀ answer ∈ frames, kindOf answer ≠ some .stateRequest
  ignoresOwn : ∀ server room message frame, broker.rooms server = some room →
    publish payloads (instanceId server) message = some frame →
      onMessage payloads (instanceId server) room frame = .ignored

private theorem onMessage_eq_ignored_iff {payloads : Payloads Op} {instanceId : JsString}
    {room : Room Client Op} {frame : List UInt8} :
    onMessage payloads instanceId room frame = .ignored ↔
      ∀ message, Cluster.Wire.decodeBusMessage frame = some message →
        message.origin = instanceId := by
  unfold onMessage
  cases Cluster.Wire.decodeBusMessage frame with
  | none => exact iff_of_true rfl nofun
  | some message =>
      simp only [Option.some.injEq, forall_eq']
      split
      · next own => exact iff_of_true rfl own
      · next foreign =>
          refine iff_of_false (fun ignored => ?_) foreign
          split at ignored
          · cases ignored
          · split at ignored
            · cases ignored
            · cases ignored

/-- An instance takes a frame of its own for one exactly when the decoder keeps the
id. -/
theorem onMessage_own_iff {payloads : Payloads Op} {chars : List Char} (room : Room Client Op)
    {message : BusMessage Op} {frame : List UInt8}
    (publishes : publish payloads (Utf16.encode chars) message = some frame) :
    onMessage payloads (Utf16.encode chars) room frame = .ignored ↔
      chars.head? ≠ some '\uFEFF' := by
  rw [onMessage_eq_ignored_iff, Cluster.Wire.decode_of_encode publishes,
    ← Cluster.Wire.origin_kept_iff]
  simp only [Option.some.injEq, forall_eq', origin_write]

/-- No relay loop exists exactly when no id begins with a byte order mark, or such
an id is too long to be published. -/
theorem no_relay_loops_iff (payloads : Payloads Op) (ids : Fin n → List Char) :
    (∀ broker : Broker n Client Op, NoRelayLoops payloads (Utf16.encode ∘ ids) broker) ↔
      ∀ server, (ids server).head? = some '\uFEFF' → 255 < (Utf8.encode (ids server)).length := by
  have throws : ∀ server message, publish payloads (Utf16.encode (ids server)) message = none ↔
      255 < (Utf8.encode (ids server)).length := by
    intro server message
    have long := Cluster.Wire.encodeBusMessage_eq_none_iff
      (payloads.write (Utf16.encode (ids server)) message)
    rwa [origin_write, Cluster.Wire.originBytes_encode] at long
  constructor
  · intro loops server marked
    by_contra fits
    obtain ⟨frame, publishes⟩ :=
      Option.ne_none_iff_exists'.mp (mt (throws server .stateRequest).mp fits)
    have own := (loops ⟨fun _ => some (Room.new 0), []⟩).ignoresOwn server (Room.new 0)
      .stateRequest frame rfl publishes
    exact (onMessage_own_iff (Room.new 0 : Room Client Op) publishes).mp own marked
  · intro unmarked broker
    refine ⟨drains _ _ broker, fun _ _ _ _ _ _ => answers_of_handled,
      fun server room message frame _ publishes => ?_⟩
    refine (onMessage_own_iff room publishes).mpr fun marked => ?_
    have none := (throws server message).mpr (unmarked server marked)
    exact absurd (none.symm.trans publishes) nofun

/-- Yjs for documents of no content: what is empty is read, and anything else is
malformed. -/
def emptyPayloads : Payloads ItemId where
  writeUpdate _ := [0, 0]
  writeAwareness _ := [0]
  readUpdate payload := if payload = [0, 0] then some ∅ else none
  readAwareness payload := if payload = [0] then some [] else none

/-- An instance whose id begins with a byte order mark handles its own state
request. -/
theorem handles_own_marked : ¬∀ broker : Broker 1 ℕ ItemId,
    NoRelayLoops emptyPayloads (fun _ => Utf16.encode ['\uFEFF', 'a']) broker := by
  intro loops
  have publishes : publish emptyPayloads (Utf16.encode ['\uFEFF', 'a']) .stateRequest =
      some [2, 4, 0xEF, 0xBB, 0xBF, 97] := by decide
  have own := (loops ⟨fun _ => some (Room.new 0), []⟩).ignoresOwn 0 (Room.new 0) .stateRequest _
    rfl publishes
  exact (onMessage_own_iff (Room.new 0 : Room ℕ ItemId) publishes).mp own rfl

end Broker

end CollabEditor
