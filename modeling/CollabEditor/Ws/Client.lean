import CollabEditor.Ws.Connection

/-!
Owns `ws/client.ts`: the two policies for a send buffer that fills up, and what
they let through of the frames a client cannot be allowed to miss.
-/

set_option autoImplicit false

namespace CollabEditor.Ws

open CollabEditor.Protocol

universe u

/-- `config.backpressure`. -/
structure Backpressure where
  softBytes : ℤ
  hardBytes : ℤ

/-- The defaults. -/
def Backpressure.default : Backpressure := ⟨256 * 1024, 4 * 1024 * 1024⟩

/-- A frame the socket was given, by the method that gave it. -/
inductive Outgoing (Frame : Type u) where
  | document (frame : Frame)
  | presence (frame : Frame)
deriving DecidableEq

/-- The frame, if it was passed to `send`. -/
def Outgoing.document? {Frame : Type u} : Outgoing Frame → Option Frame
  | .document frame => some frame
  | .presence _ => none

/-- `Client`, with the part of its socket that it reads and writes. -/
structure Client (Frame : Type u) where
  readyState : ReadyState
  bufferedAmount : ℕ
  /-- The frames `socket.send` was called with. -/
  sent : List (Outgoing Frame)
  /-- The codes and reasons `socket.close` was called with. -/
  closes : List (CloseCode × String)
  droppedPresence : ℕ
  warnedSlow : Bool
deriving DecidableEq

/-- A call of the client's methods, or a change of its socket. -/
inductive ClientEvent (Frame : Type u) where
  | send (frame : Frame)
  | sendPresence (frame : Frame)
  | close (code : CloseCode) (reason : String)
  | buffers (amount : ℕ)
  /-- The peer or the network closes the socket. -/
  | socketCloses
  | socketClosed

/-- The frame, if it is passed to `send`. -/
def ClientEvent.passed? {Frame : Type u} : ClientEvent Frame → Option Frame
  | .send frame => some frame
  | _ => none

variable {Frame : Type u}

namespace Client

/-- `new Client(socket, ..)`. -/
def new (readyState : ReadyState) (bufferedAmount : ℕ) : Client Frame where
  readyState := readyState
  bufferedAmount := bufferedAmount
  sent := []
  closes := []
  droppedPresence := 0
  warnedSlow := false

/-- The socket starts closing unless it already has. -/
def closing (client : Client Frame) : Client Frame :=
  if client.readyState = .isOpen then { client with readyState := .closing } else client

/-- `close`. -/
def close (client : Client Frame) (code : CloseCode) (reason : String) : Client Frame :=
  { client.closing with closes := client.closes ++ [(code, reason)] }

/-- `send`. -/
def send (config : Backpressure) (client : Client Frame) (frame : Frame) : Client Frame :=
  if client.readyState ≠ .isOpen then client
  else if client.bufferedAmount > config.hardBytes then client.close .backpressure "too far behind"
  else { client with sent := client.sent ++ [.document frame] }

/-- `sendPresence`. -/
def sendPresence (config : Backpressure) (client : Client Frame) (frame : Frame) : Client Frame :=
  if client.readyState ≠ .isOpen then client
  else if client.bufferedAmount > config.softBytes then
    { client with droppedPresence := client.droppedPresence + 1, warnedSlow := true }
  else { client with sent := client.sent ++ [.presence frame] }

def step (config : Backpressure) (client : Client Frame) : ClientEvent Frame → Client Frame
  | .send frame => client.send config frame
  | .sendPresence frame => client.sendPresence config frame
  | .close code reason => client.close code reason
  | .buffers amount => { client with bufferedAmount := amount }
  | .socketCloses => client.closing
  | .socketClosed => { client with readyState := .closed }

def run (config : Backpressure) (client : Client Frame) (events : List (ClientEvent Frame)) :
    Client Frame :=
  events.foldl (step config) client

/-- The frames passed to `send` that reached the socket. -/
def documents (client : Client Frame) : List Frame := client.sent.filterMap Outgoing.document?

end Client

/-- The frames passed to `send`. -/
def passed (events : List (ClientEvent Frame)) : List Frame :=
  events.filterMap ClientEvent.passed?

namespace Client

variable {config : Backpressure} {client : Client Frame}

/-! ### What a step can do to the documents -/

private theorem closing_readyState : client.closing.readyState ≠ .isOpen := by
  unfold closing
  split
  · exact fun same => by cases same
  · next notOpen => exact notOpen

private theorem closing_sent : client.closing.sent = client.sent := by
  unfold closing
  split <;> rfl

/-- A frame passed to `send` is added to the end of what the socket got, or the
socket is not open afterwards. -/
theorem send_cases (config : Backpressure) (client : Client Frame) (frame : Frame) :
    (client.readyState = .isOpen ∧
      client.send config frame = { client with sent := client.sent ++ [.document frame] }) ∨
    ((client.send config frame).sent = client.sent ∧
      (client.send config frame).readyState ≠ .isOpen) := by
  unfold send
  split
  · next notOpen => exact Or.inr ⟨rfl, notOpen⟩
  · next isOpen =>
      split
      · exact Or.inr ⟨closing_sent, closing_readyState⟩
      · exact Or.inl ⟨not_not.mp isOpen, rfl⟩

private theorem sendPresence_keeps (config : Backpressure) (client : Client Frame) (frame : Frame) :
    (client.sendPresence config frame).documents = client.documents ∧
      (client.sendPresence config frame).readyState = client.readyState := by
  unfold sendPresence
  split
  · exact ⟨rfl, rfl⟩
  · split
    · exact ⟨rfl, rfl⟩
    · refine ⟨?_, rfl⟩
      unfold documents
      dsimp only
      rw [List.filterMap_append]
      exact List.append_nil _

private theorem documents_of_sent {other : Client Frame} (same : other.sent = client.sent) :
    other.documents = client.documents := by
  rw [documents, same, documents]

/-- A step that is no `send` leaves the documents alone, and opens no socket. -/
theorem step_keeps {event : ClientEvent Frame} (other : ∀ frame, event ≠ .send frame) :
    (client.step config event).documents = client.documents ∧
      ((client.step config event).readyState = .isOpen → client.readyState = .isOpen) := by
  cases event with
  | send frame => exact absurd rfl (other frame)
  | sendPresence frame =>
      obtain ⟨documents, readyState⟩ := client.sendPresence_keeps config frame
      exact ⟨documents, fun isOpen => readyState.symm.trans isOpen⟩
  | close code reason =>
      exact ⟨documents_of_sent closing_sent, fun isOpen => absurd isOpen closing_readyState⟩
  | buffers amount => exact ⟨rfl, id⟩
  | socketCloses =>
      exact ⟨documents_of_sent closing_sent, fun isOpen => absurd isOpen closing_readyState⟩
  | socketClosed => exact ⟨rfl, fun isOpen => by cases isOpen⟩

/-- No step opens a socket. -/
theorem step_not_open {event : ClientEvent Frame} (notOpen : client.readyState ≠ .isOpen) :
    (client.step config event).readyState ≠ .isOpen := by
  by_cases sends : ∃ frame, event = .send frame
  · obtain ⟨frame, rfl⟩ := sends
    rcases client.send_cases config frame with ⟨isOpen, -⟩ | ⟨-, stillClosed⟩
    · exact absurd isOpen notOpen
    · exact stillClosed
  · intro isOpen
    exact notOpen ((step_keeps fun frame same => sends ⟨frame, same⟩).2 isOpen)

private theorem run_not_open (events : List (ClientEvent Frame))
    (notOpen : client.readyState ≠ .isOpen) :
    (client.run config events).readyState ≠ .isOpen := by
  induction events generalizing client with
  | nil => exact notOpen
  | cons event rest inductionHypothesis => exact inductionHypothesis (step_not_open notOpen)

/-! ### Runs -/

/-- The socket has got the first of some frames, and all of them if it is still
open. -/
structure Gapless (client : Client Frame) (frames : List Frame) : Prop where
  first : client.documents <+: frames
  whole : client.readyState = .isOpen → client.documents = frames

private theorem gapless_step {frames : List Frame} (gapless : client.Gapless frames)
    (event : ClientEvent Frame) :
    (client.step config event).Gapless (frames ++ passed [event]) := by
  by_cases sends : ∃ frame, event = .send frame
  · obtain ⟨frame, rfl⟩ := sends
    show (client.send config frame).Gapless (frames ++ [frame])
    rcases client.send_cases config frame with ⟨isOpen, added⟩ | ⟨same, notOpen⟩
    · have longer : (client.send config frame).documents = frames ++ [frame] := by
        rw [added, documents, List.filterMap_append]
        exact congrArg (· ++ [frame]) (gapless.whole isOpen)
      exact ⟨by rw [longer], fun _ => longer⟩
    · refine ⟨?_, fun isOpen => absurd isOpen notOpen⟩
      rw [documents_of_sent same]
      exact gapless.first.trans (List.prefix_append frames [frame])
  · have other : ∀ frame, event ≠ .send frame := fun frame same => sends ⟨frame, same⟩
    have nothing : passed [event] = [] := by
      cases event with
      | send frame => exact absurd rfl (other frame)
      | _ => rfl
    obtain ⟨documents, isOpen⟩ := @step_keeps Frame config client event other
    rw [nothing, List.append_nil]
    exact ⟨documents.symm ▸ gapless.first, fun stillOpen =>
      documents.trans (gapless.whole (isOpen stillOpen))⟩

private theorem gapless_run {frames : List Frame} (gapless : client.Gapless frames)
    (events : List (ClientEvent Frame)) :
    (client.run config events).Gapless (frames ++ passed events) := by
  induction events generalizing client frames with
  | nil =>
      rw [show passed ([] : List (ClientEvent Frame)) = [] from rfl, List.append_nil]
      exact gapless
  | cons event rest inductionHypothesis =>
      have later := inductionHypothesis (@gapless_step Frame config client frames gapless event)
      rw [List.append_assoc, passed, passed, ← List.filterMap_append] at later
      exact later

private theorem run_append (config : Backpressure) (client : Client Frame)
    (front back : List (ClientEvent Frame)) :
    client.run config (front ++ back) = (client.run config front).run config back :=
  List.foldl_append

/-- What reaches the socket of the frames passed to `send` has no gap: it is how
they begin, and once one of them is withheld the socket is not open any more. -/
theorem documents_gap_free (config : Backpressure) (readyState : ReadyState)
    (bufferedAmount : ℕ) (events : List (ClientEvent Frame)) :
    ((new readyState bufferedAmount).run config events).documents <+: passed events ∧
    ∀ before frame after, events = before ++ .send frame :: after →
      ((new readyState bufferedAmount).run config (before ++ [.send frame])).documents =
        ((new readyState bufferedAmount).run config before).documents →
      ∀ later, later <+: after →
        ((new readyState bufferedAmount).run config (before ++ .send frame :: later)).readyState ≠
          .isOpen := by
  have fresh : (new readyState bufferedAmount : Client Frame).Gapless [] :=
    ⟨List.nil_prefix, fun _ => rfl⟩
  refine ⟨(gapless_run fresh events).first, ?_⟩
  rintro before frame after - withheld later -
  have notOpen : ((new readyState bufferedAmount).run config (before ++ [.send frame])).readyState ≠
      .isOpen := by
    rw [run_append] at withheld ⊢
    rcases send_cases config ((new readyState bufferedAmount).run config before) frame with
      ⟨-, added⟩ | ⟨-, notOpen⟩
    · change documents (send config _ frame) = _ at withheld
      rw [added, documents, documents, List.filterMap_append] at withheld
      exact absurd (congrArg List.length withheld) (by simp [Outgoing.document?])
    · exact notOpen
  rw [List.append_cons, run_append]
  exact run_not_open later notOpen

example : ((new .isOpen 0).run .default [.send 1, .buffers 300000, .sendPresence 2, .send 3,
    .buffers 5000000, .send 4, .buffers 0, .send 5]).sent = [.document 1, .document 3] := by
  decide

end Client

end CollabEditor.Ws
