import Mathlib.Algebra.Order.BigOperators.Group.Finset
import CollabEditor.Cluster.Convergence

/-!
Owns that delivering comes to an end. While the clients do nothing of their own,
every frame and every message in flight has a price that covers what handling it
puts on the sockets and on the bus, so each delivery makes the total smaller; and
as long as anything is undelivered, some delivery can be made.

Assumes what `Cluster.Deployment` does, and finitely many clients. Does not own
in which order, or how soon, anything is delivered.
-/

namespace CollabEditor

open CollabEditor.Library CollabEditor.Yjs CollabEditor.Rooms CollabEditor.Ws

universe u v

variable {Client : Type v} {Op : Type u} [DecidableEq Client] [DecidableEq Op] [Causality Op]

/-! ### What a room sends -/

namespace Rooms

/-- Calls that send every client at most one frame, which is not a state vector. -/
def Brief (effects : List (Effect Client Op)) : Prop :=
  ∀ client, framesTo client effects = [] ∨
    ∃ frame, framesTo client effects = [frame] ∧ ∀ vector, frame ≠ .sync (.step1 vector)

section

omit [DecidableEq Op] [Causality Op]

private theorem brief_of_silent {effects : List (Effect Client Op)}
    (silent : ∀ client, framesTo client effects = []) : Brief effects :=
  fun client => Or.inl (silent client)

/-- A broadcast to clients that are all different. -/
theorem brief_broadcast {effects : List (Effect Client Op)} {audience : List Client}
    (distinct : audience.Nodup) (frame : Message Op)
    (notVector : ∀ vector, frame ≠ .sync (.step1 vector))
    (sends : ∀ client, framesTo client effects =
      audience.filterMap fun receiver => if receiver = client then some frame else none) :
    Brief effects := by
  intro client
  rw [sends client]
  clear sends
  induction audience with
  | nil => exact Or.inl rfl
  | cons head tail inductionHypothesis =>
      obtain ⟨fresh, distinctTail⟩ := List.nodup_cons.mp distinct
      by_cases same : head = client
      · subst same
        have nobody : (tail.filterMap fun receiver =>
            if receiver = head then some frame else none) = [] := by
          rw [List.filterMap_eq_nil_iff]
          intro receiver member
          have different : receiver ≠ head := fun equal => fresh (equal ▸ member)
          exact if_neg different
        exact Or.inr ⟨frame, by simp [nobody], notVector⟩
      · have skipped : (if head = client then some frame else none) = none := if_neg same
        rw [List.filterMap_cons, skipped]
        exact inductionHypothesis distinctTail

private theorem Room.audience_distinct {room : Room Client Op} (distinct : room.clients.Nodup)
    (origin : Origin Client) : (room.audience origin).Nodup :=
  distinct.filter _

end

private theorem Room.brief_applyUpdate {room : Room Client Op} (distinct : room.clients.Nodup)
    (update : Update Op) (origin : Origin Client) :
    Brief (room.applyUpdate update origin).2 := by
  unfold applyUpdate
  cases room.doc.event update with
  | none => exact brief_of_silent fun _ => rfl
  | some fresh =>
      refine brief_broadcast (audience_distinct distinct origin) (.sync (.update fresh))
        (by simp) fun client => ?_
      have toSinkAndBus : framesTo client (if origin ≠ .hydrate ∧ origin ≠ .remote then
          [Effect.record fresh, Effect.publish (.update fresh)]
          else ([] : List (Effect Client Op))) = [] := by
        split <;> rfl
      simp only [framesTo] at toSinkAndBus
      simp only [framesTo, onDocUpdate, List.filterMap_append, toSinkAndBus, List.nil_append,
        List.filterMap_map]
      rfl

omit [DecidableEq Op] [Causality Op] in
private theorem Room.brief_changeAwareness {room : Room Client Op} (distinct : room.clients.Nodup)
    (changed : Awareness × AwarenessChange) (origin : Origin Client) :
    Brief (room.changeAwareness changed origin).2 := by
  unfold changeAwareness
  split
  · exact brief_of_silent fun _ => rfl
  · refine brief_broadcast (audience_distinct distinct origin)
      (.awareness (changed.1.encodeUpdate changed.2.all)) (by simp) fun client => ?_
    have toBus : ∀ payload : List AwarenessEntry, framesTo client (if origin ≠ .remote then
        [Effect.publish (.awareness payload)] else ([] : List (Effect Client Op))) = [] := by
      intro payload
      split <;> rfl
    simp only [framesTo] at toBus
    simp only [framesTo, onAwarenessUpdate, List.filterMap_append, toBus, List.nil_append,
      List.filterMap_map]
    rfl

private theorem Room.brief_receive {room : Room Client Op} (distinct : room.clients.Nodup)
    (message : BusMessage Op) : Brief (room.receive message).2 := by
  cases message with
  | update content => exact brief_applyUpdate distinct content .remote
  | awareness entries => exact brief_changeAwareness distinct _ .remote
  | stateRequest =>
      refine brief_of_silent fun client => ?_
      simp only [receive]
      split
      · rw [answerStateRequest]
        split <;> rfl
      · rfl

private theorem brief_dispatch {room : Room Client Op} (distinct : room.clients.Nodup)
    (client : Client) (frame : Message Op) : Brief (dispatch room client frame).2 := by
  cases frame with
  | sync message =>
      cases message with
      | step1 vector =>
          intro other
          by_cases same : client = other
          · refine Or.inr ⟨.sync (.step2 (room.doc.encodeStateAsUpdate vector)), ?_, by simp⟩
            simp [dispatch, Room.handleSync, framesTo, Effect.frameTo?, same]
          · exact Or.inl (by simp [dispatch, Room.handleSync, framesTo, Effect.frameTo?, same])
      | step2 update => exact Room.brief_applyUpdate distinct update _
      | update update => exact Room.brief_applyUpdate distinct update _
  | awareness entries => exact Room.brief_changeAwareness distinct _ _
  | ping =>
      intro other
      by_cases same : client = other
      · exact Or.inr ⟨.pong, by simp [dispatch, framesTo, Effect.frameTo?, same], by simp⟩
      · exact Or.inl (by simp [dispatch, framesTo, Effect.frameTo?, same])
  | pong => exact brief_of_silent fun _ => rfl
  | auth token => exact brief_of_silent fun _ => rfl

end Rooms

/-! ### Prices -/

/-- What prices depend on: how many instances there are and how many clients each
of them can have. -/
structure Tariff where
  servers : ℕ
  clients : ℕ

namespace Tariff

/-- A message that is broadcast to the clients. -/
def broadcast (tariff : Tariff) : ℕ := tariff.clients + 1

/-- A frame about to be dispatched: it is answered or broadcast, and published. -/
def queued (tariff : Tariff) : ℕ := tariff.servers * tariff.broadcast + tariff.clients + 1

def up (tariff : Tariff) : ℕ := tariff.queued + 1

/-- Only a state vector is answered. -/
def down (tariff : Tariff) : Message Op → ℕ
  | .sync (.step1 _) => tariff.up + 1
  | _ => 1

/-- Joining brings the client two frames and a replay. -/
def stage (tariff : Tariff) : Stage → ℕ
  | .unauthenticated | .joining => tariff.up + 5
  | .added => 2
  | .joined | .closed => 0

/-- A state request is answered by two messages. -/
def message (tariff : Tariff) : BusMessage Op → ℕ
  | .stateRequest => 2 * (tariff.servers * tariff.broadcast) + tariff.clients + 1
  | _ => tariff.broadcast

def frames (tariff : Tariff) : List (Message Op) → ℕ
  | [] => 0
  | frame :: rest => tariff.down frame + tariff.frames rest

def messages (tariff : Tariff) : List (BusMessage Op) → ℕ
  | [] => 0
  | message :: rest => tariff.message message + tariff.messages rest

def endpoint (tariff : Tariff) (endpoint : Endpoint Op) : ℕ :=
  endpoint.up.length * tariff.up + endpoint.queued.length * tariff.queued +
    tariff.frames endpoint.down + tariff.stage endpoint.stage

def session [Fintype Client] (tariff : Tariff) (session : Session Client Op) : ℕ :=
  (∑ client, tariff.endpoint (session.ends client)) + session.replaying.toList.length

def deployment [Fintype Client] {n : ℕ} (tariff : Tariff)
    (deployment : Deployment n Client Op) : ℕ :=
  (∑ server, tariff.session (deployment.sessions server)) +
    tariff.messages (deployment.inFlight.map Prod.snd)

/-- Replacing one of the things that are added up. -/
theorem sum_update_add {Index : Type u} {Thing : Type v} [Fintype Index] [DecidableEq Index]
    (price : Thing → ℕ) (things : Index → Thing) (index : Index) (thing : Thing) :
    (∑ other, price (Function.update things index thing other)) + price (things index) =
      (∑ other, price (things other)) + price thing := by
  have others : ∑ other ∈ Finset.univ.erase index,
      price (Function.update things index thing other) =
        ∑ other ∈ Finset.univ.erase index, price (things other) := by
    refine Finset.sum_congr rfl fun other member => ?_
    rw [Function.update_of_ne (Finset.ne_of_mem_erase member)]
  rw [← Finset.add_sum_erase _ (fun other => price (Function.update things index thing other))
    (Finset.mem_univ index), ← Finset.add_sum_erase _ (fun other => price (things other))
    (Finset.mem_univ index), others, Function.update_self]
  omega

section

omit [DecidableEq Op] [Causality Op]

@[simp] theorem frames_nil (tariff : Tariff) :
    tariff.frames ([] : List (Message Op)) = 0 := rfl

@[simp] theorem frames_cons (tariff : Tariff) (frame : Message Op) (rest : List (Message Op)) :
    tariff.frames (frame :: rest) = tariff.down frame + tariff.frames rest := rfl

@[simp] theorem frames_append (tariff : Tariff) (first second : List (Message Op)) :
    tariff.frames (first ++ second) = tariff.frames first + tariff.frames second := by
  induction first with
  | nil => simp
  | cons head tail inductionHypothesis =>
      simp only [List.cons_append, frames_cons, inductionHypothesis]
      omega

@[simp] theorem messages_nil (tariff : Tariff) :
    tariff.messages ([] : List (BusMessage Op)) = 0 := rfl

@[simp] theorem messages_cons (tariff : Tariff) (message : BusMessage Op)
    (rest : List (BusMessage Op)) :
    tariff.messages (message :: rest) = tariff.message message + tariff.messages rest := rfl

@[simp] theorem messages_append (tariff : Tariff) (first second : List (BusMessage Op)) :
    tariff.messages (first ++ second) = tariff.messages first + tariff.messages second := by
  induction first with
  | nil => simp
  | cons head tail inductionHypothesis =>
      simp only [List.cons_append, messages_cons, inductionHypothesis]
      omega

private theorem messages_perm (tariff : Tariff) {first second : List (BusMessage Op)}
    (perm : first.Perm second) : tariff.messages first = tariff.messages second := by
  induction perm with
  | nil => rfl
  | cons message _ inductionHypothesis => simp only [messages_cons, inductionHypothesis]
  | swap first second rest =>
      simp only [messages_cons]
      omega
  | trans _ _ front back => exact front.trans back

private theorem messages_replicate (tariff : Tariff) (count : ℕ) (message : BusMessage Op) :
    tariff.messages (List.replicate count message) = count * tariff.message message := by
  induction count with
  | zero => simp
  | succ count inductionHypothesis =>
      rw [List.replicate_succ, messages_cons, inductionHypothesis, Nat.succ_mul]
      omega

/-- A frame that is not a state vector costs one. -/
theorem down_eq_one (tariff : Tariff) {frame : Message Op}
    (notVector : ∀ vector, frame ≠ .sync (.step1 vector)) : tariff.down frame = 1 := by
  cases frame with
  | sync message =>
      cases message with
      | step1 vector => exact absurd rfl (notVector vector)
      | step2 update => rfl
      | update update => rfl
  | awareness entries => rfl
  | ping => rfl
  | pong => rfl
  | auth token => rfl

end

variable [Fintype Client] {tariff : Tariff}

section

omit [DecidableEq Op] [Causality Op]

private theorem session_setEnd (tariff : Tariff) (session : Session Client Op) (client : Client)
    (endpoint : Endpoint Op) :
    tariff.session (session.setEnd client endpoint) + tariff.endpoint (session.ends client) =
      tariff.session session + tariff.endpoint endpoint := by
  have sum := sum_update_add tariff.endpoint session.ends client endpoint
  simp only [Tariff.session, Session.setEnd]
  omega

/-- The frames a call puts on the sockets are added. -/
theorem session_perform (session : Session Client Op) (outcome : Outcome Client Op) :
    tariff.session (session.perform outcome) = tariff.session session +
      ∑ client, tariff.frames (framesTo client outcome.2) := by
  have each : ∀ client, tariff.endpoint ((session.perform outcome).ends client) =
      tariff.endpoint (session.ends client) + tariff.frames (framesTo client outcome.2) := by
    intro client
    simp only [Session.perform_ends, Tariff.endpoint, frames_append]
    omega
  simp only [Tariff.session, each, Finset.sum_add_distrib, Session.perform_replaying]
  omega

private theorem session_perform_le (size : tariff.clients = Fintype.card Client)
    (session : Session Client Op) {outcome : Outcome Client Op} (brief : Brief outcome.2) :
    tariff.session (session.perform outcome) ≤ tariff.session session + tariff.clients := by
  have atMostOne : ∀ client, tariff.frames (framesTo client outcome.2) ≤ 1 := by
    intro client
    rcases brief client with nothing | ⟨frame, one, notVector⟩
    · simp [nothing]
    · simp [one, tariff.down_eq_one notVector]
  have total : ∑ client, tariff.frames (framesTo client outcome.2) ≤ tariff.clients := by
    refine (Finset.sum_le_sum fun client _ => atMostOne client).trans ?_
    simp [size]
  rw [session_perform]
  omega

end

end Tariff

/-! ### What a delivery costs -/

/-- The steps that only deliver: the server takes frames and goes on with a join,
and a client handles what it is sent. -/
def Ws.Event.delivers : Event Client Op → Bool
  | .client _ .onFrame | .receive _ | .refusePresence _ | .join _ | .resume _ | .replay => true
  | _ => false

def DeploymentEvent.delivers {n : ℕ} : DeploymentEvent n Client Op → Bool
  | .runs _ event => event.delivers
  | .deliver _ => true
  | _ => false

namespace Tariff

/-- A frame a client takes pays for its answer. -/
theorem endpoint_onFrame {tariff : Tariff} {endpoint after : Endpoint Op}
    (acted : endpoint.act .onFrame = some after) :
    tariff.endpoint after < tariff.endpoint endpoint := by
  simp only [Endpoint.act] at acted
  split at acted
  · cases acted
  · cases acted
  · next frame rest waiting notAdded =>
      cases acted
      have silent : ∀ doc : Doc Op, tariff.endpoint { endpoint with doc, down := rest } <
          tariff.endpoint endpoint := by
        intro doc
        have positive : 0 < tariff.down frame := by
          unfold Tariff.down
          split <;> omega
        simp only [Tariff.endpoint, waiting, frames_cons]
        omega
      unfold Endpoint.onFrame
      split
      · next vector =>
          unfold Endpoint.send
          split
          · simp only [Tariff.endpoint, waiting, frames_cons, Tariff.down, List.length_append,
              List.length_singleton, Nat.add_mul]
            omega
          · exact silent _
      · exact silent _
      · exact silent _
      · exact silent _

/-- A dispatched frame puts at most one message on the bus, to be broadcast. -/
theorem messages_dispatch (tariff : Tariff) (room : Room Client Op) (client : Client)
    (frame : Message Op) :
    tariff.messages (published (dispatch room client frame).2) ≤ tariff.broadcast := by
  have applied : ∀ update : Update Op,
      tariff.messages (published (room.applyUpdate update (.client client)).2) ≤
        tariff.broadcast := by
    intro update
    rw [room.published_applyUpdate, if_pos (by simp)]
    cases room.doc.event update <;> simp [Tariff.message]
  cases frame with
  | sync message =>
      cases message with
      | step1 vector => exact Nat.zero_le _
      | step2 update => exact applied update
      | update update => exact applied update
  | awareness entries =>
      simp only [dispatch, Room.handleAwareness, Room.changeAwareness]
      split
      · exact Nat.zero_le _
      · have toBus : ∀ payload : List AwarenessEntry, ∀ receivers : List Client,
            published ([Effect.publish (.awareness payload)] ++
              receivers.map fun receiver => Effect.sendPresence receiver (.awareness payload)) =
                ([.awareness payload] : List (BusMessage Op)) := by
          intro payload receivers
          simp [published, Effect.published?, List.filterMap_map, Function.comp_def]
        simp only [Room.onAwarenessUpdate, ne_eq, reduceCtorEq, not_false_eq_true, if_true, toBus]
        simp [Tariff.message]
  | ping => exact Nat.zero_le _
  | pong => exact Nat.zero_le _
  | auth token => exact Nat.zero_le _

private theorem messages_receive (tariff : Tariff) (room : Room Client Op)
    (message : BusMessage Op) :
    tariff.servers * tariff.messages (published (room.receive message).2) + tariff.clients <
      tariff.message message := by
  cases message with
  | update content =>
      rw [Room.receive, room.published_applyUpdate, if_neg fun both => both.2 rfl]
      simp [Tariff.message, Tariff.broadcast]
  | awareness entries =>
      rw [Room.receive, room.changeAwareness_publishes_nothing]
      simp [Tariff.message, Tariff.broadcast]
  | stateRequest =>
      have answered : tariff.messages (published (room.receive .stateRequest).2) ≤
          2 * tariff.broadcast := by
        simp only [Room.receive]
        split
        · rw [Room.answerStateRequest]
          split
          · simp only [published, Effect.published?, Tariff.message, List.filterMap_cons,
              List.filterMap_nil, messages_cons, messages_nil]
            omega
          · simp only [published, Effect.published?, Tariff.message, List.filterMap_cons,
              List.filterMap_nil, messages_cons, messages_nil]
            omega
        · exact Nat.zero_le _
      have scaled := Nat.mul_le_mul_left tariff.servers answered
      rw [Nat.mul_left_comm] at scaled
      simp only [Tariff.message]
      omega

section Steps

variable [Fintype Client] {tariff : Tariff} {session session' : Session Client Op}

/-- Dispatching a frame costs less than it was worth while it waited. -/
theorem session_dispatch (size : tariff.clients = Fintype.card Client)
    (distinct : session.room.clients.Nodup) {client : Client} {frame : Message Op}
    {endpoint : Endpoint Op}
    (cheaper : tariff.endpoint endpoint + tariff.queued ≤
      tariff.endpoint (session.ends client)) :
    tariff.session ((session.setEnd client endpoint).perform
        (dispatch session.room client frame)) +
      tariff.servers * tariff.messages (published (dispatch session.room client frame).2) <
        tariff.session session := by
  have sent := session_perform_le size (session.setEnd client endpoint)
    (brief_dispatch distinct client frame)
  have replaced := session_setEnd tariff session client endpoint
  have onBus := Nat.mul_le_mul_left tariff.servers
    (messages_dispatch tariff session.room client frame)
  unfold Tariff.queued at cheaper
  omega

omit [DecidableEq Op] [Causality Op] in
private theorem session_setEnd_lt {client : Client} {endpoint : Endpoint Op}
    (cheaper : tariff.endpoint endpoint < tariff.endpoint (session.ends client)) :
    tariff.session (session.setEnd client endpoint) < tariff.session session := by
  have replaced := session_setEnd tariff session client endpoint
  omega

omit [DecidableEq Op] [Causality Op] in
private theorem session_setEnd_add {client : Client} {endpoint : Endpoint Op} {price : ℕ}
    (cheaper : tariff.endpoint endpoint + price = tariff.endpoint (session.ends client)) :
    tariff.session (session.setEnd client endpoint) + price = tariff.session session := by
  have replaced := session_setEnd tariff session client endpoint
  omega

private theorem session_onFrame (size : tariff.clients = Fintype.card Client)
    (distinct : session.room.clients.Nodup) {client : Client} {frame : Message Op}
    {rest : List (Message Op)} (next : (session.ends client).up = frame :: rest)
    (handled : (session.setEnd client { session.ends client with up := rest }).onFrame client
      frame = some session') :
    tariff.session session' + tariff.servers *
      tariff.messages (session.publishes (.receive client)) < tariff.session session := by
  have price : tariff.endpoint (session.ends client) = tariff.up +
      tariff.endpoint { session.ends client with up := rest } := by
    simp only [Tariff.endpoint, next, List.length_cons, Nat.add_mul, Nat.one_mul]
    omega
  have worth : tariff.up = tariff.queued + 1 := rfl
  have collapse : ∀ first second : Endpoint Op,
      (session.setEnd client first).setEnd client second = session.setEnd client second := by
    intro first second
    simp [Session.setEnd]
  have silent : (session.ends client).stage ≠ .joined →
      session.publishes (.receive client) = [] := by
    intro notJoined
    simp [Session.publishes, Session.dispatches?, notJoined]
  unfold Session.onFrame at handled
  simp only [Session.setEnd_ends_self, Session.setEnd_room] at handled
  have waits : ∀ stage : Stage, (session.ends client).stage = stage → stage ≠ .joined →
      ((if (session.ends client).queued.length < maxQueuedFrames then
        some ((session.setEnd client { session.ends client with up := rest }).setEnd client
          { session.ends client with
            up := rest, queued := (session.ends client).queued ++ [frame] })
        else some (session.setEnd client { session.ends client with up := rest })) =
          some session') →
      tariff.session session' + tariff.servers *
        tariff.messages (session.publishes (.receive client)) < tariff.session session := by
    intro stage isStage notJoined queued
    rw [silent (isStage ▸ notJoined), messages_nil, Nat.mul_zero, Nat.add_zero]
    split at queued
    · cases queued
      rw [collapse]
      refine session_setEnd_lt ?_
      rw [price]
      simp only [Tariff.endpoint, List.length_append, List.length_singleton, Nat.add_mul]
      omega
    · cases queued
      refine session_setEnd_lt ?_
      omega
  split at handled
  · next stage =>
      split at handled
      · cases handled
        rw [silent (by simp [stage]), messages_nil, Nat.mul_zero, Nat.add_zero, collapse]
        refine session_setEnd_lt ?_
        rw [price]
        simp only [Tariff.endpoint, stage, Tariff.stage]
        omega
      · cases handled
  · next stage => exact waits _ stage (by simp) handled
  · next stage => exact waits _ stage (by simp) handled
  · next stage =>
      cases handled
      have taken : session.dispatches? (.receive client) = some (client, frame) := by
        simp [Session.dispatches?, stage, next]
      have cheaper : tariff.endpoint { session.ends client with up := rest } + tariff.queued ≤
          tariff.endpoint (session.ends client) := by omega
      rw [Session.publishes_of_dispatches taken]
      exact session_dispatch size distinct cheaper
  · cases handled

/-- A join pays for the room's state vector and presence and for the replay. -/
theorem session_join {client : Client} (stage : (session.ends client).stage = .joining) :
    tariff.session ((session.setEnd client { session.ends client with stage := .added }).perform
      (session.room.add client)) < tariff.session session := by
  have toNobodyElse : ∀ other, other ≠ client →
      framesTo other (session.room.add client).2 = [] := by
    intro other different
    by_cases nobody : session.room.awareness.states.keys = []
    · simp [Room.add, nobody, framesTo, Effect.frameTo?, different.symm]
    · simp [Room.add, nobody, framesTo, Effect.frameTo?, different.symm]
  have toClient : tariff.frames (framesTo client (session.room.add client).2) ≤
      tariff.up + 2 := by
    by_cases nobody : session.room.awareness.states.keys = []
    · simp [Room.add, nobody, framesTo, Effect.frameTo?, Tariff.down]
    · simp [Room.add, nobody, framesTo, Effect.frameTo?, Tariff.down]
  have replaced := session_setEnd tariff session client
    { session.ends client with stage := .added }
  have price : tariff.endpoint { session.ends client with stage := .added } + (tariff.up + 3) =
      tariff.endpoint (session.ends client) := by
    simp only [Tariff.endpoint, stage, Tariff.stage]
    omega
  rw [session_perform, Finset.sum_eq_single client]
  · omega
  · intro other _ different
    rw [toNobodyElse other different, frames_nil]
  · exact fun absent => absurd (Finset.mem_univ client) absent

private theorem session_lt_of_serve (size : tariff.clients = Fintype.card Client)
    (distinct : session.room.clients.Nodup) {event : Event Client Op}
    (delivers : event.delivers = true) (idle : session.replaying = none)
    (served : session.serve event = some session') :
    tariff.session session' + tariff.servers * tariff.messages (session.publishes event) <
      tariff.session session := by
  cases event with
  | client actor action => cases served
  | replay => cases served
  | close actor => cases delivers
  | bus message => cases delivers
  | expirePresence ids => cases delivers
  | receive actor =>
      simp only [Session.serve] at served
      split at served
      · cases served
      · next frame rest next => exact session_onFrame size distinct next served
  | refusePresence actor =>
      simp only [Session.serve] at served
      split at served
      · next entries rest next =>
          split at served
          · cases served
          · cases served
            refine session_setEnd_lt ?_
            simp only [Tariff.endpoint, next, List.length_cons, Nat.add_mul, Nat.one_mul]
            have worth : tariff.up = tariff.queued + 1 := rfl
            omega
      · cases served
  | join actor =>
      simp only [Session.serve] at served
      split at served
      · next stage =>
          cases served
          exact session_join stage
      · cases served
  | resume actor =>
      simp only [Session.serve] at served
      split at served
      · next stage =>
          cases served
          have price : tariff.endpoint { session.ends actor with stage := .joined } + 2 =
              tariff.endpoint (session.ends actor) := by
            simp only [Tariff.endpoint, stage, Tariff.stage]
          have paid := session_setEnd_add price
          have published : session.publishes (.resume actor) = [] := rfl
          rw [published, messages_nil]
          simp only [Tariff.session, Session.setEnd_replaying, idle] at paid ⊢
          exact Nat.lt_of_succ_le (Nat.le_of_eq paid)
      · cases served

private theorem session_replay (size : tariff.clients = Fintype.card Client)
    (distinct : session.room.clients.Nodup) {client : Client}
    (replaying : session.replaying = some client) :
    tariff.session (session.replay client) +
      tariff.servers * tariff.messages (session.publishes .replay) < tariff.session session := by
  unfold Session.replay
  split
  · next empty =>
      have nothing : session.publishes .replay = [] := by
        simp [Session.publishes, Session.dispatches?, replaying, empty]
      simp [nothing, Tariff.session, replaying]
  · next frame rest queue =>
      have taken : session.dispatches? .replay = some (client, frame) := by
        simp [Session.dispatches?, replaying, queue]
      have cheaper : tariff.endpoint { session.ends client with queued := rest } +
          tariff.queued ≤ tariff.endpoint (session.ends client) := by
        simp only [Tariff.endpoint, queue, List.length_cons, Nat.add_mul, Nat.one_mul]
        omega
      rw [Session.publishes_of_dispatches taken]
      exact session_dispatch size distinct cheaper

/-- A step that only delivers costs less than what it delivers was worth. -/
theorem session_lt_of_step (size : tariff.clients = Fintype.card Client)
    (distinct : session.room.clients.Nodup) {event : Event Client Op}
    (delivers : event.delivers = true) (stepped : session.step event = some session') :
    tariff.session session' + tariff.servers * tariff.messages (session.publishes event) <
      tariff.session session := by
  rcases Session.step_cases stepped with ⟨client, action, endpoint, rfl, acted, rfl⟩ |
    ⟨client, rfl, replaying, rfl⟩ | ⟨idle, served⟩
  · cases action with
    | onFrame => exact session_setEnd_lt (endpoint_onFrame acted)
    | onopen token presence => cases delivers
    | edit update => cases delivers
    | announce entries => cases delivers
    | ping => cases delivers
  · exact session_replay size distinct replaying
  · exact session_lt_of_serve size distinct delivers idle served

/-- So does a message that arrives. -/
theorem session_bus (size : tariff.clients = Fintype.card Client)
    (distinct : session.room.clients.Nodup) {message : BusMessage Op}
    (stepped : session.step (.bus message) = some session') :
    tariff.session session' +
      tariff.servers * tariff.messages (session.publishes (.bus message)) <
        tariff.session session + tariff.message message := by
  rcases Session.step_cases stepped with ⟨client, action, endpoint, isClient, -⟩ |
    ⟨client, isReplay, -⟩ | ⟨-, served⟩
  · cases isClient
  · cases isReplay
  · cases served
    have sent := session_perform_le size session (Room.brief_receive distinct message)
    have answered := messages_receive tariff session.room message
    simp only [Session.publishes]
    omega

end Steps

end Tariff

/-! ### The whole -/

namespace Deployment

variable {n : ℕ}

/-- A step that delivers something and does nothing else. -/
def settle (deployment : Deployment n Client Op) (event : DeploymentEvent n Client Op) :
    Option (Deployment n Client Op) :=
  if event.delivers then deployment.step event else none

/-- Nothing is on its way, and every open socket has joined and is drained. -/
def Quiet (deployment : Deployment n Client Op) : Prop :=
  deployment.inFlight = [] ∧ ∀ socket, (deployment.endpoint socket).opened = true →
    (deployment.endpoint socket).Drained ∧ (deployment.endpoint socket).stage = .joined

/-- What makes deliveries possible and bounds what they cost. -/
structure Deliverable (deployment : Deployment n Client Op) : Prop where
  sound : ∀ server, (deployment.sessions server).Sound
  distinct : ∀ server, (deployment.sessions server).room.clients.Nodup

omit [DecidableEq Client] [Causality Op] in
private theorem deliverable_initial {deployment : Deployment n Client Op}
    (initial : deployment.Initial) : deployment.Deliverable where
  sound server := Session.sound_initial (initial.1 server)
  distinct server := by
    rw [(initial.1 server).1]
    exact List.nodup_nil

private theorem Handles.deliverable {before after : Deployment n Client Op} {server : Fin n}
    {event : Event Client Op} (handles : Handles before after server event)
    (sound : ∀ other, (before.sessions other).Sound)
    (distinct : ∀ other, (before.sessions other).room.clients.Nodup) : after.Deliverable where
  sound other := by
    by_cases here : other = server
    · subst here
      exact Session.sound_step (sound other) handles.stepped
    · rw [handles.others other here]
      exact sound other
  distinct other := by
    by_cases here : other = server
    · subst here
      exact (Session.calls_of_step handles.stepped).distinct (distinct other)
    · rw [handles.others other here]
      exact distinct other

private theorem Deliverable.step {before after : Deployment n Client Op}
    (deliverable : before.Deliverable) {event : DeploymentEvent n Client Op}
    (stepped : before.step event = some after) : after.Deliverable := by
  cases acts_of_step stepped with
  | runs server event notBus handles =>
      exact handles.deliverable deliverable.sound deliverable.distinct
  | requests server result =>
      subst result
      exact ⟨deliverable.sound, deliverable.distinct⟩
  | delivers index receiver message found handles =>
      exact handles.deliverable deliverable.sound deliverable.distinct
  | reconnects lost next closed stage result =>
      subst result
      constructor
      · intro server
        by_cases here : server = next.1
        · subst here
          simp only [Function.update_self]
          exact sound_withDoc (deliverable.sound next.1) closed stage _
        · simp only [Function.update_of_ne here]
          exact deliverable.sound server
      · intro server
        by_cases here : server = next.1
        · subst here
          simp only [Function.update_self]
          exact deliverable.distinct next.1
        · simp only [Function.update_of_ne here]
          exact deliverable.distinct server

section Prices

variable [Fintype Client] {tariff : Tariff}

omit [DecidableEq Op] [Causality Op] in
private theorem messages_copies (size : tariff.servers = n) (server : Fin n)
    (published : List (BusMessage Op)) :
    tariff.messages ((published.flatMap (copies server)).map Prod.snd) ≤
      tariff.servers * tariff.messages published := by
  have each : ∀ message : BusMessage Op,
      tariff.messages ((copies server message).map Prod.snd) ≤
        tariff.servers * tariff.message message := by
    intro message
    have replicated : (copies server message).map Prod.snd =
        List.replicate (copies server message).length message := by
      simp [copies, List.map_const', Function.comp_def]
    have few : (copies server message).length ≤ tariff.servers := by
      rw [copies, List.length_map, size]
      exact (List.length_filter_le _ _).trans (List.length_finRange).le
    rw [replicated, Tariff.messages_replicate]
    exact Nat.mul_le_mul_right _ few
  induction published with
  | nil => simp
  | cons head tail inductionHypothesis =>
      rw [List.flatMap_cons, List.map_append, Tariff.messages_append, Tariff.messages_cons,
        Nat.mul_add]
      exact Nat.add_le_add (each head) inductionHypothesis

/-- What handling an event costs the whole is what it costs the instance and the
copies it publishes. -/
theorem Handles.price {before after : Deployment n Client Op} {server : Fin n}
    {event : Event Client Op} (handles : Handles before after server event)
    (size : tariff.servers = n) :
    tariff.deployment after + tariff.session (before.sessions server) ≤
      tariff.deployment before + tariff.session (after.sessions server) +
        tariff.servers * tariff.messages ((before.sessions server).publishes event) := by
  have replaced := Tariff.sum_update_add tariff.session before.sessions server
    (after.sessions server)
  have sessions : after.sessions =
      Function.update before.sessions server (after.sessions server) := by
    funext other
    by_cases here : other = server
    · subst here
      rw [Function.update_self]
    · rw [Function.update_of_ne here, handles.others other here]
  have onBus := messages_copies size server ((before.sessions server).publishes event)
  rw [← sessions] at replaced
  simp only [Tariff.deployment, handles.inFlight, List.map_append, Tariff.messages_append]
  omega

omit [DecidableEq Op] [Causality Op] in
/-- Taking a copy out of those in flight. -/
theorem messages_eraseIdx (tariff : Tariff) {inFlight : List (Fin n × BusMessage Op)} {index : ℕ}
    {copy : Fin n × BusMessage Op} (found : inFlight[index]? = some copy) :
    tariff.messages (inFlight.map Prod.snd) = tariff.message copy.2 +
      tariff.messages ((inFlight.eraseIdx index).map Prod.snd) := by
  obtain ⟨inside, rfl⟩ := List.getElem?_eq_some_iff.mp found
  have perm := (List.getElem_cons_eraseIdx_perm inside).map Prod.snd
  exact (tariff.messages_perm perm).symm

/-- Every delivery makes what is left to deliver smaller. -/
theorem price_of_settle (servers : tariff.servers = n)
    (clients : tariff.clients = Fintype.card Client) {before after : Deployment n Client Op}
    (deliverable : before.Deliverable) {event : DeploymentEvent n Client Op}
    (settled : before.settle event = some after) :
    tariff.deployment after < tariff.deployment before := by
  unfold settle at settled
  split at settled
  · next delivers =>
      cases acts_of_step settled with
      | runs server event notBus handles =>
          have paid := Tariff.session_lt_of_step clients
            (deliverable.distinct server) delivers handles.stepped
          have whole := handles.price servers
          omega
      | requests server result => cases delivers
      | delivers index receiver message found handles =>
          have paid := Tariff.session_bus clients
            (deliverable.distinct receiver) handles.stepped
          have whole := handles.price servers
          have taken := messages_eraseIdx tariff found
          dsimp only at taken
          simp only [Tariff.deployment] at whole ⊢
          omega
      | reconnects lost next closed stage result => cases delivers
  · cases settled

end Prices

/-! ### Until nothing is on its way -/

private theorem settle_runs {deployment : Deployment n Client Op} {server : Fin n}
    {event : Event Client Op} (delivers : event.delivers = true)
    (enabled : ((deployment.sessions server).step event).isSome) :
    (deployment.settle (.runs server event)).isSome := by
  have isHandled : deployment.step (.runs server event) = deployment.handle server event := by
    cases event with
    | bus message => cases delivers
    | client actor action => rfl
    | receive actor => rfl
    | refusePresence actor => rfl
    | join actor => rfl
    | resume actor => rfl
    | replay => rfl
    | close actor => rfl
    | expirePresence ids => rfl
  rw [settle, DeploymentEvent.delivers, if_pos delivers, isHandled, handle, Option.isSome_map]
  exact enabled

/-- A socket that is open and not drained can be served. -/
theorem receive_isSome {session : Session Client Op} (sound : session.Sound)
    (idle : session.replaying = none) {client : Client}
    (opened : (session.ends client).opened = true) (undrained : ¬ (session.ends client).Drained) :
    ∃ event : Event Client Op, event.delivers = true ∧ (session.step event).isSome := by
  have linked := sound.2 client
  have serves : ∀ event : Event Client Op, event ≠ .replay →
      (∀ actor action, event ≠ .client actor action) →
        session.step event = session.serve event := by
    intro event notReplay notClient
    unfold Session.step
    split
    · next actor action => exact absurd rfl (notClient actor action)
    · next actor replaying => exact absurd rfl notReplay
    · rfl
    · next replaying => simp [idle] at replaying
  cases stage : (session.ends client).stage with
  | unauthenticated =>
      obtain ⟨-, token, vector, rest, -, up⟩ := linked.token opened stage
      refine ⟨.receive client, rfl, ?_⟩
      rw [serves (.receive client) (by simp) (by simp), Session.serve, up]
      simp [Session.onFrame, stage]
  | joining =>
      refine ⟨.join client, rfl, ?_⟩
      rw [serves (.join client) (by simp) (by simp), Session.serve, if_pos stage]
      rfl
  | added =>
      refine ⟨.resume client, rfl, ?_⟩
      rw [serves (.resume client) (by simp) (by simp), Session.serve, if_pos stage]
      rfl
  | closed => simp [linked.closed stage] at opened
  | joined =>
      have noQueue : (session.ends client).queued = [] :=
        sound.1.2 client stage (by simp [idle])
      cases up : (session.ends client).up with
      | cons frame rest =>
          refine ⟨.receive client, rfl, ?_⟩
          rw [serves (.receive client) (by simp) (by simp), Session.serve, up]
          simp [Session.onFrame, stage]
      | nil =>
          cases down : (session.ends client).down with
          | nil => exact absurd ⟨opened, up, down, noQueue⟩ undrained
          | cons frame rest =>
              refine ⟨.client client .onFrame, rfl, ?_⟩
              simp [Session.step, Endpoint.act, stage, down]

private theorem settle_enabled {deployment : Deployment n Client Op}
    (deliverable : deployment.Deliverable) (notQuiet : ¬ deployment.Quiet) :
    ∃ event, (deployment.settle event).isSome := by
  by_cases replays : ∃ server, (deployment.sessions server).replaying.isSome
  · obtain ⟨server, isReplaying⟩ := replays
    obtain ⟨client, replaying⟩ := Option.isSome_iff_exists.mp isReplaying
    refine ⟨.runs server .replay, settle_runs rfl ?_⟩
    simp [Session.step, replaying]
  · have idle : ∀ server, (deployment.sessions server).replaying = none := fun server =>
      Option.not_isSome_iff_eq_none.mp fun isReplaying => replays ⟨server, isReplaying⟩
    cases inFlight : deployment.inFlight with
    | cons copy rest =>
        refine ⟨.deliver 0, ?_⟩
        simp [settle, DeploymentEvent.delivers, step, inFlight, handle, Session.step, idle,
          Session.serve]
    | nil =>
        have waiting : ∃ socket, (deployment.endpoint socket).opened = true ∧
            ¬ (deployment.endpoint socket).Drained := by
          by_contra none
          refine notQuiet ⟨inFlight, fun socket opened => ?_⟩
          have drained : (deployment.endpoint socket).Drained := by
            by_contra undrained
            exact none ⟨socket, opened, undrained⟩
          exact ⟨drained, ((deliverable.sound socket.1).2 socket.2).joined_of_drained drained⟩
        obtain ⟨⟨server, client⟩, opened, undrained⟩ := waiting
        obtain ⟨event, delivers, enabled⟩ :=
          receive_isSome (deliverable.sound server) (idle server) opened undrained
        exact ⟨.runs server event, settle_runs delivers enabled⟩

/-- From any state that can be reached, whatever is delivered in whatever order,
in the end nothing is on its way and every open socket has joined its room. -/
theorem delivery_inevitable [Fintype Client] {deployment : Deployment n Client Op}
    (reached : Reached step Initial deployment) : Inevitable settle Quiet deployment := by
  have deliverable : deployment.Deliverable :=
    reached.invariant Deliverable (fun start initial => deliverable_initial initial)
      fun _ _ _ deliverable _ stepped => deliverable.step stepped
  have preserved : ∀ (before : Deployment n Client Op) event (after : Deployment n Client Op),
      before.Deliverable → before.settle event = some after → after.Deliverable := by
    intro before event after deliverable settled
    unfold settle at settled
    split at settled
    · exact deliverable.step settled
    · cases settled
  let tariff : Tariff := ⟨n, Fintype.card Client⟩
  exact inevitable_of_decreases_on Deliverable tariff.deployment preserved
    (fun _ _ _ deliverable settled => price_of_settle rfl rfl deliverable settled)
    (fun _ deliverable notQuiet => settle_enabled deliverable notQuiet) deliverable

/-- Two clients have just opened their sockets on two instances. -/
theorem delivery_inevitable_after_opening :
    ∃ deployment : Deployment 2 Bool ItemId, (deployment.endpoint (0, true)).up ≠ [] ∧
      Inevitable settle Quiet deployment := by
  obtain ⟨deployment, reached, waiting⟩ := exists_reachedWhen_of_runWhen step (fun _ _ => True)
    Initial (⟨fun _ => Session.start Doc.empty fun _ => ⟨{⟨7, 0⟩}⟩, []⟩ :
      Deployment 2 Bool ItemId)
    [.runs 0 (.client true (.onopen "token" none)),
      .runs 1 (.client false (.onopen "token" none)), .requestState 1]
    (fun deployment => (deployment.endpoint (0, true)).up ≠ [])
    ⟨fun _ => Session.start_initial _ _, rfl, fun _ _ => rfl⟩ (by decide)
  exact ⟨deployment, waiting, delivery_inevitable reached⟩

end Deployment

end CollabEditor
