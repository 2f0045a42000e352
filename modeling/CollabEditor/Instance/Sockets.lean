import CollabEditor.Instance.Maps

/-!
Owns what an event of a slot does to its connections.
-/

namespace CollabEditor.Instance

open CollabEditor.Library CollabEditor.Yjs CollabEditor.Persistence CollabEditor.Rooms

universe u v w

variable {Conn : Type v} {Op : Type u} {Entry : Type w} [DecidableEq Conn]

namespace Slot

private theorem connections_leave [DecidableEq Op] (setup : Setup Op Entry)
    (slot : Slot Conn Op Entry)
    (room : ℕ) (conn : Conn) : (slot.leave setup room conn).connections = slot.connections := by
  unfold leave
  dsimp only
  split
  · split <;> rfl
  · rfl

private theorem connections_setConnection (slot : Slot Conn Op Entry) (conn other : Conn)
    (connection : Connection) : (slot.setConnection conn connection).connections other =
      if other = conn then some connection else slot.connections other :=
  Function.update_apply slot.connections conn (some connection) other

/-- A connection whose stage may have been set. -/
theorem connections_setStage {slot : Slot Conn Op Entry} {conns : List Conn}
    {stage : JoinStage} {conn : Conn} {connection' : Connection}
    (found' : (slot.setStage conns stage).connections conn = some connection') :
    ∃ connection, slot.connections conn = some connection ∧ (connection' = connection ∨
      conn ∈ conns ∧ connection' = { connection with stage := stage }) := by
  unfold setStage at found'
  dsimp only at found'
  split at found'
  · next member =>
      obtain ⟨connection, found, rfl⟩ := Option.map_eq_some_iff.mp found'
      exact ⟨connection, found, Or.inr ⟨member, rfl⟩⟩
  · exact ⟨connection', found', Or.inl rfl⟩

/-- How an event changes a connection: a closed socket stays closed, and its
connection does not join. -/
structure Follows (event : SlotEvent Conn Op) (conn : Conn)
    (connection connection' : Connection) : Prop where
  stays : connection.readyState = .closed → connection'.readyState = .closed
  closes : event = .socketClosed conn → connection'.readyState = .closed
  joins : connection'.readyState = .closed → ∀ room, connection'.stage = .joined room →
    connection = connection'

omit [DecidableEq Conn] in
private theorem Follows.refl {event : SlotEvent Conn Op} {conn : Conn} (connection : Connection)
    (notClosed : event ≠ .socketClosed conn) : Follows event conn connection connection :=
  ⟨id, fun isClosed => absurd isClosed notClosed, fun _ _ _ => rfl⟩

/-- What `setStage` does to a connection that does not get to join. -/
theorem follows_of_setStage {before slot : Slot Conn Op Entry} {event : SlotEvent Conn Op}
    {conn : Conn} {conns : List Conn} {stage : JoinStage} {connection' : Connection}
    (same : slot.connections = before.connections) (notClosed : event ≠ .socketClosed conn)
    (outside : ∀ room, stage ≠ .joined room)
    (found' : (slot.setStage conns stage).connections conn = some connection') :
    ∃ connection, before.connections conn = some connection ∧
      Follows event conn connection connection' := by
  obtain ⟨connection, found, rfl | ⟨-, rfl⟩⟩ := connections_setStage found'
  · exact ⟨connection', same ▸ found, .refl connection' notClosed⟩
  · exact ⟨connection, same ▸ found, id, fun isClosed => absurd isClosed notClosed,
      fun _ room joined => absurd joined (outside room)⟩

theorem connection_of_step [DecidableEq Op] [Causality Op] {setup : Setup Op Entry}
    {before after : Slot Conn Op Entry}
    {event : SlotEvent Conn Op} (stepped : before.step setup event = some after) {conn : Conn}
    {connection' : Connection} (found' : after.connections conn = some connection') :
    event = .connect conn ∧ connection'.stage = .unauthenticated ∨
    ∃ connection, before.connections conn = some connection ∧
      Follows event conn connection connection' := by
  have closed : ∀ {other : Conn} {ready : ReadyState} {was stage : JoinStage},
      before.connections other = some ⟨ready, was⟩ → (∀ room, stage ≠ .joined room) →
      (before.setConnection other ⟨.closed, stage⟩).connections conn = some connection' →
      ∃ connection, before.connections conn = some connection ∧
        Follows (.socketClosed other : SlotEvent Conn Op) conn connection connection' := by
    intro other ready was stage found outside found'
    rw [connections_setConnection] at found'
    split at found'
    · next same =>
        subst same
        cases found'
        exact ⟨_, found, fun _ => rfl, fun _ => rfl,
          fun _ room joined => absurd joined (outside room)⟩
    · next different =>
        exact ⟨connection', found', .refl connection'
          fun isClosed => different (SlotEvent.socketClosed.inj isClosed).symm⟩
  cases fires_of_step stepped with
  | connects other absent =>
      rw [connections_setConnection] at found'
      split at found'
      · next same =>
          cases found'
          exact Or.inl ⟨congrArg SlotEvent.connect same.symm, rfl⟩
      · exact Or.inr ⟨connection', found', .refl connection' (by simp)⟩
  | closing other stage found =>
      rw [connections_setConnection] at found'
      split at found'
      · next same =>
          subst same
          cases found'
          exact Or.inr ⟨_, found, by simp, by simp, by simp⟩
      · exact Or.inr ⟨connection', found', .refl connection' (by simp)⟩
  | departs other ready room found isOpen =>
      rw [connections_leave] at found'
      exact Or.inr (closed found (by simp) found')
  | closes other ready stage found isOpen outside => exact Or.inr (closed found outside found')
  | withdraws other ready room found gone =>
      rw [connections_leave] at found'
      exact Or.inr (follows_of_setStage rfl (by simp) (by simp) found')
  | proceeds other room found =>
      obtain ⟨connection, was, rfl | ⟨member, rfl⟩⟩ := connections_setStage found'
      · exact Or.inr ⟨connection', was, .refl connection' (by simp)⟩
      · obtain rfl := List.mem_singleton.mp member
        obtain rfl := Option.some.inj (found.symm.trans was)
        exact Or.inr ⟨_, found, id, by simp, by simp⟩
  | fails waiters opening =>
      dsimp only at found'
      split at found'
      · obtain ⟨connection, found, rfl⟩ := Option.map_eq_some_iff.mp found'
        exact Or.inr ⟨connection, found, fun isClosed => if_pos isClosed, by simp, by simp⟩
      · exact Or.inr ⟨connection', found', .refl connection' (by simp)⟩
  | enters | awaits | starts | resumes =>
      exact Or.inr (follows_of_setStage rfl (by simp) (by simp) found')
  | registers room state waiters opening =>
      cases state <;> exact Or.inr ⟨connection', found', .refl connection' (by simp)⟩
  | reads | rejects | makes | frames | receives | expires | destroys | ends | writes =>
      exact Or.inr ⟨connection', found', .refl connection' (by simp)⟩

end Slot

end CollabEditor.Instance
