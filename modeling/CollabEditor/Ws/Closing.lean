import CollabEditor.Ws.Budget
import CollabEditor.Ws.Inbound

/-!
Owns what a `Connection` still does after it has called `client.close` itself,
while the socket goes on handing it frames.
-/

namespace CollabEditor.Ws

open CollabEditor.Library CollabEditor.Protocol

universe u v

variable {Claims : Type u} {Room : Type v}

namespace Connection

/-- Nobody is authenticated, no document is opened and nothing is dispatched. -/
structure Untouched (connection connection' : Connection Claims Room) : Prop where
  user : connection'.user = connection.user
  joining : connection'.joining = true → connection.joining = true
  dispatched : connection'.dispatched = connection.dispatched

/-- The connection has closed its socket, so the event leaves it untouched. -/
def StaysClosed (limits : Limits) (services : Services Claims Room)
    (connection : Connection Claims Room) (event : ConnectionEvent Room) : Prop :=
  connection.closes ≠ [] → ∀ connection', connection.step limits services event = some connection' →
    connection.Untouched connection'

/-- A budget covers a message of some bytes. -/
def Covers (limits : Limits) (connection : Connection Claims Room) (message : Message)
    (size : ℕ) (now : ℤ) : Prop :=
  match message with
  | .awareness _ => 1 ≤ connection.presenceBudget.budget now
  | _ => cost limits size ≤ connection.documentBudget.budget now

/-- A frame with a valid token reaches a connection without a user, or one that
its budgets cover reaches a connection with a room. -/
def Acts (limits : Limits) (services : Services Claims Room) (connection : Connection Claims Room)
    (frame : List UInt8) (now : ℤ) : Prop :=
  frame.length ≤ limits.maxPayload ∧
    ((connection.user = none ∧ ∃ token, decodeMessage frame = some (.auth token) ∧
      services.verifyToken now token ≠ none) ∨
    (connection.user ≠ none ∧ connection.room ≠ none ∧ ∃ message,
      decodeMessage frame = some message ∧ connection.Covers limits message frame.length now))

/-- The event is no such frame, or finds a socket the connection has not closed. -/
def Harmless (limits : Limits) (services : Services Claims Room)
    (connection : Connection Claims Room) (event : ConnectionEvent Room) : Prop :=
  connection.closes ≠ [] → ∀ frame now, event = .message frame now →
    ¬ connection.Acts limits services frame now

variable {limits : Limits} {services : Services Claims Room}
  {connection connection' : Connection Claims Room}

/-! ### A socket that was closed is not open -/

/-- Who closes a socket finds it closing or closed afterwards. -/
def Shut (connection : Connection Claims Room) : Prop :=
  connection.closes ≠ [] → connection.readyState ≠ .isOpen

private theorem shut_close (connection : Connection Claims Room) (code : CloseCode) :
    (connection.close code).Shut :=
  fun _ => connection.readyState_closing

private theorem withinLimits_shut (shut : connection.Shut) (message : Message) (size : ℕ)
    (now : ℤ) :
    (connection.withinLimits limits message size now).2.Shut := by
  unfold withinLimits
  split
  · exact shut
  · dsimp only
    split
    · exact shut
    · exact fun _ => readyState_closing _

private theorem handle_shut (shut : connection.Shut) (frame : List UInt8) (message : Message) :
    (connection.handle services frame message).Shut := by
  unfold handle
  dsimp only
  split
  · split
    · exact shut
    · exact shut
  · exact shut

private theorem onMessage_shut (shut : connection.Shut) (frame : List UInt8) (now : ℤ) :
    (connection.onMessage limits services frame now).Shut := by
  unfold onMessage
  split
  · exact shut
  · split
    · split
      · unfold authenticate
        split
        · exact shut_close _ _
        · exact shut
      · exact shut_close _ _
    · dsimp only
      split
      · exact handle_shut (withinLimits_shut shut _ _ _) _ _
      · exact withinLimits_shut shut _ _ _

private theorem shut_step {event : ConnectionEvent Room} (shut : connection.Shut)
    (stepped : connection.step limits services event = some connection') : connection'.Shut := by
  cases (fires_of_step stepped).2 with
  | oversized frame now large => exact fun _ => connection.readyState_closing
  | receives frame now small => exact onMessage_shut shut frame now
  | joins room joining =>
      unfold onJoined
      split
      · exact shut
      · exact shut
  | givesUp joining => exact shut_close _ _
  | expires armed => exact shut_close _ _
  | changes room joined => exact shut
  | closes isOpen => exact fun _ => connection.readyState_closing
  | closed notClosed => exact fun _ same => by cases same

/-! ### What a frame does to a connection -/

private theorem Untouched.refl (connection : Connection Claims Room) :
    connection.Untouched connection :=
  ⟨rfl, id, rfl⟩

private theorem untouched_closing (connection : Connection Claims Room) :
    connection.Untouched connection.closing := by
  unfold closing
  split
  · exact ⟨rfl, id, rfl⟩
  · exact .refl connection

private theorem untouched_close (connection : Connection Claims Room) (code : CloseCode) :
    connection.Untouched (connection.close code) :=
  ⟨connection.untouched_closing.user, connection.untouched_closing.joining,
    connection.untouched_closing.dispatched⟩

/-- The limits let a message through exactly when its budget covers it, and only
charge the budget and close the socket. -/
theorem withinLimits_covers (limits : Limits) (connection : Connection Claims Room)
    (message : Message) (size : ℕ) (now : ℤ) :
    ((connection.withinLimits limits message size now).1 = true ↔
      connection.Covers limits message size now) ∧
    connection.Untouched (connection.withinLimits limits message size now).2 := by
  have documents : ∀ other : Message,
      (connection.withinLimits limits other size now =
        let taken := connection.documentBudget.take now (cost limits size)
        let charged := { connection with documentBudget := taken.2 }
        if taken.1 then (true, charged)
        else (false, { charged.close .rateLimited with refused := true })) →
      ((connection.withinLimits limits other size now).1 = true ↔
        cost limits size ≤ connection.documentBudget.budget now) ∧
      connection.Untouched (connection.withinLimits limits other size now).2 := by
    intro other result
    have taken := connection.documentBudget.take_fst_iff now (cost limits size)
    rw [result, ← taken]
    dsimp only
    split
    · next granted => exact ⟨iff_of_true rfl granted, rfl, id, rfl⟩
    · next refused =>
        obtain ⟨user, joining, dispatched⟩ := untouched_closing { connection with
          documentBudget := (connection.documentBudget.take now (cost limits size)).2 }
        exact ⟨iff_of_false Bool.false_ne_true refused, user, joining, dispatched⟩
  cases message with
  | awareness payload =>
      exact ⟨connection.presenceBudget.take_fst_iff now 1, rfl, id, rfl⟩
  | sync payload => exact documents (.sync payload) rfl
  | ping => exact documents .ping rfl
  | pong => exact documents .pong rfl
  | auth token => exact documents (.auth token) rfl

private theorem untouched_congr {between : Connection Claims Room}
    (user : between.user = connection.user) (traffic : between.traffic = connection.traffic) :
    between.Untouched connection' ↔ connection.Untouched connection' := by
  have joining : between.joining = connection.joining := congrArg Traffic.joining traffic
  have dispatched : between.dispatched = connection.dispatched :=
    congrArg Traffic.dispatched traffic
  constructor
  · rintro ⟨sameUser, sameJoining, sameDispatched⟩
    rw [user] at sameUser
    rw [joining] at sameJoining
    rw [dispatched] at sameDispatched
    exact ⟨sameUser, sameJoining, sameDispatched⟩
  · rintro ⟨sameUser, sameJoining, sameDispatched⟩
    rw [← user] at sameUser
    rw [← joining] at sameJoining
    rw [← dispatched] at sameDispatched
    exact ⟨sameUser, sameJoining, sameDispatched⟩

private theorem handle_untouched_iff (services : Services Claims Room)
    (connection : Connection Claims Room) (frame : List UInt8) (message : Message) :
    connection.Untouched (connection.handle services frame message) ↔ connection.room = none := by
  unfold handle
  dsimp only
  split
  · next loading =>
      refine iff_of_true ?_ loading
      split
      · exact ⟨rfl, id, rfl⟩
      · exact ⟨rfl, id, rfl⟩
  · next room joined =>
      refine iff_of_false (fun untouched => ?_) (by rw [joined]; exact Option.some_ne_none room)
      have longer := congrArg List.length untouched.dispatched
      dsimp only at longer
      rw [List.length_append, List.length_singleton] at longer
      omega

section

variable {frame : List UInt8} {message : Message} {now : ℤ}

/-- A frame acts on a connection without a user if it carries a valid token. -/
theorem acts_stranger_iff (small : frame.length ≤ limits.maxPayload)
    (decodes : decodeMessage frame = some message) (stranger : connection.user = none) :
    connection.Acts limits services frame now ↔
      ∃ token, message = .auth token ∧ services.verifyToken now token ≠ none := by
  constructor
  · rintro ⟨-, ⟨-, token, same, valid⟩ | ⟨known, -⟩⟩
    · exact ⟨token, Option.some.inj (decodes.symm.trans same), valid⟩
    · exact absurd stranger known
  · rintro ⟨token, rfl, valid⟩
    exact ⟨small, Or.inl ⟨stranger, token, decodes, valid⟩⟩

/-- A frame acts on a connection with a user if there is a room for it and a
budget covers it. -/
theorem acts_known_iff (small : frame.length ≤ limits.maxPayload)
    (decodes : decodeMessage frame = some message) (known : connection.user ≠ none) :
    connection.Acts limits services frame now ↔
      connection.room ≠ none ∧ connection.Covers limits message frame.length now := by
  constructor
  · rintro ⟨-, ⟨stranger, -⟩ | ⟨-, joined, other, same, covered⟩⟩
    · exact absurd stranger known
    · obtain rfl := Option.some.inj (decodes.symm.trans same)
      exact ⟨joined, covered⟩
  · rintro ⟨joined, covered⟩
    exact ⟨small, Or.inr ⟨known, joined, message, decodes, covered⟩⟩

private theorem authenticate_untouched_iff (stranger : connection.user = none) (token : JsString) :
    connection.Untouched (connection.authenticate services token now) ↔
      services.verifyToken now token = none := by
  unfold authenticate
  split
  · next invalid => exact iff_of_true (connection.untouched_close _) invalid
  · next claims valid =>
      refine iff_of_false (fun untouched => ?_) (by rw [valid]; exact Option.some_ne_none claims)
      have user := untouched.user
      rw [stranger] at user
      cases user

/-- A frame that is not over the maximum payload leaves a connection untouched
unless it acts on it. -/
theorem onMessage_untouched_iff (small : frame.length ≤ limits.maxPayload) :
    connection.Untouched (connection.onMessage limits services frame now) ↔
      ¬ connection.Acts limits services frame now := by
  unfold onMessage
  cases decodes : decodeMessage frame with
  | none =>
      refine iff_of_true (.refl connection) ?_
      rintro ⟨-, ⟨-, token, same, -⟩ | ⟨-, -, message, same, -⟩⟩
      · exact Option.some_ne_none _ (same.symm.trans decodes)
      · exact Option.some_ne_none _ (same.symm.trans decodes)
  | some message =>
      cases isUser : connection.user with
      | none =>
          rw [acts_stranger_iff small decodes isUser]
          cases message with
          | auth token =>
              refine (authenticate_untouched_iff isUser token).trans ⟨?_, fun none => ?_⟩
              · rintro invalid ⟨other, same, valid⟩
                cases same
                exact valid invalid
              · exact not_not.mp fun valid => none ⟨token, rfl, valid⟩
          | _ =>
              refine iff_of_true (connection.untouched_close _) ?_
              rintro ⟨token, same, -⟩
              cases same
      | some claims =>
          have known : connection.user ≠ none := by
            rw [isUser]
            exact Option.some_ne_none claims
          rw [acts_known_iff small decodes known]
          obtain ⟨covers, untouched⟩ :=
            connection.withinLimits_covers limits message frame.length now
          dsimp only
          split
          · next granted =>
              have traffic := connection.withinLimits_traffic limits message frame.length now
              have room : (connection.withinLimits limits message frame.length now).2.room =
                  connection.room := congrArg Traffic.room traffic
              rw [← untouched_congr untouched.user traffic, handle_untouched_iff, room]
              exact ⟨fun loading acts => acts.1 loading,
                fun idle => not_not.mp fun joined => idle ⟨joined, covers.mp granted⟩⟩
          · next refused =>
              exact iff_of_true untouched fun acts => refused (covers.mpr acts.2)

end

/-! ### Along a run -/

/-- Under a socket that is not open, only a frame can touch a connection. -/
theorem untouched_of_fires {event : ConnectionEvent Room}
    (notOpen : connection.readyState ≠ .isOpen)
    (fires : connection.Fires limits services event connection')
    (noFrame : ∀ frame now, event = .message frame now → limits.maxPayload < frame.length) :
    connection.Untouched connection' := by
  cases fires with
  | oversized frame now large =>
      obtain ⟨user, joining, dispatched⟩ := connection.untouched_closing
      exact ⟨user, joining, dispatched⟩
  | receives frame now small => exact absurd (noFrame frame now rfl) small
  | joins room joining =>
      unfold onJoined
      split
      · next isOpen => exact absurd isOpen notOpen
      · exact ⟨rfl, fun _ => joining, rfl⟩
  | givesUp joining =>
      obtain ⟨user, -, dispatched⟩ :=
        untouched_close { connection with joining := false } .documentUnavailable
      exact ⟨user, fun _ => joining, dispatched⟩
  | expires armed =>
      obtain ⟨user, joining, dispatched⟩ :=
        untouched_close { connection with authTimer := false } .unauthorized
      exact ⟨user, joining, dispatched⟩
  | changes room joined => exact ⟨rfl, id, rfl⟩
  | closes isOpen => exact connection.untouched_closing
  | closed notClosed => exact ⟨rfl, id, rfl⟩

private theorem staysClosed_iff {event : ConnectionEvent Room} (shut : connection.Shut)
    (stepped : connection.step limits services event = some connection') :
    connection.StaysClosed limits services event ↔ connection.Harmless limits services event := by
  refine forall_congr' fun closed => ?_
  rw [@forall_of_step _ _ (step limits services) _ _ event stepped
    (fun other => connection.Untouched other)]
  have fires := (fires_of_step stepped).2
  by_cases frames : ∃ frame now, event = .message frame now ∧ frame.length ≤ limits.maxPayload
  · obtain ⟨frame, now, rfl, small⟩ := frames
    have received : connection' = connection.onMessage limits services frame now := by
      cases fires with
      | oversized _ _ large => omega
      | receives => rfl
    rw [received, onMessage_untouched_iff small]
    constructor
    · intro idle other reading same
      cases same
      exact idle
    · intro harmless
      exact harmless frame now rfl
  · have large : ∀ frame now, event = .message frame now → limits.maxPayload < frame.length :=
      fun frame now same => not_le.mp fun small => frames ⟨frame, now, same, small⟩
    refine iff_of_true (untouched_of_fires (shut closed) fires large) ?_
    intro frame now same acts
    have := large frame now same
    have := acts.1
    omega

/-- Once a connection has closed its socket nothing that arrives on it has an
effect, exactly in the runs where no valid token arrives for a connection
without a user and no frame within the budgets for one with a room. -/
theorem staysClosed_run_iff (limits : Limits) (services : Services Claims Room) (now : ℤ)
    (events : List (ConnectionEvent Room)) :
    Meets (step limits services) (StaysClosed limits services)
        (start limits now : Connection Claims Room) events ↔
      Meets (step limits services) (Harmless limits services)
        (start limits now : Connection Claims Room) events :=
  meets_congr Shut (fun _ _ _ shut stepped => shut_step shut stepped)
    (fun _ _ _ shut stepped => staysClosed_iff shut stepped) (fun closed => absurd rfl closed)
    events

/-- A frame before authentication closes the socket, and a valid token behind it
still authenticates. -/
theorem token_after_close :
    ¬ ∀ (limits : Limits) (services : Services Unit Unit) (now : ℤ)
      (events : List (ConnectionEvent Unit)),
      Meets (step limits services) (StaysClosed limits services)
        (start limits now : Connection Unit Unit) events := by
  intro stays
  have meets := stays .default
    ⟨fun _ _ => some (), fun room _ => some room, fun room _ => some room⟩
    0 [.message [2] 0, .message [4] 1]
  obtain ⟨-, later⟩ := meets _ rfl
  obtain ⟨kept, -⟩ := later _ rfl
  have untouched := kept (by decide) _ rfl
  exact Option.some_ne_none _ untouched.user

end Connection

end CollabEditor.Ws
