import CollabEditor.Cluster.Deployment

/-!
Owns the convergence of all copies of a document: whichever instance a client
is on and in whatever order the bus and the sockets deliver, once everything is
delivered the clients that are connected and the rooms show the same document.

Assumes what `Cluster.Deployment` does: the rooms stay open and start alike, and
the bus loses nothing.
-/

namespace CollabEditor.Deployment

open CollabEditor.Library CollabEditor.Yjs CollabEditor.Rooms CollabEditor.Ws

universe u v

variable {Client : Type v} {Op : Type u} [DecidableEq Client] [DecidableEq Op] [Causality Op]
  {n : ℕ}

/-! ### Messages on their way -/

section Flights

variable {inFlight : List (Fin n × BusMessage Op)}

omit [Causality Op]

private theorem mem_carriedTo {receiver : Fin n} {op : Op} : op ∈ carriedTo receiver inFlight ↔
    ∃ message, (receiver, message) ∈ inFlight ∧ op ∈ message.carried := by
  unfold carriedTo
  rw [mem_mergeUpdates]
  constructor
  · rintro ⟨update, member, carried⟩
    obtain ⟨⟨other, message⟩, copy, rfl⟩ := List.mem_map.mp member
    obtain ⟨onItsWay, same⟩ := List.mem_filter.mp copy
    obtain rfl := of_decide_eq_true same
    exact ⟨message, onItsWay, carried⟩
  · rintro ⟨message, onItsWay, carried⟩
    refine ⟨message.carried, List.mem_map.mpr ⟨(receiver, message), ?_, rfl⟩, carried⟩
    exact List.mem_filter.mpr ⟨onItsWay, decide_eq_true rfl⟩

private theorem carriedTo_mono {receiver : Fin n} {more : List (Fin n × BusMessage Op)}
    (sub : inFlight ⊆ more) : carriedTo receiver inFlight ⊆ carriedTo receiver more := by
  intro op member
  obtain ⟨message, onItsWay, carried⟩ := mem_carriedTo.mp member
  exact mem_carriedTo.mpr ⟨message, sub onItsWay, carried⟩

private theorem carried_subset_carriedTo {receiver : Fin n} {message : BusMessage Op}
    (onItsWay : (receiver, message) ∈ inFlight) :
    message.carried ⊆ carriedTo receiver inFlight :=
  fun _ carried => mem_carriedTo.mpr ⟨message, onItsWay, carried⟩

omit [DecidableEq Op] in
private theorem mem_copies {publisher receiver : Fin n} {message copied : BusMessage Op} :
    (receiver, copied) ∈ copies publisher message ↔ receiver ≠ publisher ∧ copied = message := by
  unfold copies
  simp only [List.mem_map, List.mem_filter, List.mem_finRange, true_and, Prod.mk.injEq,
    decide_eq_true_eq]
  constructor
  · rintro ⟨other, different, rfl, rfl⟩
    exact ⟨different, rfl⟩
  · rintro ⟨different, rfl⟩
    exact ⟨receiver, different, rfl, rfl⟩

omit [DecidableEq Op] in
/-- What was on its way still is, unless it is the copy taken out. -/
theorem mem_inFlight_iff {index : ℕ} {arriving copy : Fin n × BusMessage Op}
    (found : inFlight[index]? = some arriving) :
    copy ∈ inFlight ↔ copy = arriving ∨ copy ∈ inFlight.eraseIdx index := by
  obtain ⟨inside, rfl⟩ := List.getElem?_eq_some_iff.mp found
  rw [← (List.getElem_cons_eraseIdx_perm inside).mem_iff, List.mem_cons]

private theorem carriedTo_subset_eraseIdx {index : ℕ} {receiver other : Fin n}
    {message : BusMessage Op} (found : inFlight[index]? = some (receiver, message)) :
    carriedTo other inFlight ⊆ carriedTo other (inFlight.eraseIdx index) ∪
      (if other = receiver then message.carried else ∅) := by
  intro op member
  obtain ⟨sent, onItsWay, carried⟩ := mem_carriedTo.mp member
  rcases (mem_inFlight_iff found).mp onItsWay with arriving | stays
  · cases arriving
    simp [carried]
  · exact Finset.mem_union_left _ (mem_carriedTo.mpr ⟨sent, stays, carried⟩)

end Flights

/-! ### One step -/

/-- What is left when an instance takes a step. -/
structure Handles (before after : Deployment n Client Op) (server : Fin n)
    (event : Event Client Op) : Prop where
  stepped : (before.sessions server).step event = some (after.sessions server)
  others : ∀ other, other ≠ server → after.sessions other = before.sessions other
  inFlight : after.inFlight = before.inFlight ++
    ((before.sessions server).publishes event).flatMap (copies server)

private theorem handles_of_handle {before after : Deployment n Client Op} {server : Fin n}
    {event : Event Client Op} (handled : before.handle server event = some after) :
    Handles before after server event := by
  obtain ⟨session, stepped, rfl⟩ := Option.map_eq_some_iff.mp handled
  refine ⟨?_, fun other different => Function.update_of_ne different _ _, rfl⟩
  simp only [Function.update_self, stepped]

/-- What a step of the whole does. -/
inductive Acts (before after : Deployment n Client Op) : DeploymentEvent n Client Op → Prop where
  | runs (server : Fin n) (event : Event Client Op) (notBus : ∀ message, event ≠ .bus message)
      (handles : Handles before after server event) : Acts before after (.runs server event)
  | requests (server : Fin n) (result : after = { before with
      inFlight := before.inFlight ++ copies server .stateRequest }) :
      Acts before after (.requestState server)
  | delivers (index : ℕ) (receiver : Fin n) (message : BusMessage Op)
      (found : before.inFlight[index]? = some (receiver, message))
      (handles : Handles { before with inFlight := before.inFlight.eraseIdx index } after
        receiver (.bus message)) : Acts before after (.deliver index)
  | reconnects (lost next : Fin n × Client) (closed : (before.endpoint next).opened = false)
      (stage : (before.endpoint next).stage = .unauthenticated)
      (result : after = { before with
        sessions := Function.update before.sessions next.1
          ((before.sessions next.1).setEnd next.2
            { before.endpoint next with doc := (before.endpoint lost).doc }) }) :
      Acts before after (.reconnect lost next)

theorem acts_of_step {before after : Deployment n Client Op} {event : DeploymentEvent n Client Op}
    (stepped : before.step event = some after) : Acts before after event := by
  unfold step at stepped
  split at stepped
  · cases stepped
  · next server event notBus =>
      exact .runs server event notBus (handles_of_handle stepped)
  · cases stepped
    exact .requests _ rfl
  · next index =>
      split at stepped
      · next receiver message found =>
          exact .delivers index receiver message found (handles_of_handle stepped)
      · cases stepped
  · split at stepped
    · next ready =>
        cases stepped
        exact .reconnects _ _ ready.2.1 ready.2.2 rfl
    · cases stepped

/-- Nothing an instance knows is forgotten by a step it or another one takes. -/
theorem Handles.known_subset {before after : Deployment n Client Op} {server : Fin n}
    {event : Event Client Op} (handles : Handles before after server event) (other : Fin n) :
    before.known other ⊆ after.known other := by
  have more : before.inFlight ⊆ after.inFlight := by
    rw [handles.inFlight]
    exact List.subset_append_left _ _
  refine Finset.union_subset_union ?_ (carriedTo_mono more)
  by_cases here : other = server
  · subst here
    exact (Session.calls_of_step handles.stepped).received_subset
  · rw [handles.others other here]

/-- Everybody knows of what a step puts on the bus. -/
theorem Handles.published_known {before after : Deployment n Client Op} {server : Fin n}
    {event : Event Client Op} (handles : Handles before after server event)
    {message : BusMessage Op} (member : message ∈ (before.sessions server).publishes event)
    (other : Fin n) : message.carried ⊆ after.known other := by
  by_cases here : other = server
  · subst here
    have given := (Session.calls_of_step handles.stepped).published_subset message member
    exact given.trans Finset.subset_union_left
  · have onItsWay : (other, message) ∈ after.inFlight := by
      rw [handles.inFlight]
      exact List.mem_append_right _
        (List.mem_flatMap.mpr ⟨message, member, mem_copies.mpr ⟨here, rfl⟩⟩)
    exact (carried_subset_carriedTo onItsWay).trans Finset.subset_union_right

/-! ### What spreads -/

/-- Every instance has or is on the way to get what any room shows, and what any
message on its way carries. -/
structure Spread (deployment : Deployment n Client Op) : Prop where
  rooms : ∀ server other, (deployment.sessions server).room.doc.integrated ⊆
    deployment.known other
  flights : ∀ copy ∈ deployment.inFlight, ∀ other, copy.2.carried ⊆ deployment.known other

omit [DecidableEq Client] in
private theorem spread_initial {deployment : Deployment n Client Op}
    (initial : deployment.Initial) :
    deployment.Spread := by
  obtain ⟨-, nothing, same⟩ := initial
  constructor
  · intro server other
    rw [same server other]
    exact (Doc.integrated_subset _).trans Finset.subset_union_left
  · intro copy onItsWay
    rw [nothing] at onItsWay
    cases onItsWay

/-- A step after which everybody knows what it made its room show, and what was
on the bus. -/
theorem Handles.spread {before after : Deployment n Client Op} {server : Fin n}
    {event : Event Client Op} (handles : Handles before after server event)
    (others : ∀ room, room ≠ server → ∀ other,
      (before.sessions room).room.doc.integrated ⊆ after.known other)
    (shown : ∀ other, (after.sessions server).room.doc.integrated ⊆ after.known other)
    (flights : ∀ copy ∈ before.inFlight, ∀ other, copy.2.carried ⊆ after.known other) :
    after.Spread := by
  constructor
  · intro room other
    by_cases here : room = server
    · exact here ▸ shown other
    · rw [handles.others room here]
      exact others room here other
  · intro copy onItsWay other
    rw [handles.inFlight, List.mem_append] at onItsWay
    rcases onItsWay with earlier | published
    · exact flights copy earlier other
    · obtain ⟨message, member, copied⟩ := List.mem_flatMap.mp published
      obtain ⟨-, rfl⟩ := mem_copies.mp copied
      exact handles.published_known member other

private theorem Spread.runs {before after : Deployment n Client Op} (spread : before.Spread)
    {server : Fin n} {event : Event Client Op} (notBus : ∀ message, event ≠ .bus message)
    (handles : Handles before after server event) : after.Spread := by
  have calls := Session.calls_of_step handles.stepped
  refine handles.spread (fun room _ other => (spread.rooms room other).trans
    (handles.known_subset other)) (fun other => ?_) (fun copy onItsWay other =>
      (spread.flights copy onItsWay other).trans (handles.known_subset other))
  have earlier := (spread.rooms server other).trans (handles.known_subset other)
  generalize result : (after.sessions server).room = room at calls
  cases calls with
  | dispatches client frame taken publishes =>
      have fresh : (before.sessions server).room.doc.fresh frame.carried ⊆ after.known other := by
        refine (Session.fresh_subset_published _ client frame).trans ?_
        rw [← publishes, mergeUpdates_subset]
        intro update member
        obtain ⟨message, published, rfl⟩ := List.mem_map.mp member
        exact handles.published_known published other
      rw [(dispatch_doc _ client frame).1, Doc.integrated_apply]
      exact Finset.union_subset earlier fresh
  | receives message isBus => exact absurd isBus (notBus message)
  | quiet sameDoc presence distinct =>
      rw [sameDoc]
      exact earlier

/-- A message that arrives is known everywhere; so must be what it unlocks. -/
theorem Spread.delivers {before after : Deployment n Client Op} (spread : before.Spread)
    {index : ℕ} {receiver : Fin n} {message : BusMessage Op}
    (found : before.inFlight[index]? = some (receiver, message))
    (unlocks : before.UnlocksKnown (.deliver index))
    (handles : Handles { before with inFlight := before.inFlight.eraseIdx index } after receiver
      (.bus message)) : after.Spread := by
  have doc : (after.sessions receiver).room.doc =
      (before.sessions receiver).room.doc.apply message.carried := by
    rw [Session.room_of_bus handles.stepped]
    exact Room.doc_receive _ _
  have kept : ∀ other, before.known other ⊆ after.known other := by
    intro other
    have later := handles.known_subset other
    have stays : carriedTo other before.inFlight ⊆ _ := carriedTo_subset_eraseIdx found
    refine Finset.union_subset (Finset.subset_union_left.trans later) (stays.trans ?_)
    refine Finset.union_subset (Finset.subset_union_right.trans later) ?_
    by_cases here : other = receiver
    · subst here
      rw [if_pos rfl, known, doc, Doc.received_apply]
      exact Finset.subset_union_right.trans Finset.subset_union_left
    · rw [if_neg here]
      exact Finset.empty_subset _
  have arriving : (receiver, message) ∈ before.inFlight := List.mem_of_getElem? found
  refine handles.spread (fun room _ other => (spread.rooms room other).trans (kept other))
    (fun other => ?_) (fun copy stays other => ?_)
  · rw [doc, Doc.integrated_apply]
    refine Finset.union_subset ((spread.rooms receiver other).trans (kept other)) ?_
    intro op isFresh
    rcases Finset.mem_union.mp (Doc.fresh_subset _ _ isFresh) with carried | pending
    · exact kept other (spread.flights _ arriving other carried)
    · exact kept other (unlocks (receiver, message) found op pending
        (Doc.mem_fresh.mp isFresh).1 other)
  · exact (spread.flights copy ((mem_inFlight_iff found).mpr (Or.inr stays)) other).trans
      (kept other)

omit [DecidableEq Client] in
/-- Asking for state tells nobody anything. -/
theorem Spread.requests {before : Deployment n Client Op} (spread : before.Spread)
    (server : Fin n) :
    Spread { before with inFlight := before.inFlight ++ copies server .stateRequest } := by
  have kept : ∀ other, before.known other ⊆ known { before with
      inFlight := before.inFlight ++ copies server .stateRequest } other := fun other =>
    Finset.union_subset_union_right (carriedTo_mono (List.subset_append_left _ _))
  constructor
  · exact fun room other => (spread.rooms room other).trans (kept other)
  · intro copy onItsWay other
    rcases List.mem_append.mp onItsWay with earlier | asked
    · exact (spread.flights copy earlier other).trans (kept other)
    · obtain ⟨-, isRequest⟩ := mem_copies.mp asked
      rw [isRequest]
      exact Finset.empty_subset _

/-! ### Every socket -/

/-- What holds of the sockets of an instance. -/
structure Served (session : Session Client Op) : Prop where
  sound : session.Sound
  uploads : ∀ client, Uploads session.room (session.ends client)
  downloads : ∀ client, Downloads session.room (session.ends client)

omit [DecidableEq Client] in
private theorem served_initial {session : Session Client Op} (initial : session.Initial) :
    Served session :=
  ⟨Session.sound_initial initial, uploads_initial initial, downloads_initial initial⟩

private theorem Served.step {session session' : Session Client Op} (served : Served session)
    {event : Event Client Op} (unlocks : UnlocksOnlyKnown session event)
    (stepped : session.step event = some session') : Served session' where
  sound := Session.sound_step served.sound stepped
  uploads client := uploads_of_moves (served.sound.2 client) (served.uploads client)
    (Session.moves_of_step served.sound.1 stepped client)
  downloads client := downloads_of_moves (served.sound.2 client) (served.downloads client)
    unlocks (Session.moves_of_step served.sound.1 stepped client)

omit [Causality Op] in
/-- A socket that has not been opened may be given any document. -/
theorem sound_withDoc {session : Session Client Op} (sound : session.Sound)
    {client : Client} (closed : (session.ends client).opened = false)
    (stage : (session.ends client).stage = .unauthenticated) (doc : Doc Op) :
    (session.setEnd client { session.ends client with doc }).Sound := by
  have linked := sound.2 client
  have nothing := (linked.unopened closed).2
  have own : Linked session.room client { session.ends client with doc } := by
    refine ⟨linked.member, linked.unopened, linked.closed, linked.quiet, ?_, linked.received,
      ?_, ?_⟩
    · exact (congrArg carriedBy nothing).subset.trans (Finset.empty_subset _)
    · exact fun opened => absurd (opened.symm.trans closed) nofun
    · rintro (joining | added)
      · exact absurd (joining.symm.trans stage) nofun
      · exact absurd (added.symm.trans stage) nofun
  refine ⟨Session.replays_setEnd sound.1 ?_ ?_, fun other => ?_⟩
  · exact fun replaying => sound.1.1 client replaying
  · exact fun joined => absurd (joined.symm.trans stage) nofun
  · by_cases here : other = client
    · subst here
      rw [Session.setEnd_ends_self]
      exact own
    · rw [Session.setEnd_ends_of_ne session _ here]
      exact sound.2 other

private theorem Served.withDoc {session : Session Client Op} (served : Served session)
    {client : Client} (closed : (session.ends client).opened = false)
    (stage : (session.ends client).stage = .unauthenticated) (doc : Doc Op) :
    Served (session.setEnd client { session.ends client with doc }) where
  sound := sound_withDoc served.sound closed stage doc
  uploads other := by
    by_cases here : other = client
    · subst here
      rw [Session.setEnd_ends_self]
      rintro (added | joined)
      · exact absurd (added.symm.trans stage) nofun
      · exact absurd (joined.symm.trans stage) nofun
    · rw [Session.setEnd_ends_of_ne session _ here]
      exact served.uploads other
  downloads other := by
    by_cases here : other = client
    · subst here
      rw [Session.setEnd_ends_self]
      exact fun joined => absurd (joined.symm.trans stage) nofun
    · rw [Session.setEnd_ends_of_ne session _ here]
      exact served.downloads other

/-! ### Whole runs -/

/-- What every run keeps. -/
structure Settling (deployment : Deployment n Client Op) : Prop where
  spread : deployment.Spread
  served : ∀ server, Served (deployment.sessions server)

private theorem Handles.served {before after : Deployment n Client Op} {server : Fin n}
    {event : Event Client Op} (handles : Handles before after server event)
    (served : ∀ other, Served (before.sessions other))
    (unlocks : UnlocksOnlyKnown (before.sessions server) event) (other : Fin n) :
    Served (after.sessions other) := by
  by_cases here : other = server
  · subst here
    exact (served other).step unlocks handles.stepped
  · rw [handles.others other here]
    exact served other

private theorem Settling.step {before after : Deployment n Client Op} (settling : before.Settling)
    {event : DeploymentEvent n Client Op} (unlocks : before.UnlocksKnown event)
    (stepped : before.step event = some after) : after.Settling := by
  cases acts_of_step stepped with
  | runs server event notBus handles =>
      exact ⟨settling.spread.runs notBus handles, handles.served settling.served unlocks⟩
  | requests server result =>
      subst result
      exact ⟨settling.spread.requests server, settling.served⟩
  | delivers index receiver message found handles =>
      refine ⟨settling.spread.delivers found unlocks handles, handles.served settling.served ?_⟩
      intro dispatched none
      cases none
  | reconnects lost next closed stage result =>
      have sameRoom : ∀ server, (after.sessions server).room =
          (before.sessions server).room := by
        intro server
        rw [result]
        by_cases here : server = next.1
        · subst here
          simp
        · simp [Function.update_of_ne here]
      have sameBus : after.inFlight = before.inFlight := by rw [result]
      have same : ∀ other, after.known other = before.known other := by
        intro other
        rw [known, known, sameRoom, sameBus]
      refine ⟨⟨fun server other => ?_, fun copy onItsWay other => ?_⟩, fun server => ?_⟩
      · rw [sameRoom, same]
        exact settling.spread.rooms server other
      · rw [same]
        exact settling.spread.flights copy (sameBus ▸ onItsWay) other
      · rw [result]
        by_cases here : server = next.1
        · subst here
          simp only [Function.update_self]
          exact (settling.served next.1).withDoc closed stage _
        · simp only [Function.update_of_ne here]
          exact settling.served server

private theorem settling_of_reached {deployment : Deployment n Client Op}
    (reached : ReachedWhen step UnlocksKnown Initial deployment) : deployment.Settling := by
  refine reached.invariant Settling ?_ fun _ _ _ settling unlocks stepped =>
    settling.step unlocks stepped
  exact fun start initial => ⟨spread_initial initial, fun server =>
    served_initial (initial.1 server)⟩

omit [DecidableEq Client] in
/-- Rooms that have nothing on its way to them show the same. -/
theorem Spread.rooms_eq {deployment : Deployment n Client Op} (spread : deployment.Spread)
    (delivered : deployment.inFlight = []) (server other : Fin n) :
    (deployment.sessions server).room.doc.integrated =
      (deployment.sessions other).room.doc.integrated := by
  have sub : ∀ server other, (deployment.sessions server).room.doc.integrated ⊆
      (deployment.sessions other).room.doc.integrated := by
    intro server other
    apply Doc.integrated_subset_of_received
    simpa [known, delivered, carriedTo] using spread.rooms server other
  exact (sub server other).antisymm (sub other server)

omit [DecidableEq Client] in
/-- A client whose frames are all delivered shows what its room does. -/
theorem Served.doc_eq {session : Session Client Op} (served : Served session) {client : Client}
    (drained : (session.ends client).Drained) :
    (session.ends client).doc.integrated = session.room.doc.integrated := by
  have joined := (served.sound.2 client).joined_of_drained drained
  obtain ⟨-, noUp, noDown, noQueue⟩ := drained
  apply Finset.Subset.antisymm
  · rcases served.uploads client (Or.inr joined) with ⟨vector, rest, -, asked⟩ | ⟨-, covered⟩
    · simp [noDown] at asked
    · apply integrate_mono
      simpa [Endpoint.outstanding, noUp, noQueue] using covered
  · rcases served.downloads client joined with ⟨vector, rest, -, first⟩ | covered
    · simp [Endpoint.outstanding, noUp, noQueue] at first
    · apply Doc.integrated_subset_of_received
      simpa [noDown] using covered

/-- Once the bus is empty, any two clients whose frames are all delivered show
the same document, on whichever instances they are, and so does every room. -/
theorem clients_converge {deployment : Deployment n Client Op}
    (reached : ReachedWhen step UnlocksKnown Initial deployment)
    (delivered : deployment.inFlight = []) {first second : Fin n × Client}
    (firstDrained : (deployment.endpoint first).Drained)
    (secondDrained : (deployment.endpoint second).Drained) :
    (deployment.endpoint first).doc.integrated = (deployment.endpoint second).doc.integrated ∧
      ∀ server, (deployment.sessions server).room.doc.integrated =
        (deployment.endpoint first).doc.integrated := by
  have settling := settling_of_reached reached
  have shownFirst := (settling.served first.1).doc_eq firstDrained
  have shownSecond := (settling.served second.1).doc_eq secondDrained
  have rooms := settling.spread.rooms_eq delivered
  constructor
  · exact shownFirst.trans ((rooms first.1 second.1).trans shownSecond.symm)
  · exact fun server => (rooms server first.1).trans shownFirst.symm

/-- Two clients on an instance and one on another: one of the two loses its socket,
goes on editing and comes back on the other instance, and all three hear of
everything. -/
theorem clients_converge_after_moving :
    ∃ deployment : Deployment 2 (Fin 3) ItemId,
      (deployment.endpoint (0, 1)).doc.integrated = {⟨7, 0⟩, ⟨7, 1⟩, ⟨8, 0⟩} ∧
      (deployment.endpoint (0, 1)).doc.integrated = (deployment.endpoint (1, 0)).doc.integrated ∧
      (deployment.endpoint (0, 1)).doc.integrated =
        (deployment.endpoint (1, 2)).doc.integrated := by
  obtain ⟨deployment, reached, ⟨delivered, stayed, moved, other⟩, shown⟩ :=
    exists_reachedWhen_of_runWhen step UnlocksKnown Initial
      (⟨fun _ => Session.start Doc.empty fun _ => Doc.empty, []⟩ : Deployment 2 (Fin 3) ItemId)
      ((connect (0 : Fin 3) ++ connect 1).map (.runs 0) ++ (connect (2 : Fin 3)).map (.runs 1) ++
        [.runs 0 (.client 0 .onFrame), .runs 0 (.client 0 .onFrame), .runs 0 (.receive 0),
          .runs 0 (.client 1 .onFrame), .runs 0 (.client 1 .onFrame), .runs 0 (.receive 1),
          .runs 1 (.client 2 .onFrame), .runs 1 (.client 2 .onFrame), .runs 1 (.receive 2),
          .runs 0 (.client 0 (.edit {⟨7, 0⟩})), .runs 0 (.receive 0), .deliver 0,
          .runs 1 (.client 2 .onFrame), .runs 1 (.client 2 (.edit {⟨8, 0⟩})),
          .runs 1 (.receive 2), .runs 0 (.client 1 .onFrame), .runs 0 (.close 0),
          .runs 0 (.client 0 (.edit {⟨7, 1⟩})), .reconnect (0, 0) (1, 0), .deliver 0,
          .runs 0 (.client 1 .onFrame)] ++
        (connect (0 : Fin 3)).map (.runs 1) ++
        [.runs 1 (.client 0 .onFrame), .runs 1 (.client 0 .onFrame), .runs 1 (.receive 0),
          .runs 1 (.client 2 .onFrame), .deliver 0, .runs 0 (.client 1 .onFrame)])
      (fun deployment => (deployment.inFlight = [] ∧ (deployment.endpoint (0, 1)).Drained ∧
        (deployment.endpoint (1, 0)).Drained ∧ (deployment.endpoint (1, 2)).Drained) ∧
          (deployment.endpoint (0, 1)).doc.integrated = {⟨7, 0⟩, ⟨7, 1⟩, ⟨8, 0⟩})
      ⟨fun _ => Session.start_initial _ _, rfl, fun _ _ => rfl⟩ (by decide +kernel)
  exact ⟨deployment, shown, (clients_converge reached delivered stayed moved).1,
    (clients_converge reached delivered stayed other).1⟩

end CollabEditor.Deployment
