import CollabEditor.Web.Collab
import CollabEditor.Web.Navigation

/-!
Owns that a tab holds the room on its screen and no other: whatever mounts and
cleanups React makes of its navigation, and whatever the providers of rooms that
were left still get to hear. Not that those do nothing more: see `Web.Destroy`.
-/

set_option autoImplicit false

namespace CollabEditor.Web

open CollabEditor.Library CollabEditor.Protocol CollabEditor.Ws

/-! ### One provider -/

namespace CollabProvider

/-- A provider on its way, which nobody has destroyed. -/
def Alive (provider : CollabProvider) : Prop := ∃ way, OnlyWay provider way ∧ provider.Tidy

variable {provider after : CollabProvider}

private theorem alive_new : new.Alive := ⟨.token, onlyWay_new, tidy_new⟩

private theorem Alive.step {event : ProviderEvent} (alive : provider.Alive)
    (stays : event ≠ .destroy) (stepped : provider.step event = some after) : after.Alive := by
  obtain ⟨way, only, tidy⟩ := alive
  obtain ⟨next, goesOn⟩ := onlyWay_step stays only stepped
  exact ⟨next, goesOn, tidy_step only tidy stepped⟩

private theorem Alive.destroy (alive : provider.Alive) : provider.destroy.Destroyed := by
  obtain ⟨way, only, tidy⟩ := alive
  exact destroyed_destroy tidy.owned only.current only.single only.requests

private theorem Alive.announce (alive : provider.Alive) (payload : List UInt8) :
    (provider.announce payload).Alive := by
  have stepped : provider.step (.awarenessUpdate payload) = some (provider.announce payload) := rfl
  exact alive.step (by simp) stepped

/-- What the listeners are called with ends with the status. -/
def Tells (before after : CollabProvider) : Prop :=
  ∃ told, after.notified = before.notified ++ told ∧
    told.getLast?.getD before.status = after.status

private theorem Tells.same {before after : CollabProvider}
    (notified : after.notified = before.notified)
    (status : after.status = before.status) : Tells before after :=
  ⟨[], by simp [notified], by simp [status]⟩

private theorem Tells.trans {first second third : CollabProvider} (front : Tells first second)
    (back : Tells second third) : Tells first third := by
  obtain ⟨told, notified, status⟩ := front
  obtain ⟨later, notified', status'⟩ := back
  refine ⟨told ++ later, by rw [notified', notified, List.append_assoc], ?_⟩
  rw [← status', ← status, List.getLast?_append]
  cases later.getLast? with
  | none => rfl
  | some last => rfl

private theorem tells_setStatus (provider : CollabProvider) (status : ConnectionStatus) :
    Tells provider (provider.setStatus status) := by
  unfold setStatus
  split
  · exact .same rfl rfl
  · exact ⟨[status], rfl, rfl⟩

private theorem tells_closeCurrent (provider : CollabProvider) :
    Tells provider provider.closeCurrent := by
  unfold closeCurrent
  split
  · exact .same rfl rfl
  · exact .same rfl rfl

private theorem tells_connect (provider : CollabProvider) : Tells provider provider.connect := by
  unfold connect
  split
  · exact .same rfl rfl
  · have connecting := tells_setStatus provider .connecting
    generalize provider.setStatus .connecting = later at connecting ⊢
    exact connecting.trans (.same rfl rfl)

private theorem tells_onToken (provider : CollabProvider) (token : JsString) :
    Tells provider (provider.onToken token) := by
  unfold onToken
  dsimp only
  split
  · exact .same rfl rfl
  · exact .same rfl rfl

private theorem tells_onTokenFailed (provider : CollabProvider) (jitter : ℚ) :
    Tells provider (provider.onTokenFailed jitter) := by
  have offline := tells_setStatus provider .offline
  unfold onTokenFailed
  generalize provider.setStatus .offline = later at offline ⊢
  exact offline.trans (.same rfl rfl)

private theorem tells_send (provider : CollabProvider) (message : Message) :
    Tells provider (provider.send message) := .same rfl rfl

private theorem tells_arming (provider : CollabProvider) :
    Tells provider provider.startPinging.startAnnouncing :=
  Tells.trans (.same rfl rfl) (.same rfl rfl)

private theorem tells_onOpen (provider : CollabProvider) (token : JsString) (step1 : List UInt8)
    (presence : Option (List UInt8)) : Tells provider (provider.onOpen token step1 presence) := by
  have watched : Tells provider ({ provider.arm .stable CONNECTION_STABLE_MS with
    stableTimer := some provider.fresh }) := .same rfl rfl
  have greeted := ((watched.trans (tells_setStatus _ .connected)).trans
    (tells_send _ (.auth token))).trans (tells_send _ (.sync step1))
  unfold onOpen
  cases presence with
  | none => exact greeted.trans (tells_arming _)
  | some payload => exact (greeted.trans (tells_send _ (.awareness payload))).trans (tells_arming _)

private theorem tells_onClose (provider : CollabProvider) (code : ℕ) (jitter : ℚ) :
    Tells provider (provider.onClose code jitter) := by
  obtain ⟨timers, cleared⟩ := clearTimers_eq provider
  unfold onClose
  rw [cleared]
  dsimp only
  split
  · exact .same rfl rfl
  · split
    · exact Tells.trans (.same rfl rfl) (tells_setStatus _ .rejected)
    · exact Tells.trans (by split <;> exact .same rfl rfl) (tells_onTokenFailed _ jitter)

private theorem tells_onFrame (provider : CollabProvider) (frame : List UInt8)
    (reply : Option (List UInt8)) : Tells provider (provider.onFrame frame reply) := by
  unfold onFrame
  split
  · cases reply with
    | none => exact .same rfl rfl
    | some payload => exact .same rfl rfl
  · obtain ⟨timers, cleared⟩ := clear_eq provider provider.pongTimer
    rw [cleared]
    exact .same rfl rfl
  · exact .same rfl rfl

private theorem tells_onTimer (provider : CollabProvider) (timer : Timer)
    (presence : Option (List UInt8)) : Tells provider (provider.onTimer timer presence) := by
  unfold onTimer
  split
  · exact Tells.trans (.same rfl rfl) (tells_connect _)
  · dsimp only
    split
    · exact .same rfl rfl
    · exact .same rfl rfl
  · exact Tells.trans (.same rfl rfl) (tells_closeCurrent _)
  · cases presence with
    | none => exact .same rfl rfl
    | some payload => exact .same rfl rfl
  · exact .same rfl rfl

private theorem tells_step {event : ProviderEvent} (stays : event ≠ .destroy)
    (stepped : provider.step event = some after) : Tells provider after := by
  cases moved_of_step stepped with
  | tokenResolved request token found =>
      exact Tells.trans (.same rfl rfl) (tells_onToken _ token)
  | tokenRejected request jitter found nonnegative belowOne =>
      exact Tells.trans (.same rfl rfl) (tells_onTokenFailed _ jitter)
  | opened id step1 presence socket found connecting =>
      exact Tells.trans (.same rfl rfl) (tells_onOpen _ socket.token step1 presence)
  | errored id => exact .same rfl rfl
  | closing id => exact .same rfl rfl
  | closed id code jitter socket found nonnegative belowOne =>
      exact Tells.trans (.same rfl rfl) (tells_onClose _ code jitter)
  | message id frame reply socket found isOpen => exact tells_onFrame provider frame reply
  | fires id presence timer found due => exact tells_onTimer provider timer presence
  | docUpdate payload =>
      split
      · exact .same rfl rfl
      · exact .same rfl rfl
  | awarenessUpdate payload =>
      split
      · exact .same rfl rfl
      · exact .same rfl rfl
  | elapses milliseconds forward => exact .same rfl rfl
  | destroy => exact absurd rfl stays

end CollabProvider

/-! ### One run of the effect -/

/-- An event of the window leaves the name alone and is one of the provider, if
it is one at all. -/
theorem Client.provider_step {client after : Client} {event : ClientEvent}
    (window : event.isReact = false) (stepped : client.step event = some after) :
    after.name = client.name ∧ (after.provider = client.provider ∨
      ∃ browser, browser ≠ .destroy ∧ client.provider.step browser = some after.provider) := by
  cases event with
  | renamed name => simp [ClientEvent.isReact] at window
  | browser event date =>
      have stays : event ≠ .destroy := by
        intro destroys
        simp [ClientEvent.isReact, destroys] at window
      obtain ⟨-, taken⟩ := Option.ite_none_right_eq_some.mp stepped
      obtain ⟨provider, moved, rfl⟩ := Option.map_eq_some_iff.mp taken
      exact ⟨rfl, Or.inr ⟨event, stays, moved⟩⟩
  | sessionFetched token expiresIn date =>
      obtain ⟨-, result⟩ := Option.ite_none_right_eq_some.mp stepped
      cases result
      exact ⟨rfl, Or.inl rfl⟩
  | sessionFailed =>
      obtain ⟨-, result⟩ := Option.ite_none_right_eq_some.mp stepped
      cases result
      exact ⟨rfl, Or.inl rfl⟩

namespace Collab

/-- A run that was cleaned up: nothing its provider still does is heard by the
page. That a token request it left pending may yet arm a reconnect timer is not
denied. -/
structure Ended (collab : Collab) : Prop where
  destroyed : collab.client.provider.Destroyed
  absent : collab.presence = none
  unheard : collab.listens = false

/-- A run that goes on for a room, with the user of `App`. -/
structure Runs (env : Env) (location : Url) (roomId : JsString) (user : User)
    (collab : Collab) : Prop where
  alive : collab.client.provider.Alive
  url : socketUrl env location roomId = some collab.url
  named : collab.client.name = user.name
  present : collab.presence = some user
  listens : collab.listens = true

variable {env : Env} {location : Url} {roomId : JsString} {user : User} {collab : Collab}

private theorem runs_start {date : ℚ}
    (started : start env location roomId user date = some collab) :
    collab.Runs env location roomId user := by
  obtain ⟨url, address, rfl⟩ := Option.map_eq_some_iff.mp started
  exact ⟨CollabProvider.alive_new, address, rfl, rfl, rfl⟩

private theorem Runs.cleanUp (runs : collab.Runs env location roomId user) : collab.cleanUp.Ended :=
  ⟨runs.alive.destroy, rfl, rfl⟩

private theorem Runs.refer (runs : collab.Runs env location roomId user) :
    (collab.refer user).Runs env location roomId user :=
  ⟨runs.alive, runs.url, rfl, runs.present, runs.listens⟩

private theorem Runs.setUser (runs : collab.Runs env location roomId user) (later : User)
    (payload : List UInt8) :
    ((collab.refer later).setUser later payload).Runs env location roomId later := by
  have present : (collab.refer later).presence = some user := runs.present
  unfold Collab.setUser
  rw [present]
  exact ⟨runs.alive.announce payload, runs.url, rfl, rfl, runs.listens⟩

private theorem status_setUser (collab : Collab) (user : User) (payload : List UInt8) :
    (collab.setUser user payload).client.provider.status = collab.client.provider.status := by
  unfold setUser
  split
  · rfl
  · unfold CollabProvider.announce
    split
    · rfl
    · rfl

private theorem Ended.refer (ended : collab.Ended) (user : User) : (collab.refer user).Ended :=
  ⟨ended.destroyed, ended.absent, ended.unheard⟩

private theorem Ended.step (ended : collab.Ended) {event : ClientEvent} {client : Client}
    (window : event.isReact = false) (stepped : collab.client.step event = some client) :
    { collab with client := client }.Ended := by
  obtain ⟨-, same | ⟨browser, -, moved⟩⟩ := Client.provider_step window stepped
  · exact ⟨by rw [same]; exact ended.destroyed, ended.absent, ended.unheard⟩
  · exact ⟨CollabProvider.destroyed_step ended.destroyed moved, ended.absent, ended.unheard⟩

private theorem Runs.step (runs : collab.Runs env location roomId user) {event : ClientEvent}
    {client : Client} (window : event.isReact = false)
    (stepped : collab.client.step event = some client) :
    { collab with client := client }.Runs env location roomId user := by
  obtain ⟨name, same | ⟨browser, stays, moved⟩⟩ := Client.provider_step window stepped
  · exact ⟨by rw [same]; exact runs.alive, runs.url, name.trans runs.named, runs.present,
      runs.listens⟩
  · exact ⟨runs.alive.step stays moved, runs.url, name.trans runs.named, runs.present,
      runs.listens⟩

/-- The hook has the status that the listener was told. -/
theorem heard_step {event : ClientEvent} {client : Client} (window : event.isReact = false)
    (stepped : collab.client.step event = some client) :
    heard collab.client.provider client.provider collab.client.provider.status =
      client.provider.status := by
  have tells : CollabProvider.Tells collab.client.provider client.provider := by
    obtain ⟨-, same | ⟨browser, stays, moved⟩⟩ := Client.provider_step window stepped
    · exact .same (by rw [same]) (by rw [same])
    · exact CollabProvider.tells_step stays moved
  obtain ⟨told, notified, status⟩ := tells
  rw [heard, notified, List.drop_left]
  exact status

end Collab

namespace MountedRoom

private theorem current_hear (room : MountedRoom) (collab : Collab) (after : CollabProvider) :
    (room.hear collab after).current = room.current := by
  unfold hear
  split
  · rfl
  · rfl

private theorem roomId_hear (room : MountedRoom) (collab : Collab) (after : CollabProvider) :
    (room.hear collab after).roomId = room.roomId := by
  unfold hear
  split
  · rfl
  · rfl

private theorem first_hear (room : MountedRoom) (collab : Collab) (after : CollabProvider) :
    (room.hear collab after).first = room.first := by
  unfold hear
  split
  · rfl
  · rfl

end MountedRoom

/-! ### The page -/

namespace Page

/-- All that was ever mounted has been cleaned up. -/
structure Over (page : Page) : Prop where
  room : page.room = none
  ended : ∀ collab ∈ page.collabs, collab.Ended

/-- The room on the screen is mounted and its effect runs for the user of `App`;
all other runs were cleaned up. -/
structure Settled (env : Env) (page : Page) : Prop where
  ended : ∀ {index : ℕ} {collab}, page.collabs[index]? = some collab →
    page.room.map MountedRoom.current ≠ some index → collab.Ended
  runs : ∀ {room}, page.room = some room → ∃ app collab, page.tab.app = some app ∧
    page.collabs[room.current]? = some collab ∧
    collab.Runs env page.loadedAt room.roomId app.user ∧
    room.status = collab.client.provider.status ∧ room.first ≤ room.current
  shown : ∀ {app}, page.tab.app = some app →
    app.screen.inside = page.room.map MountedRoom.roomId

variable {env : Env} {page : Page}

private theorem Over.settled (vacant : page.Over)
    (outside : ∀ app, page.tab.app = some app → app.screen.inside = none) : page.Settled env where
  ended := fun {index collab} found _ => vacant.ended collab (List.mem_of_getElem? found)
  runs := fun isRoom => nomatch vacant.room.symm.trans isRoom
  shown := fun isApp => by
    rw [vacant.room]
    exact outside _ isApp

/-- The runs of a room that is mounted over. -/
theorem Over.mount (vacant : page.Over) {app : App} (isApp : page.tab.app = some app)
    {roomId : JsString} (inside : app.screen.inside = some roomId)
    (addressed : (socketUrl env page.loadedAt roomId).isSome) (date : ℚ) :
    (page.mount env roomId app.user date).Settled env ∧
      (page.mount env roomId app.user date).tab = page.tab ∧
      (page.mount env roomId app.user date).loadedAt = page.loadedAt := by
  obtain ⟨collab, started⟩ : ∃ collab,
      Collab.start env page.loadedAt roomId app.user date = some collab := by
    rw [← Option.isSome_iff_exists, Collab.start, Option.isSome_map]
    exact addressed
  have running := Collab.runs_start started
  obtain ⟨earlier, ended, isRuns⟩ : ∃ earlier : List Collab, (∀ run ∈ earlier, run.Ended) ∧
      (if env.dev then [collab.cleanUp, collab] else [collab]) = earlier ++ [collab] := by
    cases env.dev with
    | true => exact ⟨[collab.cleanUp], by simpa using running.cleanUp, rfl⟩
    | false => exact ⟨[], by simp, rfl⟩
  unfold Page.mount
  rw [started]
  dsimp only
  rw [isRuns]
  refine ⟨⟨?_, ?_, ?_⟩, rfl, rfl⟩
  · intro index run found notCurrent
    have before : ∀ run ∈ page.collabs ++ earlier, run.Ended := by
      intro run member
      rcases List.mem_append.mp member with was | double
      · exact vacant.ended run was
      · exact ended run double
    rw [← List.append_assoc] at found
    by_cases inside : index < (page.collabs ++ earlier).length
    · rw [List.getElem?_append_left inside] at found
      exact before run (List.mem_of_getElem? found)
    · have last : index = page.collabs.length + earlier.length := by
        have bound := (List.getElem?_eq_some_iff.mp found).1
        simp only [List.length_append, List.length_singleton] at bound inside
        omega
      exact absurd (by simp [last]) notCurrent
  · intro room isRoom
    cases isRoom
    refine ⟨app, collab, isApp, ?_, running, rfl, Nat.le_add_right _ _⟩
    simp
  · intro other isOther
    cases isApp.symm.trans isOther
    exact inside

private theorem unmount_of_none (noRoom : page.room = none) : page.unmount = page := by
  rw [unmount, noRoom]

private theorem unmount_of_room {room : MountedRoom} (isRoom : page.room = some room) :
    page.unmount = { page with
      collabs := page.collabs.modify room.current Collab.cleanUp
      room := none } := by
  rw [unmount, isRoom]

private theorem unmount_tab (page : Page) : page.unmount.tab = page.tab := by
  unfold unmount
  split
  · rfl
  · rfl

private theorem unmount_loadedAt (page : Page) : page.unmount.loadedAt = page.loadedAt := by
  unfold unmount
  split
  · rfl
  · rfl

/-- Whatever was mounted is over once it is unmounted. -/
theorem Settled.unmount {later : Page} (settled : page.Settled env)
    (collabs : later.collabs = page.collabs) (room : later.room = page.room) :
    later.unmount.Over := by
  cases isRoom : page.room with
  | none =>
      rw [unmount_of_none (room.trans isRoom)]
      refine ⟨room.trans isRoom, fun collab member => ?_⟩
      rw [collabs] at member
      obtain ⟨index, found⟩ := List.mem_iff_getElem?.mp member
      apply settled.ended found
      simp [isRoom]
  | some mounted =>
      obtain ⟨app, current, -, isCurrent, running, -, -⟩ := settled.runs isRoom
      rw [unmount_of_room (room.trans isRoom), collabs]
      refine ⟨rfl, fun collab member => ?_⟩
      obtain ⟨index, found⟩ := List.mem_iff_getElem?.mp member
      by_cases here : mounted.current = index
      · subst here
        rw [List.getElem?_modify_eq, isCurrent] at found
        cases found
        exact running.cleanUp
      · rw [List.getElem?_modify_ne _ _ here] at found
        apply settled.ended found
        simpa [isRoom] using here

private theorem rerender_collabs (page : Page) (room : MountedRoom) (user : User) (renamed : Bool)
    (payload : List UInt8) (index : ℕ) :
    (page.rerender room user renamed payload).collabs[index]? =
      page.collabs[index]?.map fun collab =>
        let referred := if room.first ≤ index then collab.refer user else collab
        if (renamed || !room.rendered) ∧ room.current = index then referred.setUser user payload
        else referred := by
  unfold rerender
  dsimp only
  by_cases changed : (renamed || !room.rendered) = true
  · rw [if_pos changed]
    by_cases here : room.current = index
    · subst here
      rw [List.getElem?_modify_eq, List.getElem?_mapIdx]
      simp [changed, Function.comp_def]
    · rw [List.getElem?_modify_ne _ _ here, List.getElem?_mapIdx]
      simp [here]
  · rw [if_neg changed, List.getElem?_mapIdx]
    simp [changed]

/-- A room that is rendered again has the user of `App`. -/
theorem Settled.rerender {later : Page} (settled : page.Settled env)
    (collabs : later.collabs = page.collabs) (loadedAt : later.loadedAt = page.loadedAt)
    {room : MountedRoom} (isRoom : page.room = some room) {app : App}
    (isApp : later.tab.app = some app) (inside : app.screen.inside = some room.roomId)
    {renamed : Bool} (kept : renamed = false → page.tab.app.map App.user = some app.user)
    (payload : List UInt8) : (later.rerender room app.user renamed payload).Settled env := by
  obtain ⟨earlier, collab, isEarlier, found, running, status, first⟩ := settled.runs isRoom
  refine ⟨?_, ?_, ?_⟩
  · intro index run isRun notCurrent
    rw [rerender_collabs, collabs] at isRun
    obtain ⟨was, wasFound, rfl⟩ := Option.map_eq_some_iff.mp isRun
    have elsewhere : room.current ≠ index := by
      intro here
      exact notCurrent (by simp [Page.rerender, here])
    have ended : was.Ended := settled.ended wasFound (by simpa [isRoom] using elsewhere)
    simp only [elsewhere, and_false, if_false]
    split
    · exact ended.refer app.user
    · exact ended
  · intro again isAgain
    cases isAgain
    have rendered := rerender_collabs later room app.user renamed payload room.current
    rw [collabs, found] at rendered
    refine ⟨app, _, isApp, rendered, ?_, ?_, first⟩
    · have location : (later.rerender room app.user renamed payload).loadedAt = page.loadedAt :=
        loadedAt
      rw [location]
      simp only [first, if_true, and_true]
      split
      · exact running.setUser app.user payload
      · next same =>
          have same : renamed = false := by
            cases renamed with
            | true => simp at same
            | false => rfl
          have user := kept same
          rw [isEarlier] at user
          have user : earlier.user = app.user := Option.some.inj user
          rw [← user]
          exact running.refer
    · simp only [first, if_true, and_true]
      split
      · rw [Collab.status_setUser]
        exact status
      · exact status
  · intro other isOther
    cases isApp.symm.trans isOther
    exact inside

/-- What `App` shows once it has been rendered anew. -/
structure Renders (env : Env) (before page : Page) (renamed : Bool) (app : App) : Prop where
  collabs : page.collabs = before.collabs
  room : page.room = before.room
  loadedAt : page.loadedAt = before.loadedAt
  isApp : page.tab.app = some app
  addressed : ∀ roomId, app.screen.inside = some roomId →
    (socketUrl env page.loadedAt roomId).isSome
  kept : renamed = false → before.room.isSome → app.screen.inside.isSome →
    before.tab.app.map App.user = some app.user

/-- React brings the rooms into line with the screen. -/
theorem Settled.commit {later : Page} (settled : page.Settled env) {renamed : Bool} {app : App}
    (renders : Renders env page later renamed app) (payload : List UInt8) (date : ℚ) :
    (later.commit env renamed payload date).Settled env ∧
      (later.commit env renamed payload date).tab = later.tab ∧
      (later.commit env renamed payload date).loadedAt = later.loadedAt := by
  have vacant := settled.unmount renders.collabs renders.room
  have same := unmount_tab later
  have located := unmount_loadedAt later
  have isApp : later.unmount.tab.app = some app := by
    rw [same]
    exact renders.isApp
  unfold Page.commit
  rw [renders.isApp]
  dsimp only
  cases inside : app.screen.inside with
  | none =>
      refine ⟨vacant.settled fun other isOther => ?_, same, located⟩
      cases isApp.symm.trans isOther
      exact inside
  | some roomId =>
      have mounts := vacant.mount isApp inside
        (located.symm ▸ renders.addressed roomId inside) date
      rw [same, located] at mounts
      cases isRoom : page.room with
      | none =>
          rw [renders.room, isRoom]
          rw [unmount_of_none (renders.room.trans isRoom)] at mounts
          exact mounts
      | some room =>
          rw [renders.room, isRoom]
          dsimp only
          split
          · next stays =>
              refine ⟨?_, rfl, rfl⟩
              apply settled.rerender renders.collabs renders.loadedAt isRoom renders.isApp
                (inside.trans (congrArg some stays.symm))
              intro quiet
              exact renders.kept quiet (by simp [isRoom]) (by simp [inside])
          · exact mounts

end Page

/-! ### The tab -/

namespace Tab

variable {hosts : HostParser} {tab later : Tab}

private theorem history_mount (tab : Tab) (picks : Picks) :
    (tab.mount picks).history = tab.history := by
  unfold mount
  split
  · rfl
  · dsimp only
    split
    · rfl
    · rfl

private theorem history_traverse (tab : Tab) (history : History Entry) (picks : Picks) :
    (tab.traverse history picks).history = history := by
  unfold traverse
  dsimp only
  split
  · unfold onPopState
    split
    · rfl
    · dsimp only
      split
      · rfl
      · rfl
  · exact history_mount _ picks

/-- Every address of the history has a scheme of the web. -/
def OnWeb (tab : Tab) : Prop := tab.history.All fun entry => IsWeb entry.url.scheme

private theorem OnWeb.enter (onWeb : tab.OnWeb) (app : App) (id name : JsString) :
    (tab.enter hosts app id name).OnWeb := by
  unfold Tab.enter
  dsimp only
  split
  · exact onWeb
  · split
    · exact onWeb
    · next url pushed =>
        obtain ⟨parsed, -, taken⟩ := Option.bind_eq_some_iff.mp pushed
        obtain ⟨⟨scheme, -, -⟩, same⟩ := Option.ite_none_right_eq_some.mp taken
        cases same
        have web : IsWeb tab.url.scheme := onWeb.here
        exact History.All.push onWeb (scheme.symm ▸ web)

private theorem OnWeb.leave (onWeb : tab.OnWeb) (app : App) : (tab.leave hosts app).OnWeb := by
  unfold Tab.leave
  split
  · exact onWeb
  · split
    · exact onWeb
    · next url pushed =>
        obtain ⟨parsed, -, taken⟩ := Option.bind_eq_some_iff.mp pushed
        obtain ⟨⟨scheme, -, -⟩, same⟩ := Option.ite_none_right_eq_some.mp taken
        cases same
        have web : IsWeb tab.url.scheme := onWeb.here
        exact History.All.push onWeb (scheme.symm ▸ web)

private theorem OnWeb.act (onWeb : tab.OnWeb) {app : App} {event : TabEvent}
    (taken : tab.act hosts app app.screen event = some later) : later.OnWeb := by
  unfold Tab.act at taken
  split at taken
  · obtain ⟨id, -, rfl⟩ := Option.map_eq_some_iff.mp taken
    exact onWeb.enter app id _
  · split at taken
    · cases taken
      exact onWeb
    · cases taken
      exact onWeb.enter app _ _
  · cases taken
    exact onWeb.enter app _ _
  · cases taken
    exact onWeb.leave app
  · cases taken
    exact onWeb.leave app
  · cases taken
    split
    · exact onWeb
    · exact onWeb
  · cases taken

private theorem OnWeb.step (onWeb : tab.OnWeb) {event : TabEvent}
    (taken : tab.step hosts event = some later) : later.OnWeb := by
  unfold Tab.step at taken
  split at taken
  · cases taken
    unfold OnWeb
    rw [history_mount]
    exact History.All.push onWeb onWeb.here
  · cases taken
    unfold OnWeb
    rw [history_mount]
    exact onWeb
  · obtain ⟨history, went, rfl⟩ := Option.map_eq_some_iff.mp taken
    unfold OnWeb
    rw [history_traverse]
    exact History.All.back onWeb went
  · obtain ⟨history, went, rfl⟩ := Option.map_eq_some_iff.mp taken
    unfold OnWeb
    rw [history_traverse]
    exact History.All.forward onWeb went
  · obtain ⟨app, -, acted⟩ := Option.bind_eq_some_iff.mp taken
    exact onWeb.act acted

private theorem user_leave {app next : App} (shown : tab.app = some app)
    (shows : (tab.leave hosts app).app = some next) : next.user = app.user := by
  unfold Tab.leave at shows
  split at shows
  · cases shown.symm.trans shows
    rfl
  · split at shows
    · cases shown.symm.trans shows
      rfl
    · cases shows
      rfl

/-- In a room only a rename makes another user of the one there is. -/
theorem user_of_step {visitor : Visitor JsString JsString} (follows : tab.Follows hosts visitor)
    {event : TabEvent} (taken : tab.step hosts event = some later)
    (stays : tab.loads later event = false) (quiet : event.renames = false) {app : App}
    (shown : tab.app = some app) (inside : app.screen.inside.isSome) {next : App}
    (shows : later.app = some next) : next.user = app.user := by
  obtain ⟨rooms, user, storesRooms, -, storesUser, -, isShown⟩ := follows.stored
  have storesUser : StoresUser tab.storage app.user := by
    cases shown.symm.trans isShown
    exact storesUser
  obtain ⟨roomId, isRoom⟩ : ∃ roomId, app.screen = .room roomId := by
    cases screen : app.screen with
    | lobby => simp [screen, Screen.inside] at inside
    | gate roomId => simp [screen, Screen.inside] at inside
    | room roomId => exact ⟨roomId, rfl⟩
  unfold Tab.step at taken
  split at taken
  · simp [loads] at stays
  · simp [loads] at stays
  · obtain ⟨history, -, rfl⟩ := Option.map_eq_some_iff.mp taken
    rw [traverse_of_stores storesRooms storesUser shown] at shows
    cases shows
    rfl
  · obtain ⟨history, -, rfl⟩ := Option.map_eq_some_iff.mp taken
    rw [traverse_of_stores storesRooms storesUser shown] at shows
    cases shows
    rfl
  · obtain ⟨other, isOther, acted⟩ := Option.bind_eq_some_iff.mp taken
    cases shown.symm.trans isOther
    rw [isRoom] at acted
    cases event with
    | leave =>
        cases acted
        exact user_leave shown shows
    | commit draft =>
        have nameless : nameIn draft = [] := by simpa [TabEvent.renames] using quiet
        cases acted
        rw [if_pos nameless] at shows
        cases shown.symm.trans shows
        rfl
    | _ => simp [Tab.act] at acted

end Tab

/-! ### Every run -/

/-- The address of a socket is absolute. -/
theorem parse_socketUrl {hosts : HostParser} {location : Url} {env : Env}
    (isServer : IsServer hosts (serverUrl env location)) {id url : JsString} (isId : IsId id)
    (address : socketUrl env location id = some url) (base other : Option Url) :
    Url.parse hosts base (Utf16.decode url) = Url.parse hosts other (Utf16.decode url) := by
  obtain ⟨server, site, isAddress⟩ := isServer
  obtain ⟨chars, rfl, isChars, nonempty⟩ := isId.chars
  have segment := isSegment_of_isIdChar nonempty isChars
  have encoded : encodeURIComponent (Utf16.encode chars) = some (Utf16.encode chars) := by
    rw [encodeURIComponent, Utf16.decode_encode, if_pos rfl, encode_of_isIdChar isChars]
  have written : url = Utf16.encode (server.origin ++ '/' :: ("doc".toList ++ '/' :: chars)) := by
    rw [socketUrl, encoded, Option.map_some, isAddress] at address
    rw [← Option.some.inj address]
    simp [Utf16.encode]
  rw [written, Utf16.decode_encode, parse_atPath site base isSegment_doc segment,
    parse_atPath site other isSegment_doc segment]

/-- The server finds the room in the path a socket asks for, wherever the page is
by then. -/
theorem documentIdFrom_request {hosts : HostParser} {location : Url} {env : Env}
    (isServer : IsServer hosts (serverUrl env location)) {id url : JsString} (isId : IsId id)
    (address : socketUrl env location id = some url) (base : Url) :
    (requestPath hosts base url).bind (fun path => documentIdFrom (some path)) = some id := by
  have here := documentIdFrom_socketUrl isServer isId
  rw [address, Option.bind_some] at here
  rw [requestPath, parse_socketUrl isServer isId address (some base) (some location)]
  exact here

namespace Page

section

variable {hosts : HostParser} {env : Env}

/-- A page whose parts agree. -/
structure InLine (hosts : HostParser) (env : Env) (page : Page) : Prop where
  follows : ∃ visitor, page.tab.Follows hosts visitor
  onWeb : page.tab.OnWeb
  site : page.loadedAt.IsSite hosts
  web : IsWeb page.loadedAt.scheme
  settled : page.Settled env

variable {page : Page}

private theorem InLine.render (inLine : page.InLine hosts env) {payload : List UInt8} {after : Page}
    (stepped : page.step hosts env (.render payload) = some after) :
    after.InLine hosts env ∧ after.tab = page.tab := by
  obtain ⟨room, isRoom, taken⟩ := Option.bind_eq_some_iff.mp stepped
  obtain ⟨app, isApp, rfl⟩ := Option.map_eq_some_iff.mp taken
  have inside : app.screen.inside = some room.roomId := by
    rw [inLine.settled.shown isApp, isRoom]
    rfl
  have kept : false = false → page.tab.app.map App.user = some app.user := by
    intro _
    rw [isApp]
    rfl
  have settled := inLine.settled.rerender rfl rfl isRoom isApp inside kept payload
  exact ⟨⟨inLine.follows, inLine.onWeb, inLine.site, inLine.web, settled⟩, rfl⟩

/-- What a provider or a session source gets. -/
theorem InLine.collab (inLine : page.InLine hosts env) {index : ℕ} {event : ClientEvent}
    {after : Page} (stepped : page.step hosts env (.collab index event) = some after) :
    after.InLine hosts env ∧ after.tab = page.tab := by
  obtain ⟨window, taken⟩ := Option.ite_none_left_eq_some.mp stepped
  have window : event.isReact = false := by simpa using window
  obtain ⟨collab, found, moved⟩ := Option.bind_eq_some_iff.mp taken
  obtain ⟨client, clientStepped, rfl⟩ := Option.map_eq_some_iff.mp moved
  have bound := (List.getElem?_eq_some_iff.mp found).1
  have settled := inLine.settled
  refine ⟨⟨inLine.follows, inLine.onWeb, inLine.site, inLine.web, ?_, ?_, ?_⟩, rfl⟩
  · intro other run isRun notCurrent
    have elsewhere : page.room.map MountedRoom.current ≠ some other := by
      simpa [Function.comp_def, MountedRoom.current_hear] using notCurrent
    by_cases here : index = other
    · subst here
      rw [List.getElem?_set_self bound] at isRun
      cases isRun
      exact (settled.ended found elsewhere).step window clientStepped
    · rw [List.getElem?_set_ne here] at isRun
      exact settled.ended isRun elsewhere
  · intro room isRoom
    obtain ⟨mounted, isMounted, rfl⟩ := Option.map_eq_some_iff.mp isRoom
    obtain ⟨app, current, isApp, isCurrent, running, status, first⟩ := settled.runs isMounted
    rw [mounted.roomId_hear collab client.provider, mounted.first_hear collab client.provider,
      mounted.current_hear collab client.provider]
    by_cases here : index = mounted.current
    · subst here
      cases found.symm.trans isCurrent
      refine ⟨app, _, isApp, List.getElem?_set_self bound, running.step window clientStepped, ?_,
        first⟩
      rw [MountedRoom.hear, if_pos running.listens, status]
      exact Collab.heard_step window clientStepped
    · refine ⟨app, current, isApp, ?_, running, ?_, first⟩
      · rw [List.getElem?_set_ne here]
        exact isCurrent
      · have elsewhere : page.room.map MountedRoom.current ≠ some index := by
          simp [isMounted, Ne.symm here]
        have unheard := (settled.ended found elsewhere).unheard
        rw [MountedRoom.hear, if_neg (by simp [unheard])]
        exact status
  · intro app isApp
    rw [settled.shown isApp, Option.map_map]
    congr
    funext room
    exact (room.roomId_hear collab client.provider).symm

/-- The room on the screen is the one at the address. Its effect runs for the user of
`App`, the status on the screen is that of its provider, and the server finds
the room in the path this connects to. All other runs have ended. -/
structure HoldsItsRoom (hosts : HostParser) (env : Env) (page : Page) (app : App) : Prop where
  shown : app.screen.inside = page.room.map MountedRoom.roomId
  room : ∀ room, page.room = some room → roomFromLocation page.tab.url = some room.roomId ∧
    ∃ collab, page.collabs[room.current]? = some collab ∧
      collab.Runs env page.loadedAt room.roomId app.user ∧
      room.status = collab.client.provider.status ∧
      ∀ base, (requestPath hosts base collab.url).bind
        (fun path => documentIdFrom (some path)) = some room.roomId
  others : ∀ index collab, page.collabs[index]? = some collab →
    page.room.map MountedRoom.current ≠ some index → collab.Ended

variable (configured : ∀ address ∈ env.wsUrl, IsServer hosts address)

include configured

/-- What `App` shows has an address. -/
theorem addressed {tab : Tab} {visitor : Visitor JsString JsString}
    (follows : tab.Follows hosts visitor) {app : App} (shown : tab.app = some app)
    {location : Url} (site : location.IsSite hosts) (web : IsWeb location.scheme)
    {roomId : JsString} (inside : app.screen.inside = some roomId) :
    roomFromLocation tab.url = some roomId ∧ (socketUrl env location roomId).isSome := by
  have current : app.roomId = some roomId := by
    unfold App.screen at inside
    split at inside
    · simp [Screen.inside] at inside
    · next other isRoom =>
        split at inside
        · rw [isRoom]
          exact inside
        · simp [Screen.inside] at inside
  have atRoom : roomFromLocation tab.url = some roomId :=
    (follows.roomId_eq shown).symm.trans current
  refine ⟨atRoom, ?_⟩
  have found := documentIdFrom_socketUrl (isServer_serverUrl site web configured)
    (isId_of_roomFromLocation atRoom)
  obtain ⟨path, asked, -⟩ := Option.bind_eq_some_iff.mp found
  obtain ⟨address, isAddress, -⟩ := Option.bind_eq_some_iff.mp asked
  rw [isAddress]
  rfl

private theorem inLine_load {tab : Tab} {visitor : Visitor JsString JsString}
    (follows : tab.Follows hosts visitor) (onWeb : tab.OnWeb) (date : ℚ) :
    (load env tab date).InLine hosts env ∧ (load env tab date).tab = tab := by
  have site : tab.url.IsSite hosts := follows.sites.here
  have web : IsWeb tab.url.scheme := onWeb.here
  obtain ⟨user, joined, -, -, -, shown⟩ := follows.shows
  have empty : (⟨{ tab with app := none }, tab.url, [], none⟩ : Page).Settled env :=
    ⟨fun found _ => by simp at found, nofun, nofun⟩
  have renders : Renders env ⟨{ tab with app := none }, tab.url, [], none⟩
      ⟨tab, tab.url, [], none⟩ false ⟨user, roomFromLocation tab.url, joined⟩ := by
    refine ⟨rfl, rfl, rfl, shown, fun roomId inside => ?_, fun _ mounted => by simp at mounted⟩
    exact (addressed configured follows shown site web inside).2
  obtain ⟨settled, same, located⟩ := empty.commit renders [] date
  have same : (load env tab date).tab = tab := same
  have located : (load env tab date).loadedAt = tab.url := located
  refine ⟨⟨⟨visitor, same.symm ▸ follows⟩, same.symm ▸ onWeb, ?_, ?_, settled⟩, same⟩
  · rw [located]
    exact site
  · rw [located]
    exact web

/-- What is done to the tab. -/
theorem InLine.tab (inLine : page.InLine hosts env) {event : TabEvent} {tab : Tab}
    (taken : page.tab.step hosts event = some tab) {payload : List UInt8} {date : ℚ}
    {after : Page} (stepped : page.step hosts env (.tab event payload date) = some after) :
    after.InLine hosts env ∧ after.tab = tab := by
  obtain ⟨visitor, follows⟩ := inLine.follows
  obtain ⟨next, -, follows'⟩ := follows.step taken
  have onWeb := inLine.onWeb.step taken
  have stepped : (if page.tab.loads tab event then load env tab date
      else { page with tab := tab }.commit env event.renames payload date) = after := by
    simpa [step, taken] using stepped
  subst stepped
  cases loads : page.tab.loads tab event with
  | true =>
      rw [if_pos rfl]
      exact inLine_load configured follows' onWeb date
  | false =>
      rw [if_neg (by simp)]
      obtain ⟨user, joined, -, -, -, shown⟩ := follows'.shows
      obtain ⟨oldUser, oldJoined, -, -, -, wasShown⟩ := follows.shows
      have renders : Renders env page { page with tab := tab } event.renames
          ⟨user, roomFromLocation tab.url, joined⟩ := by
        refine ⟨rfl, rfl, rfl, shown, fun roomId inside => ?_, fun quiet mounted _ => ?_⟩
        · exact (addressed configured follows' shown inLine.site inLine.web inside).2
        · have inside := inLine.settled.shown wasShown
          have isInside : (page.room.map MountedRoom.roomId).isSome := by
            rw [Option.isSome_map]
            exact mounted
          rw [← inside] at isInside
          have same := Tab.user_of_step follows taken loads quiet wasShown isInside shown
          rw [wasShown]
          exact congrArg some same.symm
      obtain ⟨settled, same, located⟩ := inLine.settled.commit renders payload date
      refine ⟨⟨⟨next, ?_⟩, ?_, ?_, ?_, settled⟩, same⟩
      · rw [same]
        exact follows'
      · rw [same]
        exact onWeb
      · rw [located]
        exact inLine.site
      · rw [located]
        exact inLine.web

/-- A tab holds the room on its screen and no other, whatever is done in it, and
whatever the providers and requests of this room and of earlier ones get to
hear. -/
theorem tab_holds_its_room {url : Url} (site : url.IsSite hosts) (web : IsWeb url.scheme)
    (picks : Picks) (date : ℚ) {events : List PageEvent} {page : Page}
    (ran : run (step hosts env) (opened env url picks date) events = some page) :
    Reached (Tab.step hosts) (· = Tab.opened url picks) page.tab ∧
      ∃ app, page.tab.app = some app ∧ page.HoldsItsRoom hosts env app := by
  have starts : (opened env url picks date).InLine hosts env ∧
      (opened env url picks date).tab = Tab.opened url picks := by
    apply inLine_load configured (Tab.follows_opened site picks)
    unfold Tab.OnWeb
    rw [Tab.opened, Tab.history_mount]
    exact History.all_new web
  have holds : page.InLine hosts env ∧
      Reached (Tab.step hosts) (· = Tab.opened url picks) page.tab := by
    have reached : Reached (step hosts env) (· = opened env url picks date) page :=
      reachedWhen_of_runWhen (.start rfl) ran
    apply reached.invariant (fun page => page.InLine hosts env ∧
      Reached (Tab.step hosts) (· = Tab.opened url picks) page.tab)
    · intro page isOpened
      rw [isOpened]
      exact ⟨starts.1, .start starts.2⟩
    · intro page event after earlier _ stepped
      obtain ⟨inLine, reached⟩ := earlier
      cases event with
      | tab event payload date =>
          obtain ⟨tab, taken, -⟩ := Option.map_eq_some_iff.mp stepped
          obtain ⟨later, same⟩ := inLine.tab configured taken stepped
          exact ⟨later, same ▸ .next reached trivial taken⟩
      | render payload =>
          obtain ⟨later, same⟩ := inLine.render stepped
          exact ⟨later, same ▸ reached⟩
      | collab index event =>
          obtain ⟨later, same⟩ := inLine.collab stepped
          exact ⟨later, same ▸ reached⟩
  obtain ⟨inLine, reached⟩ := holds
  obtain ⟨visitor, follows⟩ := inLine.follows
  obtain ⟨user, joined, -, -, -, shown⟩ := follows.shows
  refine ⟨reached, _, shown, inLine.settled.shown shown, fun room isRoom => ?_,
    fun index collab found elsewhere => inLine.settled.ended found elsewhere⟩
  obtain ⟨app, collab, isApp, found, running, status, -⟩ := inLine.settled.runs isRoom
  cases shown.symm.trans isApp
  have inside := inLine.settled.shown shown
  rw [isRoom] at inside
  have atRoom := (addressed configured follows shown inLine.site inLine.web inside).1
  have isServer := isServer_serverUrl inLine.site inLine.web configured
  exact ⟨atRoom, collab, found, running, status,
    documentIdFrom_request isServer (isId_of_roomFromLocation atRoom) running.url⟩

end

/-- A room is made and connected, left and joined again, in a development build;
the requests and the socket of its first runs end later. -/
def rejoining : List PageEvent :=
  let token := Json.text "t"
  [.tab (.create [] [List.replicate 24 8]) [] 0, .render [],
    .collab 1 (.sessionFetched token 3600 0), .collab 1 (.browser (.tokenResolved 0 token) 0),
    .collab 1 (.browser (.opened 1 [0] none) 0), .tab .leave [] 0,
    .collab 0 .sessionFailed, .collab 0 (.browser (.tokenRejected 0 0) 0),
    .tab (.back Tab.firstPicks) [] 0, .tab (.pass (Json.text "ada")) [] 0,
    .collab 1 (.browser (.closed 1 1005 0) 0)]

theorem tab_holds_its_room_rejoined :
    ∃ page, run (step localHosts ⟨true, none⟩)
        (opened ⟨true, none⟩ localPage Tab.firstPicks 0) rejoining = some page ∧
      page.room.map MountedRoom.current = some 3 ∧
      Reached (Tab.step localHosts) (· = Tab.opened localPage Tab.firstPicks) page.tab ∧
      ∃ app, page.tab.app = some app ∧ page.HoldsItsRoom localHosts ⟨true, none⟩ app := by
  have enabled : ((run (step localHosts ⟨true, none⟩)
      (opened ⟨true, none⟩ localPage Tab.firstPicks 0) rejoining).any fun page =>
        page.room.map MountedRoom.current = some 3) = true := by
    decide +kernel
  obtain ⟨page, ran, current⟩ := (Option.any_eq_true _ _).mp enabled
  have configured : ∀ address ∈ (⟨true, none⟩ : Env).wsUrl, IsServer localHosts address := nofun
  obtain ⟨reached, holds⟩ := tab_holds_its_room configured localPage_isSite (Or.inl rfl)
    Tab.firstPicks 0 ran
  exact ⟨page, ran, of_decide_eq_true current, reached, holds⟩

end Page

end CollabEditor.Web
