import CollabEditor.Web.App
import CollabEditor.Web.SessionSource

/-!
Owns `useCollab` and the `Room` it is called by: what React mounts and cleans up
as a tab goes from room to room, while every provider there has been still gets
its events. A development build mounts under `StrictMode`.
-/

set_option autoImplicit false

namespace CollabEditor.Web

open CollabEditor.Library

/-- `onAwarenessUpdate`, with what `encodeAwarenessUpdate` makes. -/
def CollabProvider.announce (provider : CollabProvider) (payload : List UInt8) : CollabProvider :=
  if provider.destroyed then provider else provider.send (.awareness payload)

/-- A run of the effect of `useCollab`, with what it has made. -/
structure Collab where
  documentId : JsString
  /-- What its provider connects to. -/
  url : JsString
  client : Client
  /-- The `user` of the local awareness state, while there is one. -/
  presence : Option User
  /-- `setStatus` is a listener of the provider. -/
  listens : Bool

namespace Collab

/-- The effect; `none` when it throws. -/
def start (env : Env) (location : Url) (documentId : JsString) (user : User) (date : ℚ) :
    Option Collab :=
  (socketUrl env location documentId).map fun url =>
    ⟨documentId, url, .new user.name date, some user, true⟩

/-- The cleanup. The provider no longer hears that the local state is gone. -/
def cleanUp (collab : Collab) : Collab :=
  { collab with
    client := { collab.client with provider := collab.client.provider.destroy }
    presence := none
    listens := false }

/-- `userRef.current = user`. -/
def refer (collab : Collab) (user : User) : Collab :=
  { collab with client := { collab.client with name := user.name } }

/-- `setLocalStateField('user', user)`. -/
def setUser (collab : Collab) (user : User) (payload : List UInt8) : Collab :=
  match collab.presence with
  | none => collab
  | some _ =>
      { collab with
        client := { collab.client with provider := collab.client.provider.announce payload }
        presence := some user }

end Collab

/-- A `Room` that is mounted. -/
structure MountedRoom where
  /-- Its `key`. -/
  roomId : JsString
  /-- Where the runs of its effect begin. -/
  first : ℕ
  /-- The run that has not been cleaned up. -/
  current : ℕ
  status : ConnectionStatus
  /-- It was rendered with the session of this run. -/
  rendered : Bool

/-- What a listener of the provider was called with last. -/
def heard (before after : CollabProvider) (status : ConnectionStatus) : ConnectionStatus :=
  ((after.notified.drop before.notified.length).getLast?).getD status

/-- The calls of `setStatus` as the provider of a run goes on. -/
def MountedRoom.hear (room : MountedRoom) (collab : Collab) (after : CollabProvider) :
    MountedRoom :=
  if collab.listens then
    { room with status := heard collab.client.provider after room.status }
  else room

/-- The document of a tab, with every run of the effect there has been in it. -/
structure Page where
  tab : Tab
  /-- `location` when the modules were evaluated. -/
  loadedAt : Url
  collabs : List Collab
  room : Option MountedRoom

/-- The room that a screen shows. -/
def Screen.inside {Room : Type} : Screen Room → Option Room
  | .room shown => some shown
  | _ => none

/-- Whether the event calls `onRename` of a room. -/
def TabEvent.renames : TabEvent → Bool
  | .commit draft => nameIn draft ≠ []
  | _ => false

/-- Whether the event loads a document. -/
def Tab.loads (before after : Tab) : TabEvent → Bool
  | .visit _ _ | .reload _ => true
  | _ => after.history.here.document ≠ before.history.here.document

inductive PageEvent where
  /-- With what `encodeAwarenessUpdate` makes of a new name, and the time. -/
  | tab (event : TabEvent) (payload : List UInt8) (date : ℚ)
  /-- The room is rendered with what its effect has set. -/
  | render (payload : List UInt8)
  /-- A provider or a session source that was made gets an event. -/
  | collab (index : ℕ) (event : ClientEvent)

/-- What is up to React and not to the window. -/
def ClientEvent.isReact : ClientEvent → Bool
  | .renamed _ => true
  | .browser .destroy _ => true
  | _ => false

namespace Page

/-- A `Room` is mounted. An effect that throws takes everything down. -/
def mount (env : Env) (page : Page) (roomId : JsString) (user : User) (date : ℚ) : Page :=
  match Collab.start env page.loadedAt roomId user date with
  | none => { page with tab := { page.tab with app := none }, room := none }
  | some collab =>
      let runs := if env.dev then [collab.cleanUp, collab] else [collab]
      let first := page.collabs.length
      { page with
        collabs := page.collabs ++ runs
        room := some
          ⟨roomId, first, first + (runs.length - 1), collab.client.provider.status, false⟩ }

/-- The `Room` is unmounted, if there is one. -/
def unmount (page : Page) : Page :=
  match page.room with
  | none => page
  | some room =>
      { page with
        collabs := page.collabs.modify room.current Collab.cleanUp
        room := none }

/-- The `Room` is rendered again; the second effect runs if the user or the
session is a new one. -/
def rerender (page : Page) (room : MountedRoom) (user : User) (renamed : Bool)
    (payload : List UInt8) : Page :=
  let referred := page.collabs.mapIdx fun index collab =>
    if room.first ≤ index then collab.refer user else collab
  { page with
    collabs :=
      if renamed || !room.rendered then
        referred.modify room.current fun collab => collab.setUser user payload
      else referred
    room := some { room with rendered := true } }

/-- React commits what `App` has rendered. -/
def commit (env : Env) (page : Page) (renamed : Bool) (payload : List UInt8) (date : ℚ) : Page :=
  match page.tab.app with
  | none => page.unmount
  | some app =>
      match app.screen.inside, page.room with
      | none, _ => page.unmount
      | some roomId, none => page.mount env roomId app.user date
      | some roomId, some room =>
          if room.roomId = roomId then page.rerender room app.user renamed payload
          else page.unmount.mount env roomId app.user date

/-- A document is loaded in the tab. -/
def load (env : Env) (tab : Tab) (date : ℚ) : Page :=
  (⟨tab, tab.url, [], none⟩ : Page).commit env false [] date

/-- A new tab is opened. -/
def opened (env : Env) (url : Url) (picks : Picks) (date : ℚ) : Page :=
  load env (.opened url picks) date

def step (hosts : HostParser) (env : Env) (page : Page) : PageEvent → Option Page
  | .tab event payload date =>
      (page.tab.step hosts event).map fun tab =>
        if page.tab.loads tab event then load env tab date
        else { page with tab := tab }.commit env event.renames payload date
  | .render payload =>
      page.room.bind fun room => page.tab.app.map fun app =>
        page.rerender room app.user false payload
  | .collab index event =>
      if event.isReact then none
      else page.collabs[index]?.bind fun collab =>
        (collab.client.step event).map fun client =>
          { page with
            collabs := page.collabs.set index { collab with client := client }
            room := page.room.map fun room => room.hear collab client.provider }

end Page

end CollabEditor.Web
