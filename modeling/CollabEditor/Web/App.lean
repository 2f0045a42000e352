import CollabEditor.Library.History
import CollabEditor.Library.Transition
import CollabEditor.Web.JoinedRooms
import CollabEditor.Web.RoomLinks

/-!
Owns the navigation of `App`: a tab with its history and its `sessionStorage`,
the three screens, and what their controls do. A document that is loaded renders
`App` anew; one that is traversed within gets `popstate`.
-/

set_option autoImplicit false

namespace CollabEditor.Web

open CollabEditor.Library

/-- An entry of the history, with the document it belongs to. -/
structure Entry where
  url : Url
  document : ℕ

/-- The three screens. -/
inductive Screen (Room : Type) where
  | lobby
  | gate (room : Room)
  | room (room : Room)
deriving DecidableEq

/-- The state of `App`. -/
structure App where
  user : User
  roomId : Option JsString
  joined : Bool

/-- What `App` renders. -/
def App.screen (app : App) : Screen JsString :=
  match app.roomId with
  | none => .lobby
  | some roomId => if app.joined then .room roomId else .gate roomId

structure Tab where
  history : History Entry
  storage : SessionStorage
  /-- The documents there have been. -/
  documents : ℕ
  /-- `none` once the first rendering of the document has thrown. -/
  app : Option App
  /-- A handler threw. -/
  threw : Bool

/-- `draft.trim().slice(0, 32)`. -/
def nameIn (draft : JsString) : JsString := (Http.trim draft).take 32

/-- `draft.trim().slice(0, 32) || name`. -/
def displayName (draft name : JsString) : JsString :=
  if nameIn draft = [] then name else nameIn draft

/-- `pushLobby`; `none` when it throws. -/
def pushLobby (hosts : HostParser) (location : Url) : Option Url :=
  (Url.parse hosts (some location) "/".toList).bind fun url =>
    if url.scheme = location.scheme ∧ url.host = location.host ∧ url.port = location.port then
      some url
    else none

/-- `current !== null && hasJoined(current)`; `none` when it throws. -/
def joinedAt (storage : SessionStorage) : Option JsString → Option Bool
  | none => some false
  | some current => hasJoined storage current

/-- `if (roomId) forgetJoin(roomId)`; `none` when it throws. -/
def forgetRoom (storage : SessionStorage) : Option JsString → Option SessionStorage
  | none => some storage
  | some roomId => if roomId = [] then some storage else forgetJoin storage roomId

namespace Tab

/-- `location`. -/
def url (tab : Tab) : Url := tab.history.here.url

/-- A document is loaded, and `App` rendered for the first time. -/
def mount (tab : Tab) (picks : Picks) : Tab :=
  match localUser tab.storage picks with
  | none => { tab with app := none }
  | some (user, storage) =>
      let roomId := roomFromLocation tab.url
      match joinedAt storage roomId with
      | none => { tab with storage := storage, app := none }
      | some joined => { tab with storage := storage, app := some ⟨user, roomId, joined⟩ }

/-- `onPopState`. -/
def onPopState (tab : Tab) : Tab :=
  match tab.app with
  | none => tab
  | some app =>
      let current := roomFromLocation tab.url
      match joinedAt tab.storage current with
      | none => { tab with app := some { app with roomId := current }, threw := true }
      | some joined =>
          { tab with app := some { app with roomId := current, joined := joined } }

/-- The browser goes to another entry of the history. -/
def traverse (tab : Tab) (history : History Entry) (picks : Picks) : Tab :=
  let moved := { tab with history := history }
  if history.here.document = tab.history.here.document then moved.onPopState
  else moved.mount picks

/-- `rename`. -/
def rename (tab : Tab) (app : App) (name : JsString) : Tab :=
  let user := { app.user with name := name }
  { tab with storage := saveUser tab.storage user, app := some { app with user := user } }

/-- `enter`. -/
def enter (hosts : HostParser) (tab : Tab) (app : App) (id name : JsString) : Tab :=
  let renamed := tab.rename app name
  match rememberJoin renamed.storage id with
  | none => { renamed with threw := true }
  | some storage =>
      match pushRoom hosts tab.url id with
      | none => { renamed with storage := storage, threw := true }
      | some url =>
          { renamed with
            storage := storage
            history := tab.history.push ⟨url, tab.history.here.document⟩
            app := some ⟨{ app.user with name := name }, some id, true⟩ }

/-- `leave`. -/
def leave (hosts : HostParser) (tab : Tab) (app : App) : Tab :=
  match forgetRoom tab.storage app.roomId with
  | none => { tab with threw := true }
  | some storage =>
      match pushLobby hosts tab.url with
      | none => { tab with storage := storage, threw := true }
      | some url =>
          { tab with
            storage := storage
            history := tab.history.push ⟨url, tab.history.here.document⟩
            app := some { app with roomId := none, joined := false } }

/-- A new tab of the browser is opened at an address. -/
def opened (url : Url) (picks : Picks) : Tab :=
  mount ⟨.new ⟨url, 0⟩, ∅, 1, none, false⟩ picks

end Tab

inductive TabEvent where
  /-- A path of the site is typed or followed. -/
  | visit (path : List (List Char)) (picks : Picks)
  | reload (picks : Picks)
  | back (picks : Picks)
  | forward (picks : Picks)
  /-- `Create a room`, with what `getRandomValues` returns. -/
  | create (draftName : JsString) (buffers : List (List UInt8))
  /-- `Join` of the lobby. -/
  | join (draftName code : JsString)
  /-- `Join room` of the gate. -/
  | pass (draft : JsString)
  /-- `Start my own room instead`. -/
  | cancel
  /-- `Leave`. -/
  | leave
  /-- `commit` of the status bar. -/
  | commit (draft : JsString)

namespace Tab

/-- What happens on a screen that has the control. -/
def act (hosts : HostParser) (tab : Tab) (app : App) : Screen JsString → TabEvent → Option Tab
  | .lobby, .create draftName buffers =>
      (createRoomId buffers).map fun id =>
        tab.enter hosts app id (displayName draftName app.user.name)
  | .lobby, .join draftName code =>
      match parseRoomInput hosts code with
      | none => some tab
      | some roomId => some (tab.enter hosts app roomId (displayName draftName app.user.name))
  | .gate roomId, .pass draft =>
      some (tab.enter hosts app roomId (displayName draft app.user.name))
  | .gate _, .cancel => some (tab.leave hosts app)
  | .room _, .leave => some (tab.leave hosts app)
  | .room _, .commit draft =>
      some (if nameIn draft = [] then tab else tab.rename app (nameIn draft))
  | _, _ => none

def step (hosts : HostParser) (tab : Tab) : TabEvent → Option Tab
  | .visit path picks =>
      let url := { tab.url with path := .segments path }
      some (mount
        { tab with
          history := tab.history.push ⟨url, tab.documents⟩
          documents := tab.documents + 1 } picks)
  | .reload picks => some (tab.mount picks)
  | .back picks => tab.history.back.map fun history => tab.traverse history picks
  | .forward picks => tab.history.forward.map fun history => tab.traverse history picks
  | event => tab.app.bind fun app => tab.act hosts app app.screen event

end Tab

end CollabEditor.Web
