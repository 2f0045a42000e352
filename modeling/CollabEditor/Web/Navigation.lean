import CollabEditor.Web.App
import CollabEditor.Web.RoomIds
import Mathlib.Data.Set.Insert

/-!
Owns what the navigation of a tab is for: a visitor with a history of rooms who
is through the door of some of them. The tab refines the visitor, run by run, so
that its address bar, its storage and the state of `App` never disagree.

A document that the tab leaves is loaded again when it comes back, never taken
from a cache of pages, and neither `pushState` nor `sessionStorage` throws.
-/

set_option autoImplicit false

namespace CollabEditor.Web

open CollabEditor.Library CollabEditor.Ws

/-! ### The visitor -/

/-- Where a visitor has been, with `none` for the lobby, the rooms they are in, and
the name they go by. -/
structure Visitor (Room Name : Type) where
  places : History (Option Room)
  joined : Set Room
  name : Name

inductive Deed (Room Name : Type) where
  | arrive (place : Option Room)
  | stay
  | back
  | forward
  | enter (room : Room) (name : Name)
  | leave
  | rename (name : Name)

namespace Visitor

variable {Room Name : Type}

/-- A visitor who is in no room yet. -/
def arrived (place : Option Room) (name : Name) : Visitor Room Name := ⟨.new place, ∅, name⟩

def step (visitor : Visitor Room Name) : Deed Room Name → Option (Visitor Room Name)
  | .arrive place => some { visitor with places := visitor.places.push place }
  | .stay => some visitor
  | .back => visitor.places.back.map fun places => { visitor with places := places }
  | .forward => visitor.places.forward.map fun places => { visitor with places := places }
  | .enter room name =>
      some ⟨visitor.places.push (some room), insert room visitor.joined, name⟩
  | .leave =>
      some { visitor with
        places := visitor.places.push none
        joined := { room ∈ visitor.joined | visitor.places.here ≠ some room } }
  | .rename name => some { visitor with name := name }

/-- The screen is the one of the place, and a room is shown to those inside. -/
def Sees (visitor : Visitor Room Name) : Screen Room → Prop
  | .lobby => visitor.places.here = none
  | .gate room => visitor.places.here = some room ∧ room ∉ visitor.joined
  | .room room => visitor.places.here = some room ∧ room ∈ visitor.joined

end Visitor

/-! ### Addresses of the site -/

section

variable {hosts : HostParser} {location url : Url}

theorem isId_of_roomFromLocation {id : JsString} (atRoom : roomFromLocation location = some id) :
    IsId id := by
  obtain ⟨found, executes, captured⟩ := Option.bind_eq_some_iff.mp atRoom
  obtain ⟨other, slash, -, isId, -, same⟩ := roomPath_of_exec executes
  have := Option.some.inj (same.symm.trans captured)
  rwa [← this]

private theorem isSite_withPath (page : location.IsSite hosts) (path : List (List Char)) :
    { location with path := .segments path : Url }.IsSite hosts :=
  ⟨page.special, page.notFile, page.host, page.port, path, rfl⟩

private theorem pushRoom_eq (page : location.IsSite hosts) {id : JsString} (isId : IsId id) :
    ∃ url, pushRoom hosts location id = some url ∧ url.IsSite hosts ∧
      roomFromLocation url = some id := by
  obtain ⟨chars, rfl, isChars, nonempty⟩ := isId.chars
  have segment := isSegment_of_isIdChar nonempty isChars
  have parsed : Url.parse hosts (some location)
      (Utf16.decode (Utf16.encode "/r/".toList ++ Utf16.encode chars)) =
        some (atPath location ['r'] chars) := by
    rw [decode_append_encode]
    exact parse_pushed page isSegment_room segment
  refine ⟨atPath location ['r'] chars, ?_, isSite_withPath page _, ?_⟩
  · rw [pushRoom, parsed, Option.bind_some]
    exact if_pos ⟨rfl, rfl, rfl⟩
  · exact roomFromLocation_of_isId isId (pathnameOf_room location chars)

private theorem pushLobby_eq (page : location.IsSite hosts) :
    ∃ url, pushLobby hosts location = some url ∧ url.IsSite hosts ∧
      roomFromLocation url = none := by
  obtain ⟨segments, path⟩ := page.path
  have visible : Url.clean "/".toList = "/".toList := by decide
  have parsed : Url.parse hosts (some location) "/".toList =
      some { location with path := .segments [[]] } := by
    unfold Url.parse
    simp only [visible]
    show Url.noScheme hosts (some location) ['/'] = _
    rw [Url.noScheme, Option.bind_some, path]
    simp only [if_neg page.notFile]
    rw [Url.relative, if_pos (Or.inl rfl), Url.relativeSlash]
    simp [Url.pathFrom, Url.endSegment, Url.isDoubleDot, Url.isSingleDot,
      Url.isWindowsDriveLetter]
  refine ⟨{ location with path := .segments [[]] }, ?_, isSite_withPath page _, rfl⟩
  rw [pushLobby, parsed, Option.bind_some]
  exact if_pos ⟨rfl, rfl, rfl⟩

end

/-! ### What an event is to the visitor -/

namespace Tab

/-- The name of the user on the screen. -/
def userName (tab : Tab) : JsString := (tab.app.map fun app => app.user.name).getD []

/-- The room of `App`, if it is at one. -/
def roomId (tab : Tab) : Option JsString := tab.app.bind App.roomId

def deed (hosts : HostParser) (tab : Tab) : TabEvent → Deed JsString JsString
  | .visit path _ => .arrive (roomFromLocation { tab.url with path := .segments path })
  | .reload _ => .stay
  | .back _ => .back
  | .forward _ => .forward
  | .create draftName buffers =>
      ((createRoomId buffers).map (.enter · (displayName draftName tab.userName))).getD .stay
  | .join draftName code =>
      ((parseRoomInput hosts code).map (.enter · (displayName draftName tab.userName))).getD .stay
  | .pass draft => (tab.roomId.map (.enter · (displayName draft tab.userName))).getD .stay
  | .cancel => .leave
  | .leave => .leave
  | .commit draft => if nameIn draft = [] then .stay else .rename (nameIn draft)

/-- The room of an entry. -/
def place (entry : Entry) : Option JsString := roomFromLocation entry.url

/-- The parts of a tab agree with each other and with the visitor: what is stored
is what `App` shows, and what it would read again. -/
structure Follows (hosts : HostParser) (tab : Tab) (visitor : Visitor JsString JsString) :
    Prop where
  sites : tab.history.All fun entry => entry.url.IsSite hosts
  places : tab.history.map place = visitor.places
  rooms : ∃ rooms, StoresRooms tab.storage rooms ∧ ∀ room, room ∈ rooms ↔ room ∈ visitor.joined
  shows : ∃ user joined, StoresUser tab.storage user ∧ user.name = visitor.name ∧
    joinedAt tab.storage (roomFromLocation tab.url) = some joined ∧
    tab.app = some ⟨user, roomFromLocation tab.url, joined⟩
  calm : tab.threw = false

section

variable {hosts : HostParser} {tab : Tab} {visitor : Visitor JsString JsString}

private theorem Follows.here (follows : tab.Follows hosts visitor) :
    roomFromLocation tab.url = visitor.places.here := by
  rw [← follows.places]
  rfl

/-- The door of a place is the one of the visitor. -/
theorem joinedAt_of_stores {storage : SessionStorage} {rooms : List JsString}
    (stores : StoresRooms storage rooms) (current : Option JsString) :
    joinedAt storage current = some (decide (∃ room ∈ rooms, current = some room)) := by
  cases current with
  | none => simp [joinedAt]
  | some room => simp [joinedAt, hasJoined_of_stores stores]

/-- Reading the address and the storage again shows what they say. -/
theorem Follows.of_stores {later : Tab} (rooms : List JsString) (user : User)
    (sites : later.history.All fun entry => entry.url.IsSite hosts)
    (places : later.history.map place = visitor.places)
    (storesRooms : StoresRooms later.storage rooms)
    (same : ∀ room, room ∈ rooms ↔ room ∈ visitor.joined)
    (storesUser : StoresUser later.storage user) (name : user.name = visitor.name)
    {current : Option JsString} (located : roomFromLocation later.url = current)
    (app : later.app = some ⟨user, current, decide (∃ room ∈ rooms, current = some room)⟩)
    (calm : later.threw = false) : later.Follows hosts visitor where
  sites := sites
  places := places
  rooms := ⟨rooms, storesRooms, same⟩
  shows := ⟨user, _, storesUser, name, joinedAt_of_stores storesRooms _, located ▸ app⟩
  calm := calm

private theorem mount_eq {picks : Picks} {user : User} {storage : SessionStorage} {joined : Bool}
    (who : localUser tab.storage picks = some (user, storage))
    (door : joinedAt storage (roomFromLocation tab.url) = some joined) :
    tab.mount picks = { tab with
      storage := storage
      app := some ⟨user, roomFromLocation tab.url, joined⟩ } := by
  unfold mount
  simp only [who, door]

private theorem mount_of_stores (tab : Tab) {rooms : List JsString} {user : User}
    (storesRooms : StoresRooms tab.storage rooms) (storesUser : StoresUser tab.storage user)
    (picks : Picks) :
    tab.mount picks = { tab with
      app := some ⟨user, roomFromLocation tab.url,
        decide (∃ room ∈ rooms, roomFromLocation tab.url = some room)⟩ } :=
  mount_eq (localUser_of_stores storesUser picks) (joinedAt_of_stores storesRooms _)

private theorem onPopState_of_stores (tab : Tab) {rooms : List JsString} {app : App}
    (storesRooms : StoresRooms tab.storage rooms) (shown : tab.app = some app) :
    tab.onPopState = { tab with
      app := some ⟨app.user, roomFromLocation tab.url,
        decide (∃ room ∈ rooms, roomFromLocation tab.url = some room)⟩ } := by
  unfold onPopState
  simp only [shown, joinedAt_of_stores storesRooms]

/-- Whether the document is loaded or gets `popstate`, the tab is the same. -/
theorem traverse_of_stores {rooms : List JsString} {app : App}
    (storesRooms : StoresRooms tab.storage rooms) (storesUser : StoresUser tab.storage app.user)
    (shown : tab.app = some app) (history : History Entry) (picks : Picks) :
    tab.traverse history picks = { tab with
      history := history
      app := some ⟨app.user, roomFromLocation history.here.url,
        decide (∃ room ∈ rooms, roomFromLocation history.here.url = some room)⟩ } := by
  have popped := onPopState_of_stores { tab with history := history } storesRooms shown
  have mounted := mount_of_stores { tab with history := history } storesRooms storesUser
    picks
  unfold traverse
  simp only [popped, mounted]
  split
  · rfl
  · rfl

/-- What is stored, and the state of `App` by it. -/
theorem Follows.stored (follows : tab.Follows hosts visitor) :
    ∃ rooms user, StoresRooms tab.storage rooms ∧ (∀ room, room ∈ rooms ↔ room ∈ visitor.joined) ∧
      StoresUser tab.storage user ∧ user.name = visitor.name ∧
      tab.app = some ⟨user, roomFromLocation tab.url,
        decide (∃ room ∈ rooms, roomFromLocation tab.url = some room)⟩ := by
  obtain ⟨rooms, storesRooms, same⟩ := follows.rooms
  obtain ⟨user, joined, storesUser, name, door, shown⟩ := follows.shows
  have := Option.some.inj ((joinedAt_of_stores storesRooms _).symm.trans door)
  exact ⟨rooms, user, storesRooms, same, storesUser, name, this ▸ shown⟩

/-- Nothing changes when the document is loaded again. -/
theorem Follows.remount (follows : tab.Follows hosts visitor) (picks : Picks) :
    tab.mount picks = tab := by
  obtain ⟨rooms, user, storesRooms, -, storesUser, -, shown⟩ := follows.stored
  rw [mount_of_stores tab storesRooms storesUser picks, ← shown]

private theorem Follows.load (follows : tab.Follows hosts visitor) {history : History Entry}
    (sites : history.All fun entry => entry.url.IsSite hosts) (documents : ℕ) (picks : Picks) :
    (mount { tab with history := history, documents := documents } picks).Follows hosts
      { visitor with places := history.map place } := by
  obtain ⟨rooms, user, storesRooms, same, storesUser, name, -⟩ := follows.stored
  have mounted := mount_of_stores { tab with history := history, documents := documents }
    storesRooms storesUser picks
  rw [mounted]
  apply Follows.of_stores rooms user
  case sites => exact sites
  case places => rfl
  case storesRooms => exact storesRooms
  case same => exact same
  case storesUser => exact storesUser
  case name => exact name
  case located => rfl
  case app => rfl
  case calm => exact follows.calm

private theorem Follows.traverse (follows : tab.Follows hosts visitor) {history : History Entry}
    (sites : history.All fun entry => entry.url.IsSite hosts) (picks : Picks) :
    (tab.traverse history picks).Follows hosts
      { visitor with places := history.map place } := by
  obtain ⟨rooms, user, storesRooms, same, storesUser, name, shown⟩ := follows.stored
  rw [traverse_of_stores storesRooms storesUser shown]
  apply Follows.of_stores rooms user
  case sites => exact sites
  case places => rfl
  case storesRooms => exact storesRooms
  case same => exact same
  case storesUser => exact storesUser
  case name => exact name
  case located => rfl
  case app => rfl
  case calm => exact follows.calm

private theorem Follows.rename (follows : tab.Follows hosts visitor) {app : App}
    (shown : tab.app = some app) (name : JsString) :
    (tab.rename app name).Follows hosts { visitor with name := name } := by
  obtain ⟨rooms, user, storesRooms, same, -, -, isShown⟩ := follows.stored
  have := Option.some.inj (shown.symm.trans isShown)
  subst this
  apply Follows.of_stores rooms { user with name := name }
  case sites => exact follows.sites
  case places => exact follows.places
  case storesRooms => exact storesRooms.saveUser _
  case same => exact same
  case storesUser => exact storesUser_saveUser _ _
  case name => rfl
  case located => rfl
  case app => rfl
  case calm => exact follows.calm

private theorem Follows.enter (follows : tab.Follows hosts visitor) {app : App}
    (shown : tab.app = some app) {id : JsString} (isId : IsId id) (name : JsString) :
    (tab.enter hosts app id name).Follows hosts
      ⟨visitor.places.push (some id), insert id visitor.joined, name⟩ := by
  have renamed := follows.rename shown name
  obtain ⟨rooms, storesRooms, same⟩ := renamed.rooms
  obtain ⟨storage, writes, storesLater, keepsUser⟩ := rememberJoin_of_stores storesRooms id
  have site : tab.url.IsSite hosts := follows.sites.here
  obtain ⟨url, pushed, isSite, atRoom⟩ := pushRoom_eq site isId
  unfold Tab.enter
  simp only [writes, pushed]
  apply Follows.of_stores (remembered rooms id) { app.user with name := name }
  case sites => exact follows.sites.push isSite
  case places => rw [History.map_push, follows.places, place, atRoom]
  case storesRooms => exact storesLater
  case same =>
    intro room
    rw [mem_remembered, same, Set.mem_insert_iff]
  case storesUser =>
    rw [StoresUser, keepsUser]
    exact storesUser_saveUser tab.storage _
  case name => rfl
  case located => exact atRoom
  case app =>
    have known : id ∈ remembered rooms id := (mem_remembered rooms id id).mpr (Or.inl rfl)
    simp [known]
  case calm => exact follows.calm

/-- What is left of the rooms, by whether there was one to leave. -/
theorem forgetRoom_of_stores {storage : SessionStorage} {rooms : List JsString}
    (stores : StoresRooms storage rooms) (location : Url) :
    ∃ later left, forgetRoom storage (roomFromLocation location) = some later ∧
      StoresRooms later left ∧ later.lookup STORAGE_KEY = storage.lookup STORAGE_KEY ∧
      ∀ room, room ∈ left ↔ room ∈ rooms ∧ roomFromLocation location ≠ some room := by
  cases current : roomFromLocation location with
  | none => exact ⟨storage, rooms, rfl, stores, rfl, by simp⟩
  | some roomId =>
      have nonempty := ne_nil_of_isId (isId_of_roomFromLocation current)
      obtain ⟨later, writes, storesLater, keepsUser⟩ := forgetJoin_of_stores stores roomId
      refine ⟨later, rooms.filter fun room => room ≠ roomId, ?_, storesLater, keepsUser, ?_⟩
      · rw [forgetRoom, if_neg nonempty, writes]
      · intro room
        have flip : roomId = room ↔ room = roomId := eq_comm
        simp [flip]

private theorem Follows.leave (follows : tab.Follows hosts visitor) {app : App}
    (shown : tab.app = some app) :
    (tab.leave hosts app).Follows hosts
      { visitor with
        places := visitor.places.push none
        joined := { room ∈ visitor.joined | visitor.places.here ≠ some room } } := by
  obtain ⟨rooms, user, storesRooms, same, storesUser, name, isShown⟩ := follows.stored
  have := Option.some.inj (shown.symm.trans isShown)
  subst this
  have site : tab.url.IsSite hosts := follows.sites.here
  obtain ⟨url, pushed, isSite, atLobby⟩ := pushLobby_eq site
  obtain ⟨storage, left, writes, storesLater, keepsUser, remains⟩ :=
    forgetRoom_of_stores storesRooms tab.url
  unfold Tab.leave
  simp only [writes, pushed]
  apply Follows.of_stores left user
  case sites => exact follows.sites.push isSite
  case places => rw [History.map_push, follows.places, place, atLobby]
  case storesRooms => exact storesLater
  case same =>
    intro room
    rw [remains, same, follows.here]
    rfl
  case storesUser =>
    rw [StoresUser, keepsUser]
    exact storesUser
  case name => exact name
  case located => exact atLobby
  case app => simp
  case calm => exact follows.calm

theorem Follows.roomId_eq (follows : tab.Follows hosts visitor) {app : App}
    (shown : tab.app = some app) : app.roomId = roomFromLocation tab.url := by
  obtain ⟨user, joined, -, -, -, isShown⟩ := follows.shows
  have := Option.some.inj (shown.symm.trans isShown)
  rw [this]

private theorem roomId_of_gate {app : App} {roomId : JsString} (gate : app.screen = .gate roomId) :
    app.roomId = some roomId := by
  unfold App.screen at gate
  split at gate
  · simp at gate
  · next current same =>
      split at gate
      · simp at gate
      · simp only [Screen.gate.injEq] at gate
        rw [same, gate]

private theorem Follows.act (follows : tab.Follows hosts visitor) {app : App}
    (shown : tab.app = some app) {event : TabEvent} {later : Tab}
    (taken : tab.act hosts app app.screen event = some later) :
    ∃ next, visitor.step (tab.deed hosts event) = some next ∧ later.Follows hosts next := by
  have name : tab.userName = app.user.name := by
    rw [userName, shown]
    rfl
  have atRoom : tab.roomId = app.roomId := by
    rw [roomId, shown]
    rfl
  unfold Tab.act at taken
  split at taken
  · next draftName buffers _ =>
      obtain ⟨id, made, entered⟩ := Option.map_eq_some_iff.mp taken
      subst entered
      refine ⟨_, ?_, follows.enter shown (isId_of_createRoomId made) _⟩
      rw [deed, made, name]
      rfl
  · next draftName code _ =>
      split at taken
      · next unread =>
          have := Option.some.inj taken
          subst this
          refine ⟨visitor, ?_, follows⟩
          rw [deed, unread]
          rfl
      · next id parsed =>
          have := Option.some.inj taken
          subst this
          refine ⟨_, ?_, follows.enter shown (isId_of_parseRoomInput parsed) _⟩
          rw [deed, parsed, name]
          rfl
  · next id draft gate =>
      have current := roomId_of_gate gate
      have isId := isId_of_roomFromLocation ((follows.roomId_eq shown).symm.trans current)
      have := Option.some.inj taken
      subst this
      refine ⟨_, ?_, follows.enter shown isId _⟩
      rw [deed, atRoom, current, name]
      rfl
  · have := Option.some.inj taken
    subst this
    exact ⟨_, rfl, follows.leave shown⟩
  · have := Option.some.inj taken
    subst this
    exact ⟨_, rfl, follows.leave shown⟩
  · next id draft _ =>
      have := Option.some.inj taken
      subst this
      rw [deed]
      by_cases empty : nameIn draft = []
      · rw [if_pos empty, if_pos empty]
        exact ⟨visitor, rfl, follows⟩
      · rw [if_neg empty, if_neg empty]
        exact ⟨_, rfl, follows.rename shown _⟩
  · simp at taken

theorem Follows.step (follows : tab.Follows hosts visitor) {event : TabEvent} {later : Tab}
    (taken : tab.step hosts event = some later) :
    ∃ next, visitor.step (tab.deed hosts event) = some next ∧ later.Follows hosts next := by
  unfold Tab.step at taken
  split at taken
  · next path picks =>
      have := Option.some.inj taken
      subst this
      have site : tab.url.IsSite hosts := follows.sites.here
      have sites : (tab.history.push
          ⟨{ tab.url with path := .segments path }, tab.documents⟩).All
            fun entry => entry.url.IsSite hosts :=
        follows.sites.push (isSite_withPath site path)
      refine ⟨_, ?_, follows.load sites (tab.documents + 1) picks⟩
      rw [History.map_push, follows.places]
      rfl
  · next picks =>
      have := Option.some.inj taken
      subst this
      rw [follows.remount picks]
      exact ⟨visitor, rfl, follows⟩
  · next picks =>
      obtain ⟨history, went, traversed⟩ := Option.map_eq_some_iff.mp taken
      subst traversed
      refine ⟨_, ?_, follows.traverse (follows.sites.back went) picks⟩
      rw [deed, Visitor.step, ← follows.places, History.map_back, went]
      rfl
  · next picks =>
      obtain ⟨history, went, traversed⟩ := Option.map_eq_some_iff.mp taken
      subst traversed
      refine ⟨_, ?_, follows.traverse (follows.sites.forward went) picks⟩
      rw [deed, Visitor.step, ← follows.places, History.map_forward, went]
      rfl
  · obtain ⟨app, shown, acted⟩ := Option.bind_eq_some_iff.mp taken
    exact follows.act shown acted

/-- A new tab is a visitor who has just arrived. -/
theorem follows_opened {url : Url} (site : url.IsSite hosts) (picks : Picks) :
    (opened url picks).Follows hosts (.arrived (roomFromLocation url) picks.user.name) := by
  have fresh : StoresRooms (saveUser ∅ picks.user) [] :=
    StoresRooms.saveUser (Or.inr ⟨AList.lookup_empty _, rfl⟩) _
  have user : localUser ∅ picks = some (picks.user, saveUser ∅ picks.user) := by
    unfold localUser
    rw [AList.lookup_empty]
  have door : joinedAt (saveUser ∅ picks.user) (roomFromLocation url) = some false := by
    rw [joinedAt_of_stores fresh]
    simp
  have mounted : opened url picks =
      ⟨.new ⟨url, 0⟩, saveUser ∅ picks.user, 1,
        some ⟨picks.user, roomFromLocation url, false⟩, false⟩ := mount_eq user door
  rw [mounted]
  apply Follows.of_stores [] picks.user
  case sites => exact History.all_new site
  case places => rfl
  case storesRooms => exact fresh
  case same => simp [Visitor.arrived]
  case storesUser => exact storesUser_saveUser ∅ picks.user
  case name => rfl
  case located => rfl
  case app => simp [Tab.url]
  case calm => rfl

/-- The screen is the one the visitor sees. -/
theorem Follows.sees (follows : tab.Follows hosts visitor) {app : App}
    (shown : tab.app = some app) : visitor.Sees app.screen := by
  obtain ⟨rooms, user, -, same, -, -, isShown⟩ := follows.stored
  have isApp := Option.some.inj (shown.symm.trans isShown)
  have here := follows.here
  subst isApp
  unfold App.screen
  split
  · next lobby => exact here.symm.trans lobby
  · next roomId current =>
      have current : roomFromLocation tab.url = some roomId := current
      have door : (∃ room ∈ rooms, roomFromLocation tab.url = some room) ↔
          roomId ∈ visitor.joined := by
        rw [current, ← same]
        simp
      split
      · next inside => exact ⟨here.symm.trans current, door.mp (of_decide_eq_true inside)⟩
      · next outside =>
          refine ⟨here.symm.trans current, fun member => outside ?_⟩
          exact decide_eq_true (door.mpr member)

end

/-! ### Every run -/

section

variable {hosts : HostParser} {url : Url}

/-- Whatever is clicked, typed and traversed in a new tab, it shows what a visitor
sees who has done the same, and no handler throws. -/
theorem tab_refines_visitor (site : url.IsSite hosts) (picks : Picks) {events : List TabEvent}
    {tab : Tab} (ran : run (step hosts) (opened url picks) events = some tab) :
    ∃ visitor, run Visitor.step (.arrived (roomFromLocation url) picks.user.name)
        (translated (step hosts) (deed hosts) (opened url picks) events) = some visitor ∧
      tab.threw = false ∧ tab.history.map place = visitor.places ∧
      ∃ app, tab.app = some app ∧ app.user.name = visitor.name ∧ visitor.Sees app.screen := by
  obtain ⟨visitor, visited, follows⟩ := run_simulated (fun tab visitor => tab.Follows hosts visitor)
    (fun tab visitor event later follows taken => Follows.step follows taken)
    (follows_opened site picks) ran
  obtain ⟨user, joined, -, name, -, shown⟩ := follows.shows
  exact ⟨visitor, visited, follows.calm, follows.places, _, shown, name, follows.sees shown⟩

/-- The first name and the first colour. -/
def firstPicks : Picks := ⟨⟨0, by decide⟩, ⟨0, by decide⟩⟩

/-- A room is made and left, and entered again through its gate. -/
def returning : List TabEvent :=
  [.create [] [List.replicate 24 8], .leave, .back firstPicks, .pass (Json.text " ada ")]

theorem tab_refines_visitor_returning :
    ∃ tab visitor, run (step localHosts) (opened localPage firstPicks) returning = some tab ∧
      run Visitor.step (.arrived (roomFromLocation localPage) firstPicks.user.name)
        (translated (step localHosts) (deed localHosts) (opened localPage firstPicks) returning) =
          some visitor ∧
      tab.threw = false ∧ tab.history.map place = visitor.places ∧
      ∃ app, tab.app = some app ∧ app.user.name = visitor.name ∧ visitor.Sees app.screen := by
  have enabled : (run (step localHosts) (opened localPage firstPicks) returning).isSome := by
    decide +kernel
  obtain ⟨tab, ran⟩ := Option.isSome_iff_exists.mp enabled
  obtain ⟨visitor, visited, refines⟩ := tab_refines_visitor localPage_isSite firstPicks ran
  exact ⟨tab, visitor, ran, visited, refines⟩

/-- In every tab a reload changes nothing, and an entry that gets `popstate` shows
what it would show if it were loaded. -/
theorem reload_unnoticed (site : url.IsSite hosts) (opens : Picks) {events : List TabEvent}
    {tab : Tab} (ran : run (step hosts) (opened url opens) events = some tab) (picks : Picks) :
    tab.mount picks = tab ∧ ∀ history,
      { tab with history := history }.onPopState = { tab with history := history }.mount picks := by
  obtain ⟨visitor, -, follows⟩ := run_simulated (fun tab visitor => tab.Follows hosts visitor)
    (fun tab visitor event later follows taken => Follows.step follows taken)
    (follows_opened site opens) ran
  refine ⟨follows.remount picks, fun history => ?_⟩
  obtain ⟨rooms, user, storesRooms, -, storesUser, -, shown⟩ := follows.stored
  have popped := onPopState_of_stores { tab with history := history } storesRooms shown
  have mounted := mount_of_stores { tab with history := history } storesRooms storesUser picks
  rw [popped, mounted]

theorem reload_unnoticed_returning :
    ∃ tab, run (step localHosts) (opened localPage firstPicks) returning = some tab ∧
      tab.mount firstPicks = tab ∧ ∀ history, { tab with history := history }.onPopState =
        { tab with history := history }.mount firstPicks := by
  have enabled : (run (step localHosts) (opened localPage firstPicks) returning).isSome := by
    decide +kernel
  obtain ⟨tab, ran⟩ := Option.isSome_iff_exists.mp enabled
  exact ⟨tab, ran, reload_unnoticed localPage_isSite firstPicks ran firstPicks⟩

end

end Tab

end CollabEditor.Web
