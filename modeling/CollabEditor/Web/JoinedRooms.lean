import CollabEditor.Http.Session
import CollabEditor.Library.Assoc
import CollabEditor.Library.JsonRoundtrip

/-!
Owns what a tab keeps in `sessionStorage`: the rooms it has joined, of `room.ts`,
and who its user is, of `user.ts`. What is stored is read back as whatever JSON
it is, so that reading can throw.
-/

set_option autoImplicit false

namespace CollabEditor.Web

open CollabEditor.Library

/-- The items of `sessionStorage`. -/
abbrev SessionStorage := Assoc JsString JsString

/-! ### The rooms a tab has joined -/

def JOINED_KEY : JsString := Json.text "cce.joined"

/-- `joinedRooms`. -/
def joinedRooms (storage : SessionStorage) : Json :=
  match storage.lookup JOINED_KEY with
  | none => .array []
  | some raw => if raw = [] then .array [] else (Json.parse raw).getD (.array [])

/-- `value === id`. -/
def isRoom (id : JsString) : Json → Bool
  | .string value => value = id
  | _ => false

/-- `rooms.includes(roomId)`, of an array or of a string; `none` when it throws. -/
def includes (id : JsString) : Json → Option Bool
  | .array items => some (items.any (isRoom id))
  | .string value => some (value.tails.any id.isPrefixOf)
  | _ => none

/-- The code points of a string, each as a string of its own. -/
def codePoints : JsString → List JsString
  | [] => []
  | [unit] => [[unit]]
  | high :: low :: rest =>
      if Utf16.isHigh high ∧ Utf16.isLow low then [high, low] :: codePoints rest
      else [high] :: codePoints (low :: rest)

/-- `[...rooms]`; `none` when it throws. -/
def spread : Json → Option (List Json)
  | .array items => some items
  | .string value => some ((codePoints value).map .string)
  | _ => none

/-- `rooms.filter((id) => id !== roomId)`; `none` when it throws. -/
def without (id : JsString) : Json → Option (List Json)
  | .array items => some (items.filter fun item => !isRoom id item)
  | _ => none

/-- `hasJoined`; `none` when it throws. -/
def hasJoined (storage : SessionStorage) (roomId : JsString) : Option Bool :=
  includes roomId (joinedRooms storage)

/-- `rememberJoin`; `none` when it throws. -/
def rememberJoin (storage : SessionStorage) (roomId : JsString) : Option SessionStorage :=
  let rooms := joinedRooms storage
  (includes roomId rooms).bind fun joined =>
    if joined then some storage
    else (spread rooms).map fun items =>
      storage.insert JOINED_KEY (Json.stringify (.array (items ++ [.string roomId])))

/-- `forgetJoin`; `none` when it throws. -/
def forgetJoin (storage : SessionStorage) (roomId : JsString) : Option SessionStorage :=
  (without roomId (joinedRooms storage)).map fun items =>
    storage.insert JOINED_KEY (Json.stringify (.array items))

/-! ### The user of a tab -/

structure User where
  name : JsString
  color : JsString
  colorLight : JsString
deriving DecidableEq

def COLORS : List JsString :=
  ["#e06c75", "#61afef", "#98c379", "#e5c07b", "#c678dd", "#56b6c2"].map Json.text

def ANIMALS : List JsString :=
  ["otter", "heron", "lynx", "marten", "shrike", "ibex", "raven", "vole"].map Json.text

def STORAGE_KEY : JsString := Json.text "cce.user"

namespace User

def members (user : User) : List (JsString × Json) :=
  [(Json.text "name", .string user.name), (Json.text "color", .string user.color),
    (Json.text "colorLight", .string user.colorLight)]

/-- What `JSON.stringify(user)` writes. -/
def json (user : User) : Json := .object user.members

/-- A value as a user; `none` for one that has not the properties of a user. -/
def ofJson : Json → Option User
  | .object members =>
      match Json.get? members (Json.text "name"), Json.get? members (Json.text "color"),
        Json.get? members (Json.text "colorLight") with
      | some (.string name), some (.string color), some (.string colorLight) =>
          some ⟨name, color, colorLight⟩
      | _, _, _ => none
  | _ => none

end User

/-- What `pick` takes of the names and of the colours. -/
structure Picks where
  animal : Fin ANIMALS.length
  color : Fin COLORS.length

/-- The user `localUser` makes. -/
def Picks.user (picks : Picks) : User :=
  let color := COLORS.get picks.color
  ⟨ANIMALS.get picks.animal, color, color ++ Json.text "33"⟩

/-- `saveUser`. -/
def saveUser (storage : SessionStorage) (user : User) : SessionStorage :=
  storage.insert STORAGE_KEY user.json.stringify

/-- `localUser`; `none` when it throws, or returns what is no user. -/
def localUser (storage : SessionStorage) (picks : Picks) : Option (User × SessionStorage) :=
  match storage.lookup STORAGE_KEY with
  | none => some (picks.user, saveUser storage picks.user)
  | some cached =>
      if cached = [] then some (picks.user, saveUser storage picks.user)
      else ((Json.parse cached).bind User.ofJson).map fun user => (user, storage)

/-! ### What a tab has written is read back -/

private theorem writable_strings (values : List JsString) :
    Json.Writable (.array (values.map .string)) := by
  show Json.WritableItems (values.map .string)
  induction values with
  | nil => exact trivial
  | cons value rest inductionHypothesis => exact ⟨trivial, inductionHypothesis⟩

private theorem any_isRoom (id : JsString) (rooms : List JsString) :
    (rooms.map Json.string).any (isRoom id) = decide (id ∈ rooms) := by
  induction rooms with
  | nil => simp
  | cons room rest inductionHypothesis =>
      simp [inductionHypothesis, isRoom, eq_comm]

private theorem filter_isRoom (id : JsString) (rooms : List JsString) :
    (rooms.map Json.string).filter (fun item => !isRoom id item) =
      (rooms.filter fun room => room ≠ id).map .string := by
  induction rooms with
  | nil => simp
  | cons room rest inductionHypothesis =>
      rw [List.map_cons, List.filter_cons, inductionHypothesis, List.filter_cons]
      by_cases same : room = id
      · simp [isRoom, same]
      · simp [isRoom, same]

/-- The rooms that are stored, by what `rememberJoin` and `forgetJoin` write. -/
def StoresRooms (storage : SessionStorage) (rooms : List JsString) : Prop :=
  storage.lookup JOINED_KEY = some (Json.stringify (.array (rooms.map .string))) ∨
    storage.lookup JOINED_KEY = none ∧ rooms = []

section

variable {storage : SessionStorage} {rooms : List JsString}

private theorem storesRooms_insert (storage : SessionStorage) (rooms : List JsString) :
    StoresRooms (storage.insert JOINED_KEY (Json.stringify (.array (rooms.map .string)))) rooms :=
  Or.inl (by rw [Assoc.lookup_insert, if_pos rfl])

private theorem joinedRooms_of_stores (stores : StoresRooms storage rooms) :
    joinedRooms storage = .array (rooms.map .string) := by
  unfold joinedRooms
  cases stores with
  | inl written =>
      have nonempty : Json.stringify (.array (rooms.map .string)) ≠ [] := by
        simp [Json.stringify]
      rw [written]
      simp only [if_neg nonempty, Json.parse_stringify (writable_strings rooms), Option.getD_some]
  | inr fresh =>
      rw [fresh.1, fresh.2]
      rfl

theorem hasJoined_of_stores (stores : StoresRooms storage rooms) (id : JsString) :
    hasJoined storage id = some (decide (id ∈ rooms)) := by
  rw [hasJoined, joinedRooms_of_stores stores, includes, any_isRoom]

/-- The rooms once `rememberJoin` has returned. -/
def remembered (rooms : List JsString) (id : JsString) : List JsString :=
  if rooms.any fun room => room = id then rooms else rooms ++ [id]

theorem mem_remembered (rooms : List JsString) (id room : JsString) :
    room ∈ remembered rooms id ↔ room = id ∨ room ∈ rooms := by
  have known : (rooms.any fun room => room = id) = true ↔ id ∈ rooms := by simp
  unfold remembered
  simp only [known]
  by_cases member : id ∈ rooms
  · rw [if_pos member]
    constructor
    · exact Or.inr
    · intro either
      cases either with
      | inl same => rwa [same]
      | inr known => exact known
  · rw [if_neg member]
    simp [or_comm]

theorem rememberJoin_of_stores (stores : StoresRooms storage rooms) (id : JsString) :
    ∃ later, rememberJoin storage id = some later ∧ StoresRooms later (remembered rooms id) ∧
      later.lookup STORAGE_KEY = storage.lookup STORAGE_KEY := by
  unfold rememberJoin remembered
  simp only [joinedRooms_of_stores stores, includes, any_isRoom, spread, Option.bind_some,
    Option.map_some, decide_eq_true_eq]
  have known : (rooms.any fun room => room = id) = true ↔ id ∈ rooms := by simp
  simp only [known]
  by_cases member : id ∈ rooms
  · rw [if_pos member, if_pos member]
    exact ⟨storage, rfl, stores, rfl⟩
  · have items : rooms.map Json.string ++ [Json.string id] = (rooms ++ [id]).map .string := by
      simp
    rw [if_neg member, if_neg member, items]
    refine ⟨_, rfl, storesRooms_insert storage _, ?_⟩
    rw [Assoc.lookup_insert, if_neg (by decide)]

theorem forgetJoin_of_stores (stores : StoresRooms storage rooms) (id : JsString) :
    ∃ later, forgetJoin storage id = some later ∧
      StoresRooms later (rooms.filter fun room => room ≠ id) ∧
      later.lookup STORAGE_KEY = storage.lookup STORAGE_KEY := by
  unfold forgetJoin
  simp only [joinedRooms_of_stores stores, without, filter_isRoom, Option.map_some]
  refine ⟨_, rfl, storesRooms_insert storage _, ?_⟩
  rw [Assoc.lookup_insert, if_neg (by decide)]

end

/-! ### The user is read back -/

private theorem User.writable (user : User) : Json.Writable user.json :=
  ⟨trivial, trivial, trivial, trivial⟩

private theorem User.ofJson_json (user : User) : User.ofJson user.json = some user := by
  have name : Json.get? user.members (Json.text "name") = some (.string user.name) := rfl
  have color : Json.get? user.members (Json.text "color") = some (.string user.color) := rfl
  have light : Json.get? user.members (Json.text "colorLight") =
      some (.string user.colorLight) := rfl
  unfold User.ofJson User.json
  simp only [name, color, light]

section

variable {storage : SessionStorage} {rooms : List JsString}

/-- The user that is stored, by what `saveUser` writes. -/
def StoresUser (storage : SessionStorage) (user : User) : Prop :=
  storage.lookup STORAGE_KEY = some user.json.stringify

theorem storesUser_saveUser (storage : SessionStorage) (user : User) :
    StoresUser (saveUser storage user) user := by
  rw [StoresUser, saveUser, Assoc.lookup_insert, if_pos rfl]

theorem StoresRooms.saveUser (stores : StoresRooms storage rooms) (user : User) :
    StoresRooms (saveUser storage user) rooms := by
  unfold StoresRooms Web.saveUser at *
  rw [Assoc.lookup_insert, if_neg (by decide)]
  exact stores

/-- The user that is stored is the user of the tab, whatever would be picked. -/
theorem localUser_of_stores {user : User} (stores : StoresUser storage user) (picks : Picks) :
    localUser storage picks = some (user, storage) := by
  have nonempty : user.json.stringify ≠ [] := by simp [User.json, User.members, Json.stringify]
  unfold localUser
  rw [stores]
  simp only [if_neg nonempty, Json.parse_stringify user.writable, Option.bind_some,
    user.ofJson_json, Option.map_some]

end

end CollabEditor.Web
