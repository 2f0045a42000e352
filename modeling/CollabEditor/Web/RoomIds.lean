import CollabEditor.Web.RoomLinks

/-!
Owns that every part of the client and the server's route mean the same by a
room id.
-/

set_option autoImplicit false

namespace CollabEditor.Web

open CollabEditor.Library CollabEditor.Ws

/-! ### The patterns -/

/-- A slash or nothing. -/
def IsEnd (slash : JsString) : Prop := slash = [] ∨ slash = Utf16.encode ['/']

private theorem atSlash_sound {middle ended : Place UInt16}
    (isMatch : atSlash.Matches middle ended) :
    IsEnd middle.rest ∧ ended.captures = middle.captures := by
  obtain ⟨last, slash | rfl, atEnd, rfl⟩ := isMatch
  · obtain ⟨rest, begins, rfl⟩ := slash
    obtain rfl : rest = [] := atEnd
    rw [List.append_nil] at begins
    exact ⟨Or.inr begins, rfl⟩
  · exact ⟨Or.inl atEnd, rfl⟩

private theorem atSlash_complete {middle : Place UInt16} (isEnd : IsEnd middle.rest) :
    ∃ ended, atSlash.Matches middle ended := by
  rcases isEnd with none | slash
  · exact ⟨middle, middle, Or.inr rfl, none, rfl⟩
  · refine ⟨middle.past (Utf16.encode ['/']) [], _, Or.inl ⟨[], ?_, rfl⟩, rfl, rfl⟩
    rw [slash, List.append_nil]

/-- A match of the link pattern. -/
theorem link_sound {place found : Place UInt16} (isMatch : roomLink.Matches place found) :
    ∃ id slash, place.rest = Utf16.encode "/r/".toList ++ (id ++ slash) ∧ IsId id ∧ IsEnd slash ∧
      found.captures 1 = some id := by
  obtain ⟨id, rest, middle, isId, splits, rfl, captured, isTail⟩ := matches_idAfter isMatch
  obtain ⟨isEnd, same⟩ := atSlash_sound isTail
  exact ⟨id, middle.rest, splits, isId, isEnd, same ▸ captured⟩

private theorem link_complete {id slash : JsString} (isId : IsId id) (isEnd : IsEnd slash)
    (before : JsString) (captures : ℕ → Option JsString) :
    ∃ found, roomLink.Matches
      ⟨before, Utf16.encode "/r/".toList ++ (id ++ slash), captures⟩ found :=
  idAfter_matches isId fun _ same => atSlash_complete (same ▸ isEnd)

private theorem roomLink_of_exec {path : JsString} {found : Place UInt16}
    (executes : roomLink.exec path = some found) :
    ∃ skipped id slash, path = skipped ++ (Utf16.encode "/r/".toList ++ (id ++ slash)) ∧
      IsId id ∧ IsEnd slash ∧ found.captures 1 = some id := by
  obtain ⟨skipped, later, rfl, isMatch⟩ := Regex.exec_sound executes
  obtain ⟨id, slash, splits, found⟩ := link_sound isMatch
  have splits : later = _ := splits
  exact ⟨skipped, id, slash, by rw [splits], found⟩

theorem roomPath_of_exec {path : JsString} {found : Place UInt16}
    (executes : roomPath.exec path = some found) :
    ∃ id slash, path = Utf16.encode "/r/".toList ++ (id ++ slash) ∧
      IsId id ∧ IsEnd slash ∧ found.captures 1 = some id := by
  obtain ⟨skipped, later, rfl, _, ⟨atStart, rfl⟩, isMatch⟩ := Regex.exec_sound executes
  obtain rfl : skipped = [] := atStart
  exact link_sound isMatch

/-- A room id is all that the pattern of a room id matches. -/
theorem roomId_test_iff (value : JsString) : (ROOM_ID.exec value).isSome ↔ IsId value := by
  constructor
  · intro passes
    obtain ⟨found, executes⟩ := Option.isSome_iff_exists.mp passes
    obtain ⟨skipped, later, rfl, _, ⟨atStart, rfl⟩, _, ⟨id, rest, splits, units, above, below, rfl⟩,
      atEnd, -⟩ := Regex.exec_sound executes
    obtain rfl : skipped = [] := atStart
    obtain rfl : rest = [] := atEnd
    have splits : later = id ++ [] := splits
    rw [splits, List.append_nil]
    exact ⟨units, above, below⟩
  · intro isId
    have isMatch : ROOM_ID.Matches ⟨[], value, fun _ => none⟩ ⟨[] ++ value, [], fun _ => none⟩ :=
      ⟨_, ⟨rfl, rfl⟩, _, ⟨value, [], (List.append_nil value).symm, isId.units, isId.nonempty,
        isId.short, rfl⟩, rfl, rfl⟩
    have passes : (ROOM_ID.exec ([] ++ value)).isSome := Regex.exec_complete isMatch
    exact passes

/-! ### Slashes -/

private theorem count_slash_of_isId {id : JsString} (isId : IsId id) : id.count 0x2F = 0 := by
  refine List.count_eq_zero.mpr fun member => ?_
  exact isIdUnit_ne (isId.units _ member) (by decide) rfl

/-- The path of a room is read in one way only. -/
theorem link_unique {skipped id other slash : JsString} (isId : IsId id) (isOther : IsId other)
    (isEnd : IsEnd slash) (same : Utf16.encode "/r/".toList ++ id =
      skipped ++ (Utf16.encode "/r/".toList ++ (other ++ slash))) : other = id := by
  have lead : (Utf16.encode "/r/".toList).count 0x2F = 2 := by decide
  have counts := congrArg (List.count 0x2F) same
  simp only [List.count_append, lead, count_slash_of_isId isId, count_slash_of_isId isOther]
    at counts
  have noSkip : skipped = [] := by
    cases skipped with
    | nil => rfl
    | cons unit rest =>
        have first : (0x2F : UInt16) = unit := (List.cons.inj same).1
        rw [← first, List.count_cons_self] at counts
        omega
  have noSlash : slash = [] := by
    rcases isEnd with none | one
    · exact none
    · have counted : (Utf16.encode ['/']).count 0x2F = 1 := by decide
      rw [one, counted] at counts
      omega
  rw [noSkip, noSlash, List.nil_append, List.append_nil] at same
  exact (List.append_cancel_left same).symm

/-- A room that the page is at. -/
theorem roomFromLocation_of_isId {location : Url} {id : JsString} (isId : IsId id)
    (inRoom : pathnameOf location = Utf16.encode "/r/".toList ++ id) :
    roomFromLocation location = some id := by
  obtain ⟨ended, isMatch⟩ := link_complete isId (Or.inl rfl) [] fun _ => none
  rw [List.append_nil] at isMatch
  have executes : (roomPath.exec ([] ++ (Utf16.encode "/r/".toList ++ id))).isSome :=
    Regex.exec_complete ⟨_, ⟨rfl, rfl⟩, isMatch⟩
  obtain ⟨found, executes⟩ := Option.isSome_iff_exists.mp executes
  rw [List.nil_append] at executes
  obtain ⟨other, slash, same, isOther, isEnd, captured⟩ := roomPath_of_exec executes
  rw [roomFromLocation, inRoom, executes, Option.bind_some, captured,
    @link_unique [] id other slash isId isOther isEnd same]

/-- The link of a room, wherever its path begins. -/
theorem exec_roomLink {id : JsString} (isId : IsId id) :
    (roomLink.exec (Utf16.encode "/r/".toList ++ id)).bind (fun found => found.captures 1) =
      some id := by
  obtain ⟨ended, isMatch⟩ := link_complete isId (Or.inl rfl) [] fun _ => none
  rw [List.append_nil] at isMatch
  have executes : (roomLink.exec ([] ++ (Utf16.encode "/r/".toList ++ id))).isSome :=
    Regex.exec_complete isMatch
  obtain ⟨found, executes⟩ := Option.isSome_iff_exists.mp executes
  rw [List.nil_append] at executes
  obtain ⟨skipped, other, slash, same, isOther, isEnd, captured⟩ := roomLink_of_exec executes
  rw [executes, Option.bind_some, captured, link_unique isId isOther isEnd same]

/-! ### Ids in addresses -/

theorem isSegment_of_isIdChar {chars : List Char} (nonempty : chars ≠ [])
    (isId : ∀ char ∈ chars, isIdChar char = true) : Url.IsSegment chars := by
  obtain ⟨first, others, rfl⟩ := List.exists_cons_of_ne_nil nonempty
  have notDot : first.toLower ≠ '.' ∧ first.toLower ≠ '%' :=
    @forall_isIdChar (fun char => char.toLower ≠ '.' ∧ char.toLower ≠ '%') (by decide +kernel)
      first (isId first List.mem_cons_self)
  refine ⟨nonempty, fun char member => ?_, ?_, ?_⟩
  · exact @forall_isIdChar
      (fun char => Url.isPathSet char = false ∧ Url.isTerminator true char = false)
      (by decide +kernel) char (isId char member)
  · simp [Url.isSingleDot, notDot]
  · simp [Url.isDoubleDot, notDot]

theorem isSegment_room : Url.IsSegment ['r'] :=
  isSegment_of_isIdChar (List.cons_ne_nil _ _) (List.all_eq_true.mp (by decide))

theorem isSegment_doc : Url.IsSegment "doc".toList :=
  isSegment_of_isIdChar (List.cons_ne_nil _ _) (List.all_eq_true.mp (by decide))

/-- The same place at another path. -/
def atPath (location : Url) (first chars : List Char) : Url :=
  { location with path := .segments [first, chars] }

private theorem pathname_atPath (location : Url) (first chars : List Char) :
    (atPath location first chars).pathname = '/' :: (first ++ '/' :: chars) := by
  simp [atPath, Url.pathname]

theorem pathnameOf_room (location : Url) (chars : List Char) :
    pathnameOf (atPath location ['r'] chars) =
      Utf16.encode "/r/".toList ++ Utf16.encode chars := by
  rw [pathnameOf, pathname_atPath]
  simp [Utf16.encode]

section

variable {hosts : HostParser} {location : Url} {first : List Char} {chars : List Char}

private theorem forall_segments (isFirst : Url.IsSegment first) (isChars : Url.IsSegment chars) :
    ∀ segment ∈ [first, chars], Url.IsSegment segment :=
  List.forall_mem_cons.mpr ⟨isFirst, List.forall_mem_singleton.mpr isChars⟩

/-- An address of two segments is parsed to the place it names. -/
theorem parse_atPath (page : location.IsSite hosts) (base : Option Url)
    (isFirst : Url.IsSegment first) (isChars : Url.IsSegment chars) :
    Url.parse hosts base (location.origin ++ '/' :: (first ++ '/' :: chars)) =
      some (atPath location first chars) := by
  have moved : (atPath location first chars).IsSite hosts :=
    ⟨page.special, page.notFile, page.host, page.port, _, rfl⟩
  rw [← pathname_atPath location first chars]
  exact moved.parse_href base rfl (List.cons_ne_nil _ _) (forall_segments isFirst isChars)

theorem parse_pushed (page : location.IsSite hosts) (isFirst : Url.IsSegment first)
    (isChars : Url.IsSegment chars) :
    Url.parse hosts (some location) ('/' :: (first ++ '/' :: chars)) =
      some (atPath location first chars) := by
  have parsed := page.parse_path (List.cons_ne_nil first [chars]) (forall_segments isFirst isChars)
  have written : Url.pathText [first, chars] = '/' :: (first ++ '/' :: chars) := by
    simp [Url.pathText]
  rw [written] at parsed
  exact parsed

end

theorem decode_append_encode (front back : List Char) :
    Utf16.decode (Utf16.encode front ++ Utf16.encode back) = front ++ back := by
  have appended : Utf16.encode (front ++ back) = Utf16.encode front ++ Utf16.encode back :=
    List.flatMap_append
  rw [← appended, Utf16.decode_encode]

/-! ### Text around an address -/

private theorem trim_eq_self {value : JsString}
    (first : ∀ unit ∈ value.head?, Http.isTrimmed unit = false)
    (last : ∀ unit ∈ value.getLast?, Http.isTrimmed unit = false) : Http.trim value = value := by
  have front : value.dropWhile Http.isTrimmed = value := by
    cases value with
    | nil => rfl
    | cons unit rest =>
        exact List.dropWhile_cons_of_neg (by rw [first unit rfl]; exact Bool.false_ne_true)
  rw [Http.trim, front]
  refine List.rdropWhile_eq_self_iff.mpr fun some => ?_
  rw [last _ (List.getLast?_eq_getLast_of_ne_nil some)]
  exact Bool.false_ne_true

private theorem isTrimmed_of_isIdUnit {unit : UInt16} (isId : isIdUnit unit = true) :
    Http.isTrimmed unit = false := by
  have ascii : ∀ code < 0x80, isIdChar (Char.ofNat code) = true →
      Http.isTrimmed (UInt16.ofNat code) = false := by decide +kernel
  rw [← @UInt16.ofNat_toNat unit]
  exact ascii unit.toNat (isIdUnit_small isId) isId

/-! ### What the user types -/

/-- Whatever is typed, only an id comes out. -/
theorem isId_of_parseRoomInput {hosts : HostParser} {value id : JsString}
    (parsed : parseRoomInput hosts value = some id) : IsId id := by
  unfold parseRoomInput at parsed
  dsimp only at parsed
  split at parsed
  · cases parsed
  · split at parsed
    · obtain ⟨found, executes, captured⟩ := Option.bind_eq_some_iff.mp parsed
      obtain ⟨skipped, other, slash, -, isId, -, captured'⟩ := roomLink_of_exec executes
      rwa [Option.some.inj (captured.symm.trans captured')]
    · obtain ⟨passes, same⟩ := Option.ite_none_right_eq_some.mp parsed
      cases same
      exact (roomId_test_iff _).mp passes

private theorem trim_of_isId {id : JsString} (isId : IsId id) : Http.trim id = id :=
  trim_eq_self (fun unit first => isTrimmed_of_isIdUnit (isId.units unit (List.mem_of_head? first)))
    fun unit last => isTrimmed_of_isIdUnit (isId.units unit (List.mem_of_getLast? last))

theorem ne_nil_of_isId {id : JsString} (isId : IsId id) : id ≠ [] :=
  List.ne_nil_of_length_pos isId.nonempty

/-- A bare code is no URL. -/
theorem parseRoomInput_of_isId (hosts : HostParser) {id : JsString} (isId : IsId id) :
    parseRoomInput hosts id = some id := by
  obtain ⟨chars, rfl, isChars, -⟩ := isId.chars
  have noColon : ':' ∉ chars := fun member => absurd (isChars ':' member) (by decide)
  unfold parseRoomInput
  dsimp only
  rw [trim_of_isId isId, if_neg (ne_nil_of_isId isId), Utf16.decode_encode,
    Url.parse_of_no_colon hosts noColon]
  exact if_pos ((roomId_test_iff _).mpr isId)

/-- `http:` or `https:`. -/
def IsWeb (scheme : List Char) : Prop := scheme = "http".toList ∨ scheme = "https".toList

/-- The link of a room leads to it. -/
theorem parseRoomInput_roomUrl {hosts : HostParser} {location : Url}
    (page : location.IsSite hosts) (web : IsWeb location.scheme) {id : JsString} (isId : IsId id) :
    parseRoomInput hosts (roomUrl location id) = some id := by
  obtain ⟨chars, rfl, isChars, nonempty⟩ := isId.chars
  have segment := isSegment_of_isIdChar nonempty isChars
  have written : roomUrl location (Utf16.encode chars) =
      Utf16.encode (location.origin ++ '/' :: (['r'] ++ '/' :: chars)) := by
    simp [roomUrl, Utf16.encode]
  have start : (roomUrl location (Utf16.encode chars)).head? = some 0x68 := by
    unfold roomUrl Url.origin
    rcases web with isHttp | isHttps
    · rw [isHttp]
      rfl
    · rw [isHttps]
      rfl
  have finish : (roomUrl location (Utf16.encode chars)).getLast? =
      (Utf16.encode chars).getLast? := by
    have some := ne_nil_of_isId isId
    rw [roomUrl, List.getLast?_append_of_ne_nil _ (List.append_ne_nil_of_right_ne_nil _ some),
      List.getLast?_append_of_ne_nil _ some]
  have trimmed : Http.trim (roomUrl location (Utf16.encode chars)) =
      roomUrl location (Utf16.encode chars) := by
    refine trim_eq_self (fun unit first => ?_) fun unit last => ?_
    · rw [Option.some.inj (first.symm.trans start)]
      decide
    · rw [finish] at last
      exact isTrimmed_of_isIdUnit (isId.units unit (List.mem_of_getLast? last))
  have nonempty : roomUrl location (Utf16.encode chars) ≠ [] := by
    intro empty
    rw [empty] at start
    cases start
  unfold parseRoomInput
  dsimp only
  rw [trimmed, if_neg nonempty, written, Utf16.decode_encode,
    parse_atPath page none isSegment_room segment]
  dsimp only
  rw [pathnameOf_room]
  exact exec_roomLink isId

/-! ### Where an id is used -/

theorem encode_of_isIdChar {chars : List Char} (isId : ∀ char ∈ chars, isIdChar char = true) :
    PercentEncoding.encode chars = Utf16.encode chars := by
  induction chars with
  | nil => rfl
  | cons char rest inductionHypothesis =>
      obtain ⟨first, others⟩ := List.forall_mem_cons.mp isId
      show PercentEncoding.encodeChar char ++ PercentEncoding.encode rest = _
      rw [inductionHypothesis others, PercentEncoding.encodeChar,
        if_pos (isUnreserved_of_isIdChar first)]
      rfl

/-- The address of a server: a site without a path. -/
def IsServer (hosts : HostParser) (address : JsString) : Prop :=
  ∃ server : Url, server.IsSite hosts ∧ address = Utf16.encode server.origin

/-- The host of the page, with another scheme and port. -/
theorem isServer_of_page {hosts : HostParser} {location : Url} (page : location.IsSite hosts)
    {scheme : List Char} (special : Url.isSpecial scheme = true) (notFile : scheme ≠ Url.fileScheme)
    (port : Option ℕ)
    (bound : ∀ number ∈ port, number ≤ 65535 ∧ Url.defaultPort scheme ≠ some number) :
    IsServer hosts (Utf16.encode
      (scheme ++ "://".toList ++ (location.hostname ++
        port.elim [] fun number => ':' :: Nat.toDigits 10 number))) :=
  ⟨⟨scheme, location.host, port, .segments []⟩, ⟨special, notFile, page.host, bound, [], rfl⟩, rfl⟩

/-- The address that is used when none is configured is one of a server. -/
theorem isServer_serverUrl {hosts : HostParser} {location : Url} (page : location.IsSite hosts)
    (web : IsWeb location.scheme) {env : Env}
    (configured : ∀ address ∈ env.wsUrl, IsServer hosts address) :
    IsServer hosts (serverUrl env location) := by
  cases given : env.wsUrl with
  | some address =>
      have isServer := configured address given
      rwa [serverUrl, given]
  | none =>
      obtain ⟨scheme, isScheme, special, notFile, samePort, dev⟩ : ∃ scheme : String,
          (if location.scheme = "https".toList then "wss" else "ws") = scheme ∧
            Url.isSpecial scheme.toList = true ∧ scheme.toList ≠ Url.fileScheme ∧
              Url.defaultPort scheme.toList = Url.defaultPort location.scheme ∧
                Url.defaultPort scheme.toList ≠ some 8080 := by
        rcases web with isHttp | isHttps
        · rw [isHttp]
          exact ⟨"ws", by decide, by decide, by decide, by decide, by decide⟩
        · rw [isHttps]
          exact ⟨"wss", by decide, by decide, by decide, by decide, by decide⟩
      have digits : ":8080".toList = ':' :: Nat.toDigits 10 8080 := by decide
      unfold serverUrl
      dsimp only
      rw [given, Option.getD_none, isScheme, digits]
      split
      · rw [List.append_assoc]
        refine isServer_of_page page special notFile (some 8080) ?_
        rintro number ⟨⟩
        exact ⟨by decide, dev⟩
      · refine isServer_of_page page special notFile location.port fun number isPort => ?_
        rw [samePort]
        exact page.port number isPort

/-- The server finds the id in the path of the socket's address. -/
theorem documentIdFrom_socketUrl {hosts : HostParser} {location : Url} {env : Env}
    (isServer : IsServer hosts (serverUrl env location)) {id : JsString} (isId : IsId id) :
    ((socketUrl env location id).bind (requestPath hosts location)).bind
      (fun path => documentIdFrom (some path)) = some id := by
  obtain ⟨server, site, address⟩ := isServer
  obtain ⟨chars, rfl, isChars, nonempty⟩ := isId.chars
  have segment := isSegment_of_isIdChar nonempty isChars
  have encoded : encodeURIComponent (Utf16.encode chars) = some (Utf16.encode chars) := by
    rw [encodeURIComponent, Utf16.decode_encode, if_pos rfl, encode_of_isIdChar isChars]
  have written : Utf16.encode server.origin ++
      (Utf16.encode "/doc/".toList ++ Utf16.encode chars) =
        Utf16.encode (server.origin ++ '/' :: ("doc".toList ++ '/' :: chars)) := by
    simp [Utf16.encode]
  have path : pathnameOf (atPath server "doc".toList chars) =
      Utf16.encode "/doc/".toList ++ Utf16.encode chars := by
    rw [pathnameOf, pathname_atPath]
    simp [Utf16.encode]
  rw [socketUrl, encoded, Option.map_some, Option.bind_some, address, written, requestPath,
    Utf16.decode_encode, parse_atPath site _ isSegment_doc segment, Option.map_some,
    Option.bind_some, path]
  exact documentIdFrom_of_isId isId

/-- The page is at the room it has pushed. -/
theorem roomFromLocation_pushRoom {hosts : HostParser} {location : Url}
    (page : location.IsSite hosts) {id : JsString} (isId : IsId id) :
    (pushRoom hosts location id).bind roomFromLocation = some id := by
  obtain ⟨chars, rfl, isChars, nonempty⟩ := isId.chars
  have segment := isSegment_of_isIdChar nonempty isChars
  have pushed : pushRoom hosts location (Utf16.encode chars) =
      some (atPath location ['r'] chars) := by
    rw [pushRoom, decode_append_encode]
    show (Url.parse hosts (some location) ('/' :: (['r'] ++ '/' :: chars))).bind _ = _
    rw [parse_pushed page isSegment_room segment, Option.bind_some]
    exact if_pos ⟨rfl, rfl, rfl⟩
  rw [pushed, Option.bind_some]
  exact roomFromLocation_of_isId isId (pathnameOf_room location chars)

/-! ### Ids that are made -/

/-- The characters that some bytes stand for. -/
def picked (bytes : List UInt8) : JsString :=
  (bytes.filter fun byte => byte.toNat < limit).map fun byte =>
    ALPHABET.getD (byte.toNat % ALPHABET.length) 0

private theorem picked_append (front back : List UInt8) :
    picked (front ++ back) = picked front ++ picked back := by
  rw [picked, List.filter_append, List.map_append]
  rfl

private theorem isIdUnit_of_mem_picked {bytes : List UInt8} {unit : UInt16}
    (member : unit ∈ picked bytes) :
    isIdUnit unit = true := by
  obtain ⟨byte, -, rfl⟩ := List.mem_map.mp member
  have alphabet : ALPHABET.all isIdUnit = true := by decide +kernel
  have inside : byte.toNat % ALPHABET.length < ALPHABET.length := Nat.mod_lt _ (by decide)
  rw [List.getD_eq_getElem?_getD, List.getElem?_eq_getElem inside, Option.getD_some]
  exact List.all_eq_true.mp alphabet _ (List.getElem_mem inside)

/-- A buffer adds its characters, up to the last one that is needed. -/
theorem pushBytes_eq {chars : JsString} (short : chars.length < 12) (bytes : List UInt8) :
    pushBytes chars bytes = (chars ++ picked bytes).take 12 := by
  induction bytes generalizing chars with
  | nil =>
      rw [pushBytes, show picked [] = [] from rfl, List.append_nil, List.take_of_length_le]
      exact short.le
  | cons byte rest inductionHypothesis =>
      rw [pushBytes]
      by_cases skipped : byte.toNat ≥ limit
      · have same : picked (byte :: rest) = picked rest := by
          rw [picked, List.filter_cons_of_neg (by simpa using skipped)]
          rfl
        rw [if_pos skipped, same, inductionHypothesis short]
      · have same : picked (byte :: rest) =
            ALPHABET.getD (byte.toNat % ALPHABET.length) 0 :: picked rest := by
          rw [picked, List.filter_cons_of_pos (by simpa using skipped)]
          rfl
        rw [if_neg skipped, same]
        generalize ALPHABET.getD (byte.toNat % ALPHABET.length) 0 = letter
        rw [List.append_cons chars letter (picked rest)]
        have length : (chars ++ [letter]).length = chars.length + 1 := List.length_append
        dsimp only
        split
        · next full =>
            have twelve : (chars ++ [letter]).length = 12 := full
            rw [← twelve, List.take_left]
        · next more =>
            have notYet : (chars ++ [letter]).length ≠ 12 := more
            exact inductionHypothesis (by omega)

/-- The loop ends with the first characters there are. -/
theorem drawChars_eq {chars : JsString} (short : chars.length ≤ 12) (buffers : List (List UInt8)) :
    drawChars chars buffers =
      if 12 ≤ (chars ++ picked buffers.flatten).length then
        some ((chars ++ picked buffers.flatten).take 12) else none := by
  have needed : GROUPS * GROUP_SIZE = 12 := rfl
  induction buffers generalizing chars with
  | nil =>
      rw [drawChars, needed, List.flatten_nil, show picked [] = [] from rfl, List.append_nil]
      by_cases more : chars.length < 12
      · rw [if_pos more, if_neg (by omega)]
      · rw [if_neg more, if_pos (by omega), List.take_of_length_le short]
  | cons buffer buffers inductionHypothesis =>
      rw [drawChars, needed, List.flatten_cons, picked_append, ← List.append_assoc]
      by_cases more : chars.length < 12
      · rw [if_pos more, pushBytes_eq more]
        generalize chars ++ picked buffer = read
        rw [inductionHypothesis (List.length_take_le 12 read)]
        by_cases fits : read.length ≤ 12
        · rw [List.take_of_length_le fits]
        · have full : (read.take 12).length = 12 := by
            rw [List.length_take]
            omega
          rw [List.take_append_of_le_length full.ge, List.take_of_length_le full.le,
            List.take_append_of_le_length (by omega), List.length_append, List.length_append,
            if_pos (by omega), if_pos (by omega)]
      · rw [if_neg more, List.append_assoc, List.length_append, if_pos (by omega),
          List.take_append_of_le_length (by omega), List.take_of_length_le short]

/-- Twelve characters in groups are an id. -/
theorem isId_grouped {chars : JsString} (length : chars.length = 12)
    (units : ∀ unit ∈ chars, isIdUnit unit = true) : IsId (grouped chars) := by
  match chars, length with
  | [a, b, c, d, e, f, g, h, i, j, k, l], _ =>
      have written : grouped [a, b, c, d, e, f, g, h, i, j, k, l] =
          [a, b, c, d, 0x2D, e, f, g, h, 0x2D, i, j, k, l] := rfl
      have dash : isIdUnit 0x2D = true := by decide
      rw [written]
      refine ⟨?_, by simp, by simp⟩
      simp only [List.forall_mem_cons] at units ⊢
      simp [units, dash]

theorem drawChars_nil (buffers : List (List UInt8)) : drawChars [] buffers =
    if 12 ≤ (picked buffers.flatten).length then some ((picked buffers.flatten).take 12)
    else none :=
  @drawChars_eq [] (Nat.zero_le 12) buffers

/-- Whatever is drawn, only an id is made. -/
theorem isId_of_createRoomId {buffers : List (List UInt8)} {id : JsString}
    (made : createRoomId buffers = some id) : IsId id := by
  obtain ⟨chars, drawn, rfl⟩ := Option.map_eq_some_iff.mp made
  rw [drawChars_nil] at drawn
  obtain ⟨enough, same⟩ := Option.ite_none_right_eq_some.mp drawn
  cases same
  refine isId_grouped ?_ fun unit member => isIdUnit_of_mem_picked (List.mem_of_mem_take member)
  rw [List.length_take]
  omega

/-! ### All of them -/

/-- The server's route takes the id. -/
def Accepts (id : JsString) : Prop := ∃ url, documentIdFrom (some url) = some id

private theorem accepts_of_isId {id : JsString} (isId : IsId id) : Accepts id :=
  ⟨_, documentIdFrom_of_isId isId⟩

/-- What is read from a link or typed reaches the server and the address bar
unchanged, what the server takes can be typed or linked to, and what is made is
one of these. -/
theorem room_ids_agree {hosts : HostParser} {location : Url} {env : Env}
    (page : location.IsSite hosts) (web : IsWeb location.scheme)
    (configured : ∀ address ∈ env.wsUrl, IsServer hosts address) :
    (∀ value id, parseRoomInput hosts value = some id →
      ((socketUrl env location id).bind (requestPath hosts location)).bind
        (fun path => documentIdFrom (some path)) = some id ∧
      (pushRoom hosts location id).bind roomFromLocation = some id) ∧
    (∀ id, Accepts id → parseRoomInput hosts id = some id ∧
      parseRoomInput hosts (roomUrl location id) = some id) ∧
    ∀ buffers id, createRoomId buffers = some id → Accepts id := by
  refine ⟨fun value id parsed => ?_, fun id accepted => ?_, fun buffers id made => ?_⟩
  · have isId := isId_of_parseRoomInput parsed
    exact ⟨documentIdFrom_socketUrl (isServer_serverUrl page web configured) isId,
      roomFromLocation_pushRoom page isId⟩
  · obtain ⟨url, taken⟩ := accepted
    have isId := isId_of_documentIdFrom taken
    exact ⟨parseRoomInput_of_isId hosts isId, parseRoomInput_roomUrl page web isId⟩
  · exact accepts_of_isId (isId_of_createRoomId made)

/-- A host parser that knows one host, which is parsed to itself. -/
def localHosts : HostParser := fun isOpaque text =>
  if isOpaque = false ∧ text = "localhost".toList then some text else none

/-- The page of the development server. -/
def localPage : Url := ⟨"http".toList, some "localhost".toList, some 5173, .segments [[]]⟩

private theorem isHost_localhost : Url.IsHost "localhost".toList := by
  have plain : ("localhost".toList.all fun char => Url.isHostChar char && char ≠ ':') = true := by
    decide
  refine Or.inl ⟨List.cons_ne_nil _ _, fun char member => ?_⟩
  have both := List.all_eq_true.mp plain char member
  rwa [Bool.and_eq_true, decide_eq_true_eq] at both

theorem localPage_isSite : localPage.IsSite localHosts := by
  refine ⟨rfl, by decide, ⟨_, rfl, isHost_localhost, rfl⟩, ?_, _, rfl⟩
  rintro port ⟨⟩
  decide

theorem room_ids_agree_local :
    (∀ value id, parseRoomInput localHosts value = some id →
      ((socketUrl ⟨true, none⟩ localPage id).bind (requestPath localHosts localPage)).bind
        (fun path => documentIdFrom (some path)) = some id ∧
      (pushRoom localHosts localPage id).bind roomFromLocation = some id) ∧
    (∀ id, Accepts id → parseRoomInput localHosts id = some id ∧
      parseRoomInput localHosts (roomUrl localPage id) = some id) ∧
    ∀ buffers id, createRoomId buffers = some id → Accepts id :=
  room_ids_agree localPage_isSite (Or.inl rfl) nofun

end CollabEditor.Web
