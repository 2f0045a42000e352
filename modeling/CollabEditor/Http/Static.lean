import CollabEditor.Http.Session
import CollabEditor.Library.PercentEncoding
import CollabEditor.Library.PosixPath

/-!
Owns the listener of `http.ts` and the web app it serves: routing, the file that
the path of a request names, and the fallback to `index.html`.

Assumes that the files stay as they are from `stat` until they are streamed.
Does not own what becomes of a stream.
-/

set_option autoImplicit false

namespace CollabEditor.Http

open CollabEditor.Library CollabEditor.Library.PosixPath

/-- What the listener reads of `config`. -/
structure HttpConfig where
  corsOrigin : JsString
  webRoot : JsString
  instanceId : JsString

/-- The gateway, the tokens and the file system behind the listener. -/
structure HttpServer where
  config : HttpConfig
  /-- `gateway.stats`. -/
  stats : List (JsString × Json)
  tokens : TokenContext
  /-- What `randomUUID` returns. -/
  randomUUID : JsString
  /-- Whether `stat` reports a regular file; `none` when it fails. -/
  stat : JsString → Option Bool

structure Request where
  method : Option JsString
  url : Option JsString
  /-- The body, as it arrives. -/
  chunks : List (List UInt8)

/-- A response that was started. -/
inductive Answer where
  | preflight
  | json (response : Response)
  /-- The file that is streamed, with its headers. -/
  | file (path contentType cacheControl : JsString)
deriving DecidableEq

def Answer.status : Answer → ℕ
  | .preflight => 204
  | .json response => response.status
  | .file _ _ _ => 200

/-- The path of a file that is streamed. -/
def Answer.path? : Answer → Option JsString
  | .file path _ _ => some path
  | _ => none

/-- What a handler did: the responses it started, and whether its promise was
rejected. -/
structure Served where
  answers : List Answer
  rejected : Bool
deriving DecidableEq

/-- The files a handler opened. -/
def Served.opened (served : Served) : List JsString := served.answers.filterMap Answer.path?

/-! ### Serving a file -/

/-- `MIME_TYPES`. -/
def MIME_TYPES : List (JsString × JsString) := [
  (Json.text ".html", Json.text "text/html; charset=utf-8"),
  (Json.text ".js", Json.text "text/javascript; charset=utf-8"),
  (Json.text ".css", Json.text "text/css; charset=utf-8"),
  (Json.text ".json", Json.text "application/json; charset=utf-8"),
  (Json.text ".svg", Json.text "image/svg+xml"),
  (Json.text ".png", Json.text "image/png"),
  (Json.text ".jpg", Json.text "image/jpeg"),
  (Json.text ".ico", Json.text "image/x-icon"),
  (Json.text ".woff2", Json.text "font/woff2"),
  (Json.text ".map", Json.text "application/json; charset=utf-8")]

def indexHtml : JsString := Json.text "index.html"

/-- The response that streams a file. -/
def fileAnswer (path : JsString) : Answer :=
  let isEntry := indexHtml.isSuffixOf path
  .file path ((MIME_TYPES.lookup (extname path)).getD (Json.text "application/octet-stream"))
    (if isEntry then Json.text "no-cache" else Json.text "public, max-age=31536000, immutable")

def notFound : Response := json 404 (.object [(Json.text "error", .string (Json.text "not found"))])

/-- `isFile`, which takes a failure for a `no`. -/
def isFile (stat : JsString → Option Bool) (path : JsString) : Bool := (stat path).getD false

/-- `serveApp`. -/
def serveApp (stat : JsString → Option Bool) (root urlPath : JsString) : Served :=
  match PercentEncoding.decode urlPath with
  -- `decodeURIComponent` stands in no `try`.
  | none => ⟨[], true⟩
  | some decoded =>
      let file := join [root, normalize decoded]
      if (root ++ [slash]).isPrefixOf file ∧ isFile stat file then ⟨[fileAnswer file], false⟩
      else
        let entry := join [root, indexHtml]
        if isFile stat entry then ⟨[fileAnswer entry], false⟩ else ⟨[.json notFound], false⟩

/-! ### The listener -/

inductive Route where
  | preflight
  | health
  | session
  | app (path : JsString)
  | missing
deriving DecidableEq

/-- The target of a request up to its query. -/
def pathOf (request : Request) : JsString := (request.url.getD []).takeWhile (· ≠ 0x3F)

def route (config : HttpConfig) (request : Request) : Route :=
  if request.method = some (Json.text "OPTIONS") then .preflight
  else if pathOf request = Json.text "/healthz" then .health
  else if pathOf request = Json.text "/api/session" ∧ request.method = some (Json.text "POST") then
    .session
  else if request.method = some (Json.text "GET") ∧ config.webRoot ≠ [] then .app (pathOf request)
  else .missing

/-- The headers every response has. -/
def corsHeaders (config : HttpConfig) : List (JsString × JsString) := [
  (Json.text "access-control-allow-origin", config.corsOrigin),
  (Json.text "access-control-allow-headers", Json.text "content-type"),
  (Json.text "access-control-allow-methods", Json.text "GET, POST, OPTIONS")]

/-- The listener of `createHttpServer`: the headers it sets, and what it serves. -/
def listener (server : HttpServer) (request : Request) : List (JsString × JsString) × Served :=
  (corsHeaders server.config,
    match route server.config request with
    | .preflight => ⟨[.preflight], false⟩
    | .health => ⟨[.json (json 200 (.object ([(Json.text "status", .string (Json.text "ok")),
        (Json.text "instance", .string server.config.instanceId)] ++ server.stats)))], false⟩
    | .session =>
        let handled := createSession server.tokens server.randomUUID request.chunks
        ⟨handled.responses.map Answer.json, handled.rejected⟩
    | .app path => serveApp server.stat server.config.webRoot path
    | .missing => ⟨[.json notFound], false⟩)

private theorem listener_app {server : HttpServer} {request : Request} {path : JsString}
    (routed : route server.config request = .app path) :
    (listener server request).2 = serveApp server.stat server.config.webRoot path := by
  unfold listener
  dsimp only
  rw [routed]

/-! ### Every path is answered -/

/-- One response, with a file or that there is none, and no rejection. -/
def Settles (served : Served) : Prop :=
  served.rejected = false ∧ ∃ answer, served.answers = [answer] ∧
    ((answer.status = 200 ∧ answer.path? ≠ none) ∨ answer.status = 404)

private theorem settles_file (path : JsString) : Settles ⟨[fileAnswer path], false⟩ :=
  ⟨rfl, fileAnswer path, rfl, Or.inl ⟨rfl, Option.some_ne_none path⟩⟩

/-- A path whose percent sequences can be decoded is answered, and no other is. -/
theorem serveApp_settles_iff (stat : JsString → Option Bool) (root urlPath : JsString) :
    Settles (serveApp stat root urlPath) ↔ PercentEncoding.decode urlPath ≠ none := by
  unfold serveApp
  cases PercentEncoding.decode urlPath with
  | none => exact iff_of_false (fun settles => by cases settles.1) fun some => some rfl
  | some decoded =>
      refine iff_of_true ?_ (Option.some_ne_none decoded)
      dsimp only
      split
      · exact settles_file _
      · split
        · exact settles_file _
        · exact ⟨rfl, _, rfl, Or.inr rfl⟩

/-- A request that reaches the web app gets one response, a file or 404, exactly
when the percent sequences of its path can be decoded. -/
theorem listener_settles_iff {server : HttpServer} {request : Request} {path : JsString}
    (routed : route server.config request = .app path) :
    Settles (listener server request).2 ↔ PercentEncoding.decode path ≠ none := by
  rw [listener_app routed]
  exact serveApp_settles_iff _ _ _

/-- A server whose web app is one page. -/
def onePage (webRoot : String) : HttpServer where
  config := ⟨Json.text "*", Json.text webRoot, Json.text "srv-1"⟩
  stats := []
  tokens := ⟨id, 3600, 0⟩
  randomUUID := []
  stat path := some (path = Json.text "/srv/web/index.html")

/-- A `GET` of some target. -/
def getOf (target : JsString) : Request := ⟨some (Json.text "GET"), some target, []⟩

theorem listener_settles_iff_page :
    Settles (listener (onePage "/srv/web") (getOf (Json.text "/doc%2F1?x=%"))).2 :=
  (@listener_settles_iff _ _ (Json.text "/doc%2F1") (by decide +kernel)).mpr (by decide +kernel)

/-- A lone percent sign is answered by no response, and the promise rejects. -/
theorem percent_unanswered :
    ¬ ∀ (server : HttpServer) (request : Request) (path : JsString),
      route server.config request = .app path → Settles (listener server request).2 := by
  intro settles
  have answered := settles (onePage "/srv/web") (getOf (Json.text "/%")) (Json.text "/%")
    (by decide +kernel)
  have rejected : (listener (onePage "/srv/web") (getOf (Json.text "/%"))).2.rejected = true := by
    decide +kernel
  exact absurd (answered.1.symm.trans rejected) Bool.false_ne_true

/-! ### Nothing outside the root is opened -/

/-- A normalized path strictly below a root, with no `..`. -/
structure Beneath (root file : JsString) : Prop where
  rooted : isAbsolute file = true
  normal : normalize file = file
  below : ∃ rest, rest ≠ [] ∧ steps file = steps root ++ rest
  noDots : [dot, dot] ∉ segments file

/-- What a path names below a root, when it passes the check of its beginning. -/
theorem beneath_of_isPrefixOf {root path : JsString} (rooted : isAbsolute root = true)
    (begins : (root ++ [slash]).isPrefixOf (normalize (root ++ slash :: path)) = true)
    (unclosed : endsInSlash (normalize (root ++ slash :: path)) = false) :
    Beneath root (normalize (root ++ slash :: path)) := by
  have whole := isAbsolute_append rooted (slash :: path)
  have proper := proper_steps whole
  have shape := normalize_of_isAbsolute whole
  have some : steps (root ++ slash :: path) ≠ [] := by
    intro empty
    rw [shape, if_pos empty] at unclosed
    exact absurd unclosed (by decide)
  have same : normalize (root ++ slash :: path) = absolute (steps (root ++ slash :: path)) := by
    rw [shape, if_neg some] at unclosed ⊢
    split
    · next closed =>
        rw [if_pos closed, endsInSlash, List.getLast?_append, decide_eq_false_iff_not] at unclosed
        exact absurd rfl unclosed
    · rfl
  rw [same] at begins ⊢
  obtain ⟨-, below, others, parts⟩ :=
    (prefix_absolute_iff rooted some proper).mp (List.isPrefixOf_iff_prefix.mp begins)
  refine ⟨isAbsolute_absolute _, normalize_absolute some proper, ⟨below, others, ?_⟩, ?_⟩
  · rw [steps_absolute some proper]
    exact parts
  · rw [segments_absolute some fun segment member => (proper segment member).noSlash]
    intro member
    rcases List.mem_cons.mp member with empty | later
    · cases empty
    · exact (proper _ later).notDots rfl

/-- A file that is opened is the page, or passed both checks. -/
theorem serveApp_opened {stat : JsString → Option Bool} {root urlPath file : JsString}
    (opens : file ∈ (serveApp stat root urlPath).opened) :
    file = join [root, indexHtml] ∨ ∃ decoded,
      PercentEncoding.decode urlPath = some decoded ∧ file = join [root, normalize decoded] ∧
        (root ++ [slash]).isPrefixOf file = true ∧ isFile stat file = true := by
  have single : ∀ path : JsString, file ∈ (⟨[fileAnswer path], false⟩ : Served).opened →
      file = path := fun path member => List.mem_singleton.mp member
  unfold serveApp at opens
  split at opens
  · cases opens
  · next decoded decodes =>
      dsimp only at opens
      split at opens
      · next passes =>
          obtain rfl := single _ opens
          exact Or.inr ⟨decoded, decodes, rfl, passes⟩
      · split at opens
        · exact Or.inl (single _ opens)
        · cases opens

/-- Whatever is asked for, the file that is opened is the page of the web app or
lies strictly below its root. No path that ends in a slash names a regular file. -/
theorem opened_contained {server : HttpServer} {request : Request} {path file : JsString}
    (routed : route server.config request = .app path)
    (rooted : isAbsolute server.config.webRoot = true)
    (directories : ∀ name, endsInSlash name = true → server.stat name ≠ some true)
    (opens : file ∈ (listener server request).2.opened) :
    file = join [server.config.webRoot, indexHtml] ∨ Beneath server.config.webRoot file := by
  rw [listener_app routed] at opens
  rcases serveApp_opened opens with page | ⟨decoded, -, joined, begins, regular⟩
  · exact Or.inl page
  · have some : server.config.webRoot ≠ [] := by
      obtain ⟨tail, shape⟩ := (isAbsolute_iff _).mp rooted
      rw [shape]
      exact List.cons_ne_nil _ _
    rw [join_eq_normalize some (normalize_ne_nil decoded)] at joined
    have unclosed : endsInSlash file = false := by
      refine Bool.eq_false_iff.mpr fun closed => directories file closed ?_
      unfold isFile at regular
      cases found : server.stat file with
      | none =>
          rw [found] at regular
          cases regular
      | some answer =>
          rw [found] at regular
          exact congrArg Option.some regular
    subst joined
    exact Or.inr (beneath_of_isPrefixOf rooted begins unclosed)

/-- A root with files, one of which is asked for by a path that leads above it. -/
def siteOf (webRoot : String) (files : List String) : HttpServer :=
  { onePage webRoot with stat := fun path => some (path ∈ files.map Json.text) }

theorem opened_contained_dots :
    (listener (siteOf "/srv/web" ["/srv/web/index.html", "/srv/web2/key"])
      (getOf (Json.text "/..%2fweb2/key"))).2.opened = [Json.text "/srv/web/index.html"] ∧
    (Json.text "/srv/web/index.html" = join [Json.text "/srv/web", indexHtml] ∨
      Beneath (Json.text "/srv/web") (Json.text "/srv/web/index.html")) := by
  have opens : (listener (siteOf "/srv/web" ["/srv/web/index.html", "/srv/web2/key"])
      (getOf (Json.text "/..%2fweb2/key"))).2.opened = [Json.text "/srv/web/index.html"] := by
    decide +kernel
  refine ⟨opens, ?_⟩
  have directories : ∀ name, endsInSlash name = true →
      (siteOf "/srv/web" ["/srv/web/index.html", "/srv/web2/key"]).stat name ≠ some true := by
    intro name closed regular
    have member : name ∈ [Json.text "/srv/web/index.html", Json.text "/srv/web2/key"] :=
      of_decide_eq_true (Option.some.inj regular)
    rcases List.mem_pair.mp member with rfl | rfl
    · revert closed
      decide +kernel
    · revert closed
      decide +kernel
  exact @opened_contained (siteOf "/srv/web" ["/srv/web/index.html", "/srv/web2/key"])
    (getOf (Json.text "/..%2fweb2/key")) (Json.text "/..%2fweb2/key") _ (by decide +kernel)
    (by decide +kernel) directories (by rw [opens]; exact List.mem_singleton_self _)

/-! ### Which files are reached -/

/-- The path of a file below the root. -/
def relative (path : List (List Char)) : JsString :=
  [slash].intercalate (path.map Utf16.encode)

/-- The target of a request for it, with each segment encoded. -/
def target (path : List (List Char)) : JsString :=
  slash :: [slash].intercalate (path.map PercentEncoding.encode)

private theorem decode_target {path : List (List Char)} (nonempty : path ≠ []) :
    PercentEncoding.decode (target path) = some (absolute (path.map Utf16.encode)) := by
  have segment : ∀ path : List (List Char), path ≠ [] →
      PercentEncoding.decode ([slash].intercalate (path.map PercentEncoding.encode)) =
        some ([slash].intercalate (path.map Utf16.encode)) := by
    intro path nonempty
    induction path with
    | nil => exact absurd rfl nonempty
    | cons chars rest inductionHypothesis =>
        cases rest with
        | nil =>
            have decoded := PercentEncoding.decode_encode_append chars []
            rw [List.append_nil] at decoded
            rw [List.map_singleton, List.map_singleton, List.intercalate_singleton,
              List.intercalate_singleton, decoded]
            show some (Utf16.encode chars ++ []) = _
            rw [List.append_nil]
        | cons next rest =>
            have later := inductionHypothesis (List.cons_ne_nil _ _)
            rw [List.map_cons, List.map_cons] at later
            rw [List.map_cons, List.map_cons, List.map_cons, List.map_cons,
              List.intercalate_cons_cons, List.intercalate_cons_cons, List.append_assoc,
              List.singleton_append, PercentEncoding.decode_encode_append,
              PercentEncoding.decode_cons (by decide), later, Option.map_some, Option.map_some,
              List.append_assoc, List.singleton_append]
  rw [target, PercentEncoding.decode_cons (by decide), segment path nonempty, Option.map_some,
    absolute]

private theorem query_not_mem_intercalate {parts : List JsString}
    (none : ∀ part ∈ parts, 0x3F ∉ part) :
    0x3F ∉ [slash].intercalate parts := by
  induction parts with
  | nil => exact List.not_mem_nil
  | cons part rest inductionHypothesis =>
      have first := none part List.mem_cons_self
      have later := inductionHypothesis fun other member =>
        none other (List.mem_cons_of_mem _ member)
      cases rest with
      | nil =>
          rw [List.intercalate_singleton]
          exact first
      | cons next rest =>
          rw [List.intercalate_cons_cons, List.append_assoc]
          intro member
          rcases List.mem_append.mp member with inFirst | inRest
          · exact first inFirst
          · rcases List.mem_cons.mp inRest with isSlash | inLater
            · exact absurd isSlash (by decide)
            · exact later inLater

/-- The target has no query to cut off. -/
theorem takeWhile_target (path : List (List Char)) :
    (target path).takeWhile (· ≠ 0x3F) = target path := by
  have none : 0x3F ∉ target path := by
    refine List.not_mem_cons_of_ne_of_not_mem (by decide) (query_not_mem_intercalate ?_)
    intro part member
    obtain ⟨chars, -, rfl⟩ := List.mem_map.mp member
    exact PercentEncoding.query_not_mem_encode chars
  refine List.takeWhile_eq_self_iff.mpr fun unit member => decide_eq_true ?_
  rintro rfl
  exact none member

private theorem map_encode_injective {path other : List (List Char)}
    (same : path.map Utf16.encode = other.map Utf16.encode) : path = other := by
  refine List.map_injective_iff.mpr (fun chars others equal => ?_) same
  have decoded := congrArg Utf16.decode equal
  rwa [Utf16.decode_encode, Utf16.decode_encode] at decoded

section

variable {path : List (List Char)}

/-- The target of any file but `healthz` is routed to the web app. -/
theorem route_target {config : HttpConfig} {request : Request} (nonempty : path ≠ [])
    (proper : ∀ segment ∈ path.map Utf16.encode, Proper segment)
    (notHealth : path ≠ ["healthz".toList]) (isGet : request.method = some (Json.text "GET"))
    (isTarget : request.url = some (target path)) (rooted : isAbsolute config.webRoot = true) :
    route config request = .app (target path) := by
  have isPath : pathOf request = target path := by
    rw [pathOf, isTarget, Option.getD_some, takeWhile_target]
  have other : target path ≠ Json.text "/healthz" := by
    intro same
    have decoded := decode_target nonempty
    have health : PercentEncoding.decode (Json.text "/healthz") =
        some (absolute [Json.text "healthz"]) := by decide +kernel
    rw [same, health, Option.some.injEq] at decoded
    have parts := congrArg segments decoded
    rw [segments_absolute (List.cons_ne_nil _ _) (by decide),
      segments_absolute (fun empty => nonempty (List.map_eq_nil_iff.mp empty))
        fun segment member => (proper segment member).noSlash, List.cons.injEq] at parts
    exact notHealth (map_encode_injective parts.2.symm)
  have hasRoot : config.webRoot ≠ [] := by
    obtain ⟨tail, shape⟩ := (isAbsolute_iff _).mp rooted
    rw [shape]
    exact List.cons_ne_nil _ _
  rw [route, isGet, isPath, if_neg (by decide), if_neg other, if_neg (fun both => by
    exact absurd both.2 (by decide)), if_pos ⟨rfl, hasRoot⟩]

end

/-- A file is opened under a tidy root only, unless it is the page itself. -/
theorem serveApp_opened_iff {stat : JsString → Option Bool} {root urlPath : JsString}
    {path : List JsString} (rooted : isAbsolute root = true) (nonempty : path ≠ [])
    (proper : ∀ segment ∈ path, Proper segment)
    (decodes : PercentEncoding.decode urlPath = some (absolute path))
    (regular : isFile stat (absolute (steps root ++ path)) = true) :
    (serveApp stat root urlPath).opened = [absolute (steps root ++ path)] ↔
      Tidy root ∨ path = [indexHtml] := by
  obtain ⟨-, file⟩ := join_proper rooted nonempty proper
  have isIndex : ∀ segment ∈ [indexHtml], Proper segment := fun segment member =>
    List.mem_singleton.mp member ▸ ⟨by decide, by decide, by decide, by decide⟩
  obtain ⟨page, -⟩ := join_proper rooted (List.cons_ne_nil indexHtml []) isIndex
  have inRoot := proper_steps rooted
  have whole : ∀ segment ∈ steps root ++ path, Proper segment := fun segment member =>
    (List.mem_append.mp member).elim (inRoot segment) (proper segment)
  have longer : steps root ++ path ≠ [] := List.append_ne_nil_of_right_ne_nil _ nonempty
  have passes :
      (root ++ [slash]).isPrefixOf (absolute (steps root ++ path)) = true ↔ Tidy root := by
    rw [List.isPrefixOf_iff_prefix, prefix_absolute_iff rooted longer whole]
    exact ⟨And.left, fun tidy => ⟨tidy, path, nonempty, rfl⟩⟩
  rw [List.intercalate_singleton] at page
  rw [serveApp, decodes]
  dsimp only
  rw [normalize_absolute nonempty proper, file, page]
  by_cases tidy : Tidy root
  · rw [if_pos ⟨passes.mpr tidy, regular⟩]
    exact iff_of_true rfl (Or.inl tidy)
  · rw [if_neg fun both => tidy (passes.mp both.1)]
    by_cases isPage : path = [indexHtml]
    · rw [← isPage, if_pos regular]
      exact iff_of_true rfl (Or.inr rfl)
    · refine iff_of_false (fun opened => isPage ?_) (not_or.mpr ⟨tidy, isPage⟩)
      split at opened
      · have same := congrArg steps (List.singleton_inj.mp opened)
        have indexed : ∀ segment ∈ steps root ++ [indexHtml], Proper segment :=
          fun segment member => (List.mem_append.mp member).elim (inRoot segment) (isIndex segment)
        rw [steps_absolute (List.append_ne_nil_of_right_ne_nil _ (List.cons_ne_nil _ _)) indexed,
          steps_absolute longer whole] at same
        exact (List.append_cancel_left same).symm
      · cases opened

/-- A file below the root is opened when it is asked for exactly when the root is
spelled as `normalize` spells it, without a slash at the end; any other root
lets every request fall back to the page. -/
theorem file_opened_iff {server : HttpServer} {request : Request} {path : List (List Char)}
    (nonempty : path ≠ []) (proper : ∀ segment ∈ path.map Utf16.encode, Proper segment)
    (notHealth : path ≠ ["healthz".toList]) (isGet : request.method = some (Json.text "GET"))
    (isTarget : request.url = some (target path))
    (rooted : isAbsolute server.config.webRoot = true)
    (regular : server.stat (join [server.config.webRoot, relative path]) = some true) :
    (listener server request).2.opened = [join [server.config.webRoot, relative path]] ↔
      Tidy server.config.webRoot ∨ path = ["index.html".toList] := by
  have some : path.map Utf16.encode ≠ [] := fun empty => nonempty (List.map_eq_nil_iff.mp empty)
  obtain ⟨joined, -⟩ := join_proper rooted some proper
  have isPage : path = ["index.html".toList] ↔ path.map Utf16.encode = [indexHtml] :=
    ⟨fun same => by rw [same]; rfl, fun same => map_encode_injective same⟩
  rw [relative, joined] at regular ⊢
  rw [listener_app (route_target nonempty proper notHealth isGet isTarget rooted), isPage]
  exact serveApp_opened_iff rooted some proper (decode_target nonempty)
    (by rw [isFile, regular, Option.getD_some])

theorem file_opened_iff_tidy :
    (listener (siteOf "/srv/web" ["/srv/web/a b/é.js"])
      (getOf (Json.text "/a%20b/%C3%A9.js"))).2.opened = [Json.text "/srv/web/a b/é.js"] := by
  have opened := @file_opened_iff (siteOf "/srv/web" ["/srv/web/a b/é.js"])
    (getOf (Json.text "/a%20b/%C3%A9.js")) ["a b".toList, "é.js".toList] (by decide)
    (by decide +kernel) (by decide) (by decide +kernel) (by decide +kernel) (by decide +kernel)
    (by decide +kernel)
  have name : join [Json.text "/srv/web", relative ["a b".toList, "é.js".toList]] =
      Json.text "/srv/web/a b/é.js" := by decide +kernel
  exact (opened.mpr (Or.inl (by decide +kernel))).trans (congrArg (fun path => [path]) name)

/-- Under a root with a slash at the end every request gets the page. -/
theorem slash_falls_back :
    ¬ ∀ (server : HttpServer) (request : Request) (path : List (List Char)), path ≠ [] →
      (∀ segment ∈ path.map Utf16.encode, Proper segment) → path ≠ ["healthz".toList] →
      request.method = some (Json.text "GET") → request.url = some (target path) →
      isAbsolute server.config.webRoot = true →
      server.stat (join [server.config.webRoot, relative path]) = some true →
      (listener server request).2.opened = [join [server.config.webRoot, relative path]] := by
  intro opens
  have opened := opens (siteOf "/srv/web/" ["/srv/web/index.html", "/srv/web/app.js"])
    (getOf (Json.text "/app.js")) ["app.js".toList] (by decide) (by decide +kernel) (by decide)
    (by decide +kernel) (by decide +kernel) (by decide +kernel) (by decide +kernel)
  revert opened
  decide +kernel

end CollabEditor.Http
