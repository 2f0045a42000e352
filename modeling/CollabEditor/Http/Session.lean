import CollabEditor.Http.Token
import Mathlib.Data.List.DropRight

/-!
Owns `POST /api/session` of `http.ts`: reading the body chunk by chunk, parsing
it, and the answer. A promise that rejects here has nobody to catch it.

Does not own how a request is aborted: every chunk of its body arrives.
-/

set_option autoImplicit false

namespace CollabEditor.Http

open CollabEditor.Library

def MAX_BODY_BYTES : ℕ := 1024

/-! ### Reading the body -/

/-- The promise of `readBody`, with what its closures hold. -/
structure BodyReader where
  chunks : List (List UInt8)
  size : ℕ
  /-- How the promise settled; `none` for a rejection. -/
  settled : Option (Option JsString)
  /-- `request.destroy()` was called. -/
  destroyed : Bool

namespace BodyReader

def new : BodyReader := ⟨[], 0, none, false⟩

/-- `resolve` or `reject`; only the first call counts. -/
def settle (reader : BodyReader) (result : Option JsString) : BodyReader :=
  { reader with settled := some (reader.settled.getD result) }

/-- `request.on('data', ..)`. -/
def onData (reader : BodyReader) (chunk : List UInt8) : BodyReader :=
  let sized := { reader with size := reader.size + chunk.length }
  if sized.size > MAX_BODY_BYTES then { sized.settle none with destroyed := true }
  else { sized with chunks := reader.chunks ++ [chunk] }

/-- `Buffer.toString('utf8')`, which keeps a byte order mark. -/
def decoded (bytes : List UInt8) : JsString := Utf16.encode (Utf8.decode bytes)

/-- `request.on('end', ..)`. -/
def onEnd (reader : BodyReader) : BodyReader := reader.settle (some (decoded reader.chunks.flatten))

end BodyReader

/-- `await readBody(request)` for a request whose body arrives in these chunks;
`none` when it throws. -/
def readBody (chunks : List (List UInt8)) : Option JsString :=
  ((chunks.foldl BodyReader.onData .new).onEnd.settled).getD none

/-! ### The answer -/

/-- What `json` writes. -/
structure Response where
  status : ℕ
  contentType : JsString
  contentLength : ℕ
  payload : JsString
deriving DecidableEq

/-- `json`. -/
def json (status : ℕ) (body : Json) : Response :=
  let payload := body.stringify
  ⟨status, Json.text "application/json", (bytesOf payload).length, payload⟩

/-- What one call of a handler did: the responses it wrote, and whether its
promise rejected. -/
structure Handled where
  responses : List Response
  rejected : Bool
deriving DecidableEq

/-- The white space and line terminators that `trim` removes. -/
def isTrimmed (unit : UInt16) : Bool :=
  let code := unit.toNat
  (0x09 ≤ code ∧ code ≤ 0x0D) ∨ code = 0x20 ∨ code = 0xA0 ∨ code = 0x1680 ∨
    (0x2000 ≤ code ∧ code ≤ 0x200A) ∨ code = 0x2028 ∨ code = 0x2029 ∨ code = 0x202F ∨
    code = 0x205F ∨ code = 0x3000 ∨ code = 0xFEFF

/-- `String.prototype.trim`. -/
def trim (value : JsString) : JsString := (value.dropWhile isTrimmed).rdropWhile isTrimmed

/-- The property `name` of a value: `none` when reading it throws, and an absent
property reads as `undefined`. -/
def nameOf : Json → Option (Option Json)
  | .null => none
  | .object members => some (Json.get? members (Json.text "name"))
  | _ => some none

/-- `typeof body.name === 'string' ? body.name.trim() : ''`. -/
def nameGiven : Option Json → JsString
  | some (.string name) => trim name
  | _ => []

def badBody : Response :=
  json 400 (.object [(Json.text "error", .string (Json.text "expected a JSON body"))])

def badName : Response :=
  json 400 (.object [(Json.text "error", .string (Json.text "name must be 1-32 characters"))])

/-- The response that carries a token; `sub` is what `randomUUID` returned. -/
def granted (context : TokenContext) (sub name : JsString) : Response :=
  json 200 (.object [
    (Json.text "token", .string (issueToken context sub name)),
    (Json.text "user", .object [(Json.text "id", .string sub), (Json.text "name", .string name)]),
    (Json.text "expiresIn", numeral context.ttlSeconds)])

/-- `createSession`. -/
def createSession (context : TokenContext) (sub : JsString) (chunks : List (List UInt8)) :
    Handled :=
  match (readBody chunks).bind Json.parse with
  | none => ⟨[badBody], false⟩
  | some body =>
      match nameOf body with
      -- `body.name` stands after the `catch`.
      | none => ⟨[], true⟩
      | some given =>
          let name := nameGiven given
          if name.length < 1 ∨ name.length > 32 then ⟨[badName], false⟩
          else ⟨[granted context sub name], false⟩

/-! ### Every chunking reads the same body -/

namespace BodyReader

/-- What is read of a body that has arrived so far. -/
structure Reads (reader : BodyReader) (body : List UInt8) : Prop where
  size : reader.size = body.length
  settled : reader.settled = if body.length ≤ MAX_BODY_BYTES then none else some none
  chunks : body.length ≤ MAX_BODY_BYTES → reader.chunks.flatten = body

private theorem reads_new : Reads new [] := ⟨rfl, rfl, fun _ => rfl⟩

private theorem reads_onData {reader : BodyReader} {body : List UInt8} (reads : Reads reader body)
    (chunk : List UInt8) : Reads (reader.onData chunk) (body ++ chunk) := by
  have length : (body ++ chunk).length = reader.size + chunk.length := by
    rw [List.length_append, reads.size]
  by_cases large : reader.size + chunk.length > MAX_BODY_BYTES
  · have result : reader.onData chunk =
        { ({ reader with size := reader.size + chunk.length } : BodyReader).settle none with
          destroyed := true } := if_pos large
    rw [result]
    refine ⟨length.symm, ?_, fun short => absurd short (by omega)⟩
    rw [if_neg (by omega)]
    show some (reader.settled.getD none) = some none
    rw [reads.settled]
    split <;> rfl
  · have result : reader.onData chunk =
        { reader with
          size := reader.size + chunk.length, chunks := reader.chunks ++ [chunk] } := if_neg large
    have before : body.length ≤ MAX_BODY_BYTES := by
      have := reads.size
      omega
    rw [result]
    refine ⟨length.symm, ?_, fun _ => ?_⟩
    · show reader.settled = _
      rw [reads.settled, if_pos before, if_pos (by omega)]
    · show (reader.chunks ++ [chunk]).flatten = body ++ chunk
      rw [List.flatten_append, reads.chunks before, List.flatten_singleton]

private theorem reads_foldl {reader : BodyReader} {body : List UInt8} (reads : Reads reader body)
    (chunks : List (List UInt8)) : Reads (chunks.foldl onData reader) (body ++ chunks.flatten) := by
  induction chunks generalizing reader body with
  | nil =>
      rw [List.flatten_nil, List.append_nil]
      exact reads
  | cons chunk rest inductionHypothesis =>
      rw [List.flatten_cons, ← List.append_assoc]
      exact inductionHypothesis (reads_onData reads chunk)

end BodyReader

/-- What a body reads as, whatever its chunks. -/
theorem readBody_eq (chunks : List (List UInt8)) :
    readBody chunks =
      if chunks.flatten.length ≤ MAX_BODY_BYTES then some (BodyReader.decoded chunks.flatten)
      else none := by
  have reads := BodyReader.reads_foldl BodyReader.reads_new chunks
  rw [List.nil_append] at reads
  show (some ((chunks.foldl BodyReader.onData .new).settled.getD
    (some (BodyReader.decoded (chunks.foldl BodyReader.onData .new).chunks.flatten)))).getD none = _
  rw [reads.settled]
  by_cases short : chunks.flatten.length ≤ MAX_BODY_BYTES
  · rw [if_pos short, if_pos short, reads.chunks short]
    rfl
  · rw [if_neg short, if_neg short]
    rfl

private theorem createSession_congr (context : TokenContext) (sub : JsString)
    {chunks others : List (List UInt8)} (same : others.flatten = chunks.flatten) :
    createSession context sub others = createSession context sub chunks := by
  unfold createSession
  rw [readBody_eq, readBody_eq, same]

/-! ### The endpoint as it is meant -/

/-- The name a body asks a session for, if it is one that gets one. -/
def Grants (body : List UInt8) (name : JsString) : Prop :=
  body.length ≤ MAX_BODY_BYTES ∧
    ∃ members given, Json.parse (BodyReader.decoded body) = some (.object members) ∧
      Json.get? members (Json.text "name") = some (.string given) ∧ name = trim given ∧
      1 ≤ name.length ∧ name.length ≤ 32

/-- One response, and no rejection: a token exactly for a body that asks for one,
and a refusal otherwise. -/
def Serves (context : TokenContext) (sub : JsString) (body : List UInt8) (handled : Handled) :
    Prop :=
  ∃ response, handled = ⟨[response], false⟩ ∧
    (response.status = 200 ∨ response.status = 400) ∧
    (response.status = 200 ↔ ∃ name, Grants body name) ∧
    ∀ name, Grants body name → response = granted context sub name

/-- The bodies that are the JSON text of `null`. -/
def ReadsNull (body : List UInt8) : Prop :=
  body.length ≤ MAX_BODY_BYTES ∧ Json.parse (BodyReader.decoded body) = some .null

private theorem serves_refusal {context : TokenContext} {sub : JsString} {body : List UInt8}
    {response : Response} (refusal : response.status = 400) (none : ∀ name, ¬ Grants body name) :
    Serves context sub body ⟨[response], false⟩ := by
  refine ⟨response, rfl, Or.inr refusal, ⟨fun accepted => ?_, ?_⟩, fun name grants => ?_⟩
  · rw [refusal] at accepted
    cases accepted
  · rintro ⟨name, grants⟩
    exact absurd grants (none name)
  · exact absurd grants (none name)

/-- A property that is read as a name of some length was a string. -/
theorem given_of_length {given : Option Json} (long : 1 ≤ (nameGiven given).length) :
    ∃ name, given = some (.string name) := by
  match given, long with
  | some (.string name), _ => exact ⟨name, rfl⟩

/-- The name a body asks for is the one that is read from it. -/
theorem grants_iff {bytes : List UInt8} {body : Json} {given : Option Json}
    (short : bytes.length ≤ MAX_BODY_BYTES)
    (parsed : Json.parse (BodyReader.decoded bytes) = some body) (read : nameOf body = some given)
    (name : JsString) :
    Grants bytes name ↔ name = nameGiven given ∧ 1 ≤ name.length ∧ name.length ≤ 32 := by
  constructor
  · rintro ⟨-, members, string, isObject, isString, named, bounds⟩
    rw [parsed] at isObject
    cases isObject
    have given : given = some (.string string) :=
      (Option.some.inj read).symm.trans isString
    rw [given]
    exact ⟨named, bounds⟩
  · rintro ⟨rfl, lower, upper⟩
    obtain ⟨string, rfl⟩ := given_of_length lower
    match body, read with
    | .object members, isString =>
        exact ⟨short, members, string, parsed, Option.some.inj isString, rfl, lower, upper⟩

/-- `createSession` answers every body as it is meant to, with one exception: it
does not answer `null`, and rejects. How the body is cut into chunks makes no
difference. -/
theorem createSession_serves_iff (context : TokenContext) (sub : JsString)
    (chunks : List (List UInt8)) :
    (Serves context sub chunks.flatten (createSession context sub chunks) ↔
      ¬ ReadsNull chunks.flatten) ∧
    ∀ others : List (List UInt8), others.flatten = chunks.flatten →
      createSession context sub others = createSession context sub chunks := by
  refine ⟨?_, fun others same => createSession_congr context sub same⟩
  unfold createSession
  rw [readBody_eq]
  by_cases short : chunks.flatten.length ≤ MAX_BODY_BYTES
  · rw [if_pos short, Option.bind_some]
    cases parsed : Json.parse (BodyReader.decoded chunks.flatten) with
    | none =>
        have refused : ∀ name, ¬ Grants chunks.flatten name := by
          rintro name ⟨-, members, given, isObject, -⟩
          rw [parsed] at isObject
          cases isObject
        refine iff_of_true (serves_refusal rfl refused) fun isNull => ?_
        have := parsed.symm.trans isNull.2
        cases this
    | some body =>
        cases read : nameOf body with
        | none =>
            have isNull : body = .null := by
              match body, read with
              | .null, _ => rfl
            subst isNull
            refine iff_of_false ?_ fun notNull => notNull ⟨short, parsed⟩
            rintro ⟨response, answered, -⟩
            simp only [read] at answered
            cases answered
        | some given =>
            have notNull : ¬ ReadsNull chunks.flatten := by
              rintro ⟨-, isNull⟩
              cases parsed.symm.trans isNull
              cases read
            have grants := grants_iff short parsed read
            refine iff_of_true ?_ notNull
            simp only [read]
            split
            · next outside =>
                refine serves_refusal rfl fun name granted => ?_
                obtain ⟨rfl, lower, upper⟩ := (grants name).mp granted
                omega
            · next inside =>
                have granted : Grants chunks.flatten (nameGiven given) :=
                  (grants _).mpr ⟨rfl, by omega, by omega⟩
                refine ⟨_, rfl, Or.inl rfl, iff_of_true rfl ⟨_, granted⟩, fun name asked => ?_⟩
                rw [((grants name).mp asked).1]
  · rw [if_neg short, Option.bind_none]
    refine iff_of_true (serves_refusal rfl fun name granted => short granted.1) fun isNull => ?_
    exact short isNull.1

example : (createSession ⟨id, 3600, 0⟩ (Json.text "u")
    [Utf8.encode "\x7b\"na".toList, [], Utf8.encode "me\":\" ada \"\x7d".toList]).responses.map
      Response.status = [200] := rfl

/-- The body `null` gets no answer, and the promise rejects. -/
theorem null_unanswered :
    ¬ ∀ (context : TokenContext) (sub : JsString) (chunks : List (List UInt8)),
      Serves context sub chunks.flatten (createSession context sub chunks) := by
  intro serves
  obtain ⟨response, answered, -⟩ :=
    serves ⟨id, 3600, 0⟩ (Json.text "u") [Utf8.encode "null".toList]
  have dropped : createSession ⟨id, 3600, 0⟩ (Json.text "u") [Utf8.encode "null".toList] =
      ⟨[], true⟩ := rfl
  rw [dropped] at answered
  cases answered

end CollabEditor.Http
