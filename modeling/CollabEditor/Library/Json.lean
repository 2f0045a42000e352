import CollabEditor.Library.Utf8

/-!
Owns JSON texts as `JSON.parse` reads them: a pushdown automaton over UTF-16
code units, which needs no fuel and gives an answer for every text, and
`JSON.stringify` for the values it is used on. Numbers stay literals.
-/

set_option autoImplicit false

namespace CollabEditor.Library

/-- A JSON value. -/
inductive Json where
  | null
  | bool (value : Bool)
  | number (literal : JsString)
  | string (value : JsString)
  | array (items : List Json)
  | object (members : List (JsString × Json))

namespace Json

/-- The string of some characters. -/
def text (chars : String) : JsString := Utf16.encode chars.toList

/-- A property of an object; the last of several members with one key wins. -/
def get? (members : List (JsString × Json)) (key : JsString) : Option Json :=
  ((members.filter fun member => member.1 = key).getLast?).map Prod.snd

/-- The value a text denotes when it is no container, no string and no number. -/
inductive Word where
  | null
  | yes
  | no

namespace Word

def spelling : Word → JsString
  | .null => text "null"
  | .yes => text "true"
  | .no => text "false"

def value : Word → Json
  | .null => .null
  | .yes => .bool true
  | .no => .bool false

end Word

/-- How far a number literal has come. -/
inductive NumberStage where
  | minus
  | zero
  | integer
  | point
  | fraction
  | exponentMark
  | exponentSign
  | exponent
deriving DecidableEq

/-- A container that is open, the innermost first; a member lacks its value. -/
inductive Frame where
  | array (items : List Json)
  | object (members : List (JsString × Json))
  | member (members : List (JsString × Json)) (key : JsString)

/-- What is read at the moment. -/
inductive Mode where
  | value
  /-- After `[`. -/
  | firstItem
  /-- After `\x7b`. -/
  | firstKey
  | key
  | colon
  /-- After a whole value. -/
  | after (value : Json)
  | word (rest : JsString) (word : Word)
  | string (read : JsString) (isKey : Bool)
  | escape (read : JsString) (isKey : Bool)
  | hex (read : JsString) (isKey : Bool) (digits : ℕ) (code : ℕ)
  | number (read : JsString) (stage : NumberStage)

structure State where
  stack : List Frame
  mode : Mode

def start : State := ⟨[], .value⟩

def isSpace (unit : UInt16) : Bool := unit = 0x20 ∨ unit = 0x09 ∨ unit = 0x0A ∨ unit = 0x0D

def isDigit (unit : UInt16) : Bool := 0x30 ≤ unit.toNat ∧ unit.toNat ≤ 0x39

/-- The value of a hexadecimal digit. -/
def hexValue (unit : UInt16) : Option ℕ :=
  let code := unit.toNat
  if 0x30 ≤ code ∧ code ≤ 0x39 then some (code - 0x30)
  else if 0x41 ≤ code ∧ code ≤ 0x46 then some (code - 0x41 + 10)
  else if 0x61 ≤ code ∧ code ≤ 0x66 then some (code - 0x61 + 10)
  else none

/-- The unit an escape of two characters stands for. -/
def unescape (unit : UInt16) : Option UInt16 :=
  if unit = 0x22 ∨ unit = 0x5C ∨ unit = 0x2F then some unit
  else if unit = 0x62 then some 0x08
  else if unit = 0x66 then some 0x0C
  else if unit = 0x6E then some 0x0A
  else if unit = 0x72 then some 0x0D
  else if unit = 0x74 then some 0x09
  else none

/-- The stage of a number after one more unit, if it goes on. -/
def NumberStage.next (stage : NumberStage) (unit : UInt16) : Option NumberStage :=
  match stage with
  | .minus => if unit = 0x30 then some .zero else if isDigit unit then some .integer else none
  | .zero =>
      if unit = 0x2E then some .point
      else if unit = 0x65 ∨ unit = 0x45 then some .exponentMark else none
  | .integer =>
      if isDigit unit then some .integer
      else if unit = 0x2E then some .point
      else if unit = 0x65 ∨ unit = 0x45 then some .exponentMark else none
  | .point => if isDigit unit then some .fraction else none
  | .fraction =>
      if isDigit unit then some .fraction
      else if unit = 0x65 ∨ unit = 0x45 then some .exponentMark else none
  | .exponentMark =>
      if isDigit unit then some .exponent
      else if unit = 0x2B ∨ unit = 0x2D then some .exponentSign else none
  | .exponentSign => if isDigit unit then some .exponent else none
  | .exponent => if isDigit unit then some .exponent else none

/-- The stages in which a number may end. -/
def NumberStage.complete : NumberStage → Bool
  | .zero | .integer | .fraction | .exponent => true
  | _ => false

/-- A unit at the start of a value. -/
def beginValue (stack : List Frame) (unit : UInt16) : Option State :=
  if unit = 0x22 then some ⟨stack, .string [] false⟩
  else if unit = 0x5B then some ⟨.array [] :: stack, .firstItem⟩
  else if unit = 0x7B then some ⟨.object [] :: stack, .firstKey⟩
  else if unit = 0x2D then some ⟨stack, .number [unit] .minus⟩
  else if unit = 0x30 then some ⟨stack, .number [unit] .zero⟩
  else if isDigit unit then some ⟨stack, .number [unit] .integer⟩
  else if unit = 0x6E then some ⟨stack, .word Word.null.spelling.tail .null⟩
  else if unit = 0x74 then some ⟨stack, .word Word.yes.spelling.tail .yes⟩
  else if unit = 0x66 then some ⟨stack, .word Word.no.spelling.tail .no⟩
  else none

/-- A unit after a whole value. -/
def afterValue (stack : List Frame) (value : Json) (unit : UInt16) : Option State :=
  if isSpace unit then some ⟨stack, .after value⟩
  else match stack with
    | .array items :: rest =>
        if unit = 0x2C then some ⟨.array (items ++ [value]) :: rest, .value⟩
        else if unit = 0x5D then some ⟨rest, .after (.array (items ++ [value]))⟩
        else none
    | .member members key :: rest =>
        if unit = 0x2C then some ⟨.object (members ++ [(key, value)]) :: rest, .key⟩
        else if unit = 0x7D then some ⟨rest, .after (.object (members ++ [(key, value)]))⟩
        else none
    | _ => none

/-- The end of a string, which is a value or the key of a member. -/
def endString (stack : List Frame) (read : JsString) (isKey : Bool) : Option State :=
  if isKey then
    match stack with
    | .object members :: rest => some ⟨.member members read :: rest, .colon⟩
    | _ => none
  else some ⟨stack, .after (.string read)⟩

/-- One unit. -/
def step (state : State) (unit : UInt16) : Option State :=
  match state.mode with
  | .value => if isSpace unit then some state else beginValue state.stack unit
  | .firstItem =>
      if isSpace unit then some state
      else if unit = 0x5D then
        match state.stack with
        | .array items :: rest => some ⟨rest, .after (.array items)⟩
        | _ => none
      else beginValue state.stack unit
  | .firstKey =>
      if isSpace unit then some state
      else if unit = 0x7D then
        match state.stack with
        | .object members :: rest => some ⟨rest, .after (.object members)⟩
        | _ => none
      else if unit = 0x22 then some ⟨state.stack, .string [] true⟩ else none
  | .key =>
      if isSpace unit then some state
      else if unit = 0x22 then some ⟨state.stack, .string [] true⟩ else none
  | .colon =>
      if isSpace unit then some state
      else if unit = 0x3A then some ⟨state.stack, .value⟩ else none
  | .after value => afterValue state.stack value unit
  | .word rest word =>
      match rest with
      | [] => none
      | [expected] => if unit = expected then some ⟨state.stack, .after word.value⟩ else none
      | expected :: others =>
          if unit = expected then some ⟨state.stack, .word others word⟩ else none
  | .string read isKey =>
      if unit = 0x22 then endString state.stack read isKey
      else if unit = 0x5C then some ⟨state.stack, .escape read isKey⟩
      else if unit.toNat < 0x20 then none
      else some ⟨state.stack, .string (read ++ [unit]) isKey⟩
  | .escape read isKey =>
      if unit = 0x75 then some ⟨state.stack, .hex read isKey 0 0⟩
      else (unescape unit).map fun unescaped => ⟨state.stack, .string (read ++ [unescaped]) isKey⟩
  | .hex read isKey digits code =>
      (hexValue unit).map fun digit =>
        if digits = 3 then
          ⟨state.stack, .string (read ++ [UInt16.ofNat (code * 16 + digit)]) isKey⟩
        else ⟨state.stack, .hex read isKey (digits + 1) (code * 16 + digit)⟩
  | .number read stage =>
      match stage.next unit with
      | some next => some ⟨state.stack, .number (read ++ [unit]) next⟩
      | none =>
          if stage.complete then afterValue state.stack (.number read) unit else none

/-- The end of the text. -/
def finish (state : State) : Option Json :=
  match state.stack, state.mode with
  | [], .after value => some value
  | [], .number read stage => if stage.complete then some (.number read) else none
  | _, _ => none

/-- `JSON.parse`; `none` when it throws. -/
def parse (input : JsString) : Option Json :=
  (input.foldlM step start).bind finish

example : parse (text "null") = some .null := rfl

/-! ### Writing -/

/-- A hexadecimal digit in lower case. -/
def hexDigit (digit : ℕ) : UInt16 :=
  UInt16.ofNat (if digit < 10 then 0x30 + digit else 0x61 + (digit - 10))

/-- `\u` with four hexadecimal digits. -/
def escapeUnit (unit : UInt16) : JsString :=
  [0x5C, 0x75, hexDigit (unit.toNat / 0x1000), hexDigit (unit.toNat / 0x100 % 0x10),
    hexDigit (unit.toNat / 0x10 % 0x10), hexDigit (unit.toNat % 0x10)]

/-- One unit that is no part of a surrogate pair, quoted. -/
def quoteUnit (unit : UInt16) : JsString :=
  if unit = 0x22 ∨ unit = 0x5C then [0x5C, unit]
  else if unit = 0x08 then [0x5C, 0x62]
  else if unit = 0x09 then [0x5C, 0x74]
  else if unit = 0x0A then [0x5C, 0x6E]
  else if unit = 0x0C then [0x5C, 0x66]
  else if unit = 0x0D then [0x5C, 0x72]
  else if unit.toNat < 0x20 ∨ Utf16.isHigh unit ∨ Utf16.isLow unit then escapeUnit unit
  else [unit]

/-- The units of a string, quoted; a surrogate pair stays as it is. -/
def quoteUnits : JsString → JsString
  | [] => []
  | [unit] => quoteUnit unit
  | unit :: next :: rest =>
      if Utf16.isHigh unit ∧ Utf16.isLow next then unit :: next :: quoteUnits rest
      else quoteUnit unit ++ quoteUnits (next :: rest)

def quote (value : JsString) : JsString := 0x22 :: quoteUnits value ++ [0x22]

mutual

/-- `JSON.stringify`. -/
def stringify : Json → JsString
  | .null => text "null"
  | .bool true => text "true"
  | .bool false => text "false"
  | .number literal => literal
  | .string value => quote value
  | .array items => 0x5B :: stringifyItems items ++ [0x5D]
  | .object members => 0x7B :: stringifyMembers members ++ [0x7D]

def stringifyItems : List Json → JsString
  | [] => []
  | [item] => stringify item
  | item :: rest => stringify item ++ 0x2C :: stringifyItems rest

def stringifyMembers : List (JsString × Json) → JsString
  | [] => []
  | [(key, value)] => quote key ++ 0x3A :: stringify value
  | (key, value) :: rest => quote key ++ 0x3A :: stringify value ++ 0x2C :: stringifyMembers rest

end

end Json

end CollabEditor.Library
