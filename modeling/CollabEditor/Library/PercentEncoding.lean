import CollabEditor.Library.Utf8

/-!
Owns percent encoding of text as `encodeURIComponent` and `decodeURIComponent`
do it, and that the second undoes the first.
-/

set_option autoImplicit false

namespace CollabEditor.Library.PercentEncoding

def percent : UInt16 := 0x25

/-- The characters that `encodeURIComponent` leaves as they are. -/
def isUnreserved (char : Char) : Bool :=
  char.isAlphanum || char ∈ ['-', '_', '.', '!', '~', '*', '\'', '(', ')']

/-- A hexadecimal digit in upper case. -/
def hexDigit (digit : ℕ) : UInt16 :=
  UInt16.ofNat (if digit < 10 then 0x30 + digit else 0x41 + (digit - 10))

def escape (byte : UInt8) : JsString :=
  [percent, hexDigit (byte.toNat / 0x10), hexDigit (byte.toNat % 0x10)]

def encodeChar (char : Char) : JsString :=
  if isUnreserved char then Utf16.units char else (String.utf8EncodeChar char).flatMap escape

/-- `encodeURIComponent` of a string of scalar values. -/
def encode (chars : List Char) : JsString := chars.flatMap encodeChar

/-- The value of a hexadecimal digit in either case. -/
def hexValue (unit : UInt16) : Option ℕ :=
  let code := unit.toNat
  if 0x30 ≤ code ∧ code ≤ 0x39 then some (code - 0x30)
  else if 0x41 ≤ code ∧ code ≤ 0x46 then some (code - 0x41 + 10)
  else if 0x61 ≤ code ∧ code ≤ 0x66 then some (code - 0x61 + 10)
  else none

/-- The byte of two digits. -/
def unescape (high low : UInt16) : Option UInt8 :=
  (hexValue high).bind fun upper => (hexValue low).map fun lower =>
    UInt8.ofNat (upper * 0x10 + lower)

/-- The number of bytes of a character, by the first of them. -/
def sequenceLength (byte : UInt8) : Option ℕ :=
  let b := byte.toNat
  if b < 0x80 then some 1
  else if b < 0xC0 then none
  else if b < 0xE0 then some 2
  else if b < 0xF0 then some 3
  else if b < 0xF8 then some 4
  else none

/-- The character that some bytes encode, as UTF-16. -/
def character (octets : List UInt8) : Option JsString :=
  match Utf8.decode octets with
  | [char] => if String.utf8EncodeChar char = octets then some (Utf16.units char) else none
  | _ => none

/-- The bytes of a character read so far, and how many are missing. -/
structure Pending where
  octets : List UInt8
  missing : ℕ

namespace Pending

def nothing : Pending := ⟨[], 0⟩

/-- The next byte: it may begin a character, go on with one or complete it. -/
def add (pending : Pending) (byte : UInt8) : Option (JsString × Pending) :=
  let octets := pending.octets ++ [byte]
  let length := if pending.missing = 0 then sequenceLength byte else some pending.missing
  length.bind fun length =>
    if length = 1 then (character octets).map fun units => (units, nothing)
    else some ([], ⟨octets, length - 1⟩)

private theorem add_nothing (byte : UInt8) :
    nothing.add byte = (sequenceLength byte).bind fun length =>
      if length = 1 then (character [byte]).map fun units => (units, nothing)
      else some ([], ⟨[byte], length - 1⟩) := rfl

end Pending

def decodeFrom : Pending → JsString → Option JsString
  | pending, [] => if pending.missing = 0 then some [] else none
  | pending, unit :: rest =>
      if unit = percent then
        match rest with
        | high :: low :: rest =>
            (unescape high low).bind fun byte =>
              (pending.add byte).bind fun read =>
                (decodeFrom read.2 rest).map (read.1 ++ ·)
        | _ => none
      else if pending.missing = 0 then (decodeFrom pending rest).map (unit :: ·)
      else none

/-- `decodeURIComponent`; `none` when it throws. -/
def decode (input : JsString) : Option JsString := decodeFrom .nothing input

/-! ### Decoding what was encoded -/

private theorem hexValue_hexDigit : ∀ digit < 0x10, hexValue (hexDigit digit) = some digit := by
  decide

private theorem unescape_escape (byte : UInt8) :
    unescape (hexDigit (byte.toNat / 0x10)) (hexDigit (byte.toNat % 0x10)) = some byte := by
  have small := byte.toNat_lt
  have whole : byte.toNat / 0x10 * 0x10 + byte.toNat % 0x10 = byte.toNat := by omega
  rw [unescape, hexValue_hexDigit _ (by omega), hexValue_hexDigit _ (by omega), Option.bind_some,
    Option.map_some, whole, UInt8.ofNat_toNat]

/-- A unit other than the percent sign stands for itself between characters. -/
theorem decodeFrom_of_ne {unit : UInt16} (other : unit ≠ percent) (pending : Pending)
    (rest : JsString) : decodeFrom pending (unit :: rest) =
      if pending.missing = 0 then (decodeFrom pending rest).map (unit :: ·) else none := by
  conv =>
    lhs
    unfold decodeFrom
  exact if_neg other

private theorem decodeFrom_escape (pending : Pending) (byte : UInt8) (rest : JsString) :
    decodeFrom pending (escape byte ++ rest) =
      (pending.add byte).bind fun read => (decodeFrom read.2 rest).map (read.1 ++ ·) := by
  show decodeFrom pending (percent :: hexDigit _ :: hexDigit _ :: rest) = _
  rw [decodeFrom, if_pos rfl, unescape_escape, Option.bind_some]

/-- The bytes that are missing complete a character. -/
theorem decodeFrom_escapes {octets bytes : List UInt8} (some : bytes ≠ []) (rest : JsString) :
    decodeFrom ⟨octets, bytes.length⟩ (bytes.flatMap escape ++ rest) =
      (character (octets ++ bytes)).bind fun units =>
        (decodeFrom .nothing rest).map (units ++ ·) := by
  induction bytes generalizing octets with
  | nil => exact absurd rfl some
  | cons byte others inductionHypothesis =>
      have missing : (byte :: others).length ≠ 0 := Nat.succ_ne_zero _
      rw [List.flatMap_cons, List.append_assoc, decodeFrom_escape, Pending.add]
      dsimp only
      rw [if_neg missing, Option.bind_some]
      cases others with
      | nil =>
          rw [List.length_singleton, if_pos rfl, Option.bind_map]
          rfl
      | cons next others =>
          have later := @inductionHypothesis (octets ++ [byte]) (List.cons_ne_nil _ _)
          rw [List.length_cons, if_neg (by simp), Option.bind_some]
          dsimp only
          rw [Nat.add_sub_cancel, later, List.append_assoc, List.singleton_append]
          cases character (octets ++ byte :: next :: others) with
          | none => rfl
          | some units =>
              rw [Option.bind_some, Option.map_map]
              rfl

private theorem character_utf8EncodeChar (char : Char) :
    character (String.utf8EncodeChar char) = some (Utf16.units char) := by
  have whole := Utf8.decode_encode [char]
  rw [Utf8.encode, List.flatMap_singleton] at whole
  rw [character, whole]
  exact if_pos rfl

private theorem sequenceLength_ofNat {lead : ℕ} (small : lead < 0x100) :
    sequenceLength (UInt8.ofNat lead) =
      if lead < 0x80 then some 1
      else if lead < 0xC0 then none
      else if lead < 0xE0 then some 2
      else if lead < 0xF0 then some 3
      else if lead < 0xF8 then some 4
      else none := by
  rw [sequenceLength, Utf8.toNat_ofNat small]

/-- The first byte of a character tells how many follow it. -/
theorem sequenceLength_utf8EncodeChar (char : Char) :
    ∃ byte others, String.utf8EncodeChar char = byte :: others ∧
      sequenceLength byte = some (others.length + 1) := by
  have scalar : char.val.toNat < 0xD800 ∨ 0xDFFF < char.val.toNat ∧ char.val.toNat < 0x110000 :=
    char.valid
  simp only [String.utf8EncodeChar]
  generalize char.val.toNat = code at scalar
  split
  · next one =>
      refine ⟨_, _, rfl, ?_⟩
      rw [sequenceLength_ofNat (by omega), if_pos (by omega)]
      rfl
  · split
    · next two =>
        refine ⟨_, _, rfl, ?_⟩
        rw [sequenceLength_ofNat (by omega), if_neg (by omega), if_neg (by omega),
          if_pos (by omega)]
        rfl
    · split
      · next three =>
          refine ⟨_, _, rfl, ?_⟩
          rw [sequenceLength_ofNat (by omega), if_neg (by omega), if_neg (by omega),
            if_neg (by omega), if_pos (by omega)]
          rfl
      · next four =>
          refine ⟨_, _, rfl, ?_⟩
          rw [sequenceLength_ofNat (by omega), if_neg (by omega), if_neg (by omega),
            if_neg (by omega), if_neg (by omega), if_pos (by omega)]
          rfl

/-- What is left as it is is one ASCII unit, and neither a percent sign nor a
question mark. -/
theorem isUnreserved_code {char : Char} (unreserved : isUnreserved char = true) :
    char.toNat < 0x80 ∧ char.toNat ≠ 0x25 ∧ char.toNat ≠ 0x3F := by
  rw [isUnreserved, Bool.or_eq_true, decide_eq_true_eq] at unreserved
  rcases unreserved with letter | mark
  · have bounds : (0x41 ≤ char.toNat ∧ char.toNat ≤ 0x5A) ∨
        (0x61 ≤ char.toNat ∧ char.toNat ≤ 0x7A) ∨ (0x30 ≤ char.toNat ∧ char.toNat ≤ 0x39) := by
      rcases (Bool.or_eq_true char.isAlpha char.isDigit).mp letter with alpha | digit
      · rcases (Bool.or_eq_true char.isUpper char.isLower).mp alpha with upper | lower
        · exact Or.inl (of_decide_eq_true upper)
        · obtain ⟨above, below⟩ := (Bool.and_eq_true _ _).mp lower
          exact Or.inr (Or.inl ⟨of_decide_eq_true above, of_decide_eq_true below⟩)
      · obtain ⟨above, below⟩ := (Bool.and_eq_true _ _).mp digit
        exact Or.inr (Or.inr ⟨of_decide_eq_true above, of_decide_eq_true below⟩)
    omega
  · simp only [List.mem_cons, List.not_mem_nil, or_false] at mark
    rcases mark with rfl | rfl | rfl | rfl | rfl | rfl | rfl | rfl | rfl <;> decide

private theorem decodeFrom_encodeChar (char : Char) (rest : JsString) :
    decodeFrom .nothing (encodeChar char ++ rest) =
      (decodeFrom .nothing rest).map (Utf16.units char ++ ·) := by
  unfold encodeChar
  split
  · next unreserved =>
      obtain ⟨small, notPercent, -⟩ := isUnreserved_code unreserved
      have single : Utf16.units char = [UInt16.ofNat char.toNat] := if_pos (by omega)
      have other : UInt16.ofNat char.toNat ≠ percent := by
        intro same
        have code := congrArg UInt16.toNat same
        rw [Utf16.toNat_ofNat (by omega)] at code
        exact notPercent code
      have start : Pending.nothing.missing = 0 := rfl
      rw [single, List.singleton_append, decodeFrom_of_ne other, if_pos start]
      rfl
  · obtain ⟨byte, others, bytes, length⟩ := sequenceLength_utf8EncodeChar char
    have complete := character_utf8EncodeChar char
    rw [bytes] at complete ⊢
    rw [List.flatMap_cons, List.append_assoc, decodeFrom_escape, Pending.add_nothing, length,
      Option.bind_some]
    cases others with
    | nil =>
        rw [complete, List.length_nil, if_pos rfl]
        rfl
    | cons next others =>
        rw [List.length_cons, if_neg (by simp), Option.bind_some]
        dsimp only
        rw [Nat.add_sub_cancel, ← List.length_cons, decodeFrom_escapes (List.cons_ne_nil _ _),
          List.singleton_append, complete, Option.bind_some, Option.map_map]
        rfl

/-- An encoded string is decoded in front of whatever follows it. -/
theorem decode_encode_append (chars : List Char) (rest : JsString) :
    decode (encode chars ++ rest) = (decode rest).map (Utf16.encode chars ++ ·) := by
  induction chars with
  | nil => exact (congrFun Option.map_id (decode rest)).symm
  | cons char others inductionHypothesis =>
      rw [encode, List.flatMap_cons, List.append_assoc, decode, decodeFrom_encodeChar]
      show ((decode (encode others ++ rest)).map _) = _
      rw [inductionHypothesis, Option.map_map]
      exact congrArg (Option.map · (decode rest))
        (funext fun tail => (List.append_assoc _ _ _).symm)

theorem decode_cons {unit : UInt16} (other : unit ≠ percent) (rest : JsString) :
    decode (unit :: rest) = (decode rest).map (unit :: ·) := by
  have start : Pending.nothing.missing = 0 := rfl
  rw [decode, decodeFrom_of_ne other, if_pos start]
  rfl

private theorem hexDigit_ne_query : ∀ digit < 0x10, hexDigit digit ≠ 0x3F := by
  decide

/-- An encoded string contains no question mark. -/
theorem query_not_mem_encode (chars : List Char) : 0x3F ∉ encode chars := by
  intro member
  obtain ⟨char, -, inChar⟩ := List.mem_flatMap.mp member
  unfold encodeChar at inChar
  split at inChar
  · next unreserved =>
      obtain ⟨small, -, notQuery⟩ := isUnreserved_code unreserved
      have single : Utf16.units char = [UInt16.ofNat char.toNat] := if_pos (by omega)
      rw [single, List.mem_singleton] at inChar
      have code := congrArg UInt16.toNat inChar
      rw [Utf16.toNat_ofNat (by omega)] at code
      exact notQuery code.symm
  · obtain ⟨byte, -, inByte⟩ := List.mem_flatMap.mp inChar
    have small := byte.toNat_lt
    have upper := hexDigit_ne_query (byte.toNat / 0x10) (by omega)
    have lower := hexDigit_ne_query (byte.toNat % 0x10) (by omega)
    simp only [escape, List.mem_cons, List.not_mem_nil, or_false] at inByte
    rcases inByte with isPercent | isUpper | isLower
    · exact absurd isPercent (by decide)
    · exact upper isUpper.symm
    · exact lower isLower.symm

example : decode (Utf16.encode "a%E2%82%AC/%2e".toList) = some (Utf16.encode "a€/.".toList) := by
  decide +kernel

end CollabEditor.Library.PercentEncoding
