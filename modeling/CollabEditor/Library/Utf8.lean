import Mathlib.Data.List.Basic

/-!
Owns text as programs on the web platform hold and ship it: strings of UTF-16
code units, the UTF-8 encoder, and the UTF-8 decoder of the Encoding standard,
which replaces what is malformed instead of failing.
-/

namespace CollabEditor.Library

/-- A string of UTF-16 code units, surrogates paired or not. -/
abbrev JsString := List UInt16

namespace Utf16

def isHigh (unit : UInt16) : Bool := 0xD800 ≤ unit.toNat ∧ unit.toNat < 0xDC00

def isLow (unit : UInt16) : Bool := 0xDC00 ≤ unit.toNat ∧ unit.toNat < 0xE000

/-- The code units of a scalar value. -/
def units (char : Char) : JsString :=
  if char.toNat < 0x10000 then [UInt16.ofNat char.toNat]
  else [UInt16.ofNat (0xD800 + (char.toNat - 0x10000) / 0x400),
    UInt16.ofNat (0xDC00 + (char.toNat - 0x10000) % 0x400)]

/-- The string of some scalar values. -/
def encode (chars : List Char) : JsString := chars.flatMap units

/-- U+FFFD. -/
def replacement : Char := '\uFFFD'

/-- The scalar value of a unit that is not part of a pair. -/
def lone (unit : UInt16) : Char :=
  if isHigh unit ∨ isLow unit then replacement else Char.ofNat unit.toNat

/-- The scalar values of a string; a surrogate without its other half is
replaced. -/
def decode : JsString → List Char
  | [] => []
  | [unit] => [lone unit]
  | unit :: next :: rest =>
      if isHigh unit ∧ isLow next then
        Char.ofNat (0x10000 + (unit.toNat - 0xD800) * 0x400 + (next.toNat - 0xDC00)) ::
          decode rest
      else lone unit :: decode (next :: rest)

theorem toNat_ofNat {n : ℕ} (small : n < 0x10000) : (UInt16.ofNat n).toNat = n :=
  UInt16.toNat_ofNat_of_lt' small

private theorem decode_units (char : Char) (rest : JsString) :
    decode (units char ++ rest) = char :: decode rest := by
  have same : Char.ofNat char.toNat = char := Char.ofNat_toNat char
  have scalar : char.toNat < 0xD800 ∨ 0xDFFF < char.toNat ∧ char.toNat < 0x110000 := char.valid
  unfold units
  generalize char.toNat = code at scalar same ⊢
  split
  · next single =>
      have notHigh : isHigh (UInt16.ofNat code) = false := by
        rw [isHigh, toNat_ofNat single, decide_eq_false_iff_not]
        omega
      have notLow : isLow (UInt16.ofNat code) = false := by
        rw [isLow, toNat_ofNat single, decide_eq_false_iff_not]
        omega
      have itself : lone (UInt16.ofNat code) = char := by
        rw [lone, notHigh, notLow, toNat_ofNat single, same]
        rfl
      cases rest with
      | nil => exact congrArg (fun char => [char]) itself
      | cons next rest =>
          simp only [List.cons_append, List.nil_append, decode, notHigh, itself]
          rfl
  · next pair =>
      have high : isHigh (UInt16.ofNat (0xD800 + (code - 0x10000) / 0x400)) = true := by
        rw [isHigh, toNat_ofNat (by omega), decide_eq_true_eq]
        omega
      have low : isLow (UInt16.ofNat (0xDC00 + (code - 0x10000) % 0x400)) = true := by
        rw [isLow, toNat_ofNat (by omega), decide_eq_true_eq]
        omega
      simp only [List.cons_append, List.nil_append, decode, high, low, and_self, if_true]
      rw [toNat_ofNat (by omega), toNat_ofNat (by omega)]
      have whole : 0x10000 + (0xD800 + (code - 0x10000) / 0x400 - 0xD800) * 0x400 +
          (0xDC00 + (code - 0x10000) % 0x400 - 0xDC00) = code := by omega
      rw [whole, same]

theorem decode_encode (chars : List Char) : decode (encode chars) = chars := by
  induction chars with
  | nil => rfl
  | cons char rest inductionHypothesis =>
      show decode (units char ++ encode rest) = _
      rw [decode_units]
      exact congrArg (char :: ·) inductionHypothesis

/-! ### Strings without lone surrogates -/

/-- A string whose surrogates are all paired. -/
def WellFormed (value : JsString) : Prop := ∃ chars, encode chars = value

theorem wellFormed_nil : WellFormed [] := ⟨[], rfl⟩

theorem WellFormed.append {first second : JsString} (isFirst : WellFormed first)
    (isSecond : WellFormed second) : WellFormed (first ++ second) := by
  obtain ⟨chars, rfl⟩ := isFirst
  obtain ⟨others, rfl⟩ := isSecond
  exact ⟨chars ++ others, List.flatMap_append⟩

theorem wellFormed_units (char : Char) : WellFormed (units char) :=
  ⟨[char], List.flatMap_singleton ..⟩

theorem toNat_char {code : ℕ} (scalar : code < 0xD800 ∨ 0xDFFF < code ∧ code < 0x110000) :
    (Char.ofNat code).toNat = code := by
  have valid : code.isValidChar := scalar
  rw [Char.ofNat, dif_pos valid]
  rfl

theorem units_single {unit : UInt16} (notHigh : isHigh unit = false) (notLow : isLow unit = false) :
    units (Char.ofNat unit.toNat) = [unit] := by
  have small := unit.toNat_lt
  rw [isHigh, decide_eq_false_iff_not] at notHigh
  rw [isLow, decide_eq_false_iff_not] at notLow
  rw [units, toNat_char (by omega), if_pos (by omega), UInt16.ofNat_toNat]

theorem units_pair {high low : UInt16} (high' : isHigh high = true) (low' : isLow low = true) :
    units (Char.ofNat (0x10000 + (high.toNat - 0xD800) * 0x400 + (low.toNat - 0xDC00))) =
      [high, low] := by
  rw [isHigh, decide_eq_true_eq] at high'
  rw [isLow, decide_eq_true_eq] at low'
  have first : 0xD800 + (0x10000 + (high.toNat - 0xD800) * 0x400 + (low.toNat - 0xDC00) -
      0x10000) / 0x400 = high.toNat := by omega
  have second : 0xDC00 + (0x10000 + (high.toNat - 0xD800) * 0x400 + (low.toNat - 0xDC00) -
      0x10000) % 0x400 = low.toNat := by omega
  rw [units, toNat_char (by omega), if_neg (by omega), first, second, UInt16.ofNat_toNat,
    UInt16.ofNat_toNat]

theorem encode_decode {value : JsString} (wellFormed : WellFormed value) :
    encode (decode value) = value := by
  obtain ⟨chars, rfl⟩ := wellFormed
  rw [decode_encode]

/-- A unit that is decoded to anything else than the replacement is kept. -/
theorem units_lone {unit : UInt16} (kept : lone unit ≠ replacement) :
    units (lone unit) = [unit] := by
  unfold lone at kept ⊢
  split at kept
  · exact absurd rfl kept
  · next single =>
      rw [if_neg single]
      simp only [not_or, Bool.not_eq_true] at single
      exact units_single single.1 single.2

private theorem encode_decode_of_not_mem {value : JsString} (kept : replacement ∉ decode value) :
    encode (decode value) = value := by
  fun_induction decode value with
  | case1 => rfl
  | case2 unit =>
      have single := units_lone fun same => kept (same ▸ List.mem_singleton_self _)
      show units (lone unit) ++ [] = _
      rw [List.append_nil, single]
  | case3 unit next rest pair inductionHypothesis =>
      show units _ ++ encode (decode rest) = _
      rw [units_pair pair.1 pair.2,
        inductionHypothesis fun later => kept (List.mem_cons_of_mem _ later)]
      rfl
  | case4 unit next rest notPair inductionHypothesis =>
      have single := units_lone fun same => kept (same ▸ List.mem_cons_self)
      show units (lone unit) ++ encode (decode (next :: rest)) = _
      rw [single, inductionHypothesis fun later => kept (List.mem_cons_of_mem _ later)]
      rfl

/-- A text of ASCII is decoded unit by unit. -/
theorem ascii_encode {value : JsString} (ascii : ∀ unit ∈ value, unit.toNat < 0x80) :
    ∃ chars, encode chars = value ∧ ∀ char ∈ chars, char.toNat < 0x80 := by
  induction value with
  | nil => exact ⟨[], rfl, fun char none => absurd none List.not_mem_nil⟩
  | cons unit rest inductionHypothesis =>
      obtain ⟨chars, rfl, small⟩ :=
        inductionHypothesis fun other later => ascii other (List.mem_cons_of_mem _ later)
      have isAscii := ascii unit List.mem_cons_self
      have notHigh : isHigh unit = false := by
        rw [isHigh, decide_eq_false_iff_not]
        omega
      have notLow : isLow unit = false := by
        rw [isLow, decide_eq_false_iff_not]
        omega
      refine ⟨Char.ofNat unit.toNat :: chars, ?_, List.forall_mem_cons.mpr ⟨?_, small⟩⟩
      · show units (Char.ofNat unit.toNat) ++ encode chars = _
        rw [units_single notHigh notLow]
        rfl
      · rw [toNat_char (by omega)]
        exact isAscii

/-- No other text is decoded like one of ASCII. -/
theorem eq_of_decode_eq {value other : JsString} (ascii : ∀ unit ∈ other, unit.toNat < 0x80)
    (same : decode value = decode other) : value = other := by
  obtain ⟨chars, rfl, small⟩ := ascii_encode ascii
  rw [decode_encode] at same
  have kept : replacement ∉ decode value := by
    rw [same]
    intro replaced
    exact absurd (small _ replaced) (by decide)
  rw [← encode_decode_of_not_mem kept, same]

end Utf16

namespace Utf8

/-- The UTF-8 encoder. -/
def encode (chars : List Char) : List UInt8 := chars.flatMap String.utf8EncodeChar

/-- A decoder between two bytes: at the start of a character, or with part of
its code point, the number of bytes missing and the bounds of the next. -/
inductive State where
  | idle
  | awaiting (codePoint missing lower upper : ℕ)
deriving DecidableEq

/-- A byte at the start of a character. -/
def begin (byte : UInt8) : List Char × State :=
  let b := byte.toNat
  if b < 0x80 then ([Char.ofNat b], .idle)
  else if b < 0xC2 then ([Utf16.replacement], .idle)
  else if b < 0xE0 then ([], .awaiting (b - 0xC0) 1 0x80 0xBF)
  else if b < 0xF0 then
    ([], .awaiting (b - 0xE0) 2 (if b = 0xE0 then 0xA0 else 0x80) (if b = 0xED then 0x9F else 0xBF))
  else if b < 0xF5 then
    ([], .awaiting (b - 0xF0) 3 (if b = 0xF0 then 0x90 else 0x80) (if b = 0xF4 then 0x8F else 0xBF))
  else ([Utf16.replacement], .idle)

/-- One byte. One that cannot continue a character ends it and starts anew. -/
def feed : State → UInt8 → List Char × State
  | .idle, byte => begin byte
  | .awaiting codePoint missing lower upper, byte =>
      if lower ≤ byte.toNat ∧ byte.toNat ≤ upper then
        let codePoint := codePoint * 0x40 + (byte.toNat - 0x80)
        if missing = 1 then ([Char.ofNat codePoint], .idle)
        else ([], .awaiting codePoint (missing - 1) 0x80 0xBF)
      else (Utf16.replacement :: (begin byte).1, (begin byte).2)

/-- The end of the input. -/
def finish : State → List Char
  | .idle => []
  | .awaiting _ _ _ _ => [Utf16.replacement]

def decodeFrom : State → List UInt8 → List Char
  | state, [] => finish state
  | state, byte :: rest => (feed state byte).1 ++ decodeFrom (feed state byte).2 rest

/-- The UTF-8 decoder, which keeps a byte order mark. -/
def decode (bytes : List UInt8) : List Char := decodeFrom .idle bytes

/-- The UTF-8 decoder as `TextDecoder` runs it, without a leading byte order
mark. -/
def textDecode : List UInt8 → List Char
  | 0xEF :: 0xBB :: 0xBF :: rest => decode rest
  | bytes => decode bytes

/-! ### Decoding what was encoded -/

theorem toNat_ofNat {n : ℕ} (small : n < 0x100) : (UInt8.ofNat n).toNat = n :=
  UInt8.toNat_ofNat_of_lt' small

/-- A byte that continues a character. -/
theorem feed_continuation {codePoint missing lower upper bits : ℕ} (isBits : bits < 0x40)
    (above : lower ≤ bits + 0x80) (below : bits + 0x80 ≤ upper) :
    feed (.awaiting codePoint missing lower upper) (UInt8.ofNat (bits + 0x80)) =
      if missing = 1 then ([Char.ofNat (codePoint * 0x40 + bits)], .idle)
      else ([], .awaiting (codePoint * 0x40 + bits) (missing - 1) 0x80 0xBF) := by
  simp only [feed]
  rw [toNat_ofNat (by omega), if_pos ⟨above, below⟩, Nat.add_sub_cancel]

/-- The first byte of a character of two, three or four. -/
theorem feed_lead {lead : ℕ} (above : 0xC2 ≤ lead) (below : lead < 0xF5) :
    feed .idle (UInt8.ofNat lead) =
      if lead < 0xE0 then ([], .awaiting (lead - 0xC0) 1 0x80 0xBF)
      else if lead < 0xF0 then ([], .awaiting (lead - 0xE0) 2
        (if lead = 0xE0 then 0xA0 else 0x80) (if lead = 0xED then 0x9F else 0xBF))
      else ([], .awaiting (lead - 0xF0) 3
        (if lead = 0xF0 then 0x90 else 0x80) (if lead = 0xF4 then 0x8F else 0xBF)) := by
  simp only [feed, begin]
  rw [toNat_ofNat (by omega), if_neg (by omega), if_neg (by omega)]
  split
  · rfl
  · split
    · rfl
    · rfl

private theorem decodeFrom_char (char : Char) (rest : List UInt8) :
    decodeFrom .idle (String.utf8EncodeChar char ++ rest) = char :: decodeFrom .idle rest := by
  have same : Char.ofNat char.val.toNat = char := Char.ofNat_toNat char
  have scalar : char.val.toNat < 0xD800 ∨ 0xDFFF < char.val.toNat ∧ char.val.toNat < 0x110000 :=
    char.valid
  simp only [String.utf8EncodeChar]
  generalize char.val.toNat = code at scalar same ⊢
  split
  · next oneByte =>
      have first : feed .idle (UInt8.ofNat code) = ([Char.ofNat code], .idle) := by
        simp only [feed, begin]
        rw [toNat_ofNat (by omega), if_pos (by omega)]
      simp only [List.cons_append, List.nil_append, decodeFrom, first, same]
  · split
    · next twoBytes =>
        have first : feed .idle (UInt8.ofNat (code / 64 % 0x20 + 0xc0)) =
            ([], .awaiting (code / 64) 1 0x80 0xBF) := by
          have lead : code / 64 % 0x20 + 0xc0 - 0xC0 = code / 64 := by omega
          rw [feed_lead (by omega) (by omega), if_pos (by omega), lead]
        have second := @feed_continuation (code / 64) 1 0x80 0xBF (code % 0x40) (by omega)
          (by omega) (by omega)
        have whole : code / 64 * 0x40 + code % 0x40 = code := by omega
        rw [if_pos rfl, whole] at second
        simp only [List.cons_append, List.nil_append, decodeFrom, first, second, same]
    · split
      · next threeBytes =>
          have first : feed .idle (UInt8.ofNat (code / 4096 % 0x10 + 0xe0)) =
              ([], .awaiting (code / 4096) 2 (if code / 4096 = 0 then 0xA0 else 0x80)
                (if code / 4096 = 13 then 0x9F else 0xBF)) := by
            rw [feed_lead (by omega) (by omega), if_neg (by omega), if_pos (by omega)]
            have lead : code / 4096 % 0x10 + 0xe0 - 0xE0 = code / 4096 := by omega
            have low : code / 4096 % 0x10 + 0xe0 = 0xE0 ↔ code / 4096 = 0 := by omega
            have high : code / 4096 % 0x10 + 0xe0 = 0xED ↔ code / 4096 = 13 := by omega
            simp only [lead, low, high]
          have second := @feed_continuation (code / 4096) 2
            (if code / 4096 = 0 then 0xA0 else 0x80) (if code / 4096 = 13 then 0x9F else 0xBF)
            (code / 64 % 0x40) (by omega) (by split <;> omega) (by split <;> omega)
          have middle : code / 4096 * 0x40 + code / 64 % 0x40 = code / 64 := by omega
          rw [if_neg (show 2 ≠ 1 by decide), middle] at second
          have third := @feed_continuation (code / 64) (2 - 1) 0x80 0xBF (code % 0x40) (by omega)
            (by omega) (by omega)
          have whole : code / 64 * 0x40 + code % 0x40 = code := by omega
          rw [if_pos rfl, whole] at third
          simp only [List.cons_append, List.nil_append, decodeFrom, first, second, third, same]
      · next fourBytes =>
          have first : feed .idle (UInt8.ofNat (code / 262144 % 0x08 + 0xf0)) =
              ([], .awaiting (code / 262144) 3 (if code / 262144 = 0 then 0x90 else 0x80)
                (if code / 262144 = 4 then 0x8F else 0xBF)) := by
            rw [feed_lead (by omega) (by omega), if_neg (by omega), if_neg (by omega)]
            have lead : code / 262144 % 0x08 + 0xf0 - 0xF0 = code / 262144 := by omega
            have low : code / 262144 % 0x08 + 0xf0 = 0xF0 ↔ code / 262144 = 0 := by omega
            have high : code / 262144 % 0x08 + 0xf0 = 0xF4 ↔ code / 262144 = 4 := by omega
            simp only [lead, low, high]
          have second := @feed_continuation (code / 262144) 3
            (if code / 262144 = 0 then 0x90 else 0x80) (if code / 262144 = 4 then 0x8F else 0xBF)
            (code / 4096 % 0x40) (by omega) (by split <;> omega) (by split <;> omega)
          have middle : code / 262144 * 0x40 + code / 4096 % 0x40 = code / 4096 := by omega
          rw [if_neg (show 3 ≠ 1 by decide), middle] at second
          have third := @feed_continuation (code / 4096) (3 - 1) 0x80 0xBF (code / 64 % 0x40)
            (by omega) (by omega) (by omega)
          have later : code / 4096 * 0x40 + code / 64 % 0x40 = code / 64 := by omega
          rw [if_neg (show 3 - 1 ≠ 1 by decide), later] at third
          have fourth := @feed_continuation (code / 64) (3 - 1 - 1) 0x80 0xBF (code % 0x40)
            (by omega) (by omega) (by omega)
          have whole : code / 64 * 0x40 + code % 0x40 = code := by omega
          rw [if_pos rfl, whole] at fourth
          simp only [List.cons_append, List.nil_append, decodeFrom, first, second, third, fourth,
            same]

theorem decode_encode (chars : List Char) : decode (encode chars) = chars := by
  induction chars with
  | nil => rfl
  | cons char rest inductionHypothesis =>
      show decodeFrom .idle (String.utf8EncodeChar char ++ encode rest) = _
      rw [decodeFrom_char]
      exact congrArg (char :: ·) inductionHypothesis

theorem encode_injective : Function.Injective encode := fun chars others same => by
  rw [← decode_encode chars, same, decode_encode]

/-- A decoder that drops a leading byte order mark returns what was encoded
unless it starts with one. -/
theorem textDecode_encode {chars : List Char} (unmarked : chars.head? ≠ some '\uFEFF') :
    textDecode (encode chars) = chars := by
  have whole := decode_encode chars
  unfold textDecode
  split
  · next rest marked =>
      rw [marked] at whole
      exact absurd (congrArg List.head? whole.symm) unmarked
  · exact whole

theorem textDecode_marked (chars : List Char) : textDecode (encode ('\uFEFF' :: chars)) = chars :=
  decode_encode chars

end Utf8

end CollabEditor.Library
