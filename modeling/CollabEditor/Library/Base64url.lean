import CollabEditor.Library.Utf8

/-!
Owns base64url without padding, as text of UTF-16 code units: the encoder, a
decoder that skips what is no digit, and their round trip.
-/

set_option autoImplicit false

namespace CollabEditor.Library.Base64url

/-- The digit of a value under 64. -/
def digit (value : ℕ) : UInt16 :=
  UInt16.ofNat
    (if value < 26 then 0x41 + value
    else if value < 52 then 0x61 + (value - 26)
    else if value < 62 then 0x30 + (value - 52)
    else if value = 62 then 0x2D
    else 0x5F)

/-- The digits of some bytes: four for three bytes, and two or three for what is
left over at the end. -/
def encode : List UInt8 → JsString
  | [] => []
  | [a] => [digit (a.toNat / 4), digit (a.toNat % 4 * 16)]
  | [a, b] =>
      [digit (a.toNat / 4), digit (a.toNat % 4 * 16 + b.toNat / 16), digit (b.toNat % 16 * 4)]
  | a :: b :: c :: rest =>
      digit (a.toNat / 4) :: digit (a.toNat % 4 * 16 + b.toNat / 16) ::
        digit (b.toNat % 16 * 4 + c.toNat / 64) :: digit (c.toNat % 64) :: encode rest

/-- The value of a digit. -/
def value (unit : UInt16) : Option ℕ :=
  let code := unit.toNat
  if 0x41 ≤ code ∧ code ≤ 0x5A then some (code - 0x41)
  else if 0x61 ≤ code ∧ code ≤ 0x7A then some (code - 0x61 + 26)
  else if 0x30 ≤ code ∧ code ≤ 0x39 then some (code - 0x30 + 52)
  else if code = 0x2D then some 62
  else if code = 0x5F then some 63
  else none

/-- The bytes of some values; one that is left over at the end is dropped. -/
def ofValues : List ℕ → List UInt8
  | a :: b :: c :: d :: rest =>
      UInt8.ofNat (a * 4 + b / 16) :: UInt8.ofNat (b % 16 * 16 + c / 4) ::
        UInt8.ofNat (c % 4 * 64 + d) :: ofValues rest
  | [a, b, c] => [UInt8.ofNat (a * 4 + b / 16), UInt8.ofNat (b % 16 * 16 + c / 4)]
  | [a, b] => [UInt8.ofNat (a * 4 + b / 16)]
  | _ => []

def decode (text : JsString) : List UInt8 := ofValues (text.filterMap value)

/-! ### The digits -/

theorem value_digit : ∀ v < 64, value (digit v) = some v := by decide +kernel

theorem digit_ascii : ∀ v < 64, (digit v).toNat < 0x80 := by decide +kernel

/-- No digit is a dot. -/
theorem digit_ne_dot : ∀ v < 64, digit v ≠ 0x2E := by decide +kernel

theorem mem_encode {unit : UInt16} (bytes : List UInt8) (member : unit ∈ encode bytes) :
    ∃ v < 64, unit = digit v := by
  fun_induction encode bytes with
  | case1 => cases member
  | case2 a =>
      have small := a.toNat_lt
      rcases List.mem_pair.mp member with rfl | rfl
      · exact ⟨_, by omega, rfl⟩
      · exact ⟨_, by omega, rfl⟩
  | case3 a b =>
      have smallA := a.toNat_lt
      have smallB := b.toNat_lt
      simp only [List.mem_cons, List.not_mem_nil, or_false] at member
      rcases member with rfl | rfl | rfl
      · exact ⟨_, by omega, rfl⟩
      · exact ⟨_, by omega, rfl⟩
      · exact ⟨_, by omega, rfl⟩
  | case4 a b c rest inductionHypothesis =>
      have smallA := a.toNat_lt
      have smallB := b.toNat_lt
      have smallC := c.toNat_lt
      simp only [List.mem_cons] at member
      rcases member with rfl | rfl | rfl | rfl | later
      · exact ⟨_, by omega, rfl⟩
      · exact ⟨_, by omega, rfl⟩
      · exact ⟨_, by omega, rfl⟩
      · exact ⟨_, by omega, rfl⟩
      · exact inductionHypothesis later

theorem encode_ne_nil {bytes : List UInt8} (some : bytes ≠ []) : encode bytes ≠ [] := by
  fun_cases encode bytes with
  | case1 => exact absurd rfl some
  | case2 a => exact List.cons_ne_nil _ _
  | case3 a b => exact List.cons_ne_nil _ _
  | case4 a b c rest => exact List.cons_ne_nil _ _

/-! ### Decoding what was encoded -/

/-- A byte is what its bits add up to. -/
theorem ofNat_eq {n : ℕ} {byte : UInt8} (same : n = byte.toNat) : UInt8.ofNat n = byte := by
  rw [same, UInt8.ofNat_toNat]

theorem decode_encode (bytes : List UInt8) : decode (encode bytes) = bytes := by
  unfold decode
  fun_induction encode bytes with
  | case1 => rfl
  | case2 a =>
      have smallA := a.toNat_lt
      simp only [List.filterMap_cons, List.filterMap_nil]
      rw [value_digit _ (by omega), value_digit _ (by omega)]
      simp only [ofValues]
      rw [@ofNat_eq _ a (by omega)]
  | case3 a b =>
      have smallA := a.toNat_lt
      have smallB := b.toNat_lt
      simp only [List.filterMap_cons, List.filterMap_nil]
      rw [value_digit _ (by omega), value_digit _ (by omega), value_digit _ (by omega)]
      simp only [ofValues]
      rw [@ofNat_eq _ a (by omega), @ofNat_eq _ b (by omega)]
  | case4 a b c rest inductionHypothesis =>
      have smallA := a.toNat_lt
      have smallB := b.toNat_lt
      have smallC := c.toNat_lt
      simp only [List.filterMap_cons]
      rw [value_digit _ (by omega), value_digit _ (by omega), value_digit _ (by omega),
        value_digit _ (by omega)]
      simp only [ofValues]
      rw [@ofNat_eq _ a (by omega), @ofNat_eq _ b (by omega), @ofNat_eq _ c (by omega),
        inductionHypothesis]

end CollabEditor.Library.Base64url
