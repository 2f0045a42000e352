import CollabEditor.Library.JsonRoundtrip
import Mathlib.Algebra.Field.Rat
import Mathlib.Algebra.Order.Ring.Int
import Mathlib.Algebra.Order.Ring.Cast
import Mathlib.Data.List.TakeWhile

/-!
Owns what the number literals of JSON stand for, and the literals of integers.
-/

set_option autoImplicit false

namespace CollabEditor.Library.Json

def digitsValue (digits : JsString) : ℕ :=
  digits.foldl (fun value digit => value * 10 + (digit.toNat - 0x30)) 0

/-- The value of an exponent behind its mark; without one it is zero. -/
def exponentValue (exponent : JsString) : ℤ :=
  if exponent.head? = some 0x2D then -digitsValue exponent.tail
  else if exponent.head? = some 0x2B then digitsValue exponent.tail
  else digitsValue exponent

/-- The value of a literal without its sign. -/
def magnitudeValue (literal : JsString) : ℚ :=
  let whole := literal.takeWhile isDigit
  let behind := literal.dropWhile isDigit
  let pointed := behind.head? = some 0x2E
  let fraction := if pointed then behind.tail.takeWhile isDigit else []
  let marked := if pointed then behind.tail.dropWhile isDigit else behind
  digitsValue (whole ++ fraction) * 10 ^ (exponentValue marked.tail - fraction.length)

/-- The exact value of a literal. -/
def literalValue (literal : JsString) : ℚ :=
  if literal.head? = some 0x2D then -magnitudeValue literal.tail else magnitudeValue literal

/-! ### The literals of integers -/

private theorem text_append (first second : String) :
    text (first ++ second) = text first ++ text second := by
  unfold text Utf16.encode
  rw [String.toList_append, List.flatMap_append]

/-- The unit of a decimal digit. -/
def digitUnit (digit : ℕ) : UInt16 := UInt16.ofNat (0x30 + digit)

private theorem isDigit_digitUnit :
    ∀ digit < 10, isDigit (digitUnit digit) = true := by decide +kernel

private theorem units_digitChar :
    ∀ digit < 10, Utf16.units digit.digitChar = [digitUnit digit] := by
  decide +kernel

private theorem digitUnit_ne_zero :
    ∀ digit < 10, 0 < digit → digitUnit digit ≠ 0x30 := by decide +kernel

private theorem value_digitUnit :
    ∀ digit < 10, (digitUnit digit).toNat - 0x30 = digit := by decide +kernel

private theorem text_natural (n : ℕ) :
    text (toString n) = (Nat.toDigits 10 n).flatMap Utf16.units := by
  unfold text Utf16.encode
  rw [Nat.toString_eq_ofList_toDigits, String.toList_ofList]

private theorem text_of_lt {n : ℕ} (small : n < 10) : text (toString n) = [digitUnit n] := by
  rw [text_natural, Nat.toDigits_of_lt_base small, List.flatMap_singleton, units_digitChar n small]

private theorem text_of_le {n : ℕ} (large : 10 ≤ n) :
    text (toString n) = text (toString (n / 10)) ++ [digitUnit (n % 10)] := by
  rw [text_natural, text_natural, Nat.toDigits_of_base_le (by decide) large, List.flatMap_append,
    List.flatMap_singleton, units_digitChar _ (Nat.mod_lt n (by decide))]

/-- The literal of a natural number above zero: digits, the first of them no zero. -/
theorem text_digits (n : ℕ) (positive : 0 < n) :
    ∃ unit rest, text (toString n) = unit :: rest ∧ unit ≠ 0x30 ∧ isDigit unit = true ∧
      ∀ digit ∈ rest, isDigit digit = true := by
  induction n using Nat.strongRecOn with
  | ind n inductionHypothesis =>
      rcases Nat.lt_or_ge n 10 with small | large
      · exact ⟨_, [], text_of_lt small, digitUnit_ne_zero n small positive,
          isDigit_digitUnit n small, fun digit none => absurd none List.not_mem_nil⟩
      · obtain ⟨unit, rest, same, notZero, first, others⟩ :=
          inductionHypothesis (n / 10) (by omega) (by omega)
        refine ⟨unit, rest ++ [digitUnit (n % 10)], ?_, notZero, first, ?_⟩
        · rw [text_of_le large, same]
          rfl
        · intro digit member
          rcases List.mem_append.mp member with before | last
          · exact others digit before
          · rw [List.mem_singleton.mp last]
            exact isDigit_digitUnit _ (Nat.mod_lt n (by decide))

private theorem digitsValue_text (n : ℕ) : digitsValue (text (toString n)) = n := by
  induction n using Nat.strongRecOn with
  | ind n inductionHypothesis =>
      rcases Nat.lt_or_ge n 10 with small | large
      · rw [text_of_lt small]
        show 0 * 10 + ((digitUnit n).toNat - 0x30) = n
        rw [value_digitUnit n small]
        omega
      · rw [text_of_le large, digitsValue, List.foldl_append]
        show digitsValue (text (toString (n / 10))) * 10 + ((digitUnit (n % 10)).toNat - 0x30) = n
        rw [inductionHypothesis (n / 10) (by omega), value_digitUnit _ (Nat.mod_lt n (by decide))]
        omega

private theorem text_all_digits (n : ℕ) : ∀ unit ∈ text (toString n), isDigit unit = true := by
  rcases Nat.eq_zero_or_pos n with rfl | positive
  · rw [text_of_lt (by decide)]
    exact List.forall_mem_singleton.mpr (by decide)
  · obtain ⟨unit, rest, same, -, first, others⟩ := text_digits n positive
    rw [same]
    exact List.forall_mem_cons.mpr ⟨first, others⟩

/-- The literal of an integer is that of a natural number, with a sign in front
of it when the integer is negative. -/
theorem text_integer (value : ℤ) :
    (0 ≤ value ∧ text (toString value) = text (toString value.natAbs)) ∨
      (value < 0 ∧ text (toString value) = 0x2D :: text (toString value.natAbs)) := by
  cases value with
  | ofNat n => exact Or.inl ⟨Int.natCast_nonneg n, rfl⟩
  | negSucc n => exact Or.inr ⟨Int.negSucc_lt_zero n, text_append "-" (toString (n + 1))⟩

/-! ### They are literals of the grammar -/

private theorem NumberStage.digits_run {digits : JsString}
    (all : ∀ unit ∈ digits, isDigit unit = true) :
    digits.foldlM NumberStage.next .integer = some .integer := by
  induction digits with
  | nil => rfl
  | cons unit rest inductionHypothesis =>
      obtain ⟨first, others⟩ := List.forall_mem_cons.mp all
      have next : NumberStage.next .integer unit = some .integer := if_pos first
      rw [List.foldlM_cons, next]
      exact inductionHypothesis others

/-- The literal of a natural number runs to its end, with a sign and without. -/
theorem natural_runs (n : ℕ) :
    ∃ unit rest begun ended, text (toString n) = unit :: rest ∧
      NumberStage.first unit = some begun ∧ NumberStage.next .minus unit = some begun ∧
      rest.foldlM NumberStage.next begun = some ended ∧ ended.complete = true := by
  rcases Nat.eq_zero_or_pos n with rfl | positive
  · exact ⟨0x30, [], .zero, .zero, text_of_lt (by decide), rfl, rfl, rfl, rfl⟩
  · obtain ⟨unit, rest, same, notZero, first, others⟩ := text_digits n positive
    refine ⟨unit, rest, .integer, .integer, same, ?_, ?_, NumberStage.digits_run others, rfl⟩
    · have notMinus : unit ≠ 0x2D := by
        rintro rfl
        cases first
      rw [NumberStage.first, if_neg notMinus, if_neg notZero, if_pos first]
    · show (if unit = 0x30 then _ else if isDigit unit then _ else _) = _
      rw [if_neg notZero, if_pos first]

theorem isNumber_integer (value : ℤ) : IsNumber (text (toString value)) := by
  obtain ⟨unit, rest, begun, ended, same, first, signed, runs, complete⟩ :=
    natural_runs value.natAbs
  rcases text_integer value with ⟨-, unsigned⟩ | ⟨-, negative⟩
  · exact ⟨unit, rest, begun, ended, unsigned.trans same, first, runs, complete⟩
  · refine ⟨0x2D, unit :: rest, .minus, ended, ?_, rfl, ?_, complete⟩
    · rw [negative, same]
    · rw [List.foldlM_cons, signed]
      exact runs

/-! ### What they stand for -/

private theorem magnitudeValue_natural (n : ℕ) : magnitudeValue (text (toString n)) = n := by
  have all := text_all_digits n
  have taken : (text (toString n)).takeWhile isDigit = text (toString n) :=
    List.takeWhile_eq_self_iff.mpr all
  have dropped : (text (toString n)).dropWhile isDigit = [] := List.dropWhile_eq_nil_iff.mpr all
  unfold magnitudeValue
  simp only [taken, dropped, List.head?_nil, List.tail_nil, reduceCtorEq, if_false,
    List.append_nil, List.length_nil]
  rw [digitsValue_text]
  show (n : ℚ) * 10 ^ (0 : ℤ) = n
  rw [zpow_zero, mul_one]

theorem literalValue_integer (value : ℤ) : literalValue (text (toString value)) = value := by
  rcases text_integer value with ⟨positive, unsigned⟩ | ⟨negative, signed⟩
  · obtain ⟨unit, rest, begun, ended, same, first, -, -, -⟩ := natural_runs value.natAbs
    have noSign : (text (toString value.natAbs)).head? ≠ some 0x2D := by
      intro sign
      have digit := text_all_digits value.natAbs 0x2D (List.mem_of_head? sign)
      cases digit
    rw [unsigned, literalValue, if_neg noSign, magnitudeValue_natural, Nat.cast_natAbs,
      abs_of_nonneg positive]
  · rw [signed, literalValue, if_pos (List.head?_cons), List.tail_cons, magnitudeValue_natural,
      Nat.cast_natAbs, abs_of_neg negative, Int.cast_neg, neg_neg]

end CollabEditor.Library.Json
