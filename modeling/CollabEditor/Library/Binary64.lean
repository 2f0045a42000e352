import Mathlib.Data.Int.Log
import Mathlib.Data.Rat.Floor
import Mathlib.Tactic.Linarith
import Mathlib.Tactic.NormNum

/-!
Owns the numbers of binary64 as rationals: rounding to the nearest one, ties to
even, and how integers of up to 53 bits bound what is rounded.
-/

set_option autoImplicit false

namespace CollabEditor.Library.Binary64

/-- A number that is not NaN. The sign of zero is not kept. -/
inductive Number where
  | finite (value : ℚ)
  | infinite (negative : Bool)

/-- The nearest integer; of two, the even one. -/
def roundHalfEven (x : ℚ) : ℤ :=
  let low := ⌊x⌋
  if x - low < 1 / 2 then low
  else if 1 / 2 < x - low then low + 1
  else if low % 2 = 0 then low
  else low + 1

/-- The exponent of the last place of a magnitude, 53 bits below its first and
never below that of the subnormal numbers. -/
def lastPlace (magnitude : ℚ) : ℤ := max (Int.log 2 magnitude) (-1022) - 52

def roundMagnitude (magnitude : ℚ) : ℚ :=
  roundHalfEven (magnitude / 2 ^ lastPlace magnitude) * 2 ^ lastPlace magnitude

/-- The nearest value were there no greatest exponent. -/
def nearest (x : ℚ) : ℚ := if x < 0 then -roundMagnitude (-x) else roundMagnitude x

/-- Finite numbers are smaller. -/
@[irreducible] def overflow : ℚ := 2 ^ 1024

/-- The number a rational is rounded to. -/
def round (x : ℚ) : Number :=
  if overflow ≤ nearest x then .infinite false
  else if nearest x ≤ -overflow then .infinite true
  else .finite (nearest x)

namespace Number

/-- The product with a positive number. -/
def times (number : Number) (factor : ℚ) : Number :=
  match number with
  | finite value => round (value * factor)
  | infinite negative => infinite negative

def Lt (number : Number) (bound : ℚ) : Prop :=
  match number with
  | finite value => value < bound
  | infinite negative => negative = true

private theorem Lt.mono {number : Number} {bound bound' : ℚ} (less : number.Lt bound)
    (later : bound ≤ bound') : number.Lt bound' := by
  cases number with
  | finite value => exact lt_of_lt_of_le less later
  | infinite negative => exact less

instance decidableLt (number : Number) (bound : ℚ) : Decidable (number.Lt bound) :=
  match number with
  | finite value => inferInstanceAs (Decidable (value < bound))
  | infinite negative => inferInstanceAs (Decidable (negative = true))

end Number

/-! ### Rounding to integers -/

private theorem le_roundHalfEven {x : ℚ} {n : ℤ} (above : (n : ℚ) ≤ x) : n ≤ roundHalfEven x := by
  have low : n ≤ ⌊x⌋ := Int.le_floor.mpr above
  simp only [roundHalfEven]
  split
  · exact low
  · split
    · omega
    · split
      · exact low
      · omega

private theorem roundHalfEven_le {x : ℚ} {n : ℤ} (below : x ≤ n) : roundHalfEven x ≤ n := by
  have low : ⌊x⌋ ≤ n := Int.floor_le_iff.mpr (lt_of_le_of_lt below (lt_add_one _))
  rcases eq_or_lt_of_le low with same | less
  · have exactly : x - ⌊x⌋ < 1 / 2 := by
      rw [same]
      linarith
    simp only [roundHalfEven]
    rw [if_pos exactly]
    exact low
  · simp only [roundHalfEven]
    split
    · exact low
    · split
      · omega
      · split
        · exact low
        · omega

/-! ### Bounds by what is not rounded -/

/-- An integer of 53 bits times a power of two that is no less than that of the
subnormal numbers. The greatest exponent is not bounded. -/
def Representable (value : ℚ) : Prop :=
  ∃ significand exponent : ℤ, -1074 ≤ exponent ∧ significand.natAbs ≤ 2 ^ 53 ∧
    value = significand * 2 ^ exponent

theorem representable_intCast {n : ℤ} (small : n.natAbs ≤ 2 ^ 53) : Representable n :=
  ⟨n, 0, by decide, small, by simp⟩

theorem Representable.neg {value : ℚ} (representable : Representable value) :
    Representable (-value) := by
  obtain ⟨significand, exponent, least, small, rfl⟩ := representable
  refine ⟨-significand, exponent, least, by rwa [Int.natAbs_neg], ?_⟩
  push_cast
  ring

/-- A magnitude whose last place is not that of the subnormal numbers has 53 bits. -/
theorem le_of_lastPlace {magnitude : ℚ} (positive : 0 < magnitude)
    (coarse : -1074 < lastPlace magnitude) : (2 : ℚ) ^ (lastPlace magnitude + 52) ≤ magnitude := by
  have first : lastPlace magnitude + 52 = Int.log 2 magnitude := by
    unfold lastPlace at coarse ⊢
    omega
  rw [first]
  have below := Int.zpow_log_le_self (b := 2) one_lt_two positive
  exact_mod_cast below

/-- A number is a whole number of last places that are no coarser than it. -/
theorem exists_places {place exponent : ℤ} (fine : place ≤ exponent) (significand : ℤ) :
    ∃ places : ℤ, (places : ℚ) = significand * 2 ^ exponent / 2 ^ place := by
  refine ⟨significand * 2 ^ (exponent - place).toNat, ?_⟩
  have split : exponent = place + ((exponent - place).toNat : ℤ) := by omega
  have scale : (2 : ℚ) ^ place ≠ 0 := zpow_ne_zero _ two_ne_zero
  conv => rhs; rw [split, zpow_add₀ two_ne_zero, zpow_natCast]
  push_cast
  field_simp

/-- A number with a finer last place is at most the least one with this one. -/
theorem le_of_finer {place exponent significand : ℤ} (finer : exponent < place)
    (small : significand.natAbs ≤ 2 ^ 53) :
    (significand : ℚ) * 2 ^ exponent ≤ 2 ^ (place + 52) := by
  have bound : (significand : ℚ) ≤ 2 ^ (53 : ℤ) := by
    have atMost : significand ≤ 2 ^ 53 := by omega
    exact_mod_cast atMost
  have scale : (0 : ℚ) < 2 ^ exponent := zpow_pos two_pos _
  calc (significand : ℚ) * 2 ^ exponent ≤ 2 ^ (53 : ℤ) * 2 ^ exponent :=
        mul_le_mul_of_nonneg_right bound scale.le
    _ = 2 ^ (53 + exponent) := (zpow_add₀ two_ne_zero _ _).symm
    _ ≤ 2 ^ (place + 52) := zpow_le_zpow_right₀ one_le_two (by omega)

/-- The least magnitude with a last place is 2^52 of them. -/
theorem places_of_least (place : ℤ) : ((2 ^ 52 : ℤ) : ℚ) = 2 ^ (place + 52) / 2 ^ place := by
  rw [zpow_add₀ two_ne_zero, mul_div_cancel_left₀ _ (zpow_ne_zero _ two_ne_zero)]
  norm_num

private theorem le_roundMagnitude {magnitude value : ℚ} (representable : Representable value)
    (nonnegative : 0 ≤ value) (above : value ≤ magnitude) : value ≤ roundMagnitude magnitude := by
  have scale : (0 : ℚ) < 2 ^ lastPlace magnitude := zpow_pos two_pos _
  obtain ⟨significand, exponent, least, small, rfl⟩ := representable
  rcases eq_or_lt_of_le (nonnegative.trans above) with zero | positive
  · have none : (significand : ℚ) * 2 ^ exponent = 0 :=
      le_antisymm (above.trans zero.ge) nonnegative
    rw [none, ← zero]
    decide +kernel
  unfold roundMagnitude
  rw [← div_le_iff₀ scale]
  rcases le_or_gt (lastPlace magnitude) exponent with fine | coarse
  · obtain ⟨places, same⟩ := exists_places fine significand
    rw [← same]
    refine Int.cast_le.mpr (le_roundHalfEven ?_)
    rw [same]
    exact div_le_div_of_nonneg_right above scale.le
  · -- the least magnitude with this last place is between the two
    have large := le_of_lastPlace positive (lt_of_le_of_lt least coarse)
    refine (div_le_div_of_nonneg_right (le_of_finer coarse small) scale.le).trans ?_
    rw [← places_of_least]
    refine Int.cast_le.mpr (le_roundHalfEven ?_)
    rw [places_of_least (lastPlace magnitude)]
    exact div_le_div_of_nonneg_right large scale.le

private theorem roundMagnitude_le {magnitude value : ℚ} (representable : Representable value)
    (positive : 0 < magnitude) (below : magnitude ≤ value) : roundMagnitude magnitude ≤ value := by
  have scale : (0 : ℚ) < 2 ^ lastPlace magnitude := zpow_pos two_pos _
  obtain ⟨significand, exponent, least, small, rfl⟩ := representable
  unfold roundMagnitude
  rw [← le_div_iff₀ scale]
  have exactly : ∃ places : ℤ,
      (places : ℚ) = significand * 2 ^ exponent / 2 ^ lastPlace magnitude := by
    rcases le_or_gt (lastPlace magnitude) exponent with fine | coarse
    · exact exists_places fine significand
    · -- only the least magnitude with this last place is that small
      have large := le_of_lastPlace positive (lt_of_le_of_lt least coarse)
      have same : (significand : ℚ) * 2 ^ exponent = 2 ^ (lastPlace magnitude + 52) :=
        le_antisymm (le_of_finer coarse small) (large.trans below)
      exact ⟨2 ^ 52, by rw [same, places_of_least]⟩
  obtain ⟨places, same⟩ := exactly
  rw [← same]
  refine Int.cast_le.mpr (roundHalfEven_le ?_)
  rw [same]
  exact div_le_div_of_nonneg_right below scale.le

private theorem representable_roundMagnitude {magnitude : ℚ} (nonnegative : 0 ≤ magnitude) :
    Representable (roundMagnitude magnitude) := by
  have scale : (0 : ℚ) < 2 ^ lastPlace magnitude := zpow_pos two_pos _
  refine ⟨roundHalfEven (magnitude / 2 ^ lastPlace magnitude), lastPlace magnitude, ?_, ?_, rfl⟩
  · unfold lastPlace
    omega
  · have atLeast : 0 ≤ roundHalfEven (magnitude / 2 ^ lastPlace magnitude) := by
      refine le_roundHalfEven ?_
      rw [Int.cast_zero]
      exact div_nonneg nonnegative scale.le
    have atMost : roundHalfEven (magnitude / 2 ^ lastPlace magnitude) ≤ 2 ^ 53 := by
      refine roundHalfEven_le ?_
      rw [div_le_iff₀ scale]
      have above := Int.lt_zpow_succ_log_self (b := 2) one_lt_two magnitude
      have places : Int.log 2 magnitude + 1 ≤ 53 + lastPlace magnitude := by
        unfold lastPlace
        omega
      calc magnitude ≤ 2 ^ (Int.log 2 magnitude + 1) := by exact_mod_cast above.le
        _ ≤ 2 ^ (53 + lastPlace magnitude) := zpow_le_zpow_right₀ one_le_two places
        _ = ((2 ^ 53 : ℤ) : ℚ) * 2 ^ lastPlace magnitude := by
            rw [zpow_add₀ two_ne_zero]
            norm_num
    omega

private theorem nearest_neg (x : ℚ) : nearest (-x) = -nearest x := by
  unfold nearest
  rcases lt_trichotomy x 0 with negative | rfl | positive
  · rw [if_neg (by linarith), if_pos negative, neg_neg]
  · rw [neg_zero, if_neg (lt_irrefl 0)]
    decide +kernel
  · rw [if_pos (by linarith), if_neg (by linarith), neg_neg]

theorem le_nearest {x value : ℚ} (representable : Representable value) (above : value ≤ x) :
    value ≤ nearest x := by
  unfold nearest
  split
  · next negative =>
      have rounded := roundMagnitude_le representable.neg (neg_pos.mpr negative) (neg_le_neg above)
      exact le_neg_of_le_neg rounded
  · next positive =>
      have isPositive : 0 ≤ x := not_lt.mp positive
      rcases le_or_gt 0 value with nonnegative | negative
      · exact le_roundMagnitude representable nonnegative above
      · have zero : Representable 0 := by exact_mod_cast representable_intCast (n := 0) (by decide)
        exact negative.le.trans (le_roundMagnitude zero le_rfl isPositive)

theorem nearest_le {x value : ℚ} (representable : Representable value) (below : x ≤ value) :
    nearest x ≤ value := by
  have mirrored := le_nearest representable.neg (neg_le_neg below)
  rw [nearest_neg] at mirrored
  exact neg_le_neg_iff.mp mirrored

theorem nearest_eq {value : ℚ} (representable : Representable value) : nearest value = value :=
  le_antisymm (nearest_le representable le_rfl) (le_nearest representable le_rfl)

theorem representable_nearest (x : ℚ) : Representable (nearest x) := by
  unfold nearest
  split
  · next negative => exact (representable_roundMagnitude (neg_pos.mpr negative).le).neg
  · next positive => exact representable_roundMagnitude (not_lt.mp positive)

theorem abs_lt_overflow {n : ℤ} (small : n.natAbs ≤ 2 ^ 53) : |(n : ℚ)| < overflow := by
  have bound : |(n : ℚ)| ≤ 2 ^ 53 := by
    rw [← Int.cast_abs, ← Nat.cast_natAbs]
    exact_mod_cast small
  unfold overflow
  exact lt_of_le_of_lt bound (pow_lt_pow_right₀ one_lt_two (by decide))

/-! ### Comparing what is rounded -/

/-- An integer of 53 bits that a rational reaches is reached by its rounding. -/
theorem not_lt_round {x : ℚ} {n : ℤ} (small : n.natAbs ≤ 2 ^ 53) (above : (n : ℚ) ≤ x) :
    ¬ (round x).Lt n := by
  have reached := le_nearest (representable_intCast small) above
  have bounds := abs_lt.mp (abs_lt_overflow small)
  unfold round
  by_cases overflows : overflow ≤ nearest x
  · rw [if_pos overflows]
    exact Bool.false_ne_true
  · rw [if_neg overflows, if_neg (not_le.mpr (lt_of_lt_of_le bounds.1 reached))]
    exact not_lt.mpr reached

/-- An integer of 53 bits that a rational does not exceed is not exceeded by its
rounding. -/
theorem round_lt {x : ℚ} {n : ℤ} (small : n.natAbs ≤ 2 ^ 53) (below : x ≤ n) {bound : ℚ}
    (less : n < bound) : (round x).Lt bound := by
  have kept := nearest_le (representable_intCast small) below
  have bounds := abs_lt.mp (abs_lt_overflow small)
  rw [round, if_neg (not_le.mpr (lt_of_le_of_lt kept bounds.2))]
  rcases le_or_gt (nearest x) (-overflow) with underflows | above
  · rw [if_pos underflows]
    rfl
  · rw [if_neg (not_le.mpr above)]
    exact lt_of_le_of_lt kept less

private theorem round_intCast {n : ℤ} (small : n.natAbs ≤ 2 ^ 53) : round n = .finite n := by
  have bounds := abs_lt.mp (abs_lt_overflow small)
  rw [round, nearest_eq (representable_intCast small), if_neg (not_le.mpr bounds.2),
    if_neg (not_le.mpr bounds.1)]

/-- A factor of at least one keeps what is above zero above. -/
theorem not_lt_times {number : Number} {n : ℤ} {factor : ℚ} (small : n.natAbs ≤ 2 ^ 53)
    (positive : 0 ≤ n) (grows : 1 ≤ factor) (reached : ¬ number.Lt n) :
    ¬ (number.times factor).Lt n := by
  cases number with
  | finite value =>
      have above : (n : ℚ) ≤ value := not_lt.mp reached
      have isPositive : 0 ≤ value := le_trans (Int.cast_nonneg positive) above
      exact not_lt_round small (le_trans above (le_mul_of_one_le_right isPositive grows))
  | infinite negative => exact reached

/-- A factor of at least one keeps what is below zero below. -/
theorem times_lt {number : Number} {n : ℤ} {factor : ℚ} (small : n.natAbs ≤ 2 ^ 53)
    (negative : n ≤ 0) (grows : 1 ≤ factor) (kept : ∀ bound : ℚ, n < bound → number.Lt bound)
    {bound : ℚ} (less : n < bound) : (number.times factor).Lt bound := by
  cases number with
  | finite value =>
      have below : value ≤ n := le_of_forall_gt kept
      have isNegative : value ≤ 0 := le_trans below (Int.cast_nonpos.mpr negative)
      exact round_lt small (le_trans (mul_le_of_one_le_right isNegative grows) below) less
  | infinite negative => exact kept bound less

/-- The product of two integers is compared with a third as if nothing were
rounded, as long as the third has 53 bits. -/
theorem times_round_lt_iff (e : ℤ) {k n : ℤ} (factor : 1 ≤ k) (small : n.natAbs < 2 ^ 53) :
    ((round e).times k).Lt n ↔ e * k < n := by
  have grows : (1 : ℚ) ≤ k := by exact_mod_cast factor
  rcases le_or_gt e.natAbs (2 ^ 53) with exactly | inexact
  · rw [round_intCast exactly]
    show (round (e * k)).Lt n ↔ _
    rw [← Int.cast_mul]
    constructor
    · intro less
      by_contra above
      exact not_lt_round small.le (Int.cast_le.mpr (not_lt.mp above)) less
    · intro less
      refine @round_lt _ (n - 1) (by omega) (Int.cast_le.mpr (by omega)) _ ?_
      exact Int.cast_lt.mpr (by omega)
  · rcases le_or_gt 0 e with positive | negative
    · have above : ¬ e * k < n := by
        have grown := le_mul_of_one_le_right positive factor
        omega
      refine iff_of_false (fun less => ?_) above
      have reached := @not_lt_round e (2 ^ 53) (by decide) (Int.cast_le.mpr (by omega))
      exact not_lt_times (by decide) (by decide) grows reached
        (less.mono (Int.cast_le.mpr (by omega)))
    · have below : e * k < n := by
        have grown := mul_le_of_one_le_right negative.le factor
        omega
      refine iff_of_true ?_ below
      refine @times_lt _ (-2 ^ 53) _ (by decide) (by decide) grows (fun bound less => ?_) _ ?_
      · exact @round_lt e (-2 ^ 53) (by decide) (Int.cast_le.mpr (by omega)) _ less
      · exact Int.cast_lt.mpr (by omega)

end CollabEditor.Library.Binary64
