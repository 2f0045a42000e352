import CollabEditor.Library.Binary64

/-!
Owns the arithmetic of doubles, with NaN and the infinities: each operation
rounds what the rationals make of finite numbers. The sign of zero is not kept,
so nothing is divided by zero here.
-/

set_option autoImplicit false

namespace CollabEditor.Library.Binary64

/-- A value of binary64; `none` is NaN. -/
abbrev Double := Option Number

/-- A finite number of binary64. -/
structure FiniteDouble where
  value : ℚ
  representable : Representable value
  bounded : |value| < overflow

namespace Number

def neg : Number → Number
  | finite value => finite (-value)
  | infinite negative => infinite (!negative)

def plus : Number → Number → Double
  | finite first, finite second => some (round (first + second))
  | finite _, infinite negative | infinite negative, finite _ => some (infinite negative)
  | infinite first, infinite second => if first = second then some (infinite first) else none

def product : Number → Number → Double
  | finite first, finite second => some (round (first * second))
  | finite value, infinite negative | infinite negative, finite value =>
      if value = 0 then none else some (infinite (negative != decide (value < 0)))
  | infinite first, infinite second => some (infinite (first != second))

/-- The quotient by a positive number. -/
def dividedBy (number : Number) (divisor : ℚ) : Number :=
  match number with
  | finite value => round (value / divisor)
  | infinite negative => infinite negative

def Less : Number → Number → Prop
  | finite first, finite second => first < second
  | infinite negative, finite _ => negative = true
  | finite _, infinite negative => negative = false
  | infinite first, infinite second => first = true ∧ second = false

instance decidableLess : ∀ first second : Number, Decidable (first.Less second)
  | finite first, finite second => inferInstanceAs (Decidable (first < second))
  | infinite negative, finite _ => inferInstanceAs (Decidable (negative = true))
  | finite _, infinite negative => inferInstanceAs (Decidable (negative = false))
  | infinite first, infinite second =>
      inferInstanceAs (Decidable (first = true ∧ second = false))

end Number

namespace FiniteDouble

/-- A finite number among the values. -/
def toDouble (double : FiniteDouble) : Double := some (.finite double.value)

def zero : FiniteDouble where
  value := 0
  representable := ⟨0, 0, by decide, by decide, by simp⟩
  bounded := by
    rw [abs_zero]
    unfold overflow
    exact pow_pos two_pos _

def ofInt (n : ℤ) (small : n.natAbs ≤ 2 ^ 53) : FiniteDouble where
  value := n
  representable := representable_intCast small
  bounded := abs_lt_overflow small

end FiniteDouble

namespace Double

def add (first second : Double) : Double :=
  first.bind fun first => second.bind fun second => first.plus second

def sub (first second : Double) : Double := add first (second.map .neg)

def mul (first second : Double) : Double :=
  first.bind fun first => second.bind fun second => first.product second

/-- The quotient by a positive number. -/
def dividedBy (double : Double) (divisor : ℚ) : Double := double.map (·.dividedBy divisor)

/-- `Math.min`. -/
def min (first second : Double) : Double :=
  first.bind fun first => second.map fun second => if second.Less first then second else first

/-- `<`, which is false of NaN. -/
def Lt : Double → Double → Prop
  | some first, some second => first.Less second
  | _, _ => False

/-- `<=`, which is false of NaN. -/
def Le : Double → Double → Prop
  | some first, some second => ¬second.Less first
  | _, _ => False

instance decidableLt : ∀ first second : Double, Decidable (Lt first second)
  | some first, some second => inferInstanceAs (Decidable (first.Less second))
  | none, _ | some _, none => isFalse id

instance decidableLe : ∀ first second : Double, Decidable (Le first second)
  | some first, some second => inferInstanceAs (Decidable (¬second.Less first))
  | none, _ | some _, none => isFalse id

end Double

/-! ### What is rounded -/

/-- Within a finite number nothing overflows. -/
theorem round_eq {x : ℚ} {bound : FiniteDouble} (within : |x| ≤ bound.value) :
    round x = .finite (nearest x) := by
  have below : nearest x ≤ bound.value :=
    nearest_le bound.representable ((le_abs_self x).trans within)
  have above : -bound.value ≤ nearest x :=
    le_nearest bound.representable.neg (neg_le_of_abs_le within)
  have finite := (abs_lt.mp bound.bounded).2
  rw [round, if_neg (by linarith), if_neg (by linarith)]

/-- A number that was rounded and is finite is one of the finite numbers. -/
theorem exists_of_round {x value : ℚ} (rounded : round x = .finite value) :
    value = nearest x ∧ ∃ double : FiniteDouble, double.value = value := by
  unfold round at rounded
  split at rounded
  · cases rounded
  · next below =>
      split at rounded
      · cases rounded
      · next above =>
          cases rounded
          refine ⟨rfl, ⟨nearest x, representable_nearest x, ?_⟩, rfl⟩
          exact abs_lt.mpr ⟨not_le.mp above, not_le.mp below⟩

/-- What is within a finite number is rounded to one, and keeps its sign. -/
theorem exists_round {x : ℚ} {bound : FiniteDouble} (nonnegative : 0 ≤ x)
    (within : x ≤ bound.value) : ∃ double : FiniteDouble, round x = .finite double.value ∧
      0 ≤ double.value ∧ double.value ≤ bound.value := by
  have rounded := round_eq (by rwa [abs_of_nonneg nonnegative])
  obtain ⟨-, double, same⟩ := exists_of_round rounded
  refine ⟨double, by rw [rounded, same], ?_, ?_⟩
  · rw [same]
    exact le_nearest FiniteDouble.zero.representable nonnegative
  · rw [same]
    exact nearest_le bound.representable within

namespace FiniteDouble

variable {double other : FiniteDouble}

private theorem round_value (double : FiniteDouble) :
    round double.value = .finite double.value := by
  have exactly := nearest_eq double.representable
  have bounds := abs_lt.mp double.bounded
  rw [round, exactly, if_neg (not_le.mpr bounds.2), if_neg (not_le.mpr bounds.1)]

@[simp] theorem toDouble_lt : Double.Lt double.toDouble other.toDouble ↔
    double.value < other.value :=
  Iff.rfl

@[simp] theorem toDouble_le : Double.Le double.toDouble other.toDouble ↔
    double.value ≤ other.value :=
  not_lt

end FiniteDouble

namespace Double

/-- A value that is a finite number, if it is finite. -/
def Rounded (double : Double) : Prop :=
  ∀ value, double = some (.finite value) → ∃ finite : FiniteDouble, finite.value = value

private theorem rounded_round (x : ℚ) : Rounded (some (round x)) := by
  intro value isFinite
  exact (exists_of_round (Option.some.inj isFinite)).2

private theorem rounded_infinite (negative : Bool) : Rounded (some (.infinite negative)) := nofun

private theorem rounded_none : Rounded none := nofun

theorem rounded_add (first second : Double) : Rounded (add first second) := by
  cases first with
  | none => exact rounded_none
  | some first =>
      cases second with
      | none => exact rounded_none
      | some second =>
          show Rounded (first.plus second)
          unfold Number.plus
          split
          · exact rounded_round _
          · exact rounded_infinite _
          · exact rounded_infinite _
          · split
            · exact rounded_infinite _
            · exact rounded_none

theorem rounded_mul (first second : Double) : Rounded (mul first second) := by
  cases first with
  | none => exact rounded_none
  | some first =>
      cases second with
      | none => exact rounded_none
      | some second =>
          show Rounded (first.product second)
          unfold Number.product
          split
          · exact rounded_round _
          · split
            · exact rounded_none
            · exact rounded_infinite _
          · split
            · exact rounded_none
            · exact rounded_infinite _
          · exact rounded_infinite _

/-- A finite number that a rational reaches is reached by its rounding. -/
theorem le_round {double : FiniteDouble} {x : ℚ} (above : double.value ≤ x) :
    Le double.toDouble (some (round x)) := by
  have kept := le_nearest double.representable above
  have least := (abs_lt.mp double.bounded).1
  show ¬(round x).Less (.finite double.value)
  unfold round
  split
  · simp [Number.Less]
  · rw [if_neg (by linarith)]
    exact not_lt.mpr kept

/-- Nothing leaves what it is added to. -/
theorem nothing_add {added : Double} (rounded : Rounded added) :
    add FiniteDouble.zero.toDouble added = added := by
  cases added with
  | none => rfl
  | some number =>
      cases number with
      | infinite negative => rfl
      | finite value =>
          obtain ⟨double, rfl⟩ := rounded value rfl
          show some (round (0 + double.value)) = _
          rw [zero_add, double.round_value]

/-- What is not negative can be added without loss. -/
theorem le_add {double : FiniteDouble} {added : Double}
    (nonnegative : Le FiniteDouble.zero.toDouble added) :
    Le double.toDouble (add double.toDouble added) := by
  cases added with
  | none => exact nonnegative.elim
  | some number =>
      cases number with
      | infinite negative =>
          have positive : negative = false := Bool.eq_false_of_not_eq_true nonnegative
          rw [positive]
          simp [Le, add, FiniteDouble.toDouble, Number.plus, Number.Less]
      | finite value =>
          have isPositive : 0 ≤ value := not_lt.mp nonnegative
          exact le_round (le_add_of_nonneg_right isPositive)

/-- The smaller of a finite number and of a value that is no less than another one. -/
theorem exists_min {limit double : FiniteDouble} {other : Double} (rounded : Rounded other)
    (atMost : double.value ≤ limit.value) (atLeast : Le double.toDouble other) :
    ∃ smaller : FiniteDouble, Double.min limit.toDouble other = smaller.toDouble ∧
      double.value ≤ smaller.value ∧ smaller.value ≤ limit.value := by
  cases other with
  | none => exact atLeast.elim
  | some number =>
      show ∃ smaller : FiniteDouble, some (if number.Less (.finite limit.value) then number
        else .finite limit.value) = some (.finite smaller.value) ∧ _
      split
      · next less =>
          cases number with
          | infinite negative => exact absurd less atLeast
          | finite value =>
              obtain ⟨smaller, rfl⟩ := rounded value rfl
              exact ⟨smaller, rfl, not_lt.mp atLeast, le_of_lt less⟩
      · exact ⟨limit, rfl, atMost, le_rfl⟩

theorem rounded_min {limit : FiniteDouble} {other : Double} (rounded : Rounded other) :
    Rounded (Double.min limit.toDouble other) := by
  cases other with
  | none => exact rounded_none
  | some number =>
      show Rounded (some (if number.Less (.finite limit.value) then number
        else .finite limit.value))
      split
      · exact rounded
      · intro value isFinite
        cases isFinite
        exact ⟨limit, rfl⟩

/-- Both of two values are no less than what their smaller one is no less than. -/
theorem le_of_le_min {double limit : FiniteDouble} {other : Double}
    (atMost : double.value ≤ limit.value)
    (atLeast : Le double.toDouble (Double.min limit.toDouble other)) :
    Le double.toDouble other := by
  cases other with
  | none => exact atLeast.elim
  | some number =>
      have smaller : ¬(if number.Less (.finite limit.value) then number
        else .finite limit.value).Less (.finite double.value) := atLeast
      split at smaller
      · exact smaller
      · next notLess =>
          cases number with
          | infinite negative => exact notLess
          | finite value => exact not_lt.mpr (atMost.trans (not_lt.mp notLess))

/-- The smaller of the two is less than the first unless the second is no less. -/
theorem le_of_not_min_lt {limit : FiniteDouble} {other : Double}
    (isNumber : Double.min limit.toDouble other ≠ none)
    (notLess : ¬Lt (Double.min limit.toDouble other) limit.toDouble) :
    Le limit.toDouble other := by
  cases other with
  | none => exact isNumber rfl
  | some number =>
      intro less
      apply notLess
      have isSmaller : Double.min limit.toDouble (some number) = some number :=
        congrArg some (if_pos less)
      rw [isSmaller]
      exact less

theorem min_finite (first second : ℚ) :
    Double.min (some (.finite first)) (some (.finite second)) =
      some (.finite (Min.min first second)) := by
  show some (if second < first then Number.finite second else .finite first) = _
  split
  · next less => rw [min_eq_right less.le]
  · next notLess => rw [min_eq_left (not_lt.mp notLess)]

/-- What is taken from a finite number leaves a smaller one, exactly so if it is
nothing or all of it. -/
theorem exists_sub {double taken : FiniteDouble} (nonnegative : 0 ≤ taken.value)
    (atMost : taken.value ≤ double.value) :
    ∃ left : FiniteDouble, sub double.toDouble taken.toDouble = left.toDouble ∧
      0 ≤ left.value ∧ left.value ≤ double.value ∧
      (taken.value = 0 → left.value = double.value) ∧
      (taken.value = double.value → left.value = 0) := by
  have isNonnegative : 0 ≤ double.value + -taken.value := by linarith
  have within : |double.value + -taken.value| ≤ double.value := by
    rw [abs_of_nonneg isNonnegative]
    linarith
  have rounded := round_eq within
  obtain ⟨-, left, same⟩ := exists_of_round rounded
  refine ⟨left, ?_, ?_, ?_, ?_, ?_⟩
  · show some (round (double.value + -taken.value)) = some (.finite left.value)
    rw [rounded, same]
  · rw [same]
    exact le_nearest FiniteDouble.zero.representable isNonnegative
  · rw [same]
    exact nearest_le double.representable (by linarith)
  · intro nothing
    rw [same, nothing, neg_zero, add_zero]
    exact nearest_eq double.representable
  · intro all
    rw [same, all, add_neg_cancel]
    exact nearest_eq FiniteDouble.zero.representable

end Double

end CollabEditor.Library.Binary64
