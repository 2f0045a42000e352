import CollabEditor.Library.Doubles
import CollabEditor.Ws.RateLimit
import Mathlib.Data.List.Chain

/-!
Owns `ws/rate-limit.ts` in the doubles it computes with, and what the clock does
to the budget it stores: which readings keep it between zero and the capacity
whatever the calls cost.
-/

set_option autoImplicit false

namespace CollabEditor.Ws.WallClock

open CollabEditor.Library CollabEditor.Library.Binary64

/-- What `Date.now` returns: milliseconds, at most a hundred million days from 1970. -/
structure Instant where
  milliseconds : ℤ
  bounded : milliseconds.natAbs ≤ 8640000000000000

def Instant.toDouble (now : Instant) : Double := some (.finite now.milliseconds)

/-- `TokenBucket`. -/
structure TokenBucket where
  capacity : FiniteDouble
  refillPerSecond : FiniteDouble
  tokens : Double
  updatedAt : Instant

/-- One call of `take`: the reading of `Date.now` and the cost. -/
structure Charge where
  now : Instant
  cost : FiniteDouble

namespace TokenBucket

/-- `new TokenBucket(capacity, refillPerSecond)`. -/
def new (capacity refillPerSecond : FiniteDouble) (now : Instant) : TokenBucket :=
  ⟨capacity, refillPerSecond, capacity.toDouble, now⟩

/-- `elapsed * this.refillPerSecond`. -/
def refilled (refillPerSecond : FiniteDouble) (earlier later : Instant) : Double :=
  Double.mul (Double.dividedBy (Double.sub later.toDouble earlier.toDouble) 1000)
    refillPerSecond.toDouble

/-- The budget at a reading. -/
def budget (bucket : TokenBucket) (now : Instant) : Double :=
  Double.min bucket.capacity.toDouble
    (Double.add bucket.tokens (refilled bucket.refillPerSecond bucket.updatedAt now))

/-- `take`. -/
def take (bucket : TokenBucket) (now : Instant) (cost : FiniteDouble) : Bool × TokenBucket :=
  let tokens := bucket.budget now
  if Double.Lt tokens cost.toDouble then
    (false, { bucket with tokens := tokens, updatedAt := now })
  else (true, { bucket with tokens := Double.sub tokens cost.toDouble, updatedAt := now })

/-- The bucket that some calls leave. -/
def spend (bucket : TokenBucket) (charges : List Charge) : TokenBucket :=
  charges.foldl (fun current charge => (current.take charge.now charge.cost).2) bucket

/-- What the granted ones of some calls cost together. -/
def grantedCost : TokenBucket → List Charge → ℚ
  | _, [] => 0
  | bucket, charge :: rest =>
      (if (bucket.take charge.now charge.cost).1 then charge.cost.value else 0) +
        grantedCost (bucket.take charge.now charge.cost).2 rest

/-- The stored budget is a number between zero and the capacity. -/
def InRange (bucket : TokenBucket) : Prop :=
  Double.Le FiniteDouble.zero.toDouble bucket.tokens ∧
    Double.Le bucket.tokens bucket.capacity.toDouble

/-- After every call the stored budget is in range, and while nothing has been
spent every call within the capacity is granted. -/
def Steady (bucket : TokenBucket) (charges : List Charge) : Prop :=
  ∀ before charge after, charges = before ++ charge :: after →
    (bucket.spend (before ++ [charge])).InRange ∧
    (bucket.grantedCost before = 0 → charge.cost.value ≤ bucket.capacity.value →
      ((bucket.spend before).take charge.now charge.cost).1 = true)

/-- No step between two readings is worth less than nothing, and the first one
takes nothing from a full bucket. -/
def KeepsUp (capacity refillPerSecond : FiniteDouble) (created : Instant) :
    List Instant → Prop
  | [] => True
  | first :: rest => 0 ≤ capacity.value ∧
      Double.Le capacity.toDouble
        (Double.add capacity.toDouble (refilled refillPerSecond created first)) ∧
      (first :: rest).IsChain fun earlier later =>
        Double.Le FiniteDouble.zero.toDouble (refilled refillPerSecond earlier later)

/-! ### One call -/

private theorem take_granted {bucket : TokenBucket} {now : Instant} {cost : FiniteDouble}
    (covered : ¬Double.Lt (bucket.budget now) cost.toDouble) :
    bucket.take now cost = (true, { bucket with
      tokens := Double.sub (bucket.budget now) cost.toDouble
      updatedAt := now }) :=
  if_neg covered

private theorem take_refused {bucket : TokenBucket} {now : Instant} {cost : FiniteDouble}
    (short : Double.Lt (bucket.budget now) cost.toDouble) :
    bucket.take now cost =
      (false, { bucket with tokens := bucket.budget now, updatedAt := now }) :=
  if_pos short

/-- A call keeps the parameters and stores its reading. -/
theorem take_kept (bucket : TokenBucket) (now : Instant) (cost : FiniteDouble) :
    (bucket.take now cost).2.capacity = bucket.capacity ∧
      (bucket.take now cost).2.refillPerSecond = bucket.refillPerSecond ∧
      (bucket.take now cost).2.updatedAt = now := by
  by_cases short : Double.Lt (bucket.budget now) cost.toDouble
  · rw [take_refused short]
    exact ⟨rfl, rfl, rfl⟩
  · rw [take_granted short]
    exact ⟨rfl, rfl, rfl⟩

/-- What a bucket holds, as a finite number in range. -/
structure Holds (bucket : TokenBucket) (stored : FiniteDouble) : Prop where
  tokens : bucket.tokens = stored.toDouble
  nonnegative : 0 ≤ stored.value
  atMost : stored.value ≤ bucket.capacity.value

private theorem Holds.inRange {bucket : TokenBucket} {stored : FiniteDouble}
    (holds : bucket.Holds stored) : bucket.InRange := by
  unfold InRange
  rw [holds.tokens]
  exact ⟨FiniteDouble.toDouble_le.mpr holds.nonnegative, FiniteDouble.toDouble_le.mpr holds.atMost⟩

private theorem Holds.budget {bucket : TokenBucket} {stored : FiniteDouble}
    (holds : bucket.Holds stored)
    {now : Instant} (forward : Double.Le stored.toDouble (Double.add stored.toDouble
      (refilled bucket.refillPerSecond bucket.updatedAt now))) :
    ∃ available : FiniteDouble, bucket.budget now = available.toDouble ∧
      stored.value ≤ available.value ∧ available.value ≤ bucket.capacity.value := by
  unfold TokenBucket.budget
  rw [holds.tokens]
  exact Double.exists_min (Double.rounded_add _ _) holds.atMost forward

/-- A call whose reading takes nothing leaves the bucket in range; a full bucket
grants what is within its capacity, and stays full while nothing is spent. -/
theorem Holds.take {bucket : TokenBucket} {stored : FiniteDouble} (holds : bucket.Holds stored)
    {now : Instant} (forward : Double.Le stored.toDouble (Double.add stored.toDouble
      (refilled bucket.refillPerSecond bucket.updatedAt now)))
    {cost : FiniteDouble} (positive : 0 ≤ cost.value) :
    (∃ left, (bucket.take now cost).2.Holds left ∧
      (stored.value = bucket.capacity.value →
        (if (bucket.take now cost).1 then cost.value else 0) = 0 →
        left.value = bucket.capacity.value)) ∧
    (stored.value = bucket.capacity.value → cost.value ≤ bucket.capacity.value →
      (bucket.take now cost).1 = true) := by
  obtain ⟨available, isBudget, atLeast, atMost⟩ := holds.budget forward
  have nonnegative := holds.nonnegative.trans atLeast
  by_cases short : Double.Lt (bucket.budget now) cost.toDouble
  · have less : available.value < cost.value := by
      rw [isBudget] at short
      exact short
    rw [take_refused short]
    refine ⟨⟨available, ⟨isBudget, nonnegative, atMost⟩, fun full _ => ?_⟩, fun full within => ?_⟩
    · exact le_antisymm atMost (full ▸ atLeast)
    · linarith
  · have covered : cost.value ≤ available.value := by
      rw [isBudget] at short
      exact not_lt.mp short
    obtain ⟨left, isLeft, leftNonnegative, leftAtMost, exactly, -⟩ :=
      Double.exists_sub positive covered
    rw [take_granted short, isBudget, isLeft]
    refine ⟨⟨left, ⟨rfl, leftNonnegative, leftAtMost.trans atMost⟩, fun full free => ?_⟩,
      fun _ _ => rfl⟩
    rw [exactly free]
    exact le_antisymm atMost (full ▸ atLeast)

private theorem grantedCost_nonneg {bucket : TokenBucket} {charges : List Charge}
    (positive : ∀ charge ∈ charges, 0 ≤ charge.cost.value) : 0 ≤ bucket.grantedCost charges := by
  induction charges generalizing bucket with
  | nil => exact le_rfl
  | cons charge rest inductionHypothesis =>
      have first := positive charge List.mem_cons_self
      refine add_nonneg ?_ (inductionHypothesis fun other member =>
        positive other (List.mem_cons_of_mem _ member))
      split
      · exact first
      · exact le_rfl

private theorem spend_cons (bucket : TokenBucket) (charge : Charge) (rest : List Charge) :
    bucket.spend (charge :: rest) = (bucket.take charge.now charge.cost).2.spend rest := by
  unfold spend
  rw [List.foldl_cons]

/-- A bucket in range whose readings keep up is steady; it grants what is within
the capacity as long as it is full. -/
theorem Holds.steady {bucket : TokenBucket} {stored : FiniteDouble} (holds : bucket.Holds stored)
    {charges : List Charge} (positive : ∀ charge ∈ charges, 0 ≤ charge.cost.value)
    (forward : ∀ charge ∈ charges.head?, Double.Le stored.toDouble (Double.add stored.toDouble
      (refilled bucket.refillPerSecond bucket.updatedAt charge.now)))
    (chain : (charges.map Charge.now).IsChain fun earlier later =>
      Double.Le FiniteDouble.zero.toDouble (refilled bucket.refillPerSecond earlier later))
    {before : List Charge} {charge : Charge} {after : List Charge}
    (split : charges = before ++ charge :: after) :
    (bucket.spend (before ++ [charge])).InRange ∧
    (stored.value = bucket.capacity.value → bucket.grantedCost before = 0 →
      charge.cost.value ≤ bucket.capacity.value →
      ((bucket.spend before).take charge.now charge.cost).1 = true) := by
  induction before generalizing bucket stored charges with
  | nil =>
      subst split
      obtain ⟨⟨left, leftHolds, -⟩, grants⟩ :=
        holds.take (forward charge rfl) (positive charge List.mem_cons_self)
      exact ⟨leftHolds.inRange, fun full _ within => grants full within⟩
  | cons first rest inductionHypothesis =>
      subst split
      obtain ⟨⟨left, leftHolds, full⟩, -⟩ :=
        holds.take (forward first rfl) (positive first List.mem_cons_self)
      obtain ⟨sameCapacity, sameRefill, now⟩ := bucket.take_kept first.now first.cost
      obtain ⟨next, later⟩ := List.isChain_cons.mp chain
      have others : ∀ other ∈ rest ++ charge :: after, 0 ≤ other.cost.value :=
        fun other member => positive other (List.mem_cons_of_mem _ member)
      have paid : 0 ≤ (bucket.take first.now first.cost).2.grantedCost rest :=
        grantedCost_nonneg fun other member => others other (List.mem_append_left _ member)
      have ahead : ∀ other ∈ (rest ++ charge :: after).head?, Double.Le left.toDouble
          (Double.add left.toDouble (refilled (bucket.take first.now first.cost).2.refillPerSecond
            (bucket.take first.now first.cost).2.updatedAt other.now)) := by
        intro other member
        rw [sameRefill, now]
        refine Double.le_add (next other.now ?_)
        rw [List.head?_map]
        exact Option.mem_map_of_mem Charge.now member
      rw [← sameRefill] at later
      obtain ⟨inRange, grants⟩ := inductionHypothesis leftHolds others ahead later rfl
      rw [List.cons_append, spend_cons, spend_cons]
      refine ⟨inRange, fun isFull free within => ?_⟩
      rw [sameCapacity] at grants
      have cost := positive first List.mem_cons_self
      have spent : 0 ≤ if (bucket.take first.now first.cost).1 then first.cost.value else 0 := by
        split
        · exact cost
        · exact le_rfl
      have sum : (if (bucket.take first.now first.cost).1 then first.cost.value else 0) +
          (bucket.take first.now first.cost).2.grantedCost rest = 0 := free
      exact grants (full isFull (by linarith)) (by linarith) within

/-! ### Readings that never step back -/

/-- Some finite number beyond what two readings are apart. -/
def beyond : FiniteDouble where
  value := 2 ^ 55
  representable := ⟨1, 55, by decide, by decide, by norm_num⟩
  bounded := by
    rw [abs_of_pos (by norm_num)]
    unfold overflow
    exact pow_lt_pow_right₀ one_lt_two (by decide)

private theorem refilled_nonneg {refillPerSecond : FiniteDouble}
    (refills : 0 ≤ refillPerSecond.value)
    {earlier later : Instant} (ordered : earlier.milliseconds ≤ later.milliseconds) :
    Double.Le FiniteDouble.zero.toDouble (refilled refillPerSecond earlier later) := by
  have forward : (0 : ℚ) ≤ later.milliseconds + -earlier.milliseconds := by
    have cast : (earlier.milliseconds : ℚ) ≤ later.milliseconds := Int.cast_le.mpr ordered
    linarith
  have within : (later.milliseconds : ℚ) + -earlier.milliseconds ≤ beyond.value := by
    have first := earlier.bounded
    have second := later.bounded
    have apart : later.milliseconds + -earlier.milliseconds ≤ 2 ^ 55 := by omega
    show _ ≤ (2 : ℚ) ^ 55
    exact_mod_cast apart
  obtain ⟨elapsed, isElapsed, elapsedNonneg, elapsedAtMost⟩ := exists_round forward within
  obtain ⟨seconds, isSeconds, secondsNonneg, -⟩ :=
    exists_round (div_nonneg elapsedNonneg (by norm_num : (0 : ℚ) ≤ 1000))
      ((div_le_self elapsedNonneg (by norm_num)).trans elapsedAtMost)
  have product : refilled refillPerSecond earlier later =
      some (Binary64.round (seconds.value * refillPerSecond.value)) := by
    have difference : Double.sub later.toDouble earlier.toDouble =
        some (Binary64.round (later.milliseconds + -earlier.milliseconds)) := rfl
    unfold refilled
    rw [difference, isElapsed]
    show Double.mul (some (Binary64.round (elapsed.value / 1000))) _ = _
    rw [isSeconds]
    rfl
  rw [product]
  exact @Double.le_round FiniteDouble.zero _ (mul_nonneg secondsNonneg refills)

/-- Readings that never step back keep up. -/
theorem keepsUp_of_ordered {capacity refillPerSecond : FiniteDouble} {created : Instant}
    {readings : List Instant} (nonnegative : 0 ≤ capacity.value)
    (refills : 0 ≤ refillPerSecond.value)
    (ordered : (created :: readings).IsChain (·.milliseconds ≤ ·.milliseconds)) :
    KeepsUp capacity refillPerSecond created readings := by
  have worth : (created :: readings).IsChain fun earlier later =>
      Double.Le FiniteDouble.zero.toDouble (refilled refillPerSecond earlier later) :=
    ordered.imp fun _ _ => refilled_nonneg refills
  cases readings with
  | nil => trivial
  | cons first rest =>
      obtain ⟨next, later⟩ := List.isChain_cons.mp worth
      exact ⟨nonnegative, Double.le_add (next first rfl), later⟩

/-! ### Readings that do not keep up -/

/-- Calls that cost nothing. -/
def free (readings : List Instant) : List Charge := readings.map (⟨·, .zero⟩)

/-- A value in range is a finite number. -/
theorem InRange.exists_holds {bucket : TokenBucket} (inRange : bucket.InRange)
    (rounded : Double.Rounded bucket.tokens) : ∃ stored, bucket.Holds stored := by
  obtain ⟨above, below⟩ := inRange
  cases tokens : bucket.tokens with
  | none =>
      rw [tokens] at above
      exact above.elim
  | some number =>
      rw [tokens] at above below
      cases number with
      | infinite negative =>
          have positive : negative = false := Bool.eq_false_of_not_eq_true above
          exact absurd positive below
      | finite value =>
          obtain ⟨stored, rfl⟩ := rounded value tokens
          exact ⟨stored, tokens, not_lt.mp above, not_lt.mp below⟩

private theorem rounded_budget (bucket : TokenBucket) (now : Instant) :
    Double.Rounded (bucket.budget now) :=
  Double.rounded_min (Double.rounded_add _ _)

/-- A free call that leaves a bucket in range found a budget that was not negative. -/
theorem le_budget_of_inRange {bucket : TokenBucket} {now : Instant}
    (inRange : (bucket.take now .zero).2.InRange) :
    Double.Le FiniteDouble.zero.toDouble (bucket.budget now) := by
  by_cases short : Double.Lt (bucket.budget now) FiniteDouble.zero.toDouble
  · rw [take_refused short] at inRange
    exact inRange.1
  · rw [take_granted short] at inRange
    cases budget : bucket.budget now with
    | none =>
        rw [budget] at inRange
        exact inRange.1.elim
    | some number =>
        rw [budget] at short
        exact short

/-- A bucket can be drained by a call that costs what there is. -/
theorem exists_drains {bucket : TokenBucket} {now : Instant}
    (nonnegative : 0 ≤ bucket.capacity.value) (inRange : (bucket.take now .zero).2.InRange) :
    ∃ cost : FiniteDouble, 0 ≤ cost.value ∧
      (bucket.take now cost).2.tokens = FiniteDouble.zero.toDouble := by
  have refilledTo := @Double.le_of_le_min .zero _ _ nonnegative (le_budget_of_inRange inRange)
  obtain ⟨available, isBudget, positive, -⟩ :=
    @Double.exists_min _ .zero _ (Double.rounded_add _ _) nonnegative refilledTo
  obtain ⟨left, isLeft, -, -, -, exactly⟩ := Double.exists_sub positive (le_refl available.value)
  have covered : ¬Double.Lt (bucket.budget now) available.toDouble := by
    unfold budget
    rw [isBudget]
    exact lt_irrefl available.value
  refine ⟨available, positive, ?_⟩
  rw [take_granted covered]
  unfold budget
  rw [isBudget, isLeft]
  exact congrArg (some ∘ Number.finite) (exactly rfl)

/-- A reading that is worth less than nothing takes an empty bucket out of range. -/
theorem le_refilled_of_inRange {bucket : TokenBucket} {now : Instant}
    (empty : bucket.tokens = FiniteDouble.zero.toDouble) (nonnegative : 0 ≤ bucket.capacity.value)
    (inRange : (bucket.take now .zero).2.InRange) : Double.Le FiniteDouble.zero.toDouble
      (refilled bucket.refillPerSecond bucket.updatedAt now) := by
  have atLeast := le_budget_of_inRange inRange
  have rounded : Double.Rounded (refilled bucket.refillPerSecond bucket.updatedAt now) :=
    Double.rounded_mul _ _
  unfold budget at atLeast
  rw [empty, Double.nothing_add rounded] at atLeast
  exact @Double.le_of_le_min .zero _ _ nonnegative atLeast

private theorem rounded_take (bucket : TokenBucket) (now : Instant) (cost : FiniteDouble) :
    Double.Rounded (bucket.take now cost).2.tokens := by
  by_cases short : Double.Lt (bucket.budget now) cost.toDouble
  · rw [take_refused short]
    exact rounded_budget bucket now
  · rw [take_granted short]
    exact Double.rounded_add _ _

/-- A full bucket that grants its whole capacity has lost nothing to the reading. -/
theorem le_add_of_grants {bucket : TokenBucket} {now : Instant}
    (granted : (bucket.take now bucket.capacity).1 = true)
    (inRange : (bucket.take now bucket.capacity).2.InRange) :
    Double.Le bucket.capacity.toDouble
      (Double.add bucket.tokens (refilled bucket.refillPerSecond bucket.updatedAt now)) := by
  by_cases short : Double.Lt (bucket.budget now) bucket.capacity.toDouble
  · rw [take_refused short] at granted
    cases granted
  · rw [take_granted short] at inRange
    refine Double.le_of_not_min_lt (fun isNaN => ?_) short
    have budget : bucket.budget now = none := isNaN
    rw [budget] at inRange
    exact inRange.1

private theorem spend_kept (bucket : TokenBucket) (charges : List Charge) :
    (bucket.spend charges).capacity = bucket.capacity ∧
      (bucket.spend charges).refillPerSecond = bucket.refillPerSecond := by
  induction charges generalizing bucket with
  | nil => exact ⟨rfl, rfl⟩
  | cons charge rest inductionHypothesis =>
      obtain ⟨capacity, refill, -⟩ := bucket.take_kept charge.now charge.cost
      obtain ⟨capacity', refill'⟩ := inductionHypothesis (bucket.take charge.now charge.cost).2
      rw [spend_cons]
      exact ⟨capacity'.trans capacity, refill'.trans refill⟩

private theorem spend_concat (bucket : TokenBucket) (before : List Charge) (charge : Charge) :
    bucket.spend (before ++ [charge]) =
      ((bucket.spend before).take charge.now charge.cost).2 := by
  unfold spend
  rw [List.foldl_append]
  rfl

private theorem now_free (readings : List Instant) : (free readings).map Charge.now = readings := by
  unfold free
  rw [List.map_map]
  exact List.map_id readings

private theorem cost_free {readings : List Instant} {charge : Charge}
    (member : charge ∈ free readings) :
    0 ≤ charge.cost.value := by
  obtain ⟨now, -, rfl⟩ := List.mem_map.mp member
  exact le_rfl

/-- If the bucket is steady whatever the calls cost, its readings keep up. -/
theorem keepsUp_of_steady {capacity refillPerSecond : FiniteDouble} {created : Instant}
    {readings : List Instant}
    (steady : ∀ charges : List Charge, charges.map Charge.now = readings →
      (∀ charge ∈ charges, 0 ≤ charge.cost.value) →
      (new capacity refillPerSecond created).Steady charges) :
    KeepsUp capacity refillPerSecond created readings := by
  cases readings with
  | nil => trivial
  | cons first rest =>
      have nonnegative : 0 ≤ capacity.value := by
        have inRange := (steady (free (first :: rest)) (now_free _) (fun _ => cost_free) []
          ⟨first, .zero⟩ (free rest) rfl).1
        obtain ⟨stored, holds⟩ := InRange.exists_holds inRange (rounded_take _ _ _)
        have atMost := holds.atMost
        rw [(spend_kept _ _).1] at atMost
        exact holds.nonnegative.trans atMost
      refine ⟨nonnegative, ?_, ?_⟩
      · obtain ⟨inRange, grants⟩ := steady (⟨first, capacity⟩ :: free rest)
          (congrArg (first :: ·) (now_free rest))
          (List.forall_mem_cons.mpr ⟨nonnegative, fun _ => cost_free⟩) [] ⟨first, capacity⟩
          (free rest) rfl
        exact @le_add_of_grants (new capacity refillPerSecond created) _ (grants rfl le_rfl) inRange
      · refine List.isChain_iff_forall_rel_of_append_cons_cons.mpr ?_
        intro earlier later front back split
        let found := (new capacity refillPerSecond created).spend (free front)
        have sameCapacity : found.capacity = capacity := (spend_kept _ _).1
        have sameRefill : found.refillPerSecond = refillPerSecond := (spend_kept _ _).2
        have foundNonneg : 0 ≤ found.capacity.value := by
          rw [sameCapacity]
          exact nonnegative
        -- free calls up to the earlier reading leave a budget that one call drains
        have reached := (steady (free (first :: rest)) (now_free _) (fun _ => cost_free)
          (free front) ⟨earlier, .zero⟩ (free (later :: back)) (by
            rw [split]
            exact List.map_append)).1
        rw [spend_concat] at reached
        obtain ⟨cost, positive, empty⟩ := exists_drains foundNonneg reached
        obtain ⟨keptCapacity, keptRefill, now⟩ := found.take_kept earlier cost
        have drained := (steady (free front ++ ⟨earlier, cost⟩ :: free (later :: back)) ?_ ?_
          (free front ++ [⟨earlier, cost⟩]) ⟨later, .zero⟩ (free back) ?_).1
        · rw [spend_concat, spend_concat] at drained
          have worth := le_refilled_of_inRange empty (by
            rw [keptCapacity]
            exact foundNonneg) drained
          rw [keptRefill, sameRefill, now] at worth
          exact worth
        · rw [List.map_append, List.map_cons, now_free, now_free, split]
        · intro charge member
          rcases List.mem_append.mp member with inFront | inBack
          · exact cost_free inFront
          · rcases List.mem_cons.mp inBack with rfl | inFree
            · exact positive
            · exact cost_free inFree
        · rw [List.append_assoc]
          rfl

/-- A new bucket is steady whatever its calls cost exactly when its readings keep
up, and with a capacity and a refill that are not negative readings that never
step back do. -/
theorem steady_iff (capacity refillPerSecond : FiniteDouble) (created : Instant)
    (readings : List Instant) :
    ((∀ charges : List Charge, charges.map Charge.now = readings →
        (∀ charge ∈ charges, 0 ≤ charge.cost.value) →
        (new capacity refillPerSecond created).Steady charges) ↔
      KeepsUp capacity refillPerSecond created readings) ∧
    (0 ≤ capacity.value → 0 ≤ refillPerSecond.value →
      (created :: readings).IsChain (·.milliseconds ≤ ·.milliseconds) →
      KeepsUp capacity refillPerSecond created readings) := by
  refine ⟨⟨keepsUp_of_steady, fun keepsUp charges sameReadings positive => ?_⟩,
    keepsUp_of_ordered⟩
  cases charges with
  | nil =>
      intro before charge after split
      exact absurd split (by simp)
  | cons first rest =>
      subst sameReadings
      obtain ⟨nonnegative, forward, chain⟩ := keepsUp
      have holds : (new capacity refillPerSecond created).Holds capacity :=
        ⟨rfl, nonnegative, le_rfl⟩
      intro before charge after split
      obtain ⟨inRange, grants⟩ := holds.steady positive (by
        rintro charge ⟨⟩
        exact forward) chain split
      exact ⟨inRange, grants rfl⟩

/-- A clock that is set back three seconds takes the budget of a connection that
has spent nothing below zero, and its first call is refused. -/
theorem steps_back :
    ¬∀ (capacity refillPerSecond : FiniteDouble) (created : Instant) (charges : List Charge),
      0 ≤ capacity.value → 0 ≤ refillPerSecond.value →
      (∀ charge ∈ charges, 0 ≤ charge.cost.value) →
      (new capacity refillPerSecond created).Steady charges := by
  intro steady
  have kept := steady (.ofInt 10 (by decide)) (.ofInt 5 (by decide)) ⟨3000, by decide⟩
    [⟨⟨0, by decide⟩, .ofInt 1 (by decide)⟩] (by decide +kernel) (by decide +kernel)
    (by decide +kernel)
  have first := (kept [] ⟨⟨0, by decide⟩, .ofInt 1 (by decide)⟩ [] rfl).2 rfl (by decide +kernel)
  revert first
  decide +kernel

/-- A step back that is worth exactly what is missing is worth more in doubles. -/
example : ((new (.ofInt 100 (by decide)) (.ofInt 50 (by decide)) ⟨1100, by decide⟩).take
    ⟨0, by decide⟩ (.ofInt 45 (by decide))).1 = false := by decide +kernel

/-! ### Over the rationals -/

/-- A bucket, and the one over the rationals that has the same numbers. -/
structure Reads (bucket : TokenBucket) (exact : Ws.TokenBucket) : Prop where
  capacity : bucket.capacity.value = exact.capacity
  refillPerSecond : bucket.refillPerSecond.value = exact.refillPerSecond
  tokens : bucket.tokens = some (.finite exact.tokens)
  updatedAt : bucket.updatedAt.milliseconds = exact.updatedAt

/-- Nothing that a call computes has to be rounded. -/
structure Unrounded (exact : Ws.TokenBucket) (now : ℤ) (cost : ℚ) : Prop where
  elapsed : Binary64.round (now + -exact.updatedAt) = .finite (now + -exact.updatedAt)
  seconds : Binary64.round ((now + -exact.updatedAt) / 1000) =
    .finite ((now + -exact.updatedAt) / 1000)
  refilled : Binary64.round ((now + -exact.updatedAt) / 1000 * exact.refillPerSecond) =
    .finite ((now + -exact.updatedAt) / 1000 * exact.refillPerSecond)
  tokens : Binary64.round
      (exact.tokens + (now + -exact.updatedAt) / 1000 * exact.refillPerSecond) =
    .finite (exact.tokens + (now + -exact.updatedAt) / 1000 * exact.refillPerSecond)
  left : Binary64.round (exact.budget now + -cost) = .finite (exact.budget now + -cost)

/-- Where nothing is rounded the doubles do what the rationals do. -/
theorem Reads.take {bucket : TokenBucket} {exact : Ws.TokenBucket} (reads : bucket.Reads exact)
    {now : Instant} {cost : FiniteDouble}
    (unrounded : Unrounded exact now.milliseconds cost.value) :
    (bucket.take now cost).1 = (exact.take now.milliseconds cost.value).1 ∧
      (bucket.take now cost).2.Reads (exact.take now.milliseconds cost.value).2 := by
  have isRefilled : refilled bucket.refillPerSecond bucket.updatedAt now = some (.finite
      ((now.milliseconds + -exact.updatedAt) / 1000 * exact.refillPerSecond)) := by
    have difference : Double.sub now.toDouble bucket.updatedAt.toDouble =
        some (Binary64.round (now.milliseconds + -exact.updatedAt)) := by
      rw [← reads.updatedAt]
      rfl
    unfold refilled
    rw [difference, unrounded.elapsed]
    show Double.mul (some (Binary64.round _)) _ = _
    rw [unrounded.seconds]
    show some (Binary64.round (_ * bucket.refillPerSecond.value)) = _
    rw [reads.refillPerSecond, unrounded.refilled]
  have isBudget : bucket.budget now = some (.finite (exact.budget now.milliseconds)) := by
    have sum : Double.add bucket.tokens (refilled bucket.refillPerSecond bucket.updatedAt now) =
        some (.finite (exact.tokens +
          (now.milliseconds + -exact.updatedAt) / 1000 * exact.refillPerSecond)) := by
      rw [reads.tokens, isRefilled]
      exact congrArg some unrounded.tokens
    have elapsed : ((now.milliseconds - exact.updatedAt : ℤ) : ℚ) =
        now.milliseconds + -exact.updatedAt := by
      push_cast
      ring
    unfold budget Ws.TokenBucket.budget Ws.TokenBucket.refilled
    rw [sum, elapsed, FiniteDouble.toDouble, reads.capacity]
    exact Double.min_finite _ _
  have short : Double.Lt (bucket.budget now) cost.toDouble ↔
      exact.budget now.milliseconds < cost.value := by
    rw [isBudget]
    exact Iff.rfl
  unfold TokenBucket.take Ws.TokenBucket.take
  by_cases refused : exact.budget now.milliseconds < cost.value
  · rw [if_pos (short.mpr refused), if_pos refused]
    exact ⟨rfl, reads.capacity, reads.refillPerSecond, isBudget, rfl⟩
  · rw [if_neg (mt short.mp refused), if_neg refused]
    refine ⟨rfl, reads.capacity, reads.refillPerSecond, ?_, rfl⟩
    show Double.sub (bucket.budget now) cost.toDouble = _
    rw [isBudget, sub_eq_add_neg]
    exact congrArg some unrounded.left

end TokenBucket

end CollabEditor.Ws.WallClock
