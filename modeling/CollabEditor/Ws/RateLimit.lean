import Mathlib.Data.Rat.Defs
import Mathlib.Algebra.Order.BigOperators.Group.List
import Mathlib.Algebra.Order.Group.MinMax
import Mathlib.Algebra.Order.Ring.Rat
import Mathlib.Tactic.Linarith
import Mathlib.Tactic.Ring

/-!
Owns `ws/rate-limit.ts` over exact rationals, with the readings of `Date.now`
as arguments, and what a bucket that starts full grants: every window of calls
costs at most the capacity and what is refilled meanwhile. The code computes in
doubles, which do the same where nothing is rounded.
-/

namespace CollabEditor.Ws

/-- `TokenBucket`. -/
structure TokenBucket where
  capacity : ℚ
  refillPerSecond : ℚ
  tokens : ℚ
  updatedAt : ℤ

/-- One call of `take`: the reading of `Date.now` and the cost. -/
structure Charge where
  now : ℤ
  cost : ℚ

namespace TokenBucket

/-- `new TokenBucket(capacity, refillPerSecond)`. -/
def new (capacity refillPerSecond : ℚ) (now : ℤ) : TokenBucket :=
  ⟨capacity, refillPerSecond, capacity, now⟩

/-- What is refilled between two readings. -/
def refilled (refillPerSecond : ℚ) (earlier later : ℤ) : ℚ :=
  (later - earlier : ℤ) / 1000 * refillPerSecond

/-- The budget at a reading. -/
def budget (bucket : TokenBucket) (now : ℤ) : ℚ :=
  min bucket.capacity (bucket.tokens + refilled bucket.refillPerSecond bucket.updatedAt now)

/-- `take`. -/
def take (bucket : TokenBucket) (now : ℤ) (cost : ℚ) : Bool × TokenBucket :=
  if bucket.budget now < cost then
    (false, { bucket with tokens := bucket.budget now, updatedAt := now })
  else (true, { bucket with tokens := bucket.budget now - cost, updatedAt := now })

/-- Every one of some calls is granted. -/
def GrantsAll : TokenBucket → List Charge → Prop
  | _, [] => True
  | bucket, charge :: rest =>
      (bucket.take charge.now charge.cost).1 = true ∧
        GrantsAll (bucket.take charge.now charge.cost).2 rest

/-- The bucket that some calls leave. -/
def spend (bucket : TokenBucket) (charges : List Charge) : TokenBucket :=
  charges.foldl (fun current charge => (current.take charge.now charge.cost).2) bucket

end TokenBucket

/-- What some calls cost together. -/
def totalCost (charges : List Charge) : ℚ := (charges.map Charge.cost).sum

/-- No stretch of consecutive calls costs more than the capacity and what is
refilled from its first call to its last. -/
def Conforms (capacity refillPerSecond : ℚ) (charges : List Charge) : Prop :=
  ∀ before window after first last, charges = before ++ window ++ after →
    window.head? = some first → window.getLast? = some last →
      totalCost window ≤
        capacity + TokenBucket.refilled refillPerSecond first.now last.now

/-- The calls up to any of them cost no more than what there is at `now` and
what is refilled until then. -/
def Affords (refillPerSecond tokens : ℚ) (now : ℤ) (charges : List Charge) : Prop :=
  ∀ front after last, charges = front ++ after → front.getLast? = some last →
    totalCost front ≤ tokens + TokenBucket.refilled refillPerSecond now last.now

/-! ### What a bucket grants -/

theorem totalCost_cons (charge : Charge) (rest : List Charge) :
    totalCost (charge :: rest) = charge.cost + totalCost rest := by
  rw [totalCost, List.map_cons, List.sum_cons, totalCost]

namespace TokenBucket

theorem refilled_add (refillPerSecond : ℚ) (earlier between later : ℤ) :
    refilled refillPerSecond earlier between + refilled refillPerSecond between later =
      refilled refillPerSecond earlier later := by
  unfold refilled
  push_cast
  ring

private theorem refilled_self (refillPerSecond : ℚ) (now : ℤ) :
    refilled refillPerSecond now now = 0 := by
  unfold refilled
  simp

theorem refilled_nonneg {refillPerSecond : ℚ} (positive : 0 ≤ refillPerSecond) {earlier later : ℤ}
    (ordered : earlier ≤ later) : 0 ≤ refilled refillPerSecond earlier later := by
  have elapsed : (0 : ℚ) ≤ (later - earlier : ℤ) := by exact_mod_cast sub_nonneg.mpr ordered
  exact mul_nonneg (div_nonneg elapsed (by norm_num)) positive

end TokenBucket

section

variable {refillPerSecond capacity tokens : ℚ} {now : ℤ} {charge : Charge} {rest : List Charge}

private theorem affords_nil : Affords refillPerSecond tokens now [] := by
  intro front after last split isLast
  rw [(List.append_eq_nil_iff.mp split.symm).1] at isLast
  cases isLast

/-- The first call has to be affordable, and the others with what it leaves. -/
theorem affords_cons : Affords refillPerSecond tokens now (charge :: rest) ↔
    charge.cost ≤ tokens + TokenBucket.refilled refillPerSecond now charge.now ∧
      Affords refillPerSecond
        (tokens + TokenBucket.refilled refillPerSecond now charge.now - charge.cost)
        charge.now rest := by
  constructor
  · intro affords
    constructor
    · have first := affords [charge] rest charge rfl rfl
      rwa [totalCost_cons, totalCost, List.map_nil, List.sum_nil, add_zero] at first
    · intro front after last split isLast
      have longer := affords (charge :: front) after last (by rw [split, List.cons_append])
        (by rw [List.getLast?_cons, isLast, Option.getD_some])
      rw [totalCost_cons, ← TokenBucket.refilled_add refillPerSecond now charge.now] at longer
      linarith
  · rintro ⟨first, others⟩ front after last split isLast
    cases front with
    | nil => cases isLast
    | cons head tail =>
        rw [List.cons_append, List.cons.injEq] at split
        obtain ⟨rfl, split⟩ := split
        cases lastOfTail : tail.getLast? with
        | none =>
            rw [List.getLast?_cons, lastOfTail] at isLast
            obtain rfl := Option.some.inj isLast
            rw [List.getLast?_eq_none_iff.mp lastOfTail, totalCost_cons, totalCost, List.map_nil,
              List.sum_nil, add_zero]
            exact first
        | some final =>
            rw [List.getLast?_cons, lastOfTail, Option.getD_some] at isLast
            obtain rfl := Option.some.inj isLast
            have shorter := others tail after final split lastOfTail
            rw [totalCost_cons, ← TokenBucket.refilled_add refillPerSecond now charge.now]
            linarith

private theorem affords_min (other : ℚ) : Affords refillPerSecond (min tokens other) now rest ↔
    Affords refillPerSecond tokens now rest ∧ Affords refillPerSecond other now rest := by
  have split : ∀ cost bound : ℚ,
      cost ≤ min tokens other + bound ↔ cost ≤ tokens + bound ∧ cost ≤ other + bound := by
    intro cost bound
    rw [← sub_le_iff_le_add, le_min_iff, sub_le_iff_le_add, sub_le_iff_le_add]
  constructor
  · intro affords
    exact ⟨fun front after last isFront isLast =>
        ((split _ _).mp (affords front after last isFront isLast)).1,
      fun front after last isFront isLast =>
        ((split _ _).mp (affords front after last isFront isLast)).2⟩
  · rintro ⟨first, second⟩ front after last isFront isLast
    exact (split _ _).mpr ⟨first front after last isFront isLast,
      second front after last isFront isLast⟩

private theorem conforms_nil : Conforms capacity refillPerSecond [] := by
  intro before window after first last split isFirst
  rw [(List.append_eq_nil_iff.mp (List.append_eq_nil_iff.mp split.symm).1).2] at isFirst
  cases isFirst

private theorem conforms_cons : Conforms capacity refillPerSecond (charge :: rest) ↔
    Affords refillPerSecond capacity charge.now (charge :: rest) ∧
      Conforms capacity refillPerSecond rest := by
  constructor
  · intro conforms
    constructor
    · intro front after last split isLast
      cases front with
      | nil => cases isLast
      | cons head tail =>
          obtain ⟨rfl, -⟩ := List.cons.inj split
          exact conforms [] (charge :: tail) after charge last split rfl isLast
    · intro before window after first last split isFirst isLast
      exact conforms (charge :: before) window after first last
        (by rw [split, List.cons_append, List.cons_append]) isFirst isLast
  · rintro ⟨affords, conforms⟩ before window after first last split isFirst isLast
    cases before with
    | cons head tail =>
        rw [List.cons_append, List.cons_append, List.cons.injEq] at split
        exact conforms tail window after first last split.2 isFirst isLast
    | nil =>
        cases window with
        | nil => cases isFirst
        | cons head tail =>
            obtain rfl := Option.some.inj isFirst
            obtain ⟨rfl, -⟩ := List.cons.inj split
            exact affords (charge :: tail) after last split isLast

end

theorem totalCost_append (front back : List Charge) :
    totalCost (front ++ back) = totalCost front + totalCost back := by
  rw [totalCost, List.map_append, List.sum_append, totalCost, totalCost]

private theorem totalCost_nonneg {charges : List Charge}
    (positive : ∀ charge ∈ charges, 0 ≤ charge.cost) :
    0 ≤ totalCost charges := by
  refine List.sum_nonneg fun cost member => ?_
  obtain ⟨charge, isCharge, rfl⟩ := List.mem_map.mp member
  exact positive charge isCharge

/-- Calls in the order of time that the capacity covers without a refill. -/
theorem conforms_of_totalCost_le {capacity refillPerSecond : ℚ} {charges : List Charge}
    (refills : 0 ≤ refillPerSecond) (positive : ∀ charge ∈ charges, 0 ≤ charge.cost)
    (ordered : charges.Pairwise (·.now ≤ ·.now)) (covered : totalCost charges ≤ capacity) :
    Conforms capacity refillPerSecond charges := by
  intro before window after first last split isFirst isLast
  have costs : totalCost window ≤ totalCost charges := by
    have outside := totalCost_nonneg fun charge member => positive charge <| by
      rw [split, List.append_assoc]
      exact List.mem_append_left _ member
    have behind := totalCost_nonneg fun charge member => positive charge <| by
      rw [split]
      exact List.mem_append_right _ member
    rw [split, totalCost_append, totalCost_append]
    linarith
  have inWindow : window.Pairwise (·.now ≤ ·.now) := by
    rw [split, List.append_assoc] at ordered
    exact (List.pairwise_append.mp (List.pairwise_append.mp ordered).2.1).1
  have forward : first.now ≤ last.now := by
    cases window with
    | nil => cases isFirst
    | cons head tail =>
        obtain rfl := Option.some.inj isFirst
        rcases List.mem_cons.mp (List.mem_of_getLast? isLast) with rfl | later
        · exact le_refl _
        · exact (List.pairwise_cons.mp inWindow).1 last later
  have refilled := TokenBucket.refilled_nonneg refills forward
  linarith

namespace TokenBucket

/-- A bucket grants all of some calls exactly when they conform and it can
afford them from what it has. -/
theorem grantsAll_iff (bucket : TokenBucket) (charges : List Charge) :
    bucket.GrantsAll charges ↔
      Affords bucket.refillPerSecond bucket.tokens bucket.updatedAt charges ∧
        Conforms bucket.capacity bucket.refillPerSecond charges := by
  induction charges generalizing bucket with
  | nil => exact iff_of_true trivial ⟨affords_nil, conforms_nil⟩
  | cons charge rest inductionHypothesis =>
      have enough : (bucket.take charge.now charge.cost).1 = true ↔
          charge.cost ≤ bucket.budget charge.now := by
        unfold take
        split
        · next short => exact iff_of_false (by simp) (not_le.mpr short)
        · next covered => exact iff_of_true rfl (not_lt.mp covered)
      have leaves : charge.cost ≤ bucket.budget charge.now →
          (bucket.take charge.now charge.cost).2 = { bucket with
            tokens := bucket.budget charge.now - charge.cost
            updatedAt := charge.now } := by
        intro covered
        rw [take, if_neg (not_lt.mpr covered)]
      have budget : ∀ cost : ℚ, bucket.budget charge.now - cost =
          min (bucket.tokens + refilled bucket.refillPerSecond bucket.updatedAt charge.now - cost)
            (bucket.capacity - cost) := by
        intro cost
        rw [TokenBucket.budget, min_comm, min_sub_sub_right]
      rw [GrantsAll, enough, affords_cons, conforms_cons, affords_cons, refilled_self, add_zero]
      constructor
      · rintro ⟨covered, others⟩
        rw [leaves covered, inductionHypothesis] at others
        obtain ⟨affords, conforms⟩ := others
        dsimp only at affords conforms
        rw [budget, affords_min] at affords
        exact ⟨⟨(le_min_iff.mp covered).2, affords.1⟩, ⟨(le_min_iff.mp covered).1, affords.2⟩,
          conforms⟩
      · rintro ⟨⟨first, affords⟩, ⟨capped, affordsFull⟩, conforms⟩
        have covered : charge.cost ≤ bucket.budget charge.now := le_min capped first
        refine ⟨covered, ?_⟩
        rw [leaves covered, inductionHypothesis]
        refine ⟨?_, conforms⟩
        dsimp only
        rw [budget, affords_min]
        exact ⟨affords, affordsFull⟩

theorem grantsAll_append (bucket : TokenBucket) (front back : List Charge) :
    bucket.GrantsAll (front ++ back) ↔
      bucket.GrantsAll front ∧ (bucket.spend front).GrantsAll back := by
  induction front generalizing bucket with
  | nil => exact ⟨fun grants => ⟨trivial, grants⟩, And.right⟩
  | cons charge rest inductionHypothesis =>
      rw [List.cons_append, GrantsAll, GrantsAll, inductionHypothesis, and_assoc]
      rfl

/-- For a new bucket the time of its construction counts as a call for free. -/
theorem new_grantsAll_iff {capacity : ℚ} (positive : 0 ≤ capacity) (refillPerSecond : ℚ)
    (created : ℤ) (charges : List Charge) :
    (new capacity refillPerSecond created).GrantsAll charges ↔
      Conforms capacity refillPerSecond (⟨created, 0⟩ :: charges) := by
  rw [grantsAll_iff, conforms_cons, affords_cons]
  dsimp only [new]
  rw [refilled_self, add_zero, sub_zero]
  exact ⟨fun both => ⟨⟨positive, both.1⟩, both.2⟩, fun both => ⟨both.1.2, both.2⟩⟩

end TokenBucket

end CollabEditor.Ws
