import CollabEditor.Ws.RateLimit

/-!
Owns what a token bucket over exact rationals answers to whole sequences of
calls: how much any window of calls is granted, and which calls can be left out.
-/

set_option autoImplicit false

namespace CollabEditor.Ws

namespace TokenBucket

/-- What a bucket answers to some calls. -/
def replies : TokenBucket → List Charge → List Bool
  | _, [] => []
  | bucket, charge :: rest =>
      (bucket.take charge.now charge.cost).1 ::
        replies (bucket.take charge.now charge.cost).2 rest

/-- What the granted ones of some calls cost together. -/
def grantedCost : TokenBucket → List Charge → ℚ
  | _, [] => 0
  | bucket, charge :: rest =>
      (if (bucket.take charge.now charge.cost).1 then charge.cost else 0) +
        grantedCost (bucket.take charge.now charge.cost).2 rest

/-! ### One call -/

private theorem take_granted {bucket : TokenBucket} {now : ℤ} {cost : ℚ}
    (covered : cost ≤ bucket.budget now) :
    bucket.take now cost =
      (true, { bucket with tokens := bucket.budget now - cost, updatedAt := now }) :=
  if_neg (not_lt.mpr covered)

private theorem take_refused {bucket : TokenBucket} {now : ℤ} {cost : ℚ}
    (short : bucket.budget now < cost) :
    bucket.take now cost =
      (false, { bucket with tokens := bucket.budget now, updatedAt := now }) :=
  if_pos short

theorem take_fst_iff (bucket : TokenBucket) (now : ℤ) (cost : ℚ) :
    (bucket.take now cost).1 = true ↔ cost ≤ bucket.budget now := by
  rcases lt_or_ge (bucket.budget now) cost with short | covered
  · rw [take_refused short]
    exact iff_of_false Bool.false_ne_true (not_le.mpr short)
  · rw [take_granted covered]
    exact iff_of_true rfl covered

/-- A call leaves the parameters of the bucket and stores its reading. -/
theorem take_snd (bucket : TokenBucket) (now : ℤ) (cost : ℚ) :
    (bucket.take now cost).2 =
      { bucket with
        tokens := bucket.budget now - if (bucket.take now cost).1 then cost else 0
        updatedAt := now } := by
  rcases lt_or_ge (bucket.budget now) cost with short | covered
  · rw [take_refused short, if_neg Bool.false_ne_true, sub_zero]
  · rw [take_granted covered, if_pos rfl]

/-- A call sees nothing of a bucket but its parameters and its budget. -/
theorem take_congr {bucket other : TokenBucket} {now : ℤ} (cost : ℚ)
    (capacity : other.capacity = bucket.capacity)
    (refill : other.refillPerSecond = bucket.refillPerSecond)
    (budget : other.budget now = bucket.budget now) :
    other.take now cost = bucket.take now cost := by
  rw [take, take, budget, capacity, refill]

private theorem budget_le_capacity (bucket : TokenBucket) (now : ℤ) :
    bucket.budget now ≤ bucket.capacity :=
  min_le_left _ _

/-! ### Sequences of calls -/

private theorem spend_cons (bucket : TokenBucket) (charge : Charge) (rest : List Charge) :
    bucket.spend (charge :: rest) = (bucket.take charge.now charge.cost).2.spend rest := by
  unfold spend
  rw [List.foldl_cons]

private theorem spend_capacity (bucket : TokenBucket) (charges : List Charge) :
    (bucket.spend charges).capacity = bucket.capacity := by
  induction charges generalizing bucket with
  | nil => rfl
  | cons charge rest inductionHypothesis =>
      rw [spend_cons, inductionHypothesis, take_snd]

private theorem spend_refillPerSecond (bucket : TokenBucket) (charges : List Charge) :
    (bucket.spend charges).refillPerSecond = bucket.refillPerSecond := by
  induction charges generalizing bucket with
  | nil => rfl
  | cons charge rest inductionHypothesis =>
      rw [spend_cons, inductionHypothesis, take_snd]

private theorem replies_append (bucket : TokenBucket) (front back : List Charge) :
    bucket.replies (front ++ back) = bucket.replies front ++ (bucket.spend front).replies back := by
  induction front generalizing bucket with
  | nil => rfl
  | cons charge rest inductionHypothesis =>
      rw [List.cons_append, replies, inductionHypothesis, replies, List.cons_append, spend_cons]

private theorem replies_length (bucket : TokenBucket) (charges : List Charge) :
    (bucket.replies charges).length = charges.length := by
  induction charges generalizing bucket with
  | nil => rfl
  | cons charge rest inductionHypothesis =>
      rw [replies, List.length_cons, List.length_cons, inductionHypothesis]

/-! ### What a window is granted -/

/-- A bucket that never holds more than some amount and what is refilled from
`s` on grants no more than that until `t`. -/
theorem grantedCost_le {bucket : TokenBucket} {charges : List Charge} {s t : ℤ} {available : ℚ}
    (refills : 0 ≤ bucket.refillPerSecond) (positive : ∀ charge ∈ charges, 0 ≤ charge.cost)
    (ordered : charges.Pairwise (·.now ≤ ·.now))
    (inside : ∀ charge ∈ charges, s ≤ charge.now ∧ charge.now ≤ t)
    (holds : ∀ now, s ≤ now →
      bucket.budget now ≤ available + refilled bucket.refillPerSecond s now) :
    bucket.grantedCost charges ≤ max 0 (available + refilled bucket.refillPerSecond s t) := by
  induction charges generalizing bucket s available with
  | nil => exact le_max_left _ _
  | cons charge rest inductionHypothesis =>
      obtain ⟨earlier, ordered⟩ := List.pairwise_cons.mp ordered
      obtain ⟨starts, ends⟩ := inside charge List.mem_cons_self
      have cost := positive charge List.mem_cons_self
      have held := holds charge.now starts
      have remaining := refilled_nonneg refills ends
      have whole := refilled_add bucket.refillPerSecond s charge.now t
      let spent : ℚ := if (bucket.take charge.now charge.cost).1 then charge.cost else 0
      have left : (bucket.take charge.now charge.cost).2 =
          { bucket with tokens := bucket.budget charge.now - spent, updatedAt := charge.now } :=
        take_snd bucket charge.now charge.cost
      have later := @inductionHypothesis (bucket.take charge.now charge.cost).2 charge.now
        (bucket.budget charge.now - spent) (by rw [left]; exact refills)
        (fun other member => positive other (List.mem_cons_of_mem _ member)) ordered
        (fun other member =>
          ⟨earlier other member, (inside other (List.mem_cons_of_mem _ member)).2⟩)
        (fun now _ => by rw [left]; exact min_le_right _ _)
      have refill : (bucket.take charge.now charge.cost).2.refillPerSecond =
          bucket.refillPerSecond := by rw [left]
      rw [refill] at later
      show spent + (bucket.take charge.now charge.cost).2.grantedCost rest ≤ _
      by_cases granted : (bucket.take charge.now charge.cost).1 = true
      · have isCost : spent = charge.cost := if_pos granted
        have covered := (take_fst_iff bucket charge.now charge.cost).mp granted
        refine le_trans ?_ (le_max_right _ _)
        rcases le_max_iff.mp later with nothing | some <;> linarith
      · have isZero : spent = 0 := if_neg granted
        rcases le_max_iff.mp later with nothing | some
        · exact le_trans (by linarith) (le_max_left _ _)
        · exact le_trans (by linarith) (le_max_right _ _)

/-- A refused call only brings the stored budget up to date, which the next call
does as well. -/
theorem replies_after_refused {bucket : TokenBucket} {refused : Charge} {after : List Charge}
    (refills : 0 ≤ bucket.refillPerSecond)
    (short : (bucket.take refused.now refused.cost).1 = false)
    (later : ∀ charge ∈ after, refused.now ≤ charge.now) :
    (bucket.take refused.now refused.cost).2.replies after = bucket.replies after := by
  cases after with
  | nil => rfl
  | cons charge rest =>
      have forward := refilled_nonneg refills (later charge List.mem_cons_self)
      have brought : (bucket.take refused.now refused.cost).2 =
          { bucket with tokens := bucket.budget refused.now, updatedAt := refused.now } := by
        rw [take_snd, short, if_neg Bool.false_ne_true, sub_zero]
      have sameBudget : (bucket.take refused.now refused.cost).2.budget charge.now =
          bucket.budget charge.now := by
        rw [brought, budget, budget, budget, ← min_add_add_right, ← min_assoc, add_assoc,
          refilled_add, min_eq_left (le_add_of_nonneg_right forward)]
      have sameTake : (bucket.take refused.now refused.cost).2.take charge.now charge.cost =
          bucket.take charge.now charge.cost := by
        refine take_congr charge.cost ?_ ?_ sameBudget
        · rw [brought]
        · rw [brought]
      rw [replies, replies, sameTake]

/-- Over calls in the order of time, no window is granted more than the capacity
and what is refilled while it lasts, and a call that is refused can be left out. -/
theorem window_bounded (bucket : TokenBucket) (charges : List Charge)
    (capacity : 0 ≤ bucket.capacity) (refills : 0 ≤ bucket.refillPerSecond)
    (positive : ∀ charge ∈ charges, 0 ≤ charge.cost)
    (ordered : charges.Pairwise (·.now ≤ ·.now)) :
    (∀ before window after s t, charges = before ++ window ++ after → s ≤ t →
      (∀ charge ∈ window, s ≤ charge.now ∧ charge.now ≤ t) →
      (bucket.spend before).grantedCost window ≤
        bucket.capacity + bucket.refillPerSecond * (t - s : ℤ) / 1000) ∧
    ∀ before refused after, charges = before ++ refused :: after →
      ((bucket.spend before).take refused.now refused.cost).1 = false →
      bucket.replies (before ++ after) = (bucket.replies charges).eraseIdx before.length := by
  constructor
  · rintro before window after s t rfl forward inside
    have refilledForward := refilled_nonneg refills forward
    have bound := @grantedCost_le (bucket.spend before) window s t bucket.capacity
      (by rw [spend_refillPerSecond]; exact refills)
      (fun charge member => positive charge
        (List.mem_append_left _ (List.mem_append_right _ member)))
      (List.pairwise_append.mp (List.pairwise_append.mp ordered).1).2.1 inside
      (fun now later => by
        have full := budget_le_capacity (bucket.spend before) now
        rw [spend_capacity] at full
        rw [spend_refillPerSecond]
        have := refilled_nonneg refills later
        linarith)
    rw [spend_refillPerSecond, max_eq_right (by linarith)] at bound
    have spelled : refilled bucket.refillPerSecond s t =
        bucket.refillPerSecond * (t - s : ℤ) / 1000 := by
      unfold refilled
      ring
    rw [← spelled]
    exact bound
  · rintro before refused after rfl short
    have later : ∀ charge ∈ after, refused.now ≤ charge.now :=
      (List.pairwise_cons.mp (List.pairwise_append.mp ordered).2.1).1
    have rest := replies_after_refused (by rw [spend_refillPerSecond]; exact refills) short later
    rw [replies_append, replies_append, replies, rest,
      List.eraseIdx_append_of_length_le (replies_length bucket before).le, replies_length,
      Nat.sub_self, List.eraseIdx_cons_zero]

/-- Ten calls' worth of budget, a refusal in the middle, and a second later. -/
theorem window_bounded_bursts :
    (new 10 5 0).replies [⟨0, 4⟩, ⟨0, 7⟩, ⟨1000, 7⟩] = [true, false, true] ∧
    (new 10 5 0).replies [⟨0, 4⟩, ⟨1000, 7⟩] = [true, true] ∧
    (new 10 5 0).grantedCost [⟨0, 4⟩, ⟨0, 7⟩, ⟨1000, 7⟩] ≤ 10 + 5 * (1000 - 0 : ℤ) / 1000 := by
  have bounded := window_bounded (new 10 5 0) [⟨0, 4⟩, ⟨0, 7⟩, ⟨1000, 7⟩] (by decide +kernel)
    (by decide +kernel) (by decide +kernel) (by decide +kernel)
  have answered : (new 10 5 0).replies [⟨0, 4⟩, ⟨0, 7⟩, ⟨1000, 7⟩] = [true, false, true] := by
    decide +kernel
  refine ⟨answered, ?_, bounded.1 [] _ [] 0 1000 rfl (by decide) (by decide +kernel)⟩
  have skipped := bounded.2 [⟨0, 4⟩] ⟨0, 7⟩ [⟨1000, 7⟩] rfl (by decide +kernel)
  rw [answered] at skipped
  exact skipped

end TokenBucket

end CollabEditor.Ws
