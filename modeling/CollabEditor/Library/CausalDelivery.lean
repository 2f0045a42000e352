import Mathlib.Data.Finset.Card
import Mathlib.Logic.Function.Iterate

/-!
Owns causal delivery of operations: each operation names the operations it
depends on, operations arrive in any order, and an arrived operation counts as
integrated once everything it depends on has been integrated too. `integrate`
computes that set; `Integrable` characterises it.
-/

namespace CollabEditor.Library

universe u

/-- The operations that have to be integrated before a given one. -/
class Causality (Op : Type u) where
  deps : Op → Finset Op

export Causality (deps)

variable {Op : Type u} [DecidableEq Op] [Causality Op]

/-- `op` can be integrated from the arrived operations alone. -/
inductive Integrable (arrived : Finset Op) : Op → Prop where
  | intro {op : Op} (member : op ∈ arrived)
      (ready : ∀ dep ∈ deps op, Integrable arrived dep) : Integrable arrived op

/-- One pass: the arrived operations whose dependencies are already done. -/
def sweep (arrived done : Finset Op) : Finset Op :=
  arrived.filter fun op => deps op ⊆ done

/-- Passes repeated until nothing more becomes ready. Each pass that is not
the last adds an operation, so `arrived.card` passes suffice. -/
def integrate (arrived : Finset Op) : Finset Op :=
  (sweep arrived)^[arrived.card] ∅

theorem mem_sweep {arrived done : Finset Op} {op : Op} :
    op ∈ sweep arrived done ↔ op ∈ arrived ∧ deps op ⊆ done := by
  simp [sweep]

theorem sweep_mono (arrived : Finset Op) {fewer more : Finset Op} (sub : fewer ⊆ more) :
    sweep arrived fewer ⊆ sweep arrived more := by
  intro op member
  rw [mem_sweep] at member ⊢
  exact ⟨member.1, member.2.trans sub⟩

private theorem passes_succ (arrived : Finset Op) (count : ℕ) :
    (sweep arrived)^[count] ∅ ⊆ (sweep arrived)^[count + 1] ∅ := by
  induction count with
  | zero => simp
  | succ count inductionHypothesis =>
      rw [Function.iterate_succ_apply', Function.iterate_succ_apply']
      exact sweep_mono arrived inductionHypothesis

private theorem passes_subset (arrived : Finset Op) (count : ℕ) :
    (sweep arrived)^[count] ∅ ⊆ arrived := by
  cases count with
  | zero => simp
  | succ count =>
      rw [Function.iterate_succ_apply']
      exact Finset.filter_subset _ _

/-- Either the passes have become stationary or each one added something. -/
private theorem passes_stationary_or_card (arrived : Finset Op) (count : ℕ) :
    (sweep arrived)^[count + 1] ∅ = (sweep arrived)^[count] ∅ ∨
      count < ((sweep arrived)^[count + 1] ∅).card := by
  induction count with
  | zero =>
      rcases Finset.eq_empty_or_nonempty ((sweep arrived)^[1] ∅) with empty | nonempty
      · exact Or.inl (by simpa using empty)
      · exact Or.inr (Finset.card_pos.mpr nonempty)
  | succ count inductionHypothesis =>
      rcases inductionHypothesis with stationary | grown
      · left
        rw [Function.iterate_succ_apply', stationary,
          ← Function.iterate_succ_apply' (sweep arrived), stationary]
      · by_cases same : (sweep arrived)^[count + 1 + 1] ∅ = (sweep arrived)^[count + 1] ∅
        · exact Or.inl same
        · right
          have strict : (sweep arrived)^[count + 1] ∅ ⊂ (sweep arrived)^[count + 1 + 1] ∅ :=
            (passes_succ arrived (count + 1)).ssubset_of_ne (Ne.symm same)
          have larger := Finset.card_lt_card strict
          omega

/-- One more pass adds nothing to `integrate`. -/
theorem sweep_integrate (arrived : Finset Op) :
    sweep arrived (integrate arrived) = integrate arrived := by
  unfold integrate
  rw [← Function.iterate_succ_apply' (sweep arrived)]
  rcases passes_stationary_or_card arrived arrived.card with stationary | grown
  · exact stationary
  · have bound := Finset.card_le_card (passes_subset arrived (arrived.card + 1))
    omega

theorem integrate_subset (arrived : Finset Op) : integrate arrived ⊆ arrived :=
  passes_subset arrived arrived.card

/-- The executable passes compute exactly the integrable operations. -/
theorem mem_integrate {arrived : Finset Op} {op : Op} :
    op ∈ integrate arrived ↔ Integrable arrived op := by
  constructor
  · have sound : ∀ count op, op ∈ (sweep arrived)^[count] ∅ → Integrable arrived op := by
      intro count
      induction count with
      | zero => simp
      | succ count inductionHypothesis =>
          intro op member
          rw [Function.iterate_succ_apply', mem_sweep] at member
          exact .intro member.1 fun dep needed => inductionHypothesis dep (member.2 needed)
    exact sound arrived.card op
  · intro integrable
    induction integrable with
    | intro member _ inductionHypothesis =>
        rw [← sweep_integrate, mem_sweep]
        exact ⟨member, fun dep needed => inductionHypothesis dep needed⟩

instance (arrived : Finset Op) (op : Op) : Decidable (Integrable arrived op) :=
  decidable_of_iff (op ∈ integrate arrived) mem_integrate

/-- Operations integrated somewhere are integrated wherever they all arrive. -/
theorem integrate_subset_of_subset {source arrived : Finset Op}
    (sub : integrate source ⊆ arrived) : integrate source ⊆ integrate arrived := by
  intro op member
  have integrable := mem_integrate.mp member
  induction integrable with
  | intro _ ready inductionHypothesis =>
      rw [mem_integrate]
      refine .intro (sub member) fun dep needed => ?_
      rw [← mem_integrate]
      exact inductionHypothesis dep needed (mem_integrate.mpr (ready dep needed))

theorem integrate_mono {fewer more : Finset Op} (sub : fewer ⊆ more) :
    integrate fewer ⊆ integrate more :=
  integrate_subset_of_subset ((integrate_subset fewer).trans sub)

@[simp] theorem integrate_empty : integrate (∅ : Finset Op) = ∅ :=
  Finset.subset_empty.mp (integrate_subset ∅)

end CollabEditor.Library
