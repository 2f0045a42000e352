import Mathlib.Algebra.BigOperators.Fin
import Mathlib.Algebra.BigOperators.Ring.Finset
import Mathlib.Data.Fintype.BigOperators
import Mathlib.SetTheory.Cardinal.Finite

/-!
Owns rejection sampling: raw values are drawn one after the other, those that
stand for no letter are skipped, and a word is made of the first letters there
are. Where every letter has equally many raw values, every word has equally many
draws.
-/

set_option autoImplicit false

namespace CollabEditor.Library.RejectionSampling

universe u v

variable {Raw : Type u} {Letter : Type v} (letter : Raw → Option Letter)

/-- The raw values that stand for a letter, or for none. -/
noncomputable def share (outcome : Option Letter) : ℕ := Nat.card { raw // letter raw = outcome }

/-- The draws of some length whose letters begin with a word. -/
noncomputable def ways (length : ℕ) (word : List Letter) : ℕ :=
  Nat.card { raws : Fin length → Raw // word <+: (List.ofFn raws).filterMap letter }

/-- How many draws make a word, when every letter has the share `each`. -/
def count (total rejected each : ℕ) : ℕ → ℕ → ℕ
  | length, 0 => total ^ length
  | 0, _ + 1 => 0
  | length + 1, letters + 1 =>
      rejected * count total rejected each length (letters + 1) +
        each * count total rejected each length letters

theorem count_pos {total rejected each : ℕ} (some : 0 < total) (fair : 0 < each)
    {length letters : ℕ} (enough : letters ≤ length) :
    0 < count total rejected each length letters := by
  induction length generalizing letters with
  | zero =>
      have none : letters = 0 := by omega
      rw [none, count]
      exact Nat.one_pos
  | succ length inductionHypothesis =>
      cases letters with
      | zero => exact Nat.pow_pos some
      | succ letters =>
          have rest := inductionHypothesis (Nat.le_of_succ_le_succ enough)
          exact Nat.add_pos_right _ (Nat.mul_pos fair rest)

private theorem card_subtype_eq_sum {α : Type u} [Fintype α] (holds : α → Prop)
    [DecidablePred holds] :
    Nat.card { a // holds a } = ∑ a, if holds a then 1 else 0 := by
  rw [Nat.card_eq_fintype_card, Fintype.card_subtype, Finset.card_filter]

/-- The first raw value is skipped, or it stands for the first letter. -/
theorem indicator_cons {length : ℕ} (raw : Raw) (raws : Fin length → Raw) (first : Letter)
    (word : List Letter) :
    first :: word <+: (List.ofFn (Fin.cons raw raws : Fin (length + 1) → Raw)).filterMap letter ↔
      letter raw = none ∧ first :: word <+: (List.ofFn raws).filterMap letter ∨
        letter raw = some first ∧ word <+: (List.ofFn raws).filterMap letter := by
  rw [List.ofFn_cons]
  cases outcome : letter raw with
  | none => simp [outcome]
  | some other =>
      simp only [List.filterMap_cons, outcome, List.cons_prefix_cons, reduceCtorEq, false_and,
        false_or, Option.some.injEq]
      rw [eq_comm]

private theorem ways_zero (first : Letter) (word : List Letter) :
    ways letter 0 (first :: word) = 0 := by
  rw [ways, Nat.card_eq_zero]
  left
  apply Subtype.isEmpty_of_false
  intro raws
  simp

variable [Finite Raw]

private theorem ways_nil (length : ℕ) : ways letter length [] = Nat.card Raw ^ length := by
  have := Fintype.ofFinite Raw
  have all : ∀ raws : Fin length → Raw, [] <+: (List.ofFn raws).filterMap letter :=
    fun raws => List.nil_prefix
  rw [ways, Nat.card_congr (Equiv.subtypeUnivEquiv all), Nat.card_eq_fintype_card,
    Nat.card_eq_fintype_card, Fintype.card_fun, Fintype.card_fin]

private theorem ways_succ (length : ℕ) (first : Letter) (word : List Letter) :
    ways letter (length + 1) (first :: word) =
      share letter none * ways letter length (first :: word) +
        share letter (some first) * ways letter length word := by
  classical
  have := Fintype.ofFinite Raw
  have split : ∀ (raw : Raw) (raws : Fin length → Raw),
      (if first :: word <+: (List.ofFn (Fin.cons raw raws : Fin (length + 1) → Raw)).filterMap
          letter then 1 else 0 : ℕ) =
        (if letter raw = none then 1 else 0) *
            (if first :: word <+: (List.ofFn raws).filterMap letter then 1 else 0) +
          (if letter raw = some first then 1 else 0) *
            (if word <+: (List.ofFn raws).filterMap letter then 1 else 0) := by
    intro raw raws
    simp only [indicator_cons]
    cases letter raw with
    | none => simp
    | some other => simp [← ite_and, and_comm]
  calc ways letter (length + 1) (first :: word)
      = ∑ raws : Fin (length + 1) → Raw,
          if first :: word <+: (List.ofFn raws).filterMap letter then 1 else 0 := by
        rw [ways, card_subtype_eq_sum]
    _ = ∑ pair : Raw × (Fin length → Raw),
          if first :: word <+: (List.ofFn (Fin.cons pair.1 pair.2 :
            Fin (length + 1) → Raw)).filterMap letter then 1 else 0 :=
        (Fintype.sum_equiv (Fin.consEquiv fun _ => Raw) _ _ fun pair => rfl).symm
    _ = ∑ raw, ∑ raws : Fin length → Raw,
          ((if letter raw = none then 1 else 0) *
              (if first :: word <+: (List.ofFn raws).filterMap letter then 1 else 0) +
            (if letter raw = some first then 1 else 0) *
              (if word <+: (List.ofFn raws).filterMap letter then 1 else 0)) := by
        rw [Fintype.sum_prod_type]
        exact Finset.sum_congr rfl fun raw _ => Finset.sum_congr rfl fun raws _ => split raw raws
    _ = share letter none * ways letter length (first :: word) +
          share letter (some first) * ways letter length word := by
        simp only [Finset.sum_add_distrib, ← Finset.mul_sum, ← Finset.sum_mul, share, ways,
          card_subtype_eq_sum]

/-- A fair choice of letters makes every word in equally many ways: their number
depends on its length only. -/
theorem ways_eq_count {each : ℕ} (length : ℕ) {word : List Letter}
    (fair : ∀ first ∈ word, share letter (some first) = each) :
    ways letter length word =
      count (Nat.card Raw) (share letter none) each length word.length := by
  induction length generalizing word with
  | zero =>
      cases word with
      | nil => simp [ways_nil, count]
      | cons first word => simp [ways_zero, count]
  | succ length inductionHypothesis =>
      cases word with
      | nil => simp [ways_nil, count]
      | cons first word =>
          have rest : ∀ other ∈ word, share letter (some other) = each := by
            intro other member
            exact fair other (List.mem_cons_of_mem _ member)
          rw [ways_succ, inductionHypothesis fair, inductionHypothesis rest,
            fair first List.mem_cons_self]
          rfl

end CollabEditor.Library.RejectionSampling
