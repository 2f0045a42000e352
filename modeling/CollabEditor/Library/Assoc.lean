import Mathlib.Data.List.AList

/-!
Owns finite maps as a program keeps them in a keyed collection: insertion
replaces the entry of a key and erasure removes it. These are Mathlib's
association lists with a constant value type; lookups are stated by cases on
the key.
-/

namespace CollabEditor.Library

universe u v

/-- A finite map from keys to values. -/
abbrev Assoc (κ : Type u) (ν : Type v) := AList fun _ : κ => ν

namespace Assoc

variable {κ : Type u} {ν : Type v} [DecidableEq κ]

theorem lookup_insert (m : Assoc κ ν) (key other : κ) (value : ν) :
    AList.lookup other (m.insert key value) =
      if other = key then some value else m.lookup other := by
  by_cases same : other = key
  · subst same
    rw [if_pos rfl, AList.lookup_insert]
  · rw [if_neg same, AList.lookup_insert_ne same]

theorem lookup_erase (m : Assoc κ ν) (key other : κ) :
    AList.lookup other (m.erase key) =
      if other = key then none else m.lookup other := by
  by_cases same : other = key
  · subst same
    rw [if_pos rfl, AList.lookup_erase]
  · rw [if_neg same, AList.lookup_erase_ne same]

/-- The sum of what the entries weigh. -/
def total (weight : ν → ℕ) (m : Assoc κ ν) : ℕ :=
  m.entries.foldr (fun entry sum => weight entry.2 + sum) 0

theorem total_insert (weight : ν → ℕ) (m : Assoc κ ν) (key : κ) (value : ν) :
    total weight (m.insert key value) = weight value + total weight (m.erase key) := rfl

theorem total_erase (weight : ν → ℕ) {m : Assoc κ ν} {key : κ} {value : ν}
    (found : m.lookup key = some value) :
    weight value + total weight (m.erase key) = total weight m := by
  obtain ⟨entries, distinct⟩ := m
  have isFound : List.dlookup key entries = some value := found
  show weight value + (List.kerase key entries).foldr _ 0 = entries.foldr _ 0
  clear found distinct
  induction entries with
  | nil => cases isFound
  | cons entry rest inductionHypothesis =>
      obtain ⟨other, stored⟩ := entry
      by_cases same : key = other
      · subst same
        rw [List.dlookup_cons_eq] at isFound
        have erased : List.kerase key (⟨key, stored⟩ :: rest) = rest := List.kerase_cons_eq rfl
        rw [erased, List.foldr_cons, Option.some.inj isFound]
      · rw [List.dlookup_cons_ne _ _ same] at isFound
        rw [List.kerase_cons_ne same, List.foldr_cons, List.foldr_cons,
          ← inductionHypothesis isFound]
        omega

end Assoc

end CollabEditor.Library
