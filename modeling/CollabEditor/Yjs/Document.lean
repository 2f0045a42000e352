import Mathlib.Data.Finset.Lattice.Fold
import CollabEditor.Library.CausalDelivery

/-!
Owns what the repository relies on of Yjs documents. An update is the set of
operations it carries, `Y.mergeUpdates` is union, and a document is determined
by everything it was ever given: the operations whose predecessors are all
there are integrated, the others are held pending. A transaction that
integrates something emits one update event carrying exactly that.

Does not own how an update is encoded or what an operation does to the text:
both are Yjs's, and nothing here depends on them.
-/

namespace CollabEditor.Yjs

open CollabEditor.Library

universe u

/-- A binary Yjs update, by the operations it carries. -/
abbrev Update (Op : Type u) := Finset Op

variable {Op : Type u} [DecidableEq Op]

/-- `Y.mergeUpdates`. -/
def mergeUpdates (updates : List (Update Op)) : Update Op :=
  updates.foldr (· ∪ ·) ∅

@[simp] theorem mergeUpdates_nil : mergeUpdates ([] : List (Update Op)) = ∅ := rfl

@[simp] theorem mergeUpdates_cons (head : Update Op) (tail : List (Update Op)) :
    mergeUpdates (head :: tail) = head ∪ mergeUpdates tail := rfl

@[simp] theorem mergeUpdates_append (first second : List (Update Op)) :
    mergeUpdates (first ++ second) = mergeUpdates first ∪ mergeUpdates second := by
  induction first with
  | nil => simp
  | cons head tail inductionHypothesis =>
      simp [inductionHypothesis, Finset.union_assoc]

theorem mem_mergeUpdates {updates : List (Update Op)} {op : Op} :
    op ∈ mergeUpdates updates ↔ ∃ update ∈ updates, op ∈ update := by
  induction updates with
  | nil => simp
  | cons head tail inductionHypothesis => simp [inductionHypothesis]

theorem subset_mergeUpdates {updates : List (Update Op)} {update : Update Op}
    (member : update ∈ updates) : update ⊆ mergeUpdates updates :=
  fun _ inUpdate => mem_mergeUpdates.mpr ⟨update, member, inUpdate⟩

theorem mergeUpdates_subset {updates : List (Update Op)} {bound : Update Op} :
    mergeUpdates updates ⊆ bound ↔ ∀ update ∈ updates, update ⊆ bound := by
  constructor
  · exact fun sub update member => (subset_mergeUpdates member).trans sub
  · intro each op member
    obtain ⟨update, inList, inUpdate⟩ := mem_mergeUpdates.mp member
    exact each update inList inUpdate

theorem mergeUpdates_perm {first second : List (Update Op)} (perm : first.Perm second) :
    mergeUpdates first = mergeUpdates second := by
  ext op
  simp [mem_mergeUpdates, perm.mem_iff]

/-- A `Y.Doc`, by every operation it was ever given. -/
structure Doc (Op : Type u) where
  received : Finset Op
deriving DecidableEq

namespace Doc

/-- `new Y.Doc()`. -/
def empty : Doc Op := ⟨∅⟩

/-- The document right after `Y.applyUpdate`. -/
def apply (doc : Doc Op) (update : Update Op) : Doc Op :=
  ⟨doc.received ∪ update⟩

/-- `Y.encodeStateAsUpdate(doc, vector)`: everything the vector does not cover,
held operations included. -/
def encodeStateAsUpdate (doc : Doc Op) (vector : Finset Op) : Update Op :=
  doc.received \ vector

@[simp] theorem received_apply (doc : Doc Op) (update : Update Op) :
    (doc.apply update).received = doc.received ∪ update := rfl

/-- A step 2 reply completes the requester: with what its vector covers, it
has everything the replying document was given. -/
theorem received_subset_union_encode (doc : Doc Op) {vector known : Finset Op}
    (covered : vector ⊆ known) :
    doc.received ⊆ known ∪ doc.encodeStateAsUpdate vector := by
  intro op member
  by_cases inVector : op ∈ vector
  · exact Finset.mem_union_left _ (covered inVector)
  · exact Finset.mem_union_right _ (Finset.mem_sdiff.mpr ⟨member, inVector⟩)

theorem encodeStateAsUpdate_subset (doc : Doc Op) (vector : Finset Op) :
    doc.encodeStateAsUpdate vector ⊆ doc.received :=
  Finset.sdiff_subset

variable [Causality Op]

/-- The operations that are part of the document. -/
def integrated (doc : Doc Op) : Finset Op := integrate doc.received

/-- The operations held back because a predecessor is missing. -/
def pending (doc : Doc Op) : Finset Op := doc.received \ doc.integrated

/-- What `Y.applyUpdate` newly integrates, held operations included. -/
def fresh (doc : Doc Op) (update : Update Op) : Update Op :=
  (doc.apply update).integrated \ doc.integrated

/-- The payload of the update event `Y.applyUpdate` emits, if it emits one. -/
def event (doc : Doc Op) (update : Update Op) : Option (Update Op) :=
  if doc.fresh update = ∅ then none else some (doc.fresh update)

/-- `Y.encodeStateVector`, by the operations it covers. -/
def stateVector (doc : Doc Op) : Finset Op := doc.integrated

theorem integrated_subset (doc : Doc Op) : doc.integrated ⊆ doc.received :=
  integrate_subset doc.received

@[simp] theorem integrated_empty : (empty : Doc Op).integrated = ∅ := by
  simp [integrated, empty]

private theorem integrated_apply_mono (doc : Doc Op) (update : Update Op) :
    doc.integrated ⊆ (doc.apply update).integrated :=
  integrate_mono Finset.subset_union_left

/-- A document that was given all of another's integrated operations has
integrated them too. -/
theorem integrated_subset_of_received {source doc : Doc Op}
    (sub : source.integrated ⊆ doc.received) : source.integrated ⊆ doc.integrated :=
  integrate_subset_of_subset sub

theorem integrated_apply (doc : Doc Op) (update : Update Op) :
    (doc.apply update).integrated = doc.integrated ∪ doc.fresh update :=
  (Finset.union_sdiff_of_subset (doc.integrated_apply_mono update)).symm

/-- Whatever an update integrates was in it or was held pending. -/
theorem fresh_subset (doc : Doc Op) (update : Update Op) :
    doc.fresh update ⊆ update ∪ doc.pending := by
  intro op member
  obtain ⟨inNew, notOld⟩ := Finset.mem_sdiff.mp member
  rcases Finset.mem_union.mp ((doc.apply update).integrated_subset inNew) with received | given
  · exact Finset.mem_union_right _ (Finset.mem_sdiff.mpr ⟨received, notOld⟩)
  · exact Finset.mem_union_left _ given

theorem fresh_subset_received (doc : Doc Op) (update : Update Op) :
    doc.fresh update ⊆ (doc.apply update).received :=
  Finset.sdiff_subset.trans (integrated_subset _)

theorem mem_fresh {doc : Doc Op} {update : Update Op} {op : Op} :
    op ∈ doc.fresh update ↔
      Integrable (doc.received ∪ update) op ∧ op ∉ doc.integrated := by
  rw [fresh, Finset.mem_sdiff, integrated, mem_integrate, received_apply]

@[simp] theorem event_getD (doc : Doc Op) (update : Update Op) :
    (doc.event update).getD ∅ = doc.fresh update := by
  unfold event
  split
  · next none => simp [none]
  · rfl

/-- An update that brings nothing new emits no event. -/
theorem event_eq_none_of_subset {doc : Doc Op} {update : Update Op}
    (known : update ⊆ doc.received) : doc.event update = none := by
  have same : doc.apply update = doc := by
    cases doc
    simp only [apply, Finset.union_eq_left.mpr known]
  simp [event, fresh, same]

end Doc

/-- A Yjs `ID`: the operation a client made at one of its clocks. -/
structure ItemId where
  client : ℕ
  clock : ℕ
deriving DecidableEq

/-- A client's operations are integrated in the order it made them. -/
instance : Causality ItemId where
  deps
    | ⟨_, 0⟩ => ∅
    | ⟨client, clock + 1⟩ => {⟨client, clock⟩}

end CollabEditor.Yjs
