import CollabEditor.Yjs.Document

/-!
Owns the contract of `persistence/store.ts` for one document and the in-memory
implementation of it. A `DocumentStore` carries the laws every caller relies
on: an append adds exactly its update, a compaction changes no content, and
the row count is what the writer's compaction threshold counts.

Assumes that a call takes effect as a whole. Does not own calls that overlap:
for the Postgres store those are `Persistence.Postgres.Transactions`'.
-/

namespace CollabEditor.Persistence

open CollabEditor.Yjs

universe u v

variable {Op : Type u} [DecidableEq Op]

/-- `LoadedDocument`. -/
structure LoadedDocument (Op : Type u) where
  /-- Snapshot and update log merged, or `none` if never written to. -/
  state : Option (Update Op)
  /-- Rows sitting on top of the snapshot. -/
  pendingUpdates : ℕ
deriving DecidableEq

/-- The operations a caller of `load` gets. -/
def LoadedDocument.content (loaded : LoadedDocument Op) : Update Op :=
  loaded.state.getD ∅

/-- `parts.length === 1 ? parts[0] : Y.mergeUpdates(parts)`. -/
def mergeParts : List (Update Op) → Update Op
  | [part] => part
  | parts => mergeUpdates parts

@[simp] theorem mergeParts_eq (parts : List (Update Op)) :
    mergeParts parts = mergeUpdates parts := by
  unfold mergeParts
  split <;> simp

/-- `DocumentStore` for one document whose stored form is an `Entry`; every
operation takes effect atomically. -/
structure DocumentStore (Op : Type u) [DecidableEq Op] (Entry : Type v) where
  /-- What a document that was never written to is stored as. -/
  absent : Entry
  load : Entry → LoadedDocument Op
  append : Entry → Update Op → Entry
  /-- The new entry and the number of rows folded. -/
  compact : Entry → Entry × ℕ
  load_absent : load absent = ⟨none, 0⟩
  content_append : ∀ entry update,
    (load (append entry update)).content = (load entry).content ∪ update
  state_append : ∀ entry update, (load (append entry update)).state.isSome
  pending_append : ∀ entry update,
    (load (append entry update)).pendingUpdates = (load entry).pendingUpdates + 1
  content_compact : ∀ entry, (load (compact entry).1).content = (load entry).content
  state_compact : ∀ entry,
    (load (compact entry).1).state.isSome = (load entry).state.isSome
  pending_compact : ∀ entry, (load (compact entry).1).pendingUpdates = 0
  compact_count : ∀ entry, (compact entry).2 = (load entry).pendingUpdates

namespace MemoryDocumentStore

/-- `Entry` of `memory-store.ts`. -/
structure Entry (Op : Type u) where
  snapshot : Option (Update Op)
  updates : List (Update Op)

/-- The snapshot, if there is one, followed by the log. -/
def Entry.parts (entry : Entry Op) : List (Update Op) :=
  match entry.snapshot with
  | some snapshot => snapshot :: entry.updates
  | none => entry.updates

/-- `MemoryDocumentStore.load`, on `documents.get(documentId)`. -/
def load : Option (Entry Op) → LoadedDocument Op
  | none => ⟨none, 0⟩
  | some entry =>
      if entry.snapshot = none ∧ entry.updates = [] then ⟨none, 0⟩
      else ⟨some (mergeParts entry.parts), entry.updates.length⟩

/-- `MemoryDocumentStore.append`. -/
def append (stored : Option (Entry Op)) (update : Update Op) : Option (Entry Op) :=
  let entry := stored.getD ⟨none, []⟩
  some { entry with updates := entry.updates ++ [update] }

/-- `MemoryDocumentStore.compact`. -/
def compact : Option (Entry Op) → Option (Entry Op) × ℕ
  | none => (none, 0)
  | some entry =>
      if entry.updates = [] then (some entry, 0)
      else (some ⟨some (mergeUpdates entry.parts), []⟩, entry.updates.length)

private theorem content_load_some (entry : Entry Op) :
    (load (some entry)).content = mergeUpdates entry.parts := by
  by_cases blank : entry.snapshot = none ∧ entry.updates = []
  · simp [load, blank, LoadedDocument.content, Entry.parts]
  · simp [load, blank, LoadedDocument.content]

omit [DecidableEq Op] in
private theorem parts_append (entry : Entry Op) (update : Update Op) :
    Entry.parts { entry with updates := entry.updates ++ [update] } =
      entry.parts ++ [update] := by
  cases stored : entry.snapshot <;> simp [Entry.parts, stored]

private theorem content_append (stored : Option (Entry Op)) (update : Update Op) :
    (load (append stored update)).content = (load stored).content ∪ update := by
  cases stored with
  | none =>
      rw [append, content_load_some]
      simp [Entry.parts, load, LoadedDocument.content]
  | some entry =>
      rw [append, content_load_some, content_load_some, Option.getD_some, parts_append]
      simp

private theorem pending_load_some (entry : Entry Op) :
    (load (some entry)).pendingUpdates = entry.updates.length := by
  by_cases blank : entry.snapshot = none ∧ entry.updates = []
  · simp [load, blank]
  · simp [load, blank]

/-- A compaction either finds no rows and changes nothing, or folds them all. -/
theorem compact_cases (stored : Option (Entry Op)) :
    (compact stored = (stored, 0) ∧ (load stored).pendingUpdates = 0) ∨
      ∃ entry, stored = some entry ∧ entry.updates ≠ [] ∧
        compact stored = (some ⟨some (mergeUpdates entry.parts), []⟩, entry.updates.length) := by
  cases stored with
  | none => exact Or.inl ⟨rfl, rfl⟩
  | some entry =>
      by_cases blank : entry.updates = []
      · left
        exact ⟨by simp [compact, blank], by simp [pending_load_some, blank]⟩
      · exact Or.inr ⟨entry, rfl, blank, by simp [compact, blank]⟩

/-- The in-memory store meets the contract. -/
def store : DocumentStore Op (Option (Entry Op)) where
  absent := none
  load := load
  append := append
  compact := compact
  load_absent := rfl
  content_append := content_append
  state_append := by
    intro stored update
    simp [append, load]
  pending_append := by
    intro stored update
    rw [append, pending_load_some]
    cases stored with
    | none => simp [load]
    | some entry => simp [pending_load_some]
  content_compact := by
    intro stored
    rcases compact_cases stored with ⟨same, -⟩ | ⟨entry, rfl, -, compacted⟩
    · rw [same]
    · rw [compacted, content_load_some, content_load_some]
      simp [Entry.parts]
  state_compact := by
    intro stored
    rcases compact_cases stored with ⟨same, -⟩ | ⟨entry, rfl, written, compacted⟩
    · rw [same]
    · simp [compacted, load, written]
  pending_compact := by
    intro stored
    rcases compact_cases stored with ⟨same, blank⟩ | ⟨entry, rfl, -, compacted⟩
    · rw [same, blank]
    · rw [compacted, pending_load_some]
      rfl
  compact_count := by
    intro stored
    rcases compact_cases stored with ⟨same, blank⟩ | ⟨entry, rfl, -, compacted⟩
    · rw [same, blank]
    · rw [compacted, pending_load_some]

end MemoryDocumentStore

end CollabEditor.Persistence
