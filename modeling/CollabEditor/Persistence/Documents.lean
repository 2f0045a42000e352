import CollabEditor.Library.Assoc
import CollabEditor.Library.Transition
import CollabEditor.Persistence.Postgres.Tables

/-!
Owns both stores with all their documents: the map of `memory-store.ts`, and
the three tables of `sql/schema.sql` with the identity column that numbers the
updates of every document. Calls are executed one at a time.
-/

namespace CollabEditor.Persistence

open CollabEditor.Library CollabEditor.Yjs

universe u v

variable {DocId : Type v} {Op : Type u} [DecidableEq DocId] [DecidableEq Op]

/-- A call of a `DocumentStore`. -/
inductive StoreCall (DocId : Type v) (Op : Type u) where
  | load (documentId : DocId)
  | append (documentId : DocId) (update : Update Op)
  | compact (documentId : DocId)

/-- What a call's promise resolves to. -/
inductive StoreAnswer (Op : Type u) where
  | loaded (document : LoadedDocument Op)
  | appended
  /-- The number of rows folded. -/
  | compacted (count : ℕ)
deriving DecidableEq

/-! ### The in-memory store -/

namespace MemoryDocumentStore

/-- `documents`. -/
abbrev Documents (DocId : Type v) (Op : Type u) := Assoc DocId (Entry Op)

/-- `documents.set(documentId, entry)`, unless there is no entry to set. -/
def set (documents : Documents DocId Op) (documentId : DocId) :
    Option (Entry Op) → Documents DocId Op
  | some entry => documents.insert documentId entry
  | none => documents

def serve (documents : Documents DocId Op) : StoreCall DocId Op →
    Documents DocId Op × StoreAnswer Op
  | .load documentId => (documents, .loaded (load (documents.lookup documentId)))
  | .append documentId update =>
      (set documents documentId (append (documents.lookup documentId) update), .appended)
  | .compact documentId =>
      let compacted := compact (documents.lookup documentId)
      (set documents documentId compacted.1, .compacted compacted.2)

omit [DecidableEq Op] in
/-- Setting what came of a document's own entry. -/
theorem lookup_set (documents : Documents DocId Op) (documentId other : DocId)
    {stored : Option (Entry Op)} (kept : stored = none → documents.lookup documentId = none) :
    (set documents documentId stored).lookup other =
      if other = documentId then stored else documents.lookup other := by
  cases stored with
  | none =>
      show documents.lookup other = _
      split
      · next same => rw [same, kept rfl]
      · rfl
  | some entry => exact Assoc.lookup_insert documents documentId other entry

private theorem lookup_append (documents : Documents DocId Op) (documentId other : DocId)
    (update : Update Op) :
    (serve documents (.append documentId update)).1.lookup other =
      if other = documentId then append (documents.lookup documentId) update
      else documents.lookup other :=
  lookup_set documents documentId other nofun

private theorem lookup_compact (documents : Documents DocId Op) (documentId other : DocId) :
    (serve documents (.compact documentId)).1.lookup other =
      if other = documentId then (compact (documents.lookup documentId)).1
      else documents.lookup other := by
  refine lookup_set documents documentId other fun nothing => ?_
  rcases compact_cases (documents.lookup documentId) with ⟨same, -⟩ | ⟨entry, -, -, folded⟩
  · rw [same] at nothing
    exact nothing
  · rw [folded] at nothing
    cases nothing

end MemoryDocumentStore

/-! ### The Postgres store -/

namespace PostgresDocumentStore

/-- The rows of all documents. -/
structure Schema (DocId : Type v) (Op : Type u) where
  /-- `documents`, by primary key. -/
  documents : Finset DocId
  /-- `document_snapshots`, by primary key. -/
  snapshots : Assoc DocId (SnapshotRow Op)
  /-- `document_updates`: the document and the rest of the row. -/
  updates : List (DocId × UpdateRow Op)
  /-- The identity column's next value. -/
  nextSeq : ℕ

namespace Schema

/-- Right after `schema.sql`. -/
def empty : Schema DocId Op := ⟨∅, ∅, [], 1⟩

/-- The rows of `document_updates` where `document_id = $1`. -/
def rows (schema : Schema DocId Op) (documentId : DocId) : List (UpdateRow Op) :=
  (schema.updates.filter fun row => row.1 = documentId).map Prod.snd

/-- `load`'s two queries, with nothing between them. -/
def load (schema : Schema DocId Op) (documentId : DocId) : LoadedDocument Op :=
  let base := schema.snapshots.lookup documentId
  loaded base (selectAfter (schema.rows documentId) (throughSeq base))

/-- `append`'s transaction. -/
def append (schema : Schema DocId Op) (documentId : DocId) (update : Update Op) :
    Schema DocId Op :=
  { schema with
    documents := insert documentId schema.documents
    updates := schema.updates ++ [(documentId, ⟨schema.nextSeq, update⟩)]
    nextSeq := schema.nextSeq + 1 }

/-- `compact`'s transaction. -/
def compact (schema : Schema DocId Op) (documentId : DocId) : Schema DocId Op × ℕ :=
  match selectMaxSeq (schema.rows documentId) with
  | none => (schema, 0)
  | some cutoff =>
      let merged := mergeUpdates (parts (schema.snapshots.lookup documentId)
        (selectThrough (schema.rows documentId) cutoff))
      ({ schema with
          snapshots := schema.snapshots.insert documentId ⟨merged, cutoff⟩
          updates := schema.updates.filter fun row =>
            ¬ (row.1 = documentId ∧ row.2.seq ≤ cutoff) },
        (schema.updates.filter fun row => row.1 = documentId ∧ row.2.seq ≤ cutoff).length)

def serve (schema : Schema DocId Op) : StoreCall DocId Op → Schema DocId Op × StoreAnswer Op
  | .load documentId => (schema, .loaded (schema.load documentId))
  | .append documentId update => (schema.append documentId update, .appended)
  | .compact documentId =>
      let compacted := schema.compact documentId
      (compacted.1, .compacted compacted.2)

/-! ### One document's part of the tables -/

/-- The tables as the queries for one document see them. -/
def tables (schema : Schema DocId Op) (documentId : DocId) : Tables Op :=
  ⟨decide (documentId ∈ schema.documents), schema.snapshots.lookup documentId,
    schema.rows documentId, schema.nextSeq⟩

private theorem load_eq (schema : Schema DocId Op) (documentId : DocId) :
    schema.load documentId = PostgresDocumentStore.load (schema.tables documentId) := rfl

section

omit [DecidableEq Op]

private theorem rows_append (schema : Schema DocId Op) (documentId other : DocId)
    (update : Update Op) :
    (schema.append documentId update).rows other =
      if other = documentId then schema.rows other ++ [⟨schema.nextSeq, update⟩]
      else schema.rows other := by
  unfold rows append
  simp only [List.filter_append, List.map_append, List.filter_singleton]
  by_cases same : other = documentId
  · simp [same]
  · simp [same, Ne.symm same]

/-- An append is the document's own; the others only see the identity column
move. -/
theorem tables_append (schema : Schema DocId Op) (documentId other : DocId)
    (update : Update Op) :
    (schema.append documentId update).tables other =
      if other = documentId then PostgresDocumentStore.append (schema.tables other) update
      else { schema.tables other with nextSeq := schema.nextSeq + 1 } := by
  unfold tables
  rw [rows_append]
  by_cases same : other = documentId
  · simp [same, append, PostgresDocumentStore.append, insertUpdate]
  · simp [same, append]

/-- The `delete` of a compaction, as the queries for one document see it. -/
theorem rows_compact (schema : Schema DocId Op) (documentId other : DocId) (cutoff : ℕ) :
    ({ schema with updates := schema.updates.filter fun row =>
        ¬ (row.1 = documentId ∧ row.2.seq ≤ cutoff) } : Schema DocId Op).rows other =
      if other = documentId then (schema.rows other).filter fun row => ¬ row.seq ≤ cutoff
      else schema.rows other := by
  unfold rows
  rw [List.filter_filter]
  by_cases same : other = documentId
  · rw [if_pos same, List.filter_map, List.filter_filter, ← same]
    refine congrArg (List.map Prod.snd) (List.filter_congr fun row _ => ?_)
    by_cases here : row.1 = other <;> simp [here]
  · rw [if_neg same]
    refine congrArg (List.map Prod.snd) (List.filter_congr fun row _ => ?_)
    by_cases here : row.1 = other
    · simp [here, same]
    · simp [here]

private theorem count_compact (schema : Schema DocId Op) (documentId : DocId) (cutoff : ℕ) :
    (schema.updates.filter fun row => row.1 = documentId ∧ row.2.seq ≤ cutoff).length =
      ((schema.rows documentId).filter fun row => row.seq ≤ cutoff).length := by
  unfold rows
  rw [List.filter_map, List.length_map, List.filter_filter]
  refine congrArg List.length (List.filter_congr fun row _ => ?_)
  simp [Bool.and_comm]

end

/-- A compaction is the document's own. -/
theorem tables_compact (schema : Schema DocId Op) (documentId other : DocId) :
    (schema.compact documentId).1.tables other =
      if other = documentId then (PostgresDocumentStore.compact (schema.tables other)).1
      else schema.tables other := by
  unfold compact PostgresDocumentStore.compact
  by_cases same : other = documentId
  · subst same
    rw [if_pos rfl]
    dsimp only [tables]
    cases selectMaxSeq (schema.rows other) with
    | none => rfl
    | some cutoff =>
        have remaining := (schema.rows_compact other other cutoff).trans (if_pos rfl)
        have stored := Assoc.lookup_insert schema.snapshots other other
          ⟨mergeUpdates (parts (schema.snapshots.lookup other)
            (selectThrough (schema.rows other) cutoff)), cutoff⟩
        rw [if_pos rfl] at stored
        simp only [Tables.mk.injEq, true_and]
        exact ⟨stored, remaining, trivial⟩
  · rw [if_neg same]
    cases selectMaxSeq (schema.rows documentId) with
    | none => rfl
    | some cutoff =>
        have remaining := (schema.rows_compact documentId other cutoff).trans (if_neg same)
        have stored := (Assoc.lookup_insert schema.snapshots documentId other
          ⟨mergeUpdates (parts (schema.snapshots.lookup documentId)
            (selectThrough (schema.rows documentId) cutoff)), cutoff⟩).trans (if_neg same)
        simp only [tables, Tables.mk.injEq, true_and]
        exact ⟨stored, remaining, trivial⟩

private theorem compact_count (schema : Schema DocId Op) (documentId : DocId) :
    (schema.compact documentId).2 =
      (PostgresDocumentStore.compact (schema.tables documentId)).2 := by
  unfold compact PostgresDocumentStore.compact
  dsimp only [tables]
  cases selectMaxSeq (schema.rows documentId) with
  | none => rfl
  | some cutoff => exact schema.count_compact documentId cutoff

/-- What holds of every document's tables. -/
def Ordered (schema : Schema DocId Op) : Prop :=
  ∀ documentId, (schema.tables documentId).Ordered

omit [DecidableEq Op] in
private theorem ordered_empty : (empty : Schema DocId Op).Ordered := fun _ => Tables.Ordered.empty

private theorem Ordered.serve {schema : Schema DocId Op} (ordered : schema.Ordered)
    (call : StoreCall DocId Op) : (schema.serve call).1.Ordered := by
  intro other
  cases call with
  | load documentId => exact ordered other
  | append documentId update =>
      show ((schema.append documentId update).tables other).Ordered
      rw [tables_append]
      split
      · exact (ordered other).append update
      · have own := ordered other
        exact ⟨Nat.succ_pos _, own.above, fun row member => (own.below row member).trans
          (Nat.lt_succ_self _), own.snapshotBelow.trans (Nat.lt_succ_self _)⟩
  | compact documentId =>
      show ((schema.compact documentId).1.tables other).Ordered
      rw [tables_compact]
      split
      · exact (ordered other).compact
      · exact ordered other

/-- A document's part of the tables, as an entry of the store's contract. -/
def entry {schema : Schema DocId Op} (ordered : schema.Ordered) (documentId : DocId) :
    PostgresDocumentStore.Entry Op :=
  ⟨schema.tables documentId, ordered documentId⟩

end Schema

end PostgresDocumentStore

/-! ### The stores answer alike -/

omit [DecidableEq Op] in
/-- A loaded document is its content, whether it was ever written to and its
row count. -/
theorem LoadedDocument.ext_content {first second : LoadedDocument Op}
    (written : first.state.isSome = second.state.isSome)
    (content : first.content = second.content)
    (pending : first.pendingUpdates = second.pendingUpdates) : first = second := by
  obtain ⟨state, count⟩ := first
  obtain ⟨state', count'⟩ := second
  obtain rfl : count = count' := pending
  cases state with
  | none =>
      cases state' with
      | none => rfl
      | some update => cases written
  | some update =>
      cases state' with
      | none => cases written
      | some update' =>
          obtain rfl : update = update' := content
          rfl

namespace DocumentStore

variable {Entry Entry' : Type*} {store : DocumentStore Op Entry} {store' : DocumentStore Op Entry'}
  {entry : Entry} {entry' : Entry'}

/-- Stores that load the same load the same after the same append. -/
theorem load_append_eq (same : store.load entry = store'.load entry') (update : Update Op) :
    store.load (store.append entry update) = store'.load (store'.append entry' update) := by
  apply LoadedDocument.ext_content
  · rw [store.state_append, store'.state_append]
  · rw [store.content_append, store'.content_append, same]
  · rw [store.pending_append, store'.pending_append, same]

private theorem load_compact_eq (same : store.load entry = store'.load entry') :
    store.load (store.compact entry).1 = store'.load (store'.compact entry').1 := by
  apply LoadedDocument.ext_content
  · rw [store.state_compact, store'.state_compact, same]
  · rw [store.content_compact, store'.content_compact, same]
  · rw [store.pending_compact, store'.pending_compact]

private theorem compact_count_eq (same : store.load entry = store'.load entry') :
    (store.compact entry).2 = (store'.compact entry').2 := by
  rw [store.compact_count, store'.compact_count, same]

end DocumentStore

/-- Every document loads alike from both stores. -/
def LoadAlike (documents : MemoryDocumentStore.Documents DocId Op)
    (schema : PostgresDocumentStore.Schema DocId Op) : Prop :=
  schema.Ordered ∧ ∀ documentId,
    MemoryDocumentStore.load (documents.lookup documentId) = schema.load documentId

namespace LoadAlike

variable {documents : MemoryDocumentStore.Documents DocId Op}
  {schema : PostgresDocumentStore.Schema DocId Op}

private theorem empty : LoadAlike (∅ : MemoryDocumentStore.Documents DocId Op)
    PostgresDocumentStore.Schema.empty :=
  ⟨PostgresDocumentStore.Schema.ordered_empty, fun _ => rfl⟩

/-- The same, as entries of the two instances of the contract. -/
theorem entries (alike : LoadAlike documents schema) (documentId : DocId) :
    MemoryDocumentStore.store.load (documents.lookup documentId) =
      PostgresDocumentStore.store.load (PostgresDocumentStore.Schema.entry alike.1 documentId) :=
  alike.2 documentId

private theorem answers (alike : LoadAlike documents schema) (call : StoreCall DocId Op) :
    (MemoryDocumentStore.serve documents call).2 = (schema.serve call).2 := by
  cases call with
  | load documentId => exact congrArg StoreAnswer.loaded (alike.2 documentId)
  | append documentId update => rfl
  | compact documentId =>
      refine congrArg StoreAnswer.compacted ?_
      rw [schema.compact_count]
      exact DocumentStore.compact_count_eq (alike.entries documentId)

private theorem serve (alike : LoadAlike documents schema) (call : StoreCall DocId Op) :
    LoadAlike (MemoryDocumentStore.serve documents call).1 (schema.serve call).1 := by
  refine ⟨alike.1.serve call, fun other => ?_⟩
  cases call with
  | load documentId => exact alike.2 other
  | append documentId update =>
      rw [MemoryDocumentStore.lookup_append, PostgresDocumentStore.Schema.load_eq]
      show _ = PostgresDocumentStore.load ((schema.append documentId update).tables other)
      rw [schema.tables_append]
      by_cases same : other = documentId
      · subst same
        rw [if_pos rfl, if_pos rfl]
        exact DocumentStore.load_append_eq (alike.entries other) update
      · rw [if_neg same, if_neg same]
        exact alike.2 other
  | compact documentId =>
      rw [MemoryDocumentStore.lookup_compact, PostgresDocumentStore.Schema.load_eq]
      show _ = PostgresDocumentStore.load ((schema.compact documentId).1.tables other)
      rw [schema.tables_compact]
      by_cases same : other = documentId
      · subst same
        rw [if_pos rfl, if_pos rfl]
        exact DocumentStore.load_compact_eq (alike.entries other)
      · rw [if_neg same, if_neg same]
        exact alike.2 other

end LoadAlike

/-- Whatever calls are made on whatever documents, both stores answer the same:
the same row and compaction counts, and states with the same content in the
same places. -/
theorem stores_indistinguishable (calls : List (StoreCall DocId Op)) :
    answers MemoryDocumentStore.serve (∅ : MemoryDocumentStore.Documents DocId Op) calls =
      answers PostgresDocumentStore.Schema.serve PostgresDocumentStore.Schema.empty calls :=
  answers_eq_of_related LoadAlike (fun _ _ call alike => alike.answers call)
    (fun _ _ call alike => alike.serve call) LoadAlike.empty calls

end CollabEditor.Persistence
