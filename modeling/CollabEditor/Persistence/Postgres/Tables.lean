import Mathlib.Data.List.Sort
import Mathlib.Data.List.MinMax
import CollabEditor.Persistence.Store

/-!
Owns the rows `sql/schema.sql` keeps for one document, the queries of
`postgres-store.ts` over them, and the transactions run alone. Sequence
numbers come from one identity column shared by all documents, so the numbers
of one document increase with gaps.
-/

namespace CollabEditor.Persistence.PostgresDocumentStore

open CollabEditor.Yjs

universe u

variable {Op : Type u} [DecidableEq Op]

/-- A row of `document_updates`. -/
structure UpdateRow (Op : Type u) where
  seq : ℕ
  payload : Update Op
deriving DecidableEq

/-- The row of `document_snapshots`. -/
structure SnapshotRow (Op : Type u) where
  state : Update Op
  throughSeq : ℕ
deriving DecidableEq

/-- The committed rows of one document, and the identity column's next value. -/
structure Tables (Op : Type u) where
  /-- Whether `documents` has the row both foreign keys point to. -/
  documentRow : Bool
  snapshot : Option (SnapshotRow Op)
  log : List (UpdateRow Op)
  nextSeq : ℕ
deriving DecidableEq

/-- The schema right after `schema.sql`. -/
def Tables.empty : Tables Op := ⟨false, none, [], 1⟩

/-- `order by seq`. -/
def orderBySeq (rows : List (UpdateRow Op)) : List (UpdateRow Op) :=
  rows.insertionSort fun left right => left.seq ≤ right.seq

/-- `select payload … where seq > $2 order by seq`. -/
def selectAfter (log : List (UpdateRow Op)) (after : ℕ) : List (UpdateRow Op) :=
  orderBySeq (log.filter fun row => after < row.seq)

/-- `select payload … where seq <= $2 order by seq`. -/
def selectThrough (log : List (UpdateRow Op)) (cutoff : ℕ) : List (UpdateRow Op) :=
  orderBySeq (log.filter fun row => row.seq ≤ cutoff)

/-- `select max(seq)`, `none` for SQL's null. -/
def selectMaxSeq (log : List (UpdateRow Op)) : Option ℕ :=
  (log.map UpdateRow.seq).max?

/-- The operations of some rows. -/
def payloads (rows : List (UpdateRow Op)) : Update Op :=
  mergeUpdates (rows.map UpdateRow.payload)

/-- The operations of the snapshot, if there is one. -/
def snapshotContent (snapshot : Option (SnapshotRow Op)) : Update Op :=
  (snapshot.map SnapshotRow.state).getD ∅

/-- The `parts` array both `load` and `compact` build from their two reads. -/
def parts (snapshot : Option (SnapshotRow Op)) (tail : List (UpdateRow Op)) :
    List (Update Op) :=
  (snapshot.map SnapshotRow.state).toList ++ tail.map UpdateRow.payload

/-- The bound of `load`'s second query: `base?.through_seq ?? '0'`. -/
def throughSeq (base : Option (SnapshotRow Op)) : ℕ :=
  (base.map SnapshotRow.throughSeq).getD 0

/-- What `load` returns from the results of its two queries. -/
def loaded (base : Option (SnapshotRow Op)) (tail : List (UpdateRow Op)) :
    LoadedDocument Op :=
  if base = none ∧ tail = [] then ⟨none, 0⟩
  else ⟨some (mergeParts (parts base tail)), tail.length⟩

/-- `load`, with its first query run on `first` and its second on `second`. -/
def loadAcross (first second : Tables Op) : LoadedDocument Op :=
  loaded first.snapshot (selectAfter second.log (throughSeq first.snapshot))

/-- `PostgresDocumentStore.load` with nobody else writing. -/
def load (tables : Tables Op) : LoadedDocument Op :=
  loadAcross tables tables

/-- The row `append` inserts, with the sequence number the identity gave it. -/
def insertUpdate (tables : Tables Op) (seq : ℕ) (payload : Update Op) : Tables Op :=
  { tables with documentRow := true, log := tables.log ++ [⟨seq, payload⟩], nextSeq := seq + 1 }

/-- `PostgresDocumentStore.append`, run alone. -/
def append (tables : Tables Op) (update : Update Op) : Tables Op :=
  insertUpdate tables tables.nextSeq update

/-- `PostgresDocumentStore.compact`, run alone. -/
def compact (tables : Tables Op) : Tables Op × ℕ :=
  match selectMaxSeq tables.log with
  | none => (tables, 0)
  | some cutoff =>
      let merged := mergeUpdates (parts tables.snapshot (selectThrough tables.log cutoff))
      ({ tables with
          snapshot := some ⟨merged, cutoff⟩
          log := tables.log.filter fun row => ¬ row.seq ≤ cutoff },
        (tables.log.filter fun row => row.seq ≤ cutoff).length)

/-! ### Contents -/

theorem mergeUpdates_parts (snapshot : Option (SnapshotRow Op)) (tail : List (UpdateRow Op)) :
    mergeUpdates (parts snapshot tail) = snapshotContent snapshot ∪ payloads tail := by
  cases snapshot <;> simp [parts, snapshotContent, payloads]

@[simp] theorem payloads_nil : payloads ([] : List (UpdateRow Op)) = ∅ := rfl

theorem payloads_append (first second : List (UpdateRow Op)) :
    payloads (first ++ second) = payloads first ∪ payloads second := by
  simp [payloads]

theorem payloads_orderBySeq (rows : List (UpdateRow Op)) :
    payloads (orderBySeq rows) = payloads rows :=
  mergeUpdates_perm ((List.perm_insertionSort _ rows).map _)

theorem mem_payloads {rows : List (UpdateRow Op)} {op : Op} :
    op ∈ payloads rows ↔ ∃ row ∈ rows, op ∈ row.payload := by
  simp [payloads, mem_mergeUpdates]

theorem payloads_mono {fewer more : List (UpdateRow Op)} (sub : ∀ row ∈ fewer, row ∈ more) :
    payloads fewer ⊆ payloads more := by
  intro op member
  obtain ⟨row, inFewer, inRow⟩ := mem_payloads.mp member
  exact mem_payloads.mpr ⟨row, sub row inFewer, inRow⟩

section

omit [DecidableEq Op]

theorem mem_selectThrough {log : List (UpdateRow Op)} {cutoff : ℕ} {row : UpdateRow Op} :
    row ∈ selectThrough log cutoff ↔ row ∈ log ∧ row.seq ≤ cutoff := by
  simp [selectThrough, orderBySeq, List.mem_insertionSort]

theorem mem_selectAfter {log : List (UpdateRow Op)} {after : ℕ} {row : UpdateRow Op} :
    row ∈ selectAfter log after ↔ row ∈ log ∧ after < row.seq := by
  simp [selectAfter, orderBySeq, List.mem_insertionSort]

theorem selectAfter_eq_nil {log : List (UpdateRow Op)} {after : ℕ} :
    selectAfter log after = [] ↔ ∀ row ∈ log, ¬ after < row.seq := by
  rw [List.eq_nil_iff_forall_not_mem]
  simp [mem_selectAfter]

private theorem length_selectAfter (log : List (UpdateRow Op)) (after : ℕ) :
    (selectAfter log after).length = (log.filter fun row => after < row.seq).length :=
  List.length_insertionSort _ _

end

theorem content_loaded (base : Option (SnapshotRow Op)) (tail : List (UpdateRow Op)) :
    (loaded base tail).content = snapshotContent base ∪ payloads tail := by
  unfold loaded
  split
  · next blank => simp [LoadedDocument.content, blank, snapshotContent]
  · simp [LoadedDocument.content, mergeUpdates_parts]

theorem state_loaded (base : Option (SnapshotRow Op)) (tail : List (UpdateRow Op)) :
    (loaded base tail).state = none ↔ base = none ∧ tail = [] := by
  unfold loaded
  split <;> simp_all

private theorem pending_loaded (base : Option (SnapshotRow Op)) (tail : List (UpdateRow Op)) :
    (loaded base tail).pendingUpdates = tail.length := by
  unfold loaded
  split <;> simp_all

section

omit [DecidableEq Op]

theorem selectMaxSeq_eq_none {log : List (UpdateRow Op)} :
    selectMaxSeq log = none ↔ log = [] := by
  simp [selectMaxSeq, List.max?_eq_none_iff]

private theorem le_of_selectMaxSeq {log : List (UpdateRow Op)} {cutoff : ℕ}
    (found : selectMaxSeq log = some cutoff) : ∀ row ∈ log, row.seq ≤ cutoff := by
  intro row member
  exact (List.max?_eq_some_iff.mp found).2 _ (List.mem_map_of_mem member)

theorem exists_of_selectMaxSeq {log : List (UpdateRow Op)} {cutoff : ℕ}
    (found : selectMaxSeq log = some cutoff) : ∃ row ∈ log, row.seq = cutoff :=
  List.mem_map.mp (List.max?_eq_some_iff.mp found).1

end

/-! ### The tables between transactions run alone -/

/-- What holds of the tables when every transaction runs alone: the log only
has rows above the snapshot, in sequence order below the next number. -/
structure Tables.Ordered (tables : Tables Op) : Prop where
  positive : 0 < tables.nextSeq
  above : ∀ row ∈ tables.log, throughSeq tables.snapshot < row.seq
  below : ∀ row ∈ tables.log, row.seq < tables.nextSeq
  snapshotBelow : throughSeq tables.snapshot < tables.nextSeq

namespace Tables.Ordered

section

omit [DecidableEq Op]

theorem empty : (Tables.empty : Tables Op).Ordered where
  positive := Nat.one_pos
  above := by simp [Tables.empty]
  below := by simp [Tables.empty]
  snapshotBelow := Nat.one_pos

theorem insertUpdate {tables : Tables Op} (ordered : tables.Ordered) {seq : ℕ}
    (unused : tables.nextSeq ≤ seq) (payload : Update Op) :
    (insertUpdate tables seq payload).Ordered where
  positive := Nat.succ_pos seq
  above := by
    intro row member
    rcases List.mem_append.mp member with old | new
    · exact ordered.above row old
    · rw [List.mem_singleton.mp new]
      exact lt_of_lt_of_le ordered.snapshotBelow unused
  below := by
    intro row member
    rcases List.mem_append.mp member with old | new
    · exact (ordered.below row old).trans (Nat.lt_succ_of_le unused)
    · rw [List.mem_singleton.mp new]
      exact Nat.lt_succ_self seq
  snapshotBelow := ordered.snapshotBelow.trans (Nat.lt_succ_of_le unused)

theorem append {tables : Tables Op} (ordered : tables.Ordered) (update : Update Op) :
    (append tables update).Ordered :=
  ordered.insertUpdate le_rfl update

end

end Tables.Ordered

/-- With nobody else writing, a compaction folds the whole log. -/
theorem compact_of_max {tables : Tables Op} {cutoff : ℕ}
    (found : selectMaxSeq tables.log = some cutoff) :
    compact tables =
      ({ tables with
          snapshot := some
            ⟨snapshotContent tables.snapshot ∪ payloads tables.log, cutoff⟩
          log := [] },
        tables.log.length) := by
  have all := le_of_selectMaxSeq found
  have folded : payloads (selectThrough tables.log cutoff) = payloads tables.log := by
    rw [selectThrough, payloads_orderBySeq, List.filter_eq_self.mpr (by simpa using all)]
  have kept : (tables.log.filter fun row => ¬ row.seq ≤ cutoff) = [] := by
    simpa using all
  simp only [compact, found, mergeUpdates_parts, folded, kept]
  rw [List.filter_eq_self.mpr (by simpa using all)]

theorem compact_of_empty {tables : Tables Op} (blank : tables.log = []) :
    compact tables = (tables, 0) := by
  simp [compact, selectMaxSeq_eq_none.mpr blank]

theorem Tables.Ordered.compact {tables : Tables Op} (ordered : tables.Ordered) :
    (compact tables).1.Ordered := by
  cases found : selectMaxSeq tables.log with
  | none => rwa [compact_of_empty (selectMaxSeq_eq_none.mp found)]
  | some cutoff =>
      obtain ⟨row, member, rfl⟩ := exists_of_selectMaxSeq found
      rw [compact_of_max found]
      exact ⟨ordered.positive, by simp, by simp, ordered.below row member⟩

/-- `load` reads everything when the log only has rows above the snapshot. -/
theorem content_load {tables : Tables Op}
    (above : ∀ row ∈ tables.log, throughSeq tables.snapshot < row.seq) :
    (load tables).content = snapshotContent tables.snapshot ∪ payloads tables.log := by
  rw [load, loadAcross, content_loaded, selectAfter, payloads_orderBySeq,
    List.filter_eq_self.mpr (by simpa using above)]

private theorem Tables.Ordered.state_load {tables : Tables Op} (ordered : tables.Ordered) :
    (load tables).state = none ↔ tables.snapshot = none ∧ tables.log = [] := by
  rw [load, loadAcross, state_loaded, selectAfter_eq_nil]
  refine and_congr_right fun _ => ?_
  rw [List.eq_nil_iff_forall_not_mem]
  exact forall₂_congr fun row member => by simp [ordered.above row member]

private theorem Tables.Ordered.pending_load {tables : Tables Op} (ordered : tables.Ordered) :
    (load tables).pendingUpdates = tables.log.length := by
  rw [load, loadAcross, pending_loaded, length_selectAfter,
    List.filter_eq_self.mpr (by simpa using ordered.above)]

/-- Tables as transactions run alone leave them. -/
abbrev Entry (Op : Type u) := { tables : Tables Op // tables.Ordered }

/-- A compaction either finds no rows and changes nothing, or folds them all. -/
theorem compact_cases (tables : Tables Op) :
    (compact tables = (tables, 0) ∧ tables.log = []) ∨
      ∃ cutoff, tables.log ≠ [] ∧ compact tables =
        ({ tables with
            snapshot := some
              ⟨snapshotContent tables.snapshot ∪ payloads tables.log, cutoff⟩
            log := [] },
          tables.log.length) := by
  cases found : selectMaxSeq tables.log with
  | none =>
      have blank := selectMaxSeq_eq_none.mp found
      exact Or.inl ⟨compact_of_empty blank, blank⟩
  | some cutoff =>
      refine Or.inr ⟨cutoff, fun blank => ?_, compact_of_max found⟩
      rw [selectMaxSeq_eq_none.mpr blank] at found
      cases found

/-- The Postgres store meets the contract when its transactions do not
overlap. -/
def store : DocumentStore Op (Entry Op) where
  absent := ⟨Tables.empty, .empty⟩
  load entry := load entry.1
  append entry update := ⟨append entry.1 update, entry.2.append update⟩
  compact entry := (⟨(compact entry.1).1, entry.2.compact⟩, (compact entry.1).2)
  load_absent := rfl
  content_append := by
    intro entry update
    rw [content_load (entry.2.append update).above, content_load entry.2.above]
    simp [append, insertUpdate, payloads, Finset.union_assoc]
  state_append := by
    intro entry update
    rw [Option.isSome_iff_ne_none, ne_eq, (entry.2.append update).state_load]
    simp [append, insertUpdate]
  pending_append := by
    intro entry update
    rw [(entry.2.append update).pending_load, entry.2.pending_load]
    simp [append, insertUpdate]
  content_compact := by
    intro entry
    rw [content_load entry.2.compact.above, content_load entry.2.above]
    rcases compact_cases entry.1 with ⟨same, -⟩ | ⟨cutoff, -, folded⟩
    · rw [same]
    · rw [folded]
      simp [snapshotContent]
  state_compact := by
    intro entry
    rw [Bool.eq_iff_iff, Option.isSome_iff_ne_none, Option.isSome_iff_ne_none, ne_eq, ne_eq,
      entry.2.compact.state_load, entry.2.state_load]
    rcases compact_cases entry.1 with ⟨same, -⟩ | ⟨cutoff, written, folded⟩
    · rw [same]
    · simp [folded, written]
  pending_compact := by
    intro entry
    rw [entry.2.compact.pending_load]
    rcases compact_cases entry.1 with ⟨same, blank⟩ | ⟨cutoff, -, folded⟩
    · rw [same, blank, List.length_nil]
    · rw [folded, List.length_nil]
  compact_count := by
    intro entry
    change (compact entry.1).2 = (load entry.1).pendingUpdates
    rw [entry.2.pending_load]
    rcases compact_cases entry.1 with ⟨same, blank⟩ | ⟨cutoff, -, folded⟩
    · rw [same, blank, List.length_nil]
    · rw [folded]

end CollabEditor.Persistence.PostgresDocumentStore
