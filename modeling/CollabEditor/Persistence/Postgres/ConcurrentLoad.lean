import CollabEditor.Persistence.Postgres.Tables
import Mathlib.Data.List.DropRight

/-!
Owns `PostgresDocumentStore.load` while other instances commit. Its two
queries run in snapshots of their own, so any transactions may commit between
them; each takes effect atomically when it commits.

Does not own the statements of those transactions, nor a row that becomes
visible after a higher one: see `Persistence.Postgres.Transactions`.
-/

namespace CollabEditor.Persistence.PostgresDocumentStore

open CollabEditor.Yjs

universe u

variable {Op : Type u} [DecidableEq Op]

/-- A committed transaction on the document. Other documents may have drawn
`skipped` sequence numbers before an append draws its own. -/
inductive Transaction (Op : Type u) where
  | append (skipped : ℕ) (update : Update Op)
  | compact
deriving DecidableEq

def Transaction.apply (tables : Tables Op) : Transaction Op → Tables Op
  | .append skipped update => insertUpdate tables (tables.nextSeq + skipped) update
  | .compact => (PostgresDocumentStore.compact tables).1

/-- The committed tables after some transactions, in commit order. -/
def commitAll (tables : Tables Op) (transactions : List (Transaction Op)) : Tables Op :=
  transactions.foldl Transaction.apply tables

/-- The payloads of the appends among some transactions. -/
def appended (transactions : List (Transaction Op)) : List (Update Op) :=
  transactions.filterMap fun
    | .append _ update => some update
    | .compact => none

/-- What `load` owes its caller when `before` committed ahead of its first
query and `between` committed between the two: everything appended before it
ran, and a null state only for a document never appended to. -/
def LoadComplete (before between : List (Transaction Op)) : Prop :=
  let first := commitAll Tables.empty before
  let result := loadAcross first (commitAll first between)
  (∀ update ∈ appended before, update ⊆ result.content) ∧
    (result.state = none → appended before = [])

/-- The payloads appended after the last compaction. -/
def appendedSince (transactions : List (Transaction Op)) : List (Update Op) :=
  appended (transactions.rtakeWhile (· ≠ .compact))

/-- No compaction commits between the two queries, or the first one leaves nothing
in the log to fold, or what it leaves there is in the snapshot it returns or in
what was appended again after the last compaction. -/
def NothingFoldedBetween (before between : List (Transaction Op)) : Prop :=
  let first := commitAll Tables.empty before
  Transaction.compact ∉ between ∨ first.log = [] ∨
    (first.snapshot ≠ none ∨ appendedSince between ≠ []) ∧
      payloads first.log ⊆
        snapshotContent first.snapshot ∪ mergeUpdates (appendedSince between)

/-! ### One transaction, then any number -/

private theorem commitAll_cons (tables : Tables Op) (head : Transaction Op)
    (tail : List (Transaction Op)) :
    commitAll tables (head :: tail) = commitAll (head.apply tables) tail := rfl

private theorem Tables.Ordered.apply {tables : Tables Op} (ordered : tables.Ordered)
    (transaction : Transaction Op) : (transaction.apply tables).Ordered := by
  cases transaction with
  | append skipped update => exact ordered.insertUpdate (Nat.le_add_right _ _) update
  | compact => exact ordered.compact

private theorem Tables.Ordered.commitAll {tables : Tables Op} (ordered : tables.Ordered)
    (transactions : List (Transaction Op)) : (commitAll tables transactions).Ordered := by
  induction transactions generalizing tables with
  | nil => exact ordered
  | cons head tail inductionHypothesis => exact inductionHypothesis (ordered.apply head)

/-- A transaction never lowers the sequence the snapshot reaches. -/
theorem throughSeq_apply_le {tables : Tables Op} (ordered : tables.Ordered)
    (transaction : Transaction Op) :
    throughSeq tables.snapshot ≤ throughSeq (transaction.apply tables).snapshot := by
  cases transaction with
  | append skipped update => exact le_rfl
  | compact =>
      cases found : selectMaxSeq tables.log with
      | none =>
          rw [Transaction.apply, compact_of_empty (selectMaxSeq_eq_none.mp found)]
      | some cutoff =>
          obtain ⟨row, member, rfl⟩ := exists_of_selectMaxSeq found
          rw [Transaction.apply, compact_of_max found]
          exact (ordered.above row member).le

private theorem throughSeq_commitAll_le {tables : Tables Op} (ordered : tables.Ordered)
    (transactions : List (Transaction Op)) :
    throughSeq tables.snapshot ≤ throughSeq (commitAll tables transactions).snapshot := by
  induction transactions generalizing tables with
  | nil => exact le_rfl
  | cons head tail inductionHypothesis =>
      exact (throughSeq_apply_le ordered head).trans (inductionHypothesis (ordered.apply head))

/-- Snapshot and log together grow by exactly what is appended. -/
theorem content_apply (tables : Tables Op) (transaction : Transaction Op) :
    snapshotContent (transaction.apply tables).snapshot ∪
        payloads (transaction.apply tables).log =
      (snapshotContent tables.snapshot ∪ payloads tables.log) ∪
        mergeUpdates (appended [transaction]) := by
  cases transaction with
  | append skipped update =>
      simp [Transaction.apply, insertUpdate, payloads, appended, Finset.union_assoc]
  | compact =>
      rcases compact_cases tables with ⟨same, -⟩ | ⟨cutoff, -, folded⟩
      · simp [Transaction.apply, same, appended]
      · simp [Transaction.apply, folded, appended, snapshotContent]

omit [DecidableEq Op] in
private theorem appended_cons (head : Transaction Op) (tail : List (Transaction Op)) :
    appended (head :: tail) = appended [head] ++ appended tail := by
  cases head <;> simp [appended]

private theorem content_commitAll (tables : Tables Op) (transactions : List (Transaction Op)) :
    snapshotContent (commitAll tables transactions).snapshot ∪
        payloads (commitAll tables transactions).log =
      (snapshotContent tables.snapshot ∪ payloads tables.log) ∪
        mergeUpdates (appended transactions) := by
  induction transactions generalizing tables with
  | nil => simp [commitAll, appended]
  | cons head tail inductionHypothesis =>
      rw [commitAll_cons, inductionHypothesis, content_apply, appended_cons head tail,
        mergeUpdates_append, ← Finset.union_assoc]

/-- The document was written to: it has a snapshot or a log row. -/
def Tables.Written (tables : Tables Op) : Prop :=
  tables.snapshot ≠ none ∨ tables.log ≠ []

private theorem written_apply (tables : Tables Op) (transaction : Transaction Op) :
    (transaction.apply tables).Written ↔ tables.Written ∨ appended [transaction] ≠ [] := by
  cases transaction with
  | append skipped update =>
      simp [Tables.Written, Transaction.apply, insertUpdate, appended]
  | compact =>
      rcases compact_cases tables with ⟨same, -⟩ | ⟨cutoff, rows, folded⟩
      · simp [Transaction.apply, same, appended]
      · simp [Tables.Written, Transaction.apply, folded, rows]

private theorem written_commitAll (tables : Tables Op) (transactions : List (Transaction Op)) :
    (commitAll tables transactions).Written ↔ tables.Written ∨ appended transactions ≠ [] := by
  induction transactions generalizing tables with
  | nil => simp [commitAll, appended]
  | cons head tail inductionHypothesis =>
      rw [commitAll_cons, inductionHypothesis, written_apply, appended_cons head tail, or_assoc]
      refine or_congr_right ?_
      rw [ne_eq, ne_eq, ne_eq, List.append_eq_nil_iff, not_and_or]

/-- Without a compaction the log only grows. -/
theorem log_subset_commitAll (tables : Tables Op) {transactions : List (Transaction Op)}
    (appendsOnly : Transaction.compact ∉ transactions) :
    ∀ row ∈ tables.log, row ∈ (commitAll tables transactions).log := by
  induction transactions generalizing tables with
  | nil => exact fun _ member => member
  | cons head tail inductionHypothesis =>
      intro row member
      obtain ⟨notHead, notTail⟩ := not_or.mp (mt List.mem_cons.mpr appendsOnly)
      apply inductionHypothesis _ notTail
      cases head with
      | append skipped update => exact List.mem_append_left _ member
      | compact => exact absurd rfl notHead

/-- After a compaction the log has what was appended since. -/
theorem log_commitAll (tables : Tables Op) {transactions : List (Transaction Op)}
    (compacts : Transaction.compact ∈ transactions) :
    (commitAll tables transactions).log.map UpdateRow.payload = appendedSince transactions := by
  induction transactions using List.reverseRecOn with
  | nil => cases compacts
  | append_singleton earlier last inductionHypothesis =>
      have stepped : commitAll tables (earlier ++ [last]) =
          last.apply (commitAll tables earlier) := List.foldl_concat _ _ _ _
      rw [stepped, appendedSince, List.rtakeWhile_concat]
      cases last with
      | append skipped update =>
          have before : Transaction.compact ∈ earlier := by simpa using compacts
          rw [if_pos (by simp)]
          show ((commitAll tables earlier).log ++ [_]).map UpdateRow.payload = _
          rw [List.map_append, inductionHypothesis before, appended, List.filterMap_append]
          rfl
      | compact =>
          rw [if_neg (by simp)]
          rcases compact_cases (commitAll tables earlier) with ⟨same, blank⟩ | ⟨_, -, folded⟩
          · rw [Transaction.apply, same, blank]
            rfl
          · rw [Transaction.apply, folded]
            rfl

/-! ### What the two queries return together -/

private theorem content_loadAcross {first : Tables Op} (ordered : first.Ordered)
    (between : List (Transaction Op)) :
    (loadAcross first (commitAll first between)).content =
      snapshotContent first.snapshot ∪ payloads (commitAll first between).log := by
  have visible : ∀ row ∈ (commitAll first between).log, throughSeq first.snapshot < row.seq :=
    fun row member => (throughSeq_commitAll_le ordered between).trans_lt
      ((ordered.commitAll between).above row member)
  rw [loadAcross, content_loaded, selectAfter, payloads_orderBySeq,
    List.filter_eq_self.mpr (by simpa using visible)]

private theorem state_loadAcross {first : Tables Op} (ordered : first.Ordered)
    (between : List (Transaction Op)) :
    (loadAcross first (commitAll first between)).state = none ↔
      first.snapshot = none ∧ (commitAll first between).log = [] := by
  rw [loadAcross, state_loaded, selectAfter_eq_nil]
  refine and_congr_right fun _ => ?_
  rw [List.eq_nil_iff_forall_not_mem]
  refine forall₂_congr fun row member => ?_
  simp [(throughSeq_commitAll_le ordered between).trans_lt
    ((ordered.commitAll between).above row member)]

/-- Nothing is folded, so every row the first query left is there for the second. -/
theorem loadComplete_of_appendsOnly {first : Tables Op} (ordered : first.Ordered)
    {between : List (Transaction Op)} (appendsOnly : Transaction.compact ∉ between) :
    snapshotContent first.snapshot ∪ payloads first.log ⊆
        (loadAcross first (commitAll first between)).content ∧
      ((loadAcross first (commitAll first between)).state = none → first.log = []) := by
  have kept := log_subset_commitAll first appendsOnly
  rw [content_loadAcross ordered, state_loadAcross ordered]
  refine ⟨Finset.union_subset_union_right (payloads_mono kept), fun null => ?_⟩
  rw [List.eq_nil_iff_forall_not_mem]
  intro row member
  simpa [null.2] using kept row member

/-- `load` keeps its promise exactly when no compaction folds rows between its
two queries that it then reads nowhere. -/
theorem loadComplete_iff (before between : List (Transaction Op)) :
    LoadComplete before between ↔ NothingFoldedBetween before between := by
  unfold LoadComplete NothingFoldedBetween
  have ordered : (commitAll (Tables.empty : Tables Op) before).Ordered :=
    Tables.Ordered.empty.commitAll before
  have stored : snapshotContent (commitAll Tables.empty before).snapshot ∪
      payloads (commitAll Tables.empty before).log = mergeUpdates (appended before) := by
    rw [content_commitAll]
    simp [Tables.empty, snapshotContent]
  have written := written_commitAll (Tables.empty : Tables Op) before
  generalize commitAll Tables.empty before = first at *
  have appendedNone : first.snapshot = none ∧ first.log = [] → appended before = [] := by
    rintro ⟨noSnapshot, noLog⟩
    by_contra nonempty
    rcases written.mpr (Or.inr nonempty) with someSnapshot | someLog
    · exact someSnapshot noSnapshot
    · exact someLog noLog
  have appendedSome : first.log ≠ [] → appended before ≠ [] := by
    intro someLog
    rcases written.mp (Or.inr someLog) with emptyWritten | nonempty
    · exact absurd emptyWritten (by simp [Tables.Written, Tables.empty])
    · exact nonempty
  dsimp only
  rw [← mergeUpdates_subset, ← stored]
  by_cases appendsOnly : Transaction.compact ∉ between
  · obtain ⟨covered, null⟩ := loadComplete_of_appendsOnly ordered appendsOnly
    refine iff_of_true ⟨covered, fun isNull => appendedNone ⟨?_, null isNull⟩⟩ (Or.inl appendsOnly)
    exact ((state_loadAcross ordered between).mp isNull).1
  · have log := log_commitAll first (not_not.mp appendsOnly)
    have rows : payloads (commitAll first between).log = mergeUpdates (appendedSince between) := by
      rw [payloads, log]
    have blank : (commitAll first between).log = [] ↔ appendedSince between = [] := by
      rw [← log, List.map_eq_nil_iff]
    rw [or_iff_right appendsOnly, content_loadAcross ordered, state_loadAcross ordered, rows, blank,
      Finset.union_subset_iff]
    constructor
    · rintro ⟨⟨-, covered⟩, nullOnlyIfNew⟩
      by_cases nothing : first.log = []
      · exact Or.inl nothing
      · refine Or.inr ⟨?_, covered⟩
        by_contra neither
        obtain ⟨noSnapshot, noRows⟩ := not_or.mp neither
        exact appendedSome nothing (nullOnlyIfNew ⟨not_not.mp noSnapshot, not_not.mp noRows⟩)
    · rintro (nothing | ⟨readSomething, covered⟩)
      · exact ⟨⟨Finset.subset_union_left, by simp [nothing]⟩,
          fun null => appendedNone ⟨null.1, nothing⟩⟩
      · refine ⟨⟨Finset.subset_union_left, covered⟩, fun null => ?_⟩
        rcases readSomething with someSnapshot | someRows
        · exact absurd null.1 someSnapshot
        · exact absurd null.2 someRows

/-- A first compaction between the two queries hides the whole document. -/
theorem load_misses_folded_rows :
    ¬ LoadComplete [.append 0 ({7} : Update ℕ)] [.compact] := by
  unfold LoadComplete
  decide

end CollabEditor.Persistence.PostgresDocumentStore
