import CollabEditor.Library.Assoc
import CollabEditor.Library.Transition
import CollabEditor.Persistence.Postgres.Tables

/-!
Owns `append` and `compact` statement by statement, for any number of
transactions on one document that interleave freely under READ COMMITTED: a
statement sees what was committed before it began and its own transaction's
writes. Sequence numbers are drawn when a row is inserted, not when it commits.

Does not own connections and errors: a transaction that fails or loses its
connection is one that rolls back.
-/

namespace CollabEditor.Persistence.PostgresDocumentStore

open CollabEditor.Yjs CollabEditor.Library

universe u

variable {Op : Type u} [DecidableEq Op]

/-- The statement an append runs next. -/
inductive AppendStage where
  | insertDocument
  | insertUpdate
  | commit (seq : ℕ)
deriving DecidableEq

/-- An append in flight. -/
structure AppendTx (Op : Type u) where
  payload : Update Op
  stage : AppendStage
deriving DecidableEq

/-- The statement a compaction runs next, with the locals it needs for it. -/
inductive CompactTx (Op : Type u) where
  | lock
  | selectCutoff
  | commitEmpty
  | selectSnapshot (cutoff : ℕ)
  | selectTail (cutoff : ℕ) (snapshot : Option (SnapshotRow Op))
  | upsertSnapshot (cutoff : ℕ) (snapshot : Option (SnapshotRow Op))
      (tail : List (UpdateRow Op))
  | deleteRows (cutoff : ℕ) (snapshot : Option (SnapshotRow Op))
      (tail : List (UpdateRow Op))
  | commit (cutoff : ℕ) (snapshot : Option (SnapshotRow Op))
      (tail : List (UpdateRow Op)) (deleted : List ℕ)
deriving DecidableEq

/-- The committed tables and every transaction in flight. -/
structure Database (Op : Type u) where
  tables : Tables Op
  appends : Assoc ℕ (AppendTx Op)
  compacts : Assoc ℕ (CompactTx Op)
  /-- The append whose uncommitted row in `documents` others wait for. -/
  documentInserter : Option ℕ
  /-- The holder of `pg_advisory_xact_lock`. -/
  lockHolder : Option ℕ
  /-- History: the payloads of the committed appends. -/
  committed : List (Update Op)

def Database.empty : Database Op := ⟨Tables.empty, ∅, ∅, none, none, []⟩

/-- No transaction is in flight. -/
def Database.Quiet (db : Database Op) : Prop :=
  db.appends.keys = [] ∧ db.compacts.keys = []

instance (db : Database Op) : Decidable db.Quiet :=
  inferInstanceAs (Decidable (_ ∧ _))

/-- The statements of `append` after `begin`. -/
inductive AppendStatement where
  | insertDocument
  | insertUpdate (seq : ℕ)
  | commit
  | rollback

/-- The statements of `compact` after `begin`. -/
inductive CompactStatement where
  | lock
  | selectCutoff
  | selectSnapshot
  | selectTail
  | upsertSnapshot
  | deleteRows
  | commit
  | rollback

/-- One statement of the transaction `tx`. -/
inductive Statement (Op : Type u) where
  | beginAppend (tx : ℕ) (payload : Update Op)
  | append (tx : ℕ) (statement : AppendStatement)
  | beginCompact (tx : ℕ)
  | compact (tx : ℕ) (statement : CompactStatement)

/-- Forget the marks a transaction leaves when it ends. -/
def release (holder : Option ℕ) (tx : ℕ) : Option ℕ :=
  if holder = some tx then none else holder

/-- The next statement of the append `tx`. -/
def Database.withAppend (db : Database Op) (tx : ℕ) (next : AppendTx Op) : Database Op :=
  { db with appends := db.appends.insert tx next }

/-- The next statement of the compaction `tx`. -/
def Database.withCompact (db : Database Op) (tx : ℕ) (next : CompactTx Op) : Database Op :=
  { db with compacts := db.compacts.insert tx next }

def Database.endAppend (db : Database Op) (tx : ℕ) : Database Op :=
  { db with
    appends := db.appends.erase tx
    documentInserter := release db.documentInserter tx }

def Database.endCompact (db : Database Op) (tx : ℕ) : Database Op :=
  { db with
    compacts := db.compacts.erase tx
    lockHolder := release db.lockHolder tx }

/-- A statement of the append `tx`, which is at `current`. -/
def stepAppend (db : Database Op) (tx : ℕ) (current : AppendTx Op) :
    AppendStatement → Option (Database Op)
  | .insertDocument =>
      if current.stage = .insertDocument then
        if db.tables.documentRow then
          some (db.withAppend tx { current with stage := .insertUpdate })
        -- `on conflict do nothing` waits for another transaction's uncommitted row
        else if db.documentInserter = none then
          some ({ db with documentInserter := some tx }.withAppend tx
            { current with stage := .insertUpdate })
        else none
      else none
  | .insertUpdate seq =>
      if current.stage = .insertUpdate ∧ db.tables.nextSeq ≤ seq then
        some ({ db with tables := { db.tables with nextSeq := seq + 1 } }.withAppend tx
          { current with stage := .commit seq })
      else none
  | .commit =>
      match current.stage with
      | .commit seq =>
          let row : UpdateRow Op := ⟨seq, current.payload⟩
          some ({ db with
            tables := { db.tables with documentRow := true, log := db.tables.log ++ [row] }
            committed := db.committed ++ [current.payload] }.endAppend tx)
      | _ => none
  | .rollback => some (db.endAppend tx)

/-- A statement of the compaction `tx`, which is at `current`. -/
def stepCompact (db : Database Op) (tx : ℕ) :
    CompactTx Op → CompactStatement → Option (Database Op)
  | .lock, .lock =>
      if db.lockHolder = none then
        some ({ db with lockHolder := some tx }.withCompact tx .selectCutoff)
      else none
  | .selectCutoff, .selectCutoff =>
      match selectMaxSeq db.tables.log with
      | none => some (db.withCompact tx .commitEmpty)
      | some cutoff => some (db.withCompact tx (.selectSnapshot cutoff))
  | .commitEmpty, .commit => some (db.endCompact tx)
  | .selectSnapshot cutoff, .selectSnapshot =>
      some (db.withCompact tx (.selectTail cutoff db.tables.snapshot))
  | .selectTail cutoff snapshot, .selectTail =>
      some (db.withCompact tx
        (.upsertSnapshot cutoff snapshot (selectThrough db.tables.log cutoff)))
  | .upsertSnapshot cutoff snapshot tail, .upsertSnapshot =>
      some (db.withCompact tx (.deleteRows cutoff snapshot tail))
  | .deleteRows cutoff snapshot tail, .deleteRows =>
      some (db.withCompact tx (.commit cutoff snapshot tail
        ((db.tables.log.filter fun row => row.seq ≤ cutoff).map UpdateRow.seq)))
  | .commit cutoff snapshot tail deleted, .commit =>
      let folded : SnapshotRow Op := ⟨mergeUpdates (parts snapshot tail), cutoff⟩
      some ({ db with
        tables := { db.tables with
          snapshot := some folded
          log := db.tables.log.filter fun row => row.seq ∉ deleted } }.endCompact tx)
  | _, .rollback => some (db.endCompact tx)
  | _, _ => none

/-- One statement, if it can run now. -/
def execute (db : Database Op) : Statement Op → Option (Database Op)
  | .beginAppend tx payload =>
      if tx ∈ db.appends then none
      else some (db.withAppend tx ⟨payload, .insertDocument⟩)
  | .append tx statement =>
      (db.appends.lookup tx).bind fun current => stepAppend db tx current statement
  | .beginCompact tx =>
      if tx ∈ db.compacts then none else some (db.withCompact tx .lock)
  | .compact tx statement =>
      (db.compacts.lookup tx).bind fun current => stepCompact db tx current statement

/-- No transaction commits across a compaction's cutoff: an append commits
only above the sequence the committed snapshot reaches, and a compaction only
while its tail query's rows are still all the committed rows up to its
cutoff. -/
def CommitsInOrder (db : Database Op) : Statement Op → Prop
  | .append tx .commit =>
      match db.appends.lookup tx with
      | some ⟨_, .commit seq⟩ => throughSeq db.tables.snapshot < seq
      | _ => True
  | .compact tx .commit =>
      match db.compacts.lookup tx with
      | some (.commit cutoff _ tail _) =>
          ∀ row ∈ db.tables.log, row.seq ≤ cutoff → row ∈ tail
      | _ => True
  | _ => True

instance (db : Database Op) (statement : Statement Op) :
    Decidable (CommitsInOrder db statement) := by
  unfold CommitsInOrder
  split <;> [split; split; skip] <;> infer_instance

/-! ### What is kept -/

/-- What a compaction past a read still agrees on with the committed tables. -/
def CompactTx.Agrees (db : Database Op) (tx : ℕ) : CompactTx Op → Prop
  | .lock => True
  | .selectCutoff | .commitEmpty | .selectSnapshot _ => db.lockHolder = some tx
  | .selectTail _ snapshot => db.lockHolder = some tx ∧ snapshot = db.tables.snapshot
  | .upsertSnapshot cutoff snapshot tail | .deleteRows cutoff snapshot tail =>
      db.lockHolder = some tx ∧ snapshot = db.tables.snapshot ∧
        ∀ row ∈ tail, row ∈ db.tables.log ∧ row.seq ≤ cutoff
  | .commit cutoff snapshot tail deleted =>
      db.lockHolder = some tx ∧ snapshot = db.tables.snapshot ∧
        (∀ row ∈ tail, row ∈ db.tables.log) ∧ (∀ row ∈ tail, row.seq ∈ deleted) ∧
        ∀ seq ∈ deleted, seq ≤ cutoff

/-- The invariant of runs that commit in order. -/
structure Conserved (db : Database Op) : Prop where
  content : snapshotContent db.tables.snapshot ∪ payloads db.tables.log =
    mergeUpdates db.committed
  visible : ∀ row ∈ db.tables.log, throughSeq db.tables.snapshot < row.seq
  agrees : ∀ tx current, db.compacts.lookup tx = some current → current.Agrees db tx

omit [DecidableEq Op] in
/-- A compaction keeps agreeing while the snapshot stays, rows are only added
and the lock does not change hands. -/
theorem CompactTx.Agrees.mono {db db' : Database Op} {tx : ℕ} {current : CompactTx Op}
    (agrees : current.Agrees db tx)
    (holder : db.lockHolder = some tx → db'.lockHolder = some tx)
    (snapshot : db.lockHolder = some tx → db'.tables.snapshot = db.tables.snapshot)
    (log : db.lockHolder = some tx → ∀ row ∈ db.tables.log, row ∈ db'.tables.log) :
    current.Agrees db' tx := by
  cases current with
  | lock => trivial
  | selectCutoff => exact holder agrees
  | commitEmpty => exact holder agrees
  | selectSnapshot cutoff => exact holder agrees
  | selectTail cutoff read =>
      obtain ⟨held, same⟩ := agrees
      exact ⟨holder held, same.trans (snapshot held).symm⟩
  | upsertSnapshot cutoff read tail =>
      obtain ⟨held, same, found⟩ := agrees
      exact ⟨holder held, same.trans (snapshot held).symm,
        fun row member => ⟨log held row (found row member).1, (found row member).2⟩⟩
  | deleteRows cutoff read tail =>
      obtain ⟨held, same, found⟩ := agrees
      exact ⟨holder held, same.trans (snapshot held).symm,
        fun row member => ⟨log held row (found row member).1, (found row member).2⟩⟩
  | commit cutoff read tail deleted =>
      obtain ⟨held, same, found, gone, bounded⟩ := agrees
      exact ⟨holder held, same.trans (snapshot held).symm,
        fun row member => log held row (found row member), gone, bounded⟩

/-! ### What one statement does -/

omit [DecidableEq Op] in
/-- An append's statement changes what `load` reads only when it commits. -/
theorem stepAppend_cases {db db' : Database Op} {tx : ℕ} {current : AppendTx Op}
    {statement : AppendStatement} (stepped : stepAppend db tx current statement = some db') :
    db'.compacts = db.compacts ∧ db'.lockHolder = db.lockHolder ∧
      db'.tables.snapshot = db.tables.snapshot ∧
      (db'.tables.log = db.tables.log ∧ db'.committed = db.committed ∨
        ∃ seq, statement = .commit ∧ current.stage = .commit seq ∧
          db'.tables.log = db.tables.log ++ [⟨seq, current.payload⟩] ∧
          db'.committed = db.committed ++ [current.payload]) := by
  cases statement with
  | insertDocument =>
      simp only [stepAppend] at stepped
      split at stepped
      · split at stepped
        · cases stepped
          exact ⟨rfl, rfl, rfl, Or.inl ⟨rfl, rfl⟩⟩
        · split at stepped
          · cases stepped
            exact ⟨rfl, rfl, rfl, Or.inl ⟨rfl, rfl⟩⟩
          · cases stepped
      · cases stepped
  | insertUpdate seq =>
      simp only [stepAppend] at stepped
      split at stepped
      · cases stepped
        exact ⟨rfl, rfl, rfl, Or.inl ⟨rfl, rfl⟩⟩
      · cases stepped
  | commit =>
      simp only [stepAppend] at stepped
      split at stepped
      · next seq atCommit =>
          cases stepped
          exact ⟨rfl, rfl, rfl, Or.inr ⟨seq, rfl, atCommit, rfl, rfl⟩⟩
      · cases stepped
  | rollback =>
      cases stepped
      exact ⟨rfl, rfl, rfl, Or.inl ⟨rfl, rfl⟩⟩

/-- A compaction's statement ends it with nothing changed, moves it on in
agreement with the tables, takes the lock, or commits. -/
theorem stepCompact_cases {db db' : Database Op} {tx : ℕ} {current : CompactTx Op}
    {statement : CompactStatement}
    (stepped : stepCompact db tx current statement = some db') :
    db' = db.endCompact tx ∨
      (∃ next, db' = db.withCompact tx next ∧
        (current.Agrees db tx → next.Agrees db tx)) ∨
      (db.lockHolder = none ∧
        db' = { db with lockHolder := some tx }.withCompact tx .selectCutoff) ∨
      ∃ cutoff snapshot tail deleted, statement = .commit ∧
        current = .commit cutoff snapshot tail deleted ∧
        db' = { db with
          tables := { db.tables with
            snapshot := some ⟨mergeUpdates (parts snapshot tail), cutoff⟩
            log := db.tables.log.filter fun row => row.seq ∉ deleted } }.endCompact tx := by
  unfold stepCompact at stepped
  split at stepped
  · split at stepped
    · next free => exact Or.inr (Or.inr (Or.inl ⟨free, by simpa using stepped.symm⟩))
    · cases stepped
  · split at stepped
    all_goals
      cases stepped
      exact Or.inr (Or.inl ⟨_, rfl, id⟩)
  · exact Or.inl (by simpa using stepped.symm)
  · cases stepped
    exact Or.inr (Or.inl ⟨_, rfl, fun held => ⟨held, rfl⟩⟩)
  · cases stepped
    refine Or.inr (Or.inl ⟨_, rfl, fun agrees => ⟨agrees.1, agrees.2, fun row member => ?_⟩⟩)
    exact mem_selectThrough.mp member
  · cases stepped
    exact Or.inr (Or.inl ⟨_, rfl, id⟩)
  · next cutoff snapshot tail =>
      cases stepped
      refine Or.inr (Or.inl ⟨_, rfl, fun ⟨held, same, found⟩ =>
        ⟨held, same, fun row member => (found row member).1, fun row member => ?_, ?_⟩⟩)
      · exact List.mem_map_of_mem (List.mem_filter.mpr
          ⟨(found row member).1, by simpa using (found row member).2⟩)
      · intro seq member
        obtain ⟨row, inFilter, rfl⟩ := List.mem_map.mp member
        simpa using (List.mem_filter.mp inFilter).2
  · next cutoff snapshot tail deleted =>
      cases stepped
      exact Or.inr (Or.inr (Or.inr ⟨cutoff, snapshot, tail, deleted, rfl, rfl, rfl⟩))
  · exact Or.inl (by simpa using stepped.symm)
  · cases stepped

/-! ### The invariant along a run -/

theorem Conserved.empty : Conserved (Database.empty : Database Op) where
  content := by simp [Database.empty, Tables.empty, snapshotContent]
  visible := by simp [Database.empty, Tables.empty]
  agrees := by simp [Database.empty]

omit [DecidableEq Op] in
/-- Ending one compaction leaves the others' agreement alone. -/
theorem agrees_endCompact {db : Database Op} {tx : ℕ}
    (agrees : ∀ other current, other ≠ tx → db.compacts.lookup other = some current →
      current.Agrees db other) :
    ∀ other current, (db.endCompact tx).compacts.lookup other = some current →
      current.Agrees (db.endCompact tx) other := by
  intro other current found
  simp only [Database.endCompact, Assoc.lookup_erase] at found
  split at found
  · cases found
  · next different =>
      refine (agrees other current different found).mono (fun held => ?_)
        (fun _ => rfl) (fun _ _ member => member)
      simp [Database.endCompact, release, held, different]

omit [DecidableEq Op] in
/-- Moving one compaction on leaves the others' agreement alone. -/
theorem agrees_withCompact {db : Database Op} {tx : ℕ} {next : CompactTx Op}
    (agrees : ∀ other current, other ≠ tx → db.compacts.lookup other = some current →
      current.Agrees db other)
    (moved : next.Agrees db tx) :
    ∀ other current, (db.withCompact tx next).compacts.lookup other = some current →
      current.Agrees (db.withCompact tx next) other := by
  intro other current found
  simp only [Database.withCompact, Assoc.lookup_insert] at found
  split at found
  · next same =>
      cases found
      subst same
      exact moved.mono id (fun _ => rfl) (fun _ _ member => member)
  · next different =>
      exact (agrees other current different found).mono id (fun _ => rfl)
        (fun _ _ member => member)

private theorem Conserved.stepAppend {db db' : Database Op} (conserved : Conserved db) {tx : ℕ}
    {current : AppendTx Op} {statement : AppendStatement}
    (found : db.appends.lookup tx = some current)
    (inOrder : CommitsInOrder db (.append tx statement))
    (stepped : stepAppend db tx current statement = some db') : Conserved db' := by
  obtain ⟨compacts, holder, snapshot, changed⟩ := stepAppend_cases stepped
  have grows : ∀ row ∈ db.tables.log, row ∈ db'.tables.log := by
    intro row member
    rcases changed with ⟨log, -⟩ | ⟨seq, -, -, log, -⟩
    · rwa [log]
    · rw [log]
      exact List.mem_append_left _ member
  have agrees : ∀ other read, db'.compacts.lookup other = some read →
      read.Agrees db' other := by
    intro other read isRead
    rw [compacts] at isRead
    exact (conserved.agrees other read isRead).mono (fun held => holder.trans held)
      (fun _ => snapshot) (fun _ => grows)
  rcases changed with ⟨log, committed⟩ | ⟨seq, rfl, atCommit, log, committed⟩
  · exact ⟨by rw [snapshot, log, committed, conserved.content],
      by rw [snapshot, log]; exact conserved.visible, agrees⟩
  · have above : throughSeq db.tables.snapshot < seq := by
      obtain ⟨payload, stage⟩ := current
      cases atCommit
      simpa [CommitsInOrder, found] using inOrder
    refine ⟨?_, ?_, agrees⟩
    · rw [snapshot, log, committed, payloads_append, mergeUpdates_append, ← conserved.content]
      simp [payloads, Finset.union_assoc]
    · intro row member
      rw [snapshot]
      rw [log] at member
      rcases List.mem_append.mp member with old | new
      · exact conserved.visible row old
      · rw [List.mem_singleton.mp new]
        exact above

private theorem Conserved.stepCompact {db db' : Database Op} (conserved : Conserved db) {tx : ℕ}
    {current : CompactTx Op} {statement : CompactStatement}
    (found : db.compacts.lookup tx = some current)
    (inOrder : CommitsInOrder db (.compact tx statement))
    (stepped : stepCompact db tx current statement = some db') : Conserved db' := by
  have own := conserved.agrees tx current found
  have others : ∀ other read, other ≠ tx → db.compacts.lookup other = some read →
      read.Agrees db other := fun other read _ isRead => conserved.agrees other read isRead
  rcases stepCompact_cases stepped with rfl | ⟨next, rfl, moved⟩ | ⟨free, rfl⟩ |
    ⟨cutoff, snapshot, tail, deleted, rfl, rfl, rfl⟩
  · exact ⟨conserved.content, conserved.visible, agrees_endCompact others⟩
  · exact ⟨conserved.content, conserved.visible, agrees_withCompact others (moved own)⟩
  · refine ⟨conserved.content, conserved.visible, agrees_withCompact ?_ rfl⟩
    intro other read _ isRead
    refine (conserved.agrees other read isRead).mono (fun held => ?_) (fun _ => rfl)
      (fun _ _ member => member)
    rw [free] at held
    cases held
  · obtain ⟨held, same, read, gone, bounded⟩ := own
    subst same
    -- every committed row up to the cutoff was folded, so what is deleted is kept
    have folded : ∀ row ∈ db.tables.log, row.seq ≤ cutoff → row ∈ tail := by
      simpa [CommitsInOrder, found] using inOrder
    refine ⟨?_, ?_, agrees_endCompact ?_⟩
    · simp only [Database.endCompact, snapshotContent, Option.map_some, Option.getD_some,
        mergeUpdates_parts]
      rw [← conserved.content]
      apply Finset.Subset.antisymm
      · refine Finset.union_subset (Finset.union_subset Finset.subset_union_left ?_) ?_
        · exact (payloads_mono read).trans Finset.subset_union_right
        · exact (payloads_mono fun row member => (List.mem_filter.mp member).1).trans
            Finset.subset_union_right
      · refine Finset.union_subset
          (Finset.subset_union_left.trans Finset.subset_union_left) fun op member => ?_
        obtain ⟨row, inLog, inRow⟩ := mem_payloads.mp member
        by_cases isDeleted : row.seq ∈ deleted
        · refine Finset.mem_union_left _ (Finset.mem_union_right _ ?_)
          exact mem_payloads.mpr ⟨row, folded row inLog (bounded _ isDeleted), inRow⟩
        · refine Finset.mem_union_right _ (mem_payloads.mpr ⟨row, ?_, inRow⟩)
          exact List.mem_filter.mpr ⟨inLog, by simpa using isDeleted⟩
    · intro row member
      obtain ⟨inLog, notDeleted⟩ := List.mem_filter.mp member
      simp only [decide_eq_true_eq] at notDeleted
      by_contra below
      exact notDeleted (gone row (folded row inLog (not_lt.mp below)))
    · intro other read different isRead
      refine (conserved.agrees other read isRead).mono id ?_ ?_ <;>
        intro heldByOther <;>
        exact absurd (Option.some.inj (heldByOther.symm.trans held)) different

theorem Conserved.execute {db db' : Database Op} (conserved : Conserved db)
    {statement : Statement Op} (inOrder : CommitsInOrder db statement)
    (executed : execute db statement = some db') : Conserved db' := by
  cases statement with
  | beginAppend tx payload =>
      simp only [PostgresDocumentStore.execute] at executed
      split at executed
      · cases executed
      · cases executed
        exact ⟨conserved.content, conserved.visible, fun other read isRead =>
          (conserved.agrees other read isRead).mono id (fun _ => rfl) (fun _ _ m => m)⟩
  | append tx statement =>
      obtain ⟨current, found, stepped⟩ := Option.bind_eq_some_iff.mp executed
      exact conserved.stepAppend found inOrder stepped
  | beginCompact tx =>
      simp only [PostgresDocumentStore.execute] at executed
      split at executed
      · cases executed
      · cases executed
        exact ⟨conserved.content, conserved.visible,
          agrees_withCompact (fun other read _ isRead => conserved.agrees other read isRead)
            trivial⟩
  | compact tx statement =>
      obtain ⟨current, found, stepped⟩ := Option.bind_eq_some_iff.mp executed
      exact conserved.stepCompact found inOrder stepped

/-- A run whose commits are all in order keeps every committed append readable
and adds nothing else, at every moment and so whenever no transaction is in
flight. -/
theorem load_eq_committed {db : Database Op}
    (reached : ReachedWhen execute CommitsInOrder (· = Database.empty) db) :
    (load db.tables).content = mergeUpdates db.committed := by
  have conserved : Conserved db := reached.invariant Conserved
    (fun _ begins => begins ▸ Conserved.empty)
    fun _ _ _ holds inOrder executed => holds.execute inOrder executed
  rw [content_load conserved.visible, conserved.content]

/-- One append, start to commit, drawing `seq`. -/
def appendStatements (tx : ℕ) (seq : ℕ) (payload : Update Op) : List (Statement Op) :=
  [.beginAppend tx payload, .append tx .insertDocument, .append tx (.insertUpdate seq),
    .append tx .commit]

/-- Appends before and after a compaction, each drawing its number in order. -/
theorem load_eq_committed_sequential :
    ∃ db : Database ℕ, db.Quiet ∧ db.committed = [{7}, {8}] ∧
      (load db.tables).content = mergeUpdates db.committed := by
  obtain ⟨db, reached, quiet, committed⟩ := exists_reachedWhen_of_runWhen
    execute CommitsInOrder (· = Database.empty) Database.empty
    (appendStatements 0 1 {7} ++
      [.beginCompact 1, .compact 1 .lock, .compact 1 .selectCutoff, .compact 1 .selectSnapshot,
        .compact 1 .selectTail, .compact 1 .upsertSnapshot, .compact 1 .deleteRows,
        .compact 1 .commit] ++ appendStatements 2 2 {8})
    (fun db => db.Quiet ∧ db.committed = [{7}, {8}]) rfl (by decide)
  exact ⟨db, quiet, committed, load_eq_committed reached⟩

/-- An append that drew its number before a compaction took its cutoff and
commits between the compaction's read and its delete is deleted unfolded. -/
theorem append_deleted_unfolded :
    ¬ ∀ db : Database ℕ, Reached execute (· = Database.empty) db → db.Quiet →
      (load db.tables).content = mergeUpdates db.committed := by
  intro claimed
  obtain ⟨db, reached, quiet, lost⟩ := exists_reachedWhen_of_runWhen
    execute (fun _ _ => True) (· = Database.empty) Database.empty
    (appendStatements 0 1 {7} ++
      [.beginAppend 1 {8}, .append 1 .insertDocument, .append 1 (.insertUpdate 2)] ++
      appendStatements 2 3 {9} ++
      [.beginCompact 3, .compact 3 .lock, .compact 3 .selectCutoff, .compact 3 .selectSnapshot,
        .compact 3 .selectTail, .append 1 .commit, .compact 3 .upsertSnapshot,
        .compact 3 .deleteRows, .compact 3 .commit])
    (fun db => db.Quiet ∧ (load db.tables).content ≠ mergeUpdates db.committed)
    rfl (by decide)
  exact lost (claimed db reached quiet)

end CollabEditor.Persistence.PostgresDocumentStore
