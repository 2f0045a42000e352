import CollabEditor.Persistence.Postgres.Transactions

/-!
Owns `load` among the statements of appends and compactions that are in flight:
each of its two queries sees what is committed when it runs, and nothing keeps
the two together.
-/

namespace CollabEditor.Persistence.PostgresDocumentStore

open CollabEditor.Yjs CollabEditor.Library

universe u

variable {Op : Type u} [DecidableEq Op]

/-- A load between its two queries. -/
structure ReadTx (Op : Type u) where
  base : Option (SnapshotRow Op)
  /-- No compaction has committed since the first query. -/
  undisturbed : Bool

/-- A load that has returned. -/
structure Loaded (Op : Type u) where
  result : LoadedDocument Op
  undisturbed : Bool
  /-- How many appends had been committed by then. -/
  till : ℕ

/-- The database with the loads that run on it. -/
structure Reading (Op : Type u) where
  db : Database Op
  reads : List (ReadTx Op)
  /-- History: the loads that have returned, in this order. -/
  finished : List (Loaded Op)

inductive ReadEvent (Op : Type u) where
  | statement (statement : Statement Op)
  /-- The first query of a load. -/
  | selectSnapshot
  /-- The second query of one of the loads. -/
  | selectTail (read : ℕ)

/-- The statement commits what a compaction has folded. -/
def Database.folds (db : Database Op) : Statement Op → Bool
  | .compact tx .commit =>
      match db.compacts.lookup tx with
      | some (.commit _ _ _ _) => true
      | _ => false
  | _ => false

namespace Reading

def step (reading : Reading Op) : ReadEvent Op → Option (Reading Op)
  | .statement statement =>
      (execute reading.db statement).map fun db =>
        { reading with
          db := db
          reads := reading.reads.map fun read =>
            { read with undisturbed := read.undisturbed && !reading.db.folds statement } }
  | .selectSnapshot =>
      some { reading with reads := reading.reads ++ [⟨reading.db.tables.snapshot, true⟩] }
  | .selectTail index =>
      reading.reads[index]?.map fun read =>
        { reading with
          reads := reading.reads.eraseIdx index
          finished := reading.finished ++ [⟨loaded read.base
            (selectAfter reading.db.tables.log (throughSeq read.base)), read.undisturbed,
            reading.db.committed.length⟩] }

def start : Reading Op := ⟨Database.empty, [], []⟩

/-- `CommitsInOrder` of the statements of appends and compactions. -/
def InOrder (reading : Reading Op) : ReadEvent Op → Prop
  | .statement statement => CommitsInOrder reading.db statement
  | _ => True

instance (reading : Reading Op) : ∀ event, Decidable (reading.InOrder event)
  | .statement statement => inferInstanceAs (Decidable (CommitsInOrder reading.db statement))
  | .selectSnapshot | .selectTail _ => isTrue trivial

end Reading

/-- What had been committed by the time a load returned. -/
def Loaded.known (load : Loaded Op) (db : Database Op) : Update Op :=
  mergeUpdates (db.committed.take load.till)

/-! ### Nothing but what was committed is in the database -/

/-- What the committed tables hold. -/
def Tables.content (tables : Tables Op) : Update Op :=
  snapshotContent tables.snapshot ∪ payloads tables.log

/-- What a compaction has read. -/
def CompactTx.carried : CompactTx Op → Update Op
  | .selectTail _ snapshot => snapshotContent snapshot
  | .upsertSnapshot _ snapshot tail | .deleteRows _ snapshot tail | .commit _ snapshot tail _ =>
      snapshotContent snapshot ∪ payloads tail
  | _ => ∅

/-- The tables and the compactions have nothing that was not committed. -/
structure Database.Bounded (db : Database Op) : Prop where
  tables : db.tables.content ⊆ mergeUpdates db.committed
  compacts : ∀ tx current, db.compacts.lookup tx = some current →
    current.carried ⊆ mergeUpdates db.committed

variable {db db' : Database Op}

private theorem bounded_empty : (Database.empty : Database Op).Bounded :=
  ⟨Finset.empty_subset _, nofun⟩

/-- What a statement of a compaction reads and writes. -/
inductive CompactReads (db : Database Op) (tx : ℕ) (current : CompactTx Op) (db' : Database Op) :
    Prop where
  | goesOn (next : CompactTx Op) (tables : db'.tables = db.tables)
      (compacts : db'.compacts = db.compacts.insert tx next)
      (reads : next.carried ⊆ current.carried ∪ db.tables.content)
  | ends (content : db'.tables.content ⊆ current.carried ∪ db.tables.content)
      (compacts : db'.compacts = db.compacts.erase tx)

private theorem stepCompact_reads {tx : ℕ} {current : CompactTx Op} {statement : CompactStatement}
    (stepped : stepCompact db tx current statement = some db') :
    CompactReads db tx current db' ∧ db'.committed = db.committed := by
  have unchanged : db.tables.content ⊆ current.carried ∪ db.tables.content :=
    Finset.subset_union_right
  have keeps : current.carried ⊆ current.carried ∪ db.tables.content :=
    Finset.subset_union_left
  unfold stepCompact at stepped
  split at stepped
  · obtain ⟨-, result⟩ := Option.ite_none_right_eq_some.mp stepped
    cases result
    exact ⟨.goesOn .selectCutoff rfl rfl (Finset.empty_subset _), rfl⟩
  · split at stepped
    · cases stepped
      exact ⟨.goesOn .commitEmpty rfl rfl (Finset.empty_subset _), rfl⟩
    · next cutoff selected =>
        cases stepped
        exact ⟨.goesOn (.selectSnapshot cutoff) rfl rfl (Finset.empty_subset _), rfl⟩
  · cases stepped
    exact ⟨.ends unchanged rfl, rfl⟩
  · next cutoff =>
      cases stepped
      refine ⟨.goesOn (.selectTail cutoff db.tables.snapshot) rfl rfl ?_, rfl⟩
      exact Finset.subset_union_left.trans unchanged
  · next cutoff snapshot =>
      cases stepped
      refine ⟨.goesOn (.upsertSnapshot cutoff snapshot (selectThrough db.tables.log cutoff)) rfl rfl
        ?_, rfl⟩
      apply Finset.union_subset_union (Finset.Subset.refl _)
      refine (payloads_mono fun row member => ?_).trans Finset.subset_union_right
      exact (mem_selectThrough.mp member).1
  · next cutoff snapshot tail =>
      cases stepped
      exact ⟨.goesOn (.deleteRows cutoff snapshot tail) rfl rfl keeps, rfl⟩
  · next cutoff snapshot tail =>
      cases stepped
      exact ⟨.goesOn (.commit cutoff snapshot tail _) rfl rfl keeps, rfl⟩
  · next cutoff snapshot tail deleted =>
      cases stepped
      refine ⟨.ends ?_ rfl, rfl⟩
      apply Finset.union_subset
      · refine Finset.Subset.trans ?_ keeps
        exact (mergeUpdates_parts snapshot tail).subset
      · refine Finset.Subset.trans ?_ unchanged
        refine (payloads_mono fun row member => ?_).trans Finset.subset_union_right
        exact (List.mem_filter.mp member).1
  · cases stepped
    exact ⟨.ends unchanged rfl, rfl⟩
  · cases stepped

private theorem mergeUpdates_mono {fewer more : List (Update Op)} (grows : fewer <+: more) :
    mergeUpdates fewer ⊆ mergeUpdates more := by
  obtain ⟨later, rfl⟩ := grows
  rw [mergeUpdates_append]
  exact Finset.subset_union_left

private theorem Database.Bounded.stepAppend (bounded : db.Bounded) {tx : ℕ} {current : AppendTx Op}
    {statement : AppendStatement} (stepped : stepAppend db tx current statement = some db') :
    db'.Bounded ∧ db.committed <+: db'.committed := by
  obtain ⟨compacts, -, snapshot, changed⟩ := stepAppend_cases stepped
  have content : db.tables.content =
      snapshotContent db'.tables.snapshot ∪ payloads db.tables.log := by
    rw [snapshot]
    rfl
  rcases changed with ⟨log, committed⟩ | ⟨seq, -, -, log, committed⟩
  · have tables : db'.tables.content = db.tables.content := by
      rw [content, ← log]
      rfl
    refine ⟨⟨?_, fun other read isRead => ?_⟩, committed ▸ List.prefix_refl _⟩
    · rw [tables, committed]
      exact bounded.tables
    · rw [committed]
      exact bounded.compacts other read (compacts ▸ isRead)
  · have grows : db.committed <+: db'.committed := committed ▸ List.prefix_append _ _
    have tables : db'.tables.content = db.tables.content ∪ current.payload := by
      unfold Tables.content at content ⊢
      rw [content, log, payloads_append, ← Finset.union_assoc]
      simp [payloads]
    refine ⟨⟨?_, fun other read isRead => ?_⟩, grows⟩
    · rw [tables, committed, mergeUpdates_append]
      apply Finset.union_subset_union bounded.tables
      simp
    · exact (bounded.compacts other read (compacts ▸ isRead)).trans (mergeUpdates_mono grows)

private theorem Database.Bounded.stepCompact (bounded : db.Bounded) {tx : ℕ}
    {current : CompactTx Op}
    (found : db.compacts.lookup tx = some current) {statement : CompactStatement}
    (stepped : stepCompact db tx current statement = some db') :
    db'.Bounded ∧ db.committed <+: db'.committed := by
  obtain ⟨reads, committed⟩ := stepCompact_reads stepped
  have both : current.carried ∪ db.tables.content ⊆ mergeUpdates db.committed :=
    Finset.union_subset (bounded.compacts tx current found) bounded.tables
  refine ⟨?_, committed ▸ List.prefix_refl _⟩
  cases reads with
  | goesOn next tables compacts reads =>
      refine ⟨?_, fun other read isRead => ?_⟩
      · rw [tables, committed]
        exact bounded.tables
      · rw [committed]
        rw [compacts, Assoc.lookup_insert] at isRead
        split at isRead
        · cases isRead
          exact reads.trans both
        · exact bounded.compacts other read isRead
  | ends content compacts =>
      refine ⟨?_, fun other read isRead => ?_⟩
      · rw [committed]
        exact content.trans both
      · rw [committed]
        rw [compacts, Assoc.lookup_erase] at isRead
        obtain ⟨-, isRead⟩ := Option.ite_none_left_eq_some.mp isRead
        exact bounded.compacts other read isRead

/-- Every statement only adds to what is committed, and puts nothing else in the
database. -/
theorem Database.Bounded.execute (bounded : db.Bounded) {statement : Statement Op}
    (executed : execute db statement = some db') :
    db'.Bounded ∧ db.committed <+: db'.committed := by
  cases statement with
  | beginAppend tx payload =>
      obtain ⟨-, result⟩ := Option.ite_none_left_eq_some.mp executed
      cases result
      exact ⟨⟨bounded.tables, bounded.compacts⟩, List.prefix_refl _⟩
  | append tx statement =>
      obtain ⟨current, -, stepped⟩ := Option.bind_eq_some_iff.mp executed
      exact bounded.stepAppend stepped
  | beginCompact tx =>
      obtain ⟨-, result⟩ := Option.ite_none_left_eq_some.mp executed
      cases result
      refine ⟨⟨bounded.tables, fun other read isRead => ?_⟩, List.prefix_refl _⟩
      have isRead : AList.lookup other (db.compacts.insert tx .lock) = some read := isRead
      rw [Assoc.lookup_insert] at isRead
      split at isRead
      · cases isRead
        exact Finset.empty_subset _
      · exact bounded.compacts other read isRead
  | compact tx statement =>
      obtain ⟨current, found, stepped⟩ := Option.bind_eq_some_iff.mp executed
      exact bounded.stepCompact found stepped

/-! ### What loads return -/

namespace Reading

/-- What is known of the loads, whatever the compactions do. -/
structure Sound (reading : Reading Op) : Prop where
  bounded : reading.db.Bounded
  reads : ∀ read ∈ reading.reads, snapshotContent read.base ⊆ mergeUpdates reading.db.committed
  till : ∀ load ∈ reading.finished, load.till ≤ reading.db.committed.length
  finished : ∀ load ∈ reading.finished, load.result.content ⊆ load.known reading.db

variable {reading after : Reading Op}

private theorem known_eq {load : Loaded Op} (till : load.till ≤ db.committed.length)
    (grows : db.committed <+: db'.committed) : load.known db' = load.known db := by
  obtain ⟨later, same⟩ := grows
  unfold Loaded.known
  rw [← same, List.take_append_of_le_length till]

private theorem sound_start : (start : Reading Op).Sound :=
  ⟨bounded_empty, nofun, nofun, nofun⟩

private theorem sound_step (sound : reading.Sound) {event : ReadEvent Op}
    (stepped : reading.step event = some after) : after.Sound := by
  cases event with
  | statement statement =>
      obtain ⟨db, executed, rfl⟩ := Option.map_eq_some_iff.mp stepped
      obtain ⟨bounded, grows⟩ := sound.bounded.execute executed
      refine ⟨bounded, fun read member => ?_, fun load member => ?_, fun load member => ?_⟩
      · obtain ⟨earlier, among, rfl⟩ := List.mem_map.mp member
        exact (sound.reads earlier among).trans (mergeUpdates_mono grows)
      · exact (sound.till load member).trans grows.length_le
      · rw [known_eq (sound.till load member) grows]
        exact sound.finished load member
  | selectSnapshot =>
      cases stepped
      refine ⟨sound.bounded, fun read member => ?_, sound.till, sound.finished⟩
      rcases List.mem_append.mp member with before | isNew
      · exact sound.reads read before
      · rw [List.mem_singleton.mp isNew]
        exact Finset.subset_union_left.trans sound.bounded.tables
  | selectTail index =>
      obtain ⟨read, found, rfl⟩ := Option.map_eq_some_iff.mp stepped
      refine ⟨sound.bounded, fun other member => ?_, fun load member => ?_, fun load member => ?_⟩
      · exact sound.reads other (List.mem_of_mem_eraseIdx member)
      · rcases List.mem_append.mp member with before | isNew
        · exact sound.till load before
        · rw [List.mem_singleton.mp isNew]
      · rcases List.mem_append.mp member with before | isNew
        · exact sound.finished load before
        · rw [List.mem_singleton.mp isNew]
          unfold Loaded.known
          rw [content_loaded, List.take_length]
          apply Finset.union_subset (sound.reads read (List.mem_of_getElem? found))
          refine Finset.Subset.trans ?_ sound.bounded.tables
          refine (payloads_mono fun row member => ?_).trans Finset.subset_union_right
          exact (mem_selectAfter.mp member).1

/-- However statements interleave, and whatever compactions do in between, no
load returns anything but what committed appends had brought by then. -/
theorem loads_read_committed (reached : Reached step (· = start) reading) :
    ∀ load ∈ reading.finished, load.result.content ⊆ load.known reading.db := by
  have sound : reading.Sound := reached.invariant Sound
    (fun _ begins => begins ▸ sound_start)
    fun _ _ _ holds _ stepped => sound_step holds stepped
  exact sound.finished

/-- A compaction commits between the two queries of a load, which still returns
nothing that was not appended. -/
theorem loads_read_committed_disturbed :
    ∃ reading : Reading ℕ, reading.finished.map Loaded.undisturbed = [false] ∧
      ∀ load ∈ reading.finished, load.result.content ⊆ load.known reading.db := by
  obtain ⟨reading, reached, disturbed⟩ := exists_reachedWhen_of_runWhen
    step (fun _ _ => True) (· = start) start
    ((appendStatements 0 1 {7}).map .statement ++ [.selectSnapshot] ++
      ([.beginCompact 1, .compact 1 .lock, .compact 1 .selectCutoff, .compact 1 .selectSnapshot,
        .compact 1 .selectTail, .compact 1 .upsertSnapshot, .compact 1 .deleteRows,
        .compact 1 .commit].map .statement) ++ [.selectTail 0])
    (fun reading => reading.finished.map Loaded.undisturbed = [false]) rfl (by decide)
  exact ⟨reading, disturbed, loads_read_committed reached⟩

/-! ### Loads that no compaction comes between -/

/-- Only a compaction that folds changes the snapshot. -/
theorem snapshot_execute {statement : Statement Op} (executed : execute db statement = some db')
    (folds : db.folds statement = false) : db'.tables.snapshot = db.tables.snapshot := by
  cases statement with
  | beginAppend tx payload =>
      obtain ⟨-, result⟩ := Option.ite_none_left_eq_some.mp executed
      cases result
      rfl
  | append tx statement =>
      obtain ⟨current, -, stepped⟩ := Option.bind_eq_some_iff.mp executed
      exact (stepAppend_cases stepped).2.2.1
  | beginCompact tx =>
      obtain ⟨-, result⟩ := Option.ite_none_left_eq_some.mp executed
      cases result
      rfl
  | compact tx statement =>
      obtain ⟨current, found, stepped⟩ := Option.bind_eq_some_iff.mp executed
      rcases stepCompact_cases stepped with rfl | ⟨next, rfl, -⟩ | ⟨-, rfl⟩ |
        ⟨cutoff, snapshot, tail, deleted, rfl, rfl, rfl⟩
      · rfl
      · rfl
      · rfl
      · simp [Database.folds, found] at folds

/-- What is known of the loads while transactions commit in order. -/
structure Exact (reading : Reading Op) : Prop where
  sound : reading.Sound
  conserved : Conserved reading.db
  reads : ∀ read ∈ reading.reads, read.undisturbed → read.base = reading.db.tables.snapshot
  finished : ∀ load ∈ reading.finished, load.undisturbed →
    load.result.content = load.known reading.db
  ordered : reading.finished.Pairwise fun earlier later => earlier.till ≤ later.till

private theorem exact_start : (start : Reading Op).Exact :=
  ⟨sound_start, Conserved.empty, nofun, nofun, List.Pairwise.nil⟩

private theorem exact_statement (holds : reading.Exact) {statement : Statement Op}
    (inOrder : CommitsInOrder reading.db statement)
    (stepped : reading.step (.statement statement) = some after) : after.Exact := by
  have sound := sound_step holds.sound stepped
  obtain ⟨db, executed, rfl⟩ := Option.map_eq_some_iff.mp stepped
  obtain ⟨-, grows⟩ := holds.sound.bounded.execute executed
  refine ⟨sound, holds.conserved.execute inOrder executed, fun read member undisturbed => ?_,
    fun load member undisturbed => ?_, holds.ordered⟩
  · obtain ⟨earlier, among, rfl⟩ := List.mem_map.mp member
    obtain ⟨before, keeps⟩ : earlier.undisturbed = true ∧ reading.db.folds statement = false := by
      simpa using undisturbed
    rw [snapshot_execute executed keeps]
    exact holds.reads earlier among before
  · rw [known_eq (holds.sound.till load member) grows]
    exact holds.finished load member undisturbed

private theorem exact_selectTail (holds : reading.Exact) {index : ℕ}
    (stepped : reading.step (.selectTail index) = some after) : after.Exact := by
  have sound := sound_step holds.sound stepped
  obtain ⟨read, found, rfl⟩ := Option.map_eq_some_iff.mp stepped
  refine ⟨sound, holds.conserved, fun other member => ?_, fun load member undisturbed => ?_, ?_⟩
  · exact holds.reads other (List.mem_of_mem_eraseIdx member)
  · rcases List.mem_append.mp member with before | isNew
    · exact holds.finished load before undisturbed
    · rw [List.mem_singleton.mp isNew] at undisturbed ⊢
      -- both queries saw one snapshot, so this is a load in a single moment
      have base := holds.reads read (List.mem_of_getElem? found) undisturbed
      unfold Loaded.known
      rw [List.take_length, base]
      exact (content_load holds.conserved.visible).trans holds.conserved.content
  · apply List.pairwise_append.mpr
    refine ⟨holds.ordered, List.pairwise_singleton _ _, fun earlier member later isNew => ?_⟩
    rw [List.mem_singleton.mp isNew]
    exact holds.sound.till earlier member

private theorem exact_step (holds : reading.Exact) {event : ReadEvent Op}
    (inOrder : reading.InOrder event) (stepped : reading.step event = some after) :
    after.Exact := by
  cases event with
  | statement statement => exact exact_statement holds inOrder stepped
  | selectSnapshot =>
      have sound := sound_step holds.sound stepped
      cases stepped
      refine ⟨sound, holds.conserved, fun read member undisturbed => ?_, holds.finished,
        holds.ordered⟩
      rcases List.mem_append.mp member with before | isNew
      · exact holds.reads read before undisturbed
      · rw [List.mem_singleton.mp isNew]
  | selectTail index => exact exact_selectTail holds stepped

private theorem known_mono {earlier later : Loaded Op} (before : earlier.till ≤ later.till)
    (db : Database Op) : earlier.known db ⊆ later.known db :=
  mergeUpdates_mono (List.take_prefix_take_left before)

/-- While transactions commit in order, a load that no folding compaction commits
in the middle of returns exactly what was committed by its second query, and so
everything that any earlier load returned. -/
theorem loads_exact (reached : ReachedWhen step InOrder (· = start) reading) :
    (∀ load ∈ reading.finished, load.undisturbed →
      load.result.content = load.known reading.db) ∧
    reading.finished.Pairwise fun earlier later =>
      later.undisturbed → earlier.result.content ⊆ later.result.content := by
  have holds : reading.Exact := reached.invariant Exact
    (fun _ begins => begins ▸ exact_start)
    fun _ _ _ holds inOrder stepped => exact_step holds inOrder stepped
  refine ⟨holds.finished, ?_⟩
  apply holds.ordered.imp_of_mem
  intro earlier later isEarlier isLater before undisturbed
  rw [holds.finished later isLater undisturbed]
  exact (holds.sound.finished earlier isEarlier).trans (known_mono before reading.db)

/-- Two loads with a compaction between them, and a third that spans an append. -/
theorem loads_exact_sequential :
    ∃ reading : Reading ℕ,
      reading.finished.map (fun load => (load.undisturbed, load.result.content)) =
        [(true, {7}), (true, {7}), (true, {7, 8})] ∧
      (∀ load ∈ reading.finished, load.undisturbed →
        load.result.content = load.known reading.db) ∧
      reading.finished.Pairwise fun earlier later =>
        later.undisturbed → earlier.result.content ⊆ later.result.content := by
  obtain ⟨reading, reached, results⟩ := exists_reachedWhen_of_runWhen
    step InOrder (· = start) start
    ((appendStatements 0 1 {7}).map .statement ++ [.selectSnapshot, .selectTail 0] ++
      ([.beginCompact 1, .compact 1 .lock, .compact 1 .selectCutoff, .compact 1 .selectSnapshot,
        .compact 1 .selectTail, .compact 1 .upsertSnapshot, .compact 1 .deleteRows,
        .compact 1 .commit].map .statement) ++ [.selectSnapshot, .selectTail 0, .selectSnapshot] ++
      (appendStatements 2 2 {8}).map .statement ++ [.selectTail 0])
    (fun reading => reading.finished.map (fun load => (load.undisturbed, load.result.content)) =
      [(true, {7}), (true, {7}), (true, {7, 8})]) rfl (by decide)
  exact ⟨reading, results, loads_exact reached⟩

end Reading

end CollabEditor.Persistence.PostgresDocumentStore
