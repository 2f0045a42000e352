import CollabEditor.Persistence.Postgres.Transactions

/-!
Owns that the transactions of `append` and `compact` do not block one another for
ever: what one waits for is held by another that waits for nothing.

Assumes that the database grants a lock that is free. Does not own how long a
statement takes, nor timeouts.
-/

namespace CollabEditor.Persistence.PostgresDocumentStore

open CollabEditor.Yjs CollabEditor.Library

universe u

variable {Op : Type u} [DecidableEq Op]

/-- How many statements an append has left. -/
def AppendTx.left (current : AppendTx Op) : ℕ :=
  match current.stage with
  | .insertDocument => 3
  | .insertUpdate => 2
  | .commit _ => 1

/-- How many statements a compaction has left at most. -/
def CompactTx.left : CompactTx Op → ℕ
  | .lock => 7
  | .selectCutoff => 6
  | .selectSnapshot _ => 5
  | .selectTail _ _ => 4
  | .upsertSnapshot _ _ _ => 3
  | .deleteRows _ _ _ => 2
  | .commit _ _ _ _ | .commitEmpty => 1

/-- How many statements are left at most. -/
def Database.left (db : Database Op) : ℕ :=
  Assoc.total AppendTx.left db.appends + Assoc.total CompactTx.left db.compacts

/-- The statement starts a transaction. -/
def Statement.begins : Statement Op → Bool
  | .beginAppend _ _ | .beginCompact _ => true
  | _ => false

/-- The statement gives a transaction up. -/
def Statement.givesUp : Statement Op → Bool
  | .append _ .rollback | .compact _ .rollback => true
  | _ => false

/-- A statement of a transaction that is in flight. -/
def settle (db : Database Op) (statement : Statement Op) : Option (Database Op) :=
  if statement.begins then none else execute db statement

/-- What others wait for is held by one of some transactions that is past the
statement that waits. -/
def HeldBy {Tx : Type u} (past : Tx → Prop) (transactions : Assoc ℕ Tx) (holder : Option ℕ) :
    Prop :=
  ∀ tx, holder = some tx → ∃ current, transactions.lookup tx = some current ∧ past current

/-- What others may wait for is held by transactions in flight. -/
structure Database.Held (db : Database Op) : Prop where
  inserter : HeldBy (fun current => current.stage ≠ .insertDocument) db.appends
    db.documentInserter
  holder : HeldBy (fun current => current ≠ .lock) db.compacts db.lockHolder

variable {db db' : Database Op}

/-! ### What a statement does to the transactions -/

/-- A statement of an append leads it on or ends it. -/
inductive AppendStep (db : Database Op) (tx : ℕ) (current : AppendTx Op) (db' : Database Op) :
    Prop where
  | goesOn (next : AppendTx Op) (past : next.stage ≠ .insertDocument)
      (fewer : next.left < current.left) (appends : db'.appends = db.appends.insert tx next)
      (inserter : db'.documentInserter = db.documentInserter ∨ db'.documentInserter = some tx)
  | ends (appends : db'.appends = db.appends.erase tx)
      (inserter : db'.documentInserter = release db.documentInserter tx)

omit [DecidableEq Op] in
private theorem stepAppend_step {tx : ℕ} {current : AppendTx Op} {statement : AppendStatement}
    (stepped : stepAppend db tx current statement = some db') :
    AppendStep db tx current db' ∧ db'.compacts = db.compacts ∧ db'.lockHolder = db.lockHolder := by
  obtain ⟨payload, stage⟩ := current
  cases statement with
  | insertDocument =>
      obtain ⟨atStage, taken⟩ := Option.ite_none_right_eq_some.mp stepped
      cases atStage
      split at taken
      · cases taken
        exact ⟨.goesOn ⟨payload, .insertUpdate⟩ nofun (Nat.lt_succ_self 2) rfl (Or.inl rfl),
          rfl, rfl⟩
      · obtain ⟨-, result⟩ := Option.ite_none_right_eq_some.mp taken
        cases result
        exact ⟨.goesOn ⟨payload, .insertUpdate⟩ nofun (Nat.lt_succ_self 2) rfl (Or.inr rfl),
          rfl, rfl⟩
  | insertUpdate seq =>
      obtain ⟨⟨atStage, -⟩, result⟩ := Option.ite_none_right_eq_some.mp stepped
      cases atStage
      cases result
      exact ⟨.goesOn ⟨payload, .commit seq⟩ nofun (Nat.lt_succ_self 1) rfl (Or.inl rfl), rfl, rfl⟩
  | commit =>
      cases stage with
      | insertDocument => cases stepped
      | insertUpdate => cases stepped
      | commit seq =>
          cases stepped
          exact ⟨.ends rfl rfl, rfl, rfl⟩
  | rollback =>
      cases stepped
      exact ⟨.ends rfl rfl, rfl, rfl⟩

/-- A statement of a compaction leads it on or ends it. -/
inductive CompactStep (db : Database Op) (tx : ℕ) (current : CompactTx Op) (db' : Database Op) :
    Prop where
  | goesOn (next : CompactTx Op) (past : next ≠ .lock) (fewer : next.left < current.left)
      (compacts : db'.compacts = db.compacts.insert tx next)
      (holder : db'.lockHolder = db.lockHolder ∨ db'.lockHolder = some tx)
  | ends (compacts : db'.compacts = db.compacts.erase tx)
      (holder : db'.lockHolder = release db.lockHolder tx)

private theorem stepCompact_step {tx : ℕ} {current : CompactTx Op} {statement : CompactStatement}
    (stepped : stepCompact db tx current statement = some db') :
    CompactStep db tx current db' ∧ db'.appends = db.appends ∧
      db'.documentInserter = db.documentInserter := by
  unfold stepCompact at stepped
  split at stepped
  · obtain ⟨-, result⟩ := Option.ite_none_right_eq_some.mp stepped
    cases result
    exact ⟨.goesOn .selectCutoff nofun (Nat.lt_succ_self 6) rfl (Or.inr rfl), rfl, rfl⟩
  · split at stepped
    · cases stepped
      exact ⟨.goesOn .commitEmpty nofun (by decide : 1 < 6) rfl (Or.inl rfl), rfl, rfl⟩
    · next cutoff selected =>
        cases stepped
        exact ⟨.goesOn (.selectSnapshot cutoff) nofun (Nat.lt_succ_self 5) rfl (Or.inl rfl),
          rfl, rfl⟩
  · cases stepped
    exact ⟨.ends rfl rfl, rfl, rfl⟩
  · next cutoff =>
      cases stepped
      exact ⟨.goesOn (.selectTail cutoff db.tables.snapshot) nofun (Nat.lt_succ_self 4) rfl
        (Or.inl rfl), rfl, rfl⟩
  · next cutoff snapshot =>
      cases stepped
      exact ⟨.goesOn (.upsertSnapshot cutoff snapshot (selectThrough db.tables.log cutoff)) nofun
        (Nat.lt_succ_self 3) rfl (Or.inl rfl), rfl, rfl⟩
  · next cutoff snapshot tail =>
      cases stepped
      exact ⟨.goesOn (.deleteRows cutoff snapshot tail) nofun (Nat.lt_succ_self 2) rfl
        (Or.inl rfl), rfl, rfl⟩
  · next cutoff snapshot tail =>
      cases stepped
      exact ⟨.goesOn (.commit cutoff snapshot tail _) nofun (Nat.lt_succ_self 1) rfl
        (Or.inl rfl), rfl, rfl⟩
  · cases stepped
    exact ⟨.ends rfl rfl, rfl, rfl⟩
  · cases stepped
    exact ⟨.ends rfl rfl, rfl, rfl⟩
  · cases stepped

/-! ### Who holds what -/

section Holding

variable {Tx : Type u} {past : Tx → Prop} {transactions : Assoc ℕ Tx} {holder : Option ℕ} {tx : ℕ}
  {next : Tx}

private theorem HeldBy.goesOn (held : HeldBy past transactions holder) (isPast : past next)
    {later : Option ℕ} (takes : later = holder ∨ later = some tx) :
    HeldBy past (transactions.insert tx next) later := by
  intro other isHolder
  by_cases same : other = tx
  · exact ⟨next, by rw [Assoc.lookup_insert, if_pos same], isPast⟩
  · rcases takes with kept | taken
    · obtain ⟨current, found, isPast⟩ := held other (kept ▸ isHolder)
      exact ⟨current, by rw [Assoc.lookup_insert, if_neg same, found], isPast⟩
    · exact absurd (Option.some.inj (isHolder.symm.trans taken)) same

private theorem HeldBy.begins (held : HeldBy past transactions holder) (isNew : tx ∉ transactions) :
    HeldBy past (transactions.insert tx next) holder := by
  intro other isHolder
  obtain ⟨current, found, isPast⟩ := held other isHolder
  have different : other ≠ tx := by
    intro same
    rw [same] at found
    exact isNew (AList.lookup_isSome.mp (Option.isSome_of_eq_some found))
  exact ⟨current, by rw [Assoc.lookup_insert, if_neg different, found], isPast⟩

private theorem HeldBy.ends (held : HeldBy past transactions holder) :
    HeldBy past (transactions.erase tx) (release holder tx) := by
  intro other isHolder
  obtain ⟨kept, isHolder⟩ := Option.ite_none_left_eq_some.mp isHolder
  obtain ⟨current, found, isPast⟩ := held other isHolder
  have different : other ≠ tx := by
    intro same
    exact kept (same ▸ isHolder)
  exact ⟨current, by rw [Assoc.lookup_erase, if_neg different, found], isPast⟩

end Holding

omit [DecidableEq Op] in
private theorem held_empty : (Database.empty : Database Op).Held :=
  ⟨nofun, nofun⟩

private theorem Database.Held.execute (held : db.Held) {statement : Statement Op}
    (executed : execute db statement = some db') : db'.Held := by
  cases statement with
  | beginAppend tx payload =>
      obtain ⟨isNew, result⟩ := Option.ite_none_left_eq_some.mp executed
      cases result
      exact ⟨held.inserter.begins isNew, held.holder⟩
  | beginCompact tx =>
      obtain ⟨isNew, result⟩ := Option.ite_none_left_eq_some.mp executed
      cases result
      exact ⟨held.inserter, held.holder.begins isNew⟩
  | append tx statement =>
      obtain ⟨current, found, stepped⟩ := Option.bind_eq_some_iff.mp executed
      obtain ⟨step, compacts, holder⟩ := stepAppend_step stepped
      have holds : HeldBy (fun current => current ≠ .lock) db'.compacts db'.lockHolder := by
        rw [compacts, holder]
        exact held.holder
      cases step with
      | goesOn next past fewer appends inserter =>
          exact ⟨appends ▸ held.inserter.goesOn past inserter, holds⟩
      | ends appends inserter => exact ⟨appends ▸ inserter ▸ held.inserter.ends, holds⟩
  | compact tx statement =>
      obtain ⟨current, found, stepped⟩ := Option.bind_eq_some_iff.mp executed
      obtain ⟨step, appends, inserter⟩ := stepCompact_step stepped
      have inserts : HeldBy (fun current => current.stage ≠ .insertDocument) db'.appends
          db'.documentInserter := by
        rw [appends, inserter]
        exact held.inserter
      cases step with
      | goesOn next past fewer compacts holder =>
          exact ⟨inserts, compacts ▸ held.holder.goesOn past holder⟩
      | ends compacts holder => exact ⟨inserts, compacts ▸ holder ▸ held.holder.ends⟩

/-! ### How far the transactions are -/

private theorem total_lt_of_goesOn {Tx : Type u} (left : Tx → ℕ) {transactions : Assoc ℕ Tx}
    {tx : ℕ} {current next : Tx} (found : transactions.lookup tx = some current)
    (fewer : left next < left current) :
    Assoc.total left (transactions.insert tx next) < Assoc.total left transactions := by
  rw [Assoc.total_insert, ← Assoc.total_erase left found]
  omega

private theorem total_lt_of_ends {Tx : Type u} (left : Tx → ℕ) {transactions : Assoc ℕ Tx} {tx : ℕ}
    {current : Tx} (found : transactions.lookup tx = some current) (positive : 0 < left current) :
    Assoc.total left (transactions.erase tx) < Assoc.total left transactions := by
  rw [← Assoc.total_erase left found]
  omega

omit [DecidableEq Op] in
private theorem AppendTx.left_pos (current : AppendTx Op) : 0 < current.left := by
  unfold left
  split
  · decide
  · decide
  · decide

omit [DecidableEq Op] in
private theorem CompactTx.left_pos (current : CompactTx Op) : 0 < current.left := by
  cases current <;> exact Nat.succ_pos _

/-- Every statement of a transaction in flight leaves fewer of them. -/
theorem left_settle {statement : Statement Op} (settles : settle db statement = some db') :
    db'.left < db.left := by
  obtain ⟨-, executed⟩ := Option.ite_none_left_eq_some.mp settles
  cases statement with
  | beginAppend tx payload => cases settles
  | beginCompact tx => cases settles
  | append tx statement =>
      obtain ⟨current, found, stepped⟩ := Option.bind_eq_some_iff.mp executed
      obtain ⟨step, compacts, -⟩ := stepAppend_step stepped
      have fewer :
          Assoc.total AppendTx.left db'.appends < Assoc.total AppendTx.left db.appends := by
        cases step with
        | goesOn next past fewer appends inserter =>
            rw [appends]
            exact total_lt_of_goesOn AppendTx.left found fewer
        | ends appends inserter =>
            rw [appends]
            exact total_lt_of_ends AppendTx.left found current.left_pos
      unfold Database.left
      rw [compacts]
      omega
  | compact tx statement =>
      obtain ⟨current, found, stepped⟩ := Option.bind_eq_some_iff.mp executed
      obtain ⟨step, appends, -⟩ := stepCompact_step stepped
      have fewer : Assoc.total CompactTx.left db'.compacts <
          Assoc.total CompactTx.left db.compacts := by
        cases step with
        | goesOn next past fewer compacts holder =>
            rw [compacts]
            exact total_lt_of_goesOn CompactTx.left found fewer
        | ends compacts holder =>
            rw [compacts]
            exact total_lt_of_ends CompactTx.left found current.left_pos
      unfold Database.left
      rw [appends]
      omega

/-! ### Nobody waits for ever -/

/-- A statement of a transaction in flight, other than a rollback, can run now. -/
def Database.GoesOn (db : Database Op) : Prop :=
  ∃ statement : Statement Op, statement.givesUp = false ∧ (settle db statement).isSome

private theorem goesOn_of_append {tx : ℕ} {current : AppendTx Op}
    (found : db.appends.lookup tx = some current) (statement : AppendStatement)
    (proceeds : statement ≠ .rollback) (runs : (stepAppend db tx current statement).isSome) :
    db.GoesOn := by
  refine ⟨.append tx statement, ?_, ?_⟩
  · cases statement with
    | rollback => exact absurd rfl proceeds
    | _ => rfl
  · show ((db.appends.lookup tx).bind _).isSome
    rw [found]
    exact runs

private theorem goesOn_of_compact {tx : ℕ} {current : CompactTx Op}
    (found : db.compacts.lookup tx = some current) (statement : CompactStatement)
    (proceeds : statement ≠ .rollback) (runs : (stepCompact db tx current statement).isSome) :
    db.GoesOn := by
  refine ⟨.compact tx statement, ?_, ?_⟩
  · cases statement with
    | rollback => exact absurd rfl proceeds
    | _ => rfl
  · show ((db.compacts.lookup tx).bind _).isSome
    rw [found]
    exact runs

/-- An append that has its row in `documents` waits for nobody. -/
theorem goesOn_of_inserted {tx : ℕ} {current : AppendTx Op}
    (found : db.appends.lookup tx = some current) (past : current.stage ≠ .insertDocument) :
    db.GoesOn := by
  cases stage : current.stage with
  | insertDocument => exact absurd stage past
  | insertUpdate =>
      refine goesOn_of_append found (.insertUpdate db.tables.nextSeq) nofun ?_
      unfold stepAppend
      dsimp only
      rw [if_pos ⟨stage, le_rfl⟩]
      rfl
  | commit seq =>
      refine goesOn_of_append found .commit nofun ?_
      unfold stepAppend
      dsimp only
      rw [stage]
      rfl

/-- A compaction that has the lock waits for nobody. -/
theorem goesOn_of_locked {tx : ℕ} {current : CompactTx Op}
    (found : db.compacts.lookup tx = some current) (past : current ≠ .lock) : db.GoesOn := by
  cases current with
  | lock => exact absurd rfl past
  | selectCutoff =>
      refine goesOn_of_compact found .selectCutoff nofun ?_
      unfold stepCompact
      dsimp only
      split
      · rfl
      · rfl
  | commitEmpty => exact goesOn_of_compact found .commit nofun rfl
  | selectSnapshot cutoff =>
      exact goesOn_of_compact found .selectSnapshot nofun rfl
  | selectTail cutoff snapshot =>
      exact goesOn_of_compact found .selectTail nofun rfl
  | upsertSnapshot cutoff snapshot tail =>
      exact goesOn_of_compact found .upsertSnapshot nofun rfl
  | deleteRows cutoff snapshot tail =>
      exact goesOn_of_compact found .deleteRows nofun rfl
  | commit cutoff snapshot tail deleted =>
      exact goesOn_of_compact found .commit nofun rfl

/-- An append that waits does so for another that has its row. -/
theorem Database.Held.append_goesOn (held : db.Held) {tx : ℕ} {current : AppendTx Op}
    (found : db.appends.lookup tx = some current) : db.GoesOn := by
  by_cases first : current.stage = .insertDocument
  · by_cases row : db.tables.documentRow = true
    · refine goesOn_of_append found .insertDocument nofun ?_
      unfold stepAppend
      dsimp only
      rw [if_pos first, if_pos row]
      rfl
    · cases inserter : db.documentInserter with
      | none =>
          refine goesOn_of_append found .insertDocument nofun ?_
          unfold stepAppend
          dsimp only
          rw [if_pos first, if_neg row, if_pos inserter]
          rfl
      | some holder =>
          obtain ⟨other, inFlight, past⟩ := held.inserter holder inserter
          exact goesOn_of_inserted inFlight past
  · exact goesOn_of_inserted found first

private theorem Database.Held.compact_goesOn (held : db.Held) {tx : ℕ} {current : CompactTx Op}
    (found : db.compacts.lookup tx = some current) : db.GoesOn := by
  by_cases first : current = .lock
  · subst first
    cases lock : db.lockHolder with
    | none =>
        refine goesOn_of_compact found .lock nofun ?_
        unfold stepCompact
        dsimp only
        rw [if_pos lock]
        rfl
    | some holder =>
        obtain ⟨other, inFlight, past⟩ := held.holder holder lock
        exact goesOn_of_locked inFlight past
  · exact goesOn_of_locked found first

private theorem exists_of_keys {Tx : Type u} {transactions : Assoc ℕ Tx}
    (nonempty : transactions.keys ≠ []) :
    ∃ tx current, transactions.lookup tx = some current := by
  obtain ⟨tx, member⟩ := List.exists_mem_of_ne_nil _ nonempty
  exact ⟨tx, Option.isSome_iff_exists.mp (AList.lookup_isSome.mpr (AList.mem_keys.mpr member))⟩

private theorem Database.Held.goesOn (held : db.Held) (busy : ¬ db.Quiet) : db.GoesOn := by
  by_cases appends : db.appends.keys = []
  · have compacts : db.compacts.keys ≠ [] := fun none => busy ⟨appends, none⟩
    obtain ⟨tx, current, found⟩ := exists_of_keys compacts
    exact held.compact_goesOn found
  · obtain ⟨tx, current, found⟩ := exists_of_keys appends
    exact held.append_goesOn found

/-- No deadlock, and no wait without end: however the statements of the appends and
compactions interleave, one of them can always go on without giving up, and when
no more transactions begin, all there are end, whatever they do next. -/
theorem transactions_finish (reached : Reached execute (· = Database.empty) db) :
    (¬ db.Quiet → db.GoesOn) ∧ Inevitable settle Database.Quiet db := by
  have held : db.Held := by
    apply reached.invariant Database.Held
    · intro db isEmpty
      rw [isEmpty]
      exact held_empty
    · intro db statement db' held _ executed
      exact held.execute executed
  refine ⟨held.goesOn, ?_⟩
  apply inevitable_of_decreases_on Database.Held Database.left
  · intro db statement db' held settles
    exact held.execute (Option.ite_none_left_eq_some.mp settles).2
  · intro db statement db' _ settles
    exact left_settle settles
  · intro db held busy
    obtain ⟨statement, -, runs⟩ := held.goesOn busy
    exact ⟨statement, runs⟩
  · exact held

/-- An append that waits for the row of another, and a compaction that waits for the
lock of another. -/
theorem transactions_finish_waiting : ∃ db : Database ℕ,
    ¬ db.Quiet ∧ settle db (.append 1 .insertDocument) = none ∧
      settle db (.compact 1 .lock) = none ∧
      (¬ db.Quiet → db.GoesOn) ∧ Inevitable settle Database.Quiet db := by
  obtain ⟨db, reached, busy, waits, locked⟩ := exists_reachedWhen_of_runWhen
    execute (fun _ _ => True) (· = Database.empty) Database.empty
    [.beginAppend 0 {7}, .beginAppend 1 {8}, .append 0 .insertDocument, .beginCompact 0,
      .beginCompact 1, .compact 0 .lock]
    (fun db => ¬ db.Quiet ∧ (settle db (.append 1 .insertDocument)).isNone ∧
      (settle db (.compact 1 .lock)).isNone) rfl (by decide)
  exact ⟨db, busy, Option.isNone_iff_eq_none.mp waits, Option.isNone_iff_eq_none.mp locked,
    transactions_finish reached⟩

end CollabEditor.Persistence.PostgresDocumentStore
