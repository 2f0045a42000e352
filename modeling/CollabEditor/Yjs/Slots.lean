import CollabEditor.Yjs.Awareness

/-!
Owns an awareness seen one id at a time. What an id's clock and state become
depends only on the entries for that id, so a payload acts on each id alone.
-/

set_option autoImplicit false

namespace CollabEditor.Yjs

open CollabEditor.Library

/-- What an awareness holds for one id. -/
structure Slot where
  clock : ℕ
  state : Option String
deriving DecidableEq

namespace Slot

/-- An entry is newer than the slot, or removes its state at the same age. -/
def Accepts (slot : Slot) (entry : AwarenessEntry) : Prop :=
  slot.clock < entry.clock ∨
    slot.clock = entry.clock ∧ entry.state = none ∧ slot.state ≠ none

instance (slot : Slot) (entry : AwarenessEntry) : Decidable (slot.Accepts entry) :=
  inferInstanceAs (Decidable (_ ∨ _))

/-- The slot after an entry for its id; the local state stays. -/
def hear (isLocal : Bool) (slot : Slot) (entry : AwarenessEntry) : Slot :=
  if slot.Accepts entry then
    match entry.state with
    | some state => ⟨entry.clock, some state⟩
    | none =>
        if isLocal = true ∧ slot.state ≠ none then ⟨entry.clock + 1, slot.state⟩
        else ⟨entry.clock, none⟩
  else slot

/-- The slot after some entries for its id. -/
def hearAll (isLocal : Bool) (slot : Slot) (entries : List AwarenessEntry) : Slot :=
  entries.foldl (hear isLocal) slot

theorem hear_of_not_accepts {isLocal : Bool} {slot : Slot} {entry : AwarenessEntry}
    (rejects : ¬ slot.Accepts entry) : slot.hear isLocal entry = slot := if_neg rejects

/-- A newer state is taken over. -/
theorem hear_some {isLocal : Bool} {slot : Slot} {entry : AwarenessEntry} {state : String}
    (isState : entry.state = some state) (newer : slot.clock < entry.clock) :
    slot.hear isLocal entry = ⟨entry.clock, some state⟩ := by
  have accepts : slot.Accepts entry := Or.inl newer
  unfold hear
  rw [if_pos accepts, isState]

/-- A state is accepted only when it is newer. -/
theorem clock_lt_of_accepts {slot : Slot} {entry : AwarenessEntry}
    (isState : entry.state ≠ none) (accepts : slot.Accepts entry) : slot.clock < entry.clock :=
  accepts.resolve_right fun same => isState same.2.1

theorem clock_le_of_accepts {slot : Slot} {entry : AwarenessEntry}
    (accepts : slot.Accepts entry) : slot.clock ≤ entry.clock :=
  accepts.elim Nat.le_of_lt fun same => Nat.le_of_eq same.1

/-- An absence that is not older takes a state away. -/
theorem accepts_none {slot : Slot} {entry : AwarenessEntry} (isNone : entry.state = none)
    (notOlder : slot.clock ≤ entry.clock) (present : slot.state ≠ none) : slot.Accepts entry := by
  rcases Nat.lt_or_eq_of_le notOlder with newer | same
  · exact Or.inl newer
  · exact Or.inr ⟨same, isNone, present⟩

/-- An absence that is not older than the slot leaves it without a state. -/
theorem state_hear_none {slot : Slot} {entry : AwarenessEntry} (isNone : entry.state = none)
    (notOlder : slot.clock ≤ entry.clock) : (slot.hear false entry).state = none := by
  unfold hear
  by_cases accepts : slot.Accepts entry
  · rw [if_pos accepts, isNone]
    rfl
  · rw [if_neg accepts]
    by_contra present
    exact accepts (accepts_none isNone notOlder present)

/-- An absence gives no state to a slot without one. -/
theorem state_hear_none_of_none {slot : Slot} {entry : AwarenessEntry}
    (isNone : entry.state = none) (absent : slot.state = none) :
    (slot.hear false entry).state = none := by
  unfold hear
  split
  · rw [isNone]
    rfl
  · exact absent

/-- Hearing an entry again changes nothing. -/
theorem hear_hear (slot : Slot) (entry : AwarenessEntry) :
    (slot.hear false entry).hear false entry = slot.hear false entry := by
  by_cases accepts : slot.Accepts entry
  · refine hear_of_not_accepts ?_
    unfold hear
    rw [if_pos accepts]
    cases isState : entry.state with
    | some state =>
        rintro (newer | ⟨-, isNone, -⟩)
        · exact Nat.lt_irrefl _ newer
        · rw [isState] at isNone
          cases isNone
    | none =>
        rintro (newer | ⟨-, -, present⟩)
        · exact Nat.lt_irrefl _ newer
        · exact present rfl
  · rw [hear_of_not_accepts accepts, hear_of_not_accepts accepts]

/-- Some copies of an entry are heard as one. -/
theorem hearAll_copies (slot : Slot) {entry : AwarenessEntry} {entries : List AwarenessEntry}
    (copies : ∀ other ∈ entries, other = entry) (some : entries ≠ []) :
    slot.hearAll false entries = slot.hear false entry := by
  induction entries generalizing slot with
  | nil => exact absurd rfl some
  | cons first rest inductionHypothesis =>
      have isCopy : first = entry := copies first List.mem_cons_self
      subst isCopy
      have later : ∀ other ∈ rest, other = first :=
        fun other member => copies other (List.mem_cons_of_mem _ member)
      by_cases last : rest = []
      · rw [last]
        rfl
      · show (slot.hear false first).hearAll false rest = _
        rw [inductionHypothesis _ later last, hear_hear]

/-- Clocks only grow, and not beyond what is heard. -/
theorem clock_hear_le {slot : Slot} {entry : AwarenessEntry} {bound : ℕ}
    (slotBound : slot.clock ≤ bound) (entryBound : entry.clock ≤ bound) :
    (slot.hear false entry).clock ≤ bound := by
  unfold hear
  split
  · cases entry.state with
    | none => exact entryBound
    | some state => exact entryBound
  · exact slotBound

/-- The local slot keeps its state against entries that are not newer, and
without a state it does not change. -/
theorem hear_local {slot : Slot} {entry : AwarenessEntry} (notNewer : entry.clock ≤ slot.clock) :
    (slot.hear true entry).state = slot.state ∧ slot.clock ≤ (slot.hear true entry).clock ∧
      (slot.state = none → slot.hear true entry = slot) := by
  by_cases accepts : slot.Accepts entry
  · obtain ⟨same, isNone, present⟩ := accepts.resolve_left (by omega)
    have result : slot.hear true entry = ⟨entry.clock + 1, slot.state⟩ := by
      unfold hear
      rw [if_pos accepts, isNone]
      exact if_pos ⟨rfl, present⟩
    rw [result]
    refine ⟨rfl, ?_, fun absent => ?_⟩
    · show slot.clock ≤ entry.clock + 1
      omega
    · exact absurd absent present
  · rw [hear_of_not_accepts accepts]
    exact ⟨rfl, Nat.le_refl _, fun _ => rfl⟩

theorem hearAll_local {slot : Slot} {entries : List AwarenessEntry}
    (notNewer : ∀ entry ∈ entries, entry.clock ≤ slot.clock) :
    (slot.hearAll true entries).state = slot.state ∧
      slot.clock ≤ (slot.hearAll true entries).clock ∧
      (slot.state = none → slot.hearAll true entries = slot) := by
  induction entries generalizing slot with
  | nil => exact ⟨rfl, Nat.le_refl _, fun _ => rfl⟩
  | cons entry rest inductionHypothesis =>
      obtain ⟨state, clock, unchanged⟩ := hear_local (notNewer entry List.mem_cons_self)
      have restNotNewer : ∀ later ∈ rest, later.clock ≤ (slot.hear true entry).clock :=
        fun later member => Nat.le_trans (notNewer later (List.mem_cons_of_mem _ member)) clock
      obtain ⟨restState, restClock, restUnchanged⟩ := inductionHypothesis restNotNewer
      refine ⟨restState.trans state, Nat.le_trans clock restClock, fun absent => ?_⟩
      exact (restUnchanged (state.trans absent)).trans (unchanged absent)

end Slot

namespace Awareness

/-- What is held for an id. -/
def slot (awareness : Awareness) (id : ℕ) : Slot :=
  ⟨(awareness.clocks.lookup id).getD 0, awareness.states.lookup id⟩

theorem mem_states_iff (awareness : Awareness) (id : ℕ) :
    id ∈ awareness.states ↔ (awareness.slot id).state ≠ none := by
  rw [← AList.lookup_isSome]
  exact Option.isSome_iff_ne_none

theorem accepts_iff (awareness : Awareness) (entry : AwarenessEntry) :
    awareness.Accepts entry ↔ (awareness.slot entry.clientId).Accepts entry := by
  unfold Accepts Slot.Accepts
  rw [← mem_states_iff]
  rfl

/-- The awareness once a payload is applied. -/
def heard (awareness : Awareness) (entries : List AwarenessEntry) : Awareness :=
  (awareness.applyUpdate entries).1

private theorem clientId_accept (awareness : Awareness) (entry : AwarenessEntry) :
    (awareness.accept entry).clientId = awareness.clientId := by
  unfold accept
  split
  · rfl
  · split <;> rfl

private theorem heard_eq_foldl (awareness : Awareness) (entries : List AwarenessEntry) :
    awareness.heard entries = entries.foldl
      (fun current entry => if current.Accepts entry then current.accept entry else current)
      awareness := by
  suffices general : ∀ change : AwarenessChange,
      (entries.foldl (fun noted entry =>
        if Accepts noted.1 entry then (noted.1.accept entry, noted.1.note entry noted.2)
        else noted) (awareness, change)).1 = entries.foldl
          (fun current entry => if current.Accepts entry then current.accept entry else current)
          awareness from general .empty
  induction entries generalizing awareness with
  | nil => exact fun _ => rfl
  | cons entry rest inductionHypothesis =>
      intro change
      dsimp only [List.foldl_cons]
      by_cases accepts : awareness.Accepts entry
      · rw [if_pos accepts, if_pos accepts]
        exact inductionHypothesis _ _
      · rw [if_neg accepts, if_neg accepts]
        exact inductionHypothesis _ _

theorem heard_append (awareness : Awareness) (front back : List AwarenessEntry) :
    awareness.heard (front ++ back) = (awareness.heard front).heard back := by
  rw [heard_eq_foldl, heard_eq_foldl, heard_eq_foldl, List.foldl_append]

private theorem slot_hear (awareness : Awareness) (entry : AwarenessEntry) (id : ℕ) :
    (if awareness.Accepts entry then awareness.accept entry else awareness).slot id =
      if entry.clientId = id then
        (awareness.slot id).hear (decide (id = awareness.clientId)) entry
      else awareness.slot id := by
  by_cases accepts : awareness.Accepts entry
  · rw [if_pos accepts]
    by_cases same : entry.clientId = id
    · subst same
      have slotAccepts := (accepts_iff awareness entry).mp accepts
      rw [if_pos rfl]
      unfold Slot.hear accept
      rw [if_pos slotAccepts]
      cases isState : entry.state with
      | some state =>
          simp [slot]
      | none =>
          by_cases isLocal : entry.clientId = awareness.clientId ∧
              awareness.clientId ∈ awareness.states
          · have present : (awareness.slot entry.clientId).state ≠ none := by
              rw [← mem_states_iff, isLocal.1]
              exact isLocal.2
            rw [if_pos isLocal, if_pos ⟨decide_eq_true isLocal.1, present⟩]
            simp [slot]
          · have notLocal : ¬ (decide (entry.clientId = awareness.clientId) = true ∧
                (awareness.slot entry.clientId).state ≠ none) := by
              rintro ⟨isId, present⟩
              have same := of_decide_eq_true isId
              rw [← mem_states_iff] at present
              exact isLocal ⟨same, same ▸ present⟩
            rw [if_neg isLocal, if_neg notLocal]
            simp [slot]
    · have different : id ≠ entry.clientId := Ne.symm same
      rw [if_neg same]
      unfold accept
      split
      · simp [slot, different]
      · split
        · simp [slot, different]
        · simp [slot, different]
  · rw [if_neg accepts]
    split
    · next same =>
        subst same
        rw [Slot.hear_of_not_accepts fun slotAccepts =>
          accepts ((accepts_iff awareness entry).mpr slotAccepts)]
    · rfl

theorem clientId_heard (awareness : Awareness) (entries : List AwarenessEntry) :
    (awareness.heard entries).clientId = awareness.clientId := by
  rw [heard_eq_foldl]
  induction entries generalizing awareness with
  | nil => rfl
  | cons entry rest inductionHypothesis =>
      rw [List.foldl_cons, inductionHypothesis]
      split
      · exact awareness.clientId_accept entry
      · rfl

/-- A payload acts on each id by its own entries. -/
theorem slot_heard (awareness : Awareness) (entries : List AwarenessEntry) (id : ℕ) :
    (awareness.heard entries).slot id =
      (awareness.slot id).hearAll (decide (id = awareness.clientId))
        (entries.filter fun entry => entry.clientId = id) := by
  rw [heard_eq_foldl]
  induction entries generalizing awareness with
  | nil => rfl
  | cons entry rest inductionHypothesis =>
      have sameId : (if awareness.Accepts entry then awareness.accept entry
          else awareness).clientId = awareness.clientId := by
        split
        · exact awareness.clientId_accept entry
        · rfl
      rw [List.foldl_cons, inductionHypothesis, sameId, slot_hear]
      by_cases same : entry.clientId = id
      · rw [if_pos same, List.filter_cons_of_pos (by simpa using same)]
        rfl
      · rw [if_neg same, List.filter_cons_of_neg (by simpa using same)]

theorem slot_observer {clientId id : ℕ} (other : id ≠ clientId) :
    (observer clientId).slot id = ⟨0, none⟩ := by
  show Slot.mk (((∅ : Assoc ℕ ℕ).insert clientId 1).lookup id |>.getD 0) none = _
  rw [Assoc.lookup_insert, if_neg other]
  rfl

theorem state_participant {clientId id : ℕ} (other : id ≠ clientId) :
    ((participant clientId).slot id).state = none := by
  show ((∅ : Assoc ℕ String).insert clientId _).lookup id = none
  rw [Assoc.lookup_insert, if_neg other]
  rfl

theorem slot_setLocalState (awareness : Awareness) (state : Option String) (id : ℕ) :
    (awareness.setLocalState state).slot id =
      if id = awareness.clientId then ⟨(awareness.slot id).clock + 1, state⟩
      else awareness.slot id := by
  by_cases same : id = awareness.clientId
  · subst same
    rw [if_pos rfl]
    cases state with
    | none => simp [slot, setLocalState]
    | some state => simp [slot, setLocalState]
  · rw [if_neg same]
    cases state with
    | none => simp [slot, setLocalState, same]
    | some state => simp [slot, setLocalState, same]

/-! ### Payloads that show what another awareness holds -/

/-- The entry that shows what is held for an id. -/
def entryOf (awareness : Awareness) (id : ℕ) : AwarenessEntry :=
  ⟨id, (awareness.slot id).clock, (awareness.slot id).state⟩

theorem encodeUpdate_eq_map (awareness : Awareness) (ids : List ℕ) :
    awareness.encodeUpdate ids = ids.map awareness.entryOf := rfl

/-- A payload, sent any number of times, shows each of its ids once. -/
theorem hearAll_copies_of_payload (slot : Slot) (awareness : Awareness) (ids : List ℕ)
    {payloads : List (List AwarenessEntry)} (some : payloads ≠ [])
    (copies : ∀ payload ∈ payloads, payload = awareness.encodeUpdate ids) (id : ℕ) :
    slot.hearAll false (payloads.flatten.filter fun entry => entry.clientId = id) =
      if id ∈ ids then slot.hear false (awareness.entryOf id) else slot := by
  have shown : ∀ entry ∈ payloads.flatten.filter fun entry => entry.clientId = id,
      entry = awareness.entryOf id ∧ id ∈ ids := by
    intro entry member
    obtain ⟨inPayloads, isId⟩ := List.mem_filter.mp member
    obtain ⟨payload, isPayload, inPayload⟩ := List.mem_flatten.mp inPayloads
    rw [copies payload isPayload, encodeUpdate_eq_map] at inPayload
    obtain ⟨other, isOther, rfl⟩ := List.mem_map.mp inPayload
    have same : other = id := of_decide_eq_true isId
    exact ⟨same ▸ rfl, same ▸ isOther⟩
  by_cases listed : id ∈ ids
  · rw [if_pos listed]
    refine Slot.hearAll_copies slot (fun entry member => (shown entry member).1) ?_
    obtain ⟨payload, isPayload⟩ := List.exists_mem_of_ne_nil payloads some
    refine List.ne_nil_of_mem (a := awareness.entryOf id) (List.mem_filter.mpr ⟨?_, ?_⟩)
    · refine List.mem_flatten.mpr ⟨payload, isPayload, ?_⟩
      rw [copies payload isPayload, encodeUpdate_eq_map]
      exact List.mem_map.mpr ⟨id, listed, rfl⟩
    · exact decide_eq_true rfl
  · rw [if_neg listed]
    have nothing : payloads.flatten.filter (fun entry => entry.clientId = id) = [] :=
      List.eq_nil_iff_forall_not_mem.mpr fun entry member => listed (shown entry member).2
    rw [nothing]
    rfl

/-! ### Removing states -/

private theorem clientId_removeState (awareness : Awareness) (id : ℕ) :
    (awareness.removeState id).clientId = awareness.clientId := by
  unfold removeState
  split <;> rfl

theorem clientId_removeStates (awareness : Awareness) (ids : List ℕ) :
    (awareness.removeStates ids).1.clientId = awareness.clientId := by
  rw [removeStates_eq_foldl]
  induction ids generalizing awareness with
  | nil => rfl
  | cons id rest inductionHypothesis =>
      rw [List.foldl_cons, inductionHypothesis, clientId_removeState]

private theorem slot_removeState (awareness : Awareness) (removed : ℕ) {id : ℕ}
    (remote : id ≠ awareness.clientId ∨ id ≠ removed) :
    (awareness.removeState removed).slot id =
      if id = removed then ⟨(awareness.slot id).clock, none⟩ else awareness.slot id := by
  unfold removeState
  by_cases same : id = removed
  · subst same
    have notLocal : id ≠ awareness.clientId := remote.resolve_right fun different => different rfl
    rw [if_pos rfl]
    split
    · simp [slot]
    · next absent =>
        have none : awareness.states.lookup id = none := AList.lookup_eq_none.mpr absent
        simp [slot, none]
  · rw [if_neg same]
    split
    · have kept : (if removed = awareness.clientId then
          awareness.clocks.insert removed ((awareness.clocks.lookup removed).getD 0 + 1)
          else awareness.clocks).lookup id = awareness.clocks.lookup id := by
        split
        · rw [Assoc.lookup_insert, if_neg same]
        · rfl
      simp [slot, same, kept]
    · rfl

/-- Removing states leaves the clocks of remote ids. -/
theorem slot_removeStates (awareness : Awareness) (ids : List ℕ) {id : ℕ}
    (remote : id ≠ awareness.clientId ∨ id ∉ ids) :
    (awareness.removeStates ids).1.slot id =
      if id ∈ ids then ⟨(awareness.slot id).clock, none⟩ else awareness.slot id := by
  rw [removeStates_eq_foldl]
  induction ids generalizing awareness with
  | nil => rw [if_neg List.not_mem_nil, List.foldl_nil]
  | cons removed rest inductionHypothesis =>
      have first : id ≠ awareness.clientId ∨ id ≠ removed :=
        remote.imp_right fun notMember same => notMember (same ▸ List.mem_cons_self)
      have later : id ≠ (awareness.removeState removed).clientId ∨ id ∉ rest := by
        rw [clientId_removeState]
        exact remote.imp_right fun notMember member =>
          notMember (List.mem_cons_of_mem _ member)
      rw [List.foldl_cons, inductionHypothesis _ later, slot_removeState awareness removed first]
      by_cases inRest : id ∈ rest
      · rw [if_pos inRest, if_pos (List.mem_cons_of_mem _ inRest)]
        split <;> rfl
      · rw [if_neg inRest]
        by_cases same : id = removed
        · rw [if_pos same, if_pos (same ▸ List.mem_cons_self)]
        · rw [if_neg same, if_neg fun member => (List.mem_cons.mp member).elim same inRest]

theorem known_removeStates (awareness : Awareness) (ids : List ℕ) {id : ℕ}
    (known : (awareness.clocks.lookup id).isSome) :
    ((awareness.removeStates ids).1.clocks.lookup id).isSome := by
  rw [removeStates_eq_foldl]
  induction ids generalizing awareness with
  | nil => exact known
  | cons removed rest inductionHypothesis =>
      rw [List.foldl_cons]
      refine inductionHypothesis _ ?_
      unfold removeState
      split
      · dsimp only
        split
        · rw [Assoc.lookup_insert]
          split
          · rfl
          · exact known
        · exact known
      · exact known

/-! ### A payload of one entry -/

theorem slot_heard_one (awareness : Awareness) (entry : AwarenessEntry) (id : ℕ) :
    (awareness.heard [entry]).slot id =
      if entry.clientId = id then
        (awareness.slot id).hear (decide (id = awareness.clientId)) entry
      else awareness.slot id := by
  rw [heard_eq_foldl]
  exact awareness.slot_hear entry id

theorem mem_sets_one (awareness : Awareness) (entry : AwarenessEntry) (id : ℕ) :
    id ∈ awareness.sets [entry] ↔
      awareness.Accepts entry ∧ entry.state ≠ none ∧ id = entry.clientId := by
  unfold sets
  by_cases accepts : awareness.Accepts entry
  · rw [if_pos accepts]
    cases isState : entry.state <;> simp [sets, accepts]
  · rw [if_neg accepts]
    exact iff_of_false List.not_mem_nil fun all => accepts all.1

/-- An accepted entry of a remote id is what is held afterwards. -/
theorem entryOf_heard_one {awareness : Awareness} {entry : AwarenessEntry}
    (accepts : awareness.Accepts entry) (remote : entry.clientId ≠ awareness.clientId) :
    (awareness.heard [entry]).entryOf entry.clientId = entry := by
  have slotAccepts := (accepts_iff awareness entry).mp accepts
  unfold entryOf
  rw [slot_heard_one, if_pos rfl, decide_eq_false remote]
  unfold Slot.hear
  rw [if_pos slotAccepts]
  obtain ⟨clientId, clock, state⟩ := entry
  cases state <;> rfl

/-- Ids with a state have a clock, and an entry keeps it so. -/
theorem known_heard_one {awareness : Awareness}
    (known : ∀ id, (awareness.slot id).state ≠ none → (awareness.clocks.lookup id).isSome)
    (entry : AwarenessEntry) (id : ℕ)
    (present : ((awareness.heard [entry]).slot id).state ≠ none) :
    ((awareness.heard [entry]).clocks.lookup id).isSome := by
  rw [heard_eq_foldl, List.foldl_cons, List.foldl_nil] at present ⊢
  by_cases accepts : awareness.Accepts entry
  · rw [if_pos accepts] at present ⊢
    by_cases same : id = entry.clientId
    · subst same
      unfold accept
      split
      · simp
      · split <;> simp
    · have before : (awareness.slot id).state ≠ none := by
        have slot := awareness.slot_hear entry id
        rw [if_pos accepts, if_neg (Ne.symm same)] at slot
        rwa [slot] at present
      have kept := known id before
      unfold accept
      split
      · simpa [Assoc.lookup_insert, same] using kept
      · split <;> simpa [Assoc.lookup_insert, same] using kept
  · rw [if_neg accepts] at present ⊢
    exact known id present

/-! ### What a change lists -/

/-- A single entry is listed when it is accepted, unless it takes nothing from
an id without a clock. -/
theorem mem_all_applyUpdate (awareness : Awareness) (entry : AwarenessEntry) (id : ℕ) :
    id ∈ (awareness.applyUpdate [entry]).2.all ↔
      awareness.Accepts entry ∧ id = entry.clientId ∧
        (entry.state ≠ none ∨ (awareness.clocks.lookup entry.clientId).isSome) := by
  unfold applyUpdate
  dsimp only [List.foldl_cons, List.foldl_nil]
  by_cases accepts : awareness.Accepts entry
  · rw [if_pos accepts]
    show id ∈ (awareness.note entry .empty).all ↔ _
    unfold note AwarenessChange.all
    cases isClock : awareness.clocks.lookup entry.clientId <;> cases isState : entry.state <;>
      simp [AwarenessChange.empty, accepts]
  · rw [if_neg accepts]
    exact iff_of_false List.not_mem_nil fun listed => accepts listed.1

private theorem mem_all_dropState (noted : Awareness × AwarenessChange) (removed id : ℕ) :
    id ∈ (dropState noted removed).2.all ↔
      id ∈ noted.2.all ∨ id ∈ noted.1.states ∧ id = removed := by
  by_cases present : removed ∈ noted.1.states
  · rw [dropState, if_pos present]
    have listed : id ∈ ({ noted.2 with removed := noted.2.removed ++ [removed] } :
        AwarenessChange).all ↔ id ∈ noted.2.all ∨ id = removed := by
      simp [AwarenessChange.all, or_assoc]
    rw [listed]
    exact or_congr_right ⟨fun same => ⟨same ▸ present, same⟩, And.right⟩
  · rw [dropState, if_neg present]
    refine (or_iff_left ?_).symm
    rintro ⟨member, rfl⟩
    exact present member

theorem mem_all_removeStates (awareness : Awareness) (ids : List ℕ) (id : ℕ) :
    id ∈ (awareness.removeStates ids).2.all ↔ id ∈ awareness.states ∧ id ∈ ids := by
  suffices general : ∀ noted : Awareness × AwarenessChange,
      id ∈ (ids.foldl dropState noted).2.all ↔
        id ∈ noted.2.all ∨ id ∈ noted.1.states ∧ id ∈ ids from
    (general (awareness, .empty)).trans (or_iff_right List.not_mem_nil)
  induction ids with
  | nil =>
      intro noted
      exact ⟨Or.inl, fun either => either.resolve_right fun both => List.not_mem_nil both.2⟩
  | cons first rest inductionHypothesis =>
      intro noted
      have states : (dropState noted first).1 = noted.1.removeState first := rfl
      rw [List.foldl_cons, inductionHypothesis, mem_all_dropState, states,
        mem_states_removeState, List.mem_cons]
      by_cases same : id = first
      · tauto
      · tauto

end Awareness

end CollabEditor.Yjs
