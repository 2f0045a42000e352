import CollabEditor.Library.Assoc

/-!
Owns what the repository relies on of `y-protocols/awareness`. Every id has a
clock that outlives its state, an entry is accepted by its clock, and a change
lists an id as added only when the id had no clock before.

Does not own the time an id was last seen: that a state is renewed or has
expired is an event, and no clock decides when it comes.
-/

namespace CollabEditor.Yjs

open CollabEditor.Library

/-- One entry of an awareness payload; no state means the id left. -/
structure AwarenessEntry where
  clientId : ℕ
  clock : ℕ
  state : Option String
deriving DecidableEq

/-- `awarenessProtocol.Awareness`, without the times it saw each id. -/
structure Awareness where
  /-- The id of the local document. -/
  clientId : ℕ
  clocks : Assoc ℕ ℕ
  states : Assoc ℕ String

/-- What an `update` event of an `Awareness` lists. -/
structure AwarenessChange where
  added : List ℕ
  updated : List ℕ
  removed : List ℕ
deriving DecidableEq

namespace AwarenessChange

def empty : AwarenessChange := ⟨[], [], []⟩

/-- `[...change.added, ...change.updated, ...change.removed]`. -/
def all (change : AwarenessChange) : List ℕ :=
  change.added ++ change.updated ++ change.removed

end AwarenessChange

namespace Awareness

/-- `new Awareness(doc)` followed by `setLocalState(null)`. -/
def observer (clientId : ℕ) : Awareness :=
  ⟨clientId, (∅ : Assoc ℕ ℕ).insert clientId 1, ∅⟩

/-- `new Awareness(doc)`, whose local state is an empty object. -/
def participant (clientId : ℕ) : Awareness :=
  ⟨clientId, (∅ : Assoc ℕ ℕ).insert clientId 0, (∅ : Assoc ℕ String).insert clientId "\x7b\x7d"⟩

/-- `setLocalState`, which raises the clock every time. -/
def setLocalState (awareness : Awareness) (state : Option String) : Awareness :=
  { awareness with
    clocks := awareness.clocks.insert awareness.clientId
      ((awareness.clocks.lookup awareness.clientId).getD 0 + 1)
    states :=
      match state with
      | none => awareness.states.erase awareness.clientId
      | some state => awareness.states.insert awareness.clientId state }

/-- An entry is newer than what is recorded, or removes a state of the same
age. -/
def Accepts (awareness : Awareness) (entry : AwarenessEntry) : Prop :=
  let clock := (awareness.clocks.lookup entry.clientId).getD 0
  clock < entry.clock ∨
    clock = entry.clock ∧ entry.state = none ∧ entry.clientId ∈ awareness.states

instance (awareness : Awareness) (entry : AwarenessEntry) :
    Decidable (awareness.Accepts entry) :=
  inferInstanceAs (Decidable (_ ∨ _))

/-- The states and the clock once an entry is accepted. A remote entry never
removes the local state; it only makes it announce itself again. -/
def accept (awareness : Awareness) (entry : AwarenessEntry) : Awareness :=
  match entry.state with
  | some state =>
      { awareness with
        clocks := awareness.clocks.insert entry.clientId entry.clock
        states := awareness.states.insert entry.clientId state }
  | none =>
      if entry.clientId = awareness.clientId ∧ awareness.clientId ∈ awareness.states then
        { awareness with
          clocks := awareness.clocks.insert entry.clientId (entry.clock + 1) }
      else
        { awareness with
          clocks := awareness.clocks.insert entry.clientId entry.clock
          states := awareness.states.erase entry.clientId }

/-- How an accepted entry is listed. -/
def note (awareness : Awareness) (entry : AwarenessEntry) (change : AwarenessChange) :
    AwarenessChange :=
  match awareness.clocks.lookup entry.clientId, entry.state with
  | none, some _ => { change with added := change.added ++ [entry.clientId] }
  | some _, none => { change with removed := change.removed ++ [entry.clientId] }
  | some _, some _ => { change with updated := change.updated ++ [entry.clientId] }
  | none, none => change

/-- `applyAwarenessUpdate`: the new awareness and what its event lists. -/
def applyUpdate (awareness : Awareness) (entries : List AwarenessEntry) :
    Awareness × AwarenessChange :=
  entries.foldl (fun (current, change) entry =>
    if current.Accepts entry then (current.accept entry, current.note entry change)
    else (current, change)) (awareness, .empty)

/-- One state goes, if it is there; removing the local one raises its clock. -/
def removeState (awareness : Awareness) (id : ℕ) : Awareness :=
  if id ∈ awareness.states then
    { awareness with
      states := awareness.states.erase id
      clocks :=
        if id = awareness.clientId then
          awareness.clocks.insert id ((awareness.clocks.lookup id).getD 0 + 1)
        else awareness.clocks }
  else awareness

/-- One state goes and the change lists it, if it is there. -/
def dropState (noted : Awareness × AwarenessChange) (id : ℕ) : Awareness × AwarenessChange :=
  (noted.1.removeState id,
    if id ∈ noted.1.states then { noted.2 with removed := noted.2.removed ++ [id] } else noted.2)

/-- `removeAwarenessStates`: states go, clocks stay. -/
def removeStates (awareness : Awareness) (ids : List ℕ) : Awareness × AwarenessChange :=
  ids.foldl dropState (awareness, .empty)

/-- `encodeAwarenessUpdate`. -/
def encodeUpdate (awareness : Awareness) (ids : List ℕ) : List AwarenessEntry :=
  ids.map fun id =>
    ⟨id, (awareness.clocks.lookup id).getD 0, awareness.states.lookup id⟩

/-! ### Which states an update sets -/

/-- The ids whose state an update sets, in order. -/
def sets (awareness : Awareness) : List AwarenessEntry → List ℕ
  | [] => []
  | entry :: rest =>
      if awareness.Accepts entry then
        (if entry.state.isSome then [entry.clientId] else []) ++ (awareness.accept entry).sets rest
      else awareness.sets rest

private theorem mem_states_accept {awareness : Awareness} {entry : AwarenessEntry} {id : ℕ}
    (present : id ∈ (awareness.accept entry).states) :
    id ∈ awareness.states ∨ entry.state.isSome ∧ id = entry.clientId := by
  unfold accept at present
  split at present
  · next state isState =>
      rcases AList.mem_insert _ |>.mp present with here | before
      · exact Or.inr ⟨by rw [isState]; rfl, here⟩
      · exact Or.inl before
  · split at present
    · exact Or.inl present
    · exact Or.inl (AList.mem_erase.mp present).2

private theorem mem_added_note {awareness : Awareness} {entry : AwarenessEntry}
    {change : AwarenessChange} {id : ℕ} (listed : id ∈ (awareness.note entry change).added) :
    id ∈ change.added ∨ entry.state.isSome ∧ id = entry.clientId := by
  unfold note at listed
  split at listed
  · next isState =>
      rcases List.mem_append.mp listed with before | here
      · exact Or.inl before
      · exact Or.inr ⟨by rw [isState]; rfl, List.mem_singleton.mp here⟩
  · exact Or.inl listed
  · exact Or.inl listed
  · exact Or.inl listed

/-- A state that an update leaves was there before or is one it sets, and so is
every id it lists as added. -/
theorem mem_applyUpdate_cases (awareness : Awareness) (entries : List AwarenessEntry) (id : ℕ) :
    (id ∈ (awareness.applyUpdate entries).1.states →
      id ∈ awareness.states ∨ id ∈ awareness.sets entries) ∧
    (id ∈ (awareness.applyUpdate entries).2.added → id ∈ awareness.sets entries) := by
  suffices general : ∀ change : AwarenessChange,
      let applied := entries.foldl (fun (current, change) entry =>
        if Accepts current entry then (current.accept entry, current.note entry change)
        else (current, change)) (awareness, change)
      (id ∈ applied.1.states → id ∈ awareness.states ∨ id ∈ awareness.sets entries) ∧
        (id ∈ applied.2.added → id ∈ change.added ∨ id ∈ awareness.sets entries) by
    obtain ⟨states, added⟩ := general .empty
    exact ⟨states, fun listed => (added listed).resolve_left List.not_mem_nil⟩
  induction entries generalizing awareness with
  | nil => exact fun change => ⟨Or.inl, Or.inl⟩
  | cons entry rest inductionHypothesis =>
      intro change
      by_cases accepted : awareness.Accepts entry
      · have sets : awareness.sets (entry :: rest) =
            (if entry.state.isSome then [entry.clientId] else []) ++
              (awareness.accept entry).sets rest := if_pos accepted
        have first : entry.state.isSome ∧ id = entry.clientId →
            id ∈ awareness.sets (entry :: rest) := by
          rintro ⟨isSome, rfl⟩
          rw [sets, if_pos isSome]
          exact List.mem_cons_self
        have later : id ∈ (awareness.accept entry).sets rest →
            id ∈ awareness.sets (entry :: rest) := by
          intro member
          rw [sets]
          exact List.mem_append_right _ member
        obtain ⟨states, added⟩ :=
          inductionHypothesis (awareness.accept entry) (awareness.note entry change)
        dsimp only [List.foldl_cons]
        rw [if_pos accepted]
        constructor
        · intro present
          rcases states present with now | set
          · exact (mem_states_accept now).imp_right first
          · exact Or.inr (later set)
        · intro listed
          rcases added listed with now | set
          · exact (mem_added_note now).imp_right first
          · exact Or.inr (later set)
      · have sets : awareness.sets (entry :: rest) = awareness.sets rest := if_neg accepted
        dsimp only [List.foldl_cons]
        rw [if_neg accepted, sets]
        exact inductionHypothesis awareness change

/-! ### Which states a removal leaves -/

theorem removeStates_eq_foldl (awareness : Awareness) (ids : List ℕ) :
    (awareness.removeStates ids).1 = ids.foldl removeState awareness := by
  suffices general : ∀ noted : Awareness × AwarenessChange,
      (ids.foldl dropState noted).1 = ids.foldl removeState noted.1 from
    general (awareness, .empty)
  induction ids with
  | nil => exact fun _ => rfl
  | cons id rest inductionHypothesis =>
      intro noted
      rw [List.foldl_cons, List.foldl_cons, inductionHypothesis, dropState]

theorem mem_states_removeState (awareness : Awareness) (removed id : ℕ) :
    id ∈ (awareness.removeState removed).states ↔ id ∈ awareness.states ∧ id ≠ removed := by
  unfold removeState
  split
  · exact AList.mem_erase.trans and_comm
  · next absent =>
      refine (and_iff_left_of_imp ?_).symm
      rintro present rfl
      exact absent present

/-- Exactly the states of the given ids are removed. -/
theorem mem_states_removeStates (awareness : Awareness) (ids : List ℕ) (id : ℕ) :
    id ∈ (awareness.removeStates ids).1.states ↔ id ∈ awareness.states ∧ id ∉ ids := by
  rw [removeStates_eq_foldl]
  induction ids generalizing awareness with
  | nil => exact ⟨fun present => ⟨present, List.not_mem_nil⟩, And.left⟩
  | cons first rest inductionHypothesis =>
      rw [List.foldl_cons, inductionHypothesis, mem_states_removeState, List.mem_cons, not_or,
        and_assoc]

end Awareness

end CollabEditor.Yjs
