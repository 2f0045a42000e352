import Mathlib.Data.List.Basic

/-!
Owns a session history: the entries a user can go back to, the current one, and
those there is a way forward to. Going somewhere new drops the way forward.
-/

set_option autoImplicit false

namespace CollabEditor.Library

universe u v

/-- The entries of a session, nearest first on either side of the current one. -/
structure History (Entry : Type u) where
  behind : List Entry
  here : Entry
  ahead : List Entry

namespace History

variable {Entry : Type u} {Place : Type v}

def new (entry : Entry) : History Entry := ⟨[], entry, []⟩

def push (history : History Entry) (entry : Entry) : History Entry :=
  ⟨history.here :: history.behind, entry, []⟩

/-- The entry before the current one, if there is one. -/
def back (history : History Entry) : Option (History Entry) :=
  match history.behind with
  | [] => none
  | entry :: behind => some ⟨behind, entry, history.here :: history.ahead⟩

/-- The entry after the current one, if there is one. -/
def forward (history : History Entry) : Option (History Entry) :=
  match history.ahead with
  | [] => none
  | entry :: ahead => some ⟨history.here :: history.behind, entry, ahead⟩

def map (place : Entry → Place) (history : History Entry) : History Place :=
  ⟨history.behind.map place, place history.here, history.ahead.map place⟩

@[simp] theorem here_new (entry : Entry) : (new entry).here = entry := rfl

@[simp] theorem here_push (history : History Entry) (entry : Entry) :
    (history.push entry).here = entry := rfl

@[simp] theorem here_map (place : Entry → Place) (history : History Entry) :
    (history.map place).here = place history.here := rfl

@[simp] theorem map_new (place : Entry → Place) (entry : Entry) :
    (new entry).map place = new (place entry) := rfl

@[simp] theorem map_push (place : Entry → Place) (history : History Entry) (entry : Entry) :
    (history.push entry).map place = (history.map place).push (place entry) := rfl

theorem map_back (place : Entry → Place) (history : History Entry) :
    (history.map place).back = history.back.map (map place) := by
  unfold back
  cases behind : history.behind with
  | nil => simp [map, behind]
  | cons entry others => simp [map, behind]

theorem map_forward (place : Entry → Place) (history : History Entry) :
    (history.map place).forward = history.forward.map (map place) := by
  unfold forward
  cases ahead : history.ahead with
  | nil => simp [map, ahead]
  | cons entry others => simp [map, ahead]

/-! ### What holds at every entry -/

/-- The current entry and those on either side are of a kind. -/
structure All (holds : Entry → Prop) (history : History Entry) : Prop where
  behind : ∀ entry ∈ history.behind, holds entry
  here : holds history.here
  ahead : ∀ entry ∈ history.ahead, holds entry

variable {holds : Entry → Prop} {history later : History Entry}

theorem all_new {entry : Entry} (kind : holds entry) : All holds (new entry) where
  behind := by simp [new]
  here := kind
  ahead := by simp [new]

theorem All.push (all : All holds history) {entry : Entry} (kind : holds entry) :
    All holds (history.push entry) where
  behind := List.forall_mem_cons.mpr ⟨all.here, all.behind⟩
  here := kind
  ahead := by simp [History.push]

theorem All.back (all : All holds history) (went : history.back = some later) :
    All holds later := by
  unfold History.back at went
  split at went
  · simp at went
  · next entry others behind =>
      have kinds := all.behind
      rw [behind] at kinds
      have := Option.some.inj went
      subst this
      exact ⟨fun other member => kinds other (List.mem_cons_of_mem _ member),
        kinds entry List.mem_cons_self, List.forall_mem_cons.mpr ⟨all.here, all.ahead⟩⟩

theorem All.forward (all : All holds history) (went : history.forward = some later) :
    All holds later := by
  unfold History.forward at went
  split at went
  · simp at went
  · next entry others ahead =>
      have kinds := all.ahead
      rw [ahead] at kinds
      have := Option.some.inj went
      subst this
      exact ⟨List.forall_mem_cons.mpr ⟨all.here, all.behind⟩, kinds entry List.mem_cons_self,
        fun other member => kinds other (List.mem_cons_of_mem _ member)⟩

end History

end CollabEditor.Library
