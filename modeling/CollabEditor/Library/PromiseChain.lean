import Mathlib.Data.List.Basic
import Mathlib.Logic.Relation

/-!
Owns jobs serialised by a promise chain, `queue = queue.then(job)`: a job
starts only once the promise of the one before it has settled. Nothing else
keeps two jobs apart, and nothing else is needed.
-/

namespace CollabEditor.Library

/-- How far a job has come. -/
inductive JobStage where
  | waiting
  | running
  | settled
deriving DecidableEq

/-- The jobs of a chain, in the order in which they were attached to it. -/
abbrev PromiseChain := List JobStage

namespace PromiseChain

/-- What `then` waits for. -/
def Ready (before : PromiseChain) : Prop :=
  ∀ last, before.getLast? = some last → last = .settled

/-- What can happen to a chain. -/
inductive Step : PromiseChain → PromiseChain → Prop where
  | attach (chain : PromiseChain) : Step chain (chain ++ [.waiting])
  | start (before after : PromiseChain) (ready : before.Ready) :
      Step (before ++ .waiting :: after) (before ++ .running :: after)
  | settle (before after : PromiseChain) :
      Step (before ++ .running :: after) (before ++ .settled :: after)

/-- Some jobs have settled, at most one runs and the rest wait. -/
def Serial : PromiseChain → Prop
  | [] => True
  | .settled :: rest => Serial rest
  | .running :: rest | .waiting :: rest => ∀ job ∈ rest, job = .waiting

theorem Ready.tail {job : JobStage} {rest : PromiseChain} (ready : Ready (job :: rest)) :
    rest.Ready := by
  intro last isLast
  apply ready last
  rw [List.getLast?_cons, isLast, Option.getD_some]

/-- A job that may start in a serial chain has only settled jobs before it and
only waiting ones behind it. -/
theorem Serial.of_ready {before after : PromiseChain} (ready : before.Ready)
    (serial : Serial (before ++ .waiting :: after)) :
    (∀ job ∈ before, job = .settled) ∧ ∀ job ∈ after, job = .waiting := by
  induction before with
  | nil => exact ⟨nofun, serial⟩
  | cons job rest inductionHypothesis =>
      have blocked : job ≠ .settled → (∀ job ∈ rest ++ .waiting :: after, job = .waiting) →
          False := by
        intro notSettled waiting
        cases last : rest.getLast? with
        | none =>
            rw [List.getLast?_eq_none_iff] at last
            subst last
            exact notSettled (ready job rfl)
        | some final =>
            have settled := ready.tail final last
            have member := List.mem_of_getLast? last
            have waits := waiting final (List.mem_append_left _ member)
            exact absurd (settled.symm.trans waits) (by decide)
      cases job with
      | settled =>
          obtain ⟨settled, waiting⟩ := inductionHypothesis ready.tail serial
          refine ⟨fun job member => ?_, waiting⟩
          rcases List.mem_cons.mp member with same | later
          · exact same
          · exact settled job later
      | running => exact (blocked (by decide) serial).elim
      | waiting => exact (blocked (by decide) serial).elim

theorem Serial.of_running {before after : PromiseChain}
    (serial : Serial (before ++ .running :: after)) :
    (∀ job ∈ before, job = .settled) ∧ ∀ job ∈ after, job = .waiting := by
  induction before with
  | nil => exact ⟨nofun, serial⟩
  | cons job rest inductionHypothesis =>
      have blocked : (∀ job ∈ rest ++ .running :: after, job = .waiting) → False := by
        intro waiting
        have waits := waiting .running (List.mem_append_right _ List.mem_cons_self)
        cases waits
      cases job with
      | settled =>
          obtain ⟨settled, waiting⟩ := inductionHypothesis serial
          refine ⟨fun job member => ?_, waiting⟩
          rcases List.mem_cons.mp member with same | later
          · exact same
          · exact settled job later
      | running => exact (blocked serial).elim
      | waiting => exact (blocked serial).elim

/-- Settled jobs in front leave the rest of the chain as it is. -/
theorem serial_append_of_settled {before rest : PromiseChain}
    (settled : ∀ job ∈ before, job = .settled) : Serial (before ++ rest) ↔ Serial rest := by
  induction before with
  | nil => exact Iff.rfl
  | cons job others inductionHypothesis =>
      obtain rfl := settled job List.mem_cons_self
      exact inductionHypothesis fun job member => settled job (List.mem_cons_of_mem _ member)

theorem serial_of_waiting {chain : PromiseChain} (waiting : ∀ job ∈ chain, job = .waiting) :
    Serial chain := by
  cases chain with
  | nil => trivial
  | cons job rest =>
      obtain rfl := waiting job List.mem_cons_self
      exact fun job member => waiting job (List.mem_cons_of_mem _ member)

theorem Serial.attach {chain : PromiseChain} (serial : Serial chain) :
    Serial (chain ++ [.waiting]) := by
  have appended : ∀ rest : PromiseChain, (∀ job ∈ rest, job = .waiting) →
      ∀ job ∈ rest ++ [.waiting], job = .waiting := by
    intro rest waiting job member
    rcases List.mem_append.mp member with old | new
    · exact waiting job old
    · exact List.mem_singleton.mp new
  induction chain with
  | nil => exact fun _ => nofun
  | cons job rest inductionHypothesis =>
      cases job with
      | settled => exact inductionHypothesis serial
      | running => exact appended rest serial
      | waiting => exact appended rest serial

/-- Waiting for the promise before it is all that keeps the jobs apart. -/
theorem Serial.step {chain chain' : PromiseChain} (serial : Serial chain)
    (stepped : Step chain chain') : Serial chain' := by
  cases stepped with
  | attach => exact serial.attach
  | start before after ready =>
      obtain ⟨settled, waiting⟩ := serial.of_ready ready
      exact (serial_append_of_settled settled).mpr waiting
  | settle before after =>
      obtain ⟨settled, waiting⟩ := serial.of_running
      have rest : Serial after := serial_of_waiting waiting
      exact (serial_append_of_settled settled).mpr rest

/-- A job of a serial chain starts only when no other is running. -/
theorem Serial.not_running {before after : PromiseChain}
    (serial : Serial (before ++ .waiting :: after)) (ready : before.Ready) :
    .running ∉ before ++ .waiting :: after := by
  obtain ⟨settled, waiting⟩ := serial.of_ready ready
  intro member
  rcases List.mem_append.mp member with earlier | later
  · cases settled _ earlier
  · rcases List.mem_cons.mp later with same | behind
    · cases same
    · cases waiting _ behind

/-- A chain that started without jobs is serial. -/
theorem serial_of_steps {chain : PromiseChain} (steps : Relation.ReflTransGen Step [] chain) :
    Serial chain := by
  induction steps with
  | refl => trivial
  | tail _ stepped inductionHypothesis => exact inductionHypothesis.step stepped

end PromiseChain

end CollabEditor.Library
