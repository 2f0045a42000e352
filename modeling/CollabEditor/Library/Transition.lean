import Mathlib.Logic.Function.Basic

/-!
Owns runs of a labelled transition system given by a partial step function:
`step s l = none` when label `l` is not enabled in `s`. A run may be
restricted to steps that meet a condition on the state before them, which is
how a defect's exact precondition is stated over whole runs.
-/

namespace CollabEditor.Library

universe u v

variable {State : Type u} {Label : Type v}

/-- States reached from an initial one by steps that all meet `allowed`. -/
inductive ReachedWhen (step : State → Label → Option State)
    (allowed : State → Label → Prop) (initial : State → Prop) : State → Prop where
  | start {s : State} : initial s → ReachedWhen step allowed initial s
  | next {s s' : State} {l : Label} : ReachedWhen step allowed initial s →
      allowed s l → step s l = some s' → ReachedWhen step allowed initial s'

/-- States reached with no condition on the steps. -/
abbrev Reached (step : State → Label → Option State) (initial : State → Prop) :
    State → Prop :=
  ReachedWhen step (fun _ _ => True) initial

variable {step : State → Label → Option State} {allowed weaker : State → Label → Prop}
  {initial : State → Prop}

/-- A property that holds initially and survives every allowed step holds in
every state such steps reach. -/
theorem ReachedWhen.invariant (holds : State → Prop)
    (base : ∀ s, initial s → holds s)
    (preserved : ∀ s l s', holds s → allowed s l → step s l = some s' → holds s')
    {s : State} (reached : ReachedWhen step allowed initial s) : holds s := by
  induction reached with
  | start begins => exact base _ begins
  | next _ meets taken inductionHypothesis =>
      exact preserved _ _ _ inductionHypothesis meets taken

/-- Dropping the condition on the steps only adds reachable states. -/
theorem ReachedWhen.mono (implies : ∀ s l, allowed s l → weaker s l) {s : State}
    (reached : ReachedWhen step allowed initial s) :
    ReachedWhen step weaker initial s := by
  induction reached with
  | start begins => exact .start begins
  | next _ meets taken inductionHypothesis =>
      exact .next inductionHypothesis (implies _ _ meets) taken

/-- What follows a reachable state is reachable. -/
theorem ReachedWhen.trans {earlier s : State} (before : ReachedWhen step allowed initial earlier)
    (after : ReachedWhen step allowed (· = earlier) s) : ReachedWhen step allowed initial s := by
  induction after with
  | start same => exact same ▸ before
  | next _ meets taken inductionHypothesis => exact .next inductionHypothesis meets taken

/-! ### Independent systems -/

section Independent

universe w

variable {Index : Type w} [DecidableEq Index]

/-- One system for each index; a label says which of them takes a step. -/
def stepAt (step : State → Label → Option State) (states : Index → State)
    (label : Index × Label) : Option (Index → State) :=
  (step (states label.1) label.2).map (Function.update states label.1)

/-- Seen at one index, a run of all systems is a run of that one. -/
theorem ReachedWhen.component (index : Index) {initials : (Index → State) → Prop}
    (starts : ∀ states, initials states → initial (states index)) {states : Index → State}
    (reached : ReachedWhen (stepAt step) (fun states label => allowed (states label.1) label.2)
      initials states) : ReachedWhen step allowed initial (states index) := by
  induction reached with
  | start begins => exact .start (starts _ begins)
  | @next states states' label _ meets taken inductionHypothesis =>
      obtain ⟨state, stepped, rfl⟩ := Option.map_eq_some_iff.mp taken
      by_cases here : index = label.1
      · subst here
        rw [Function.update_self]
        exact .next inductionHypothesis meets stepped
      · rw [Function.update_of_ne here]
        exact inductionHypothesis

/-- A run of one system is a run of all of them, in which the others rest. -/
theorem Reached.update (states : Index → State) (index : Index) {state : State}
    (reached : Reached step (· = states index) state) :
    Reached (stepAt step) (· = states) (Function.update states index state) := by
  induction reached with
  | start same =>
      subst same
      exact .start (Function.update_eq_self index states)
  | @next state state' label _ _ taken inductionHypothesis =>
      refine .next (l := (index, label)) inductionHypothesis trivial ?_
      unfold stepAt
      rw [Function.update_self, taken, Option.map_some, Function.update_idem]

end Independent

/-- Take the labels in order; `none` when one is not enabled or not allowed. -/
def runWhen (step : State → Label → Option State) (allowed : State → Label → Prop)
    [∀ s l, Decidable (allowed s l)] : State → List Label → Option State
  | s, [] => some s
  | s, l :: rest =>
      if allowed s l then (step s l).bind fun s' => runWhen step allowed s' rest else none

/-- Take the labels in order; `none` when one is not enabled. -/
abbrev run (step : State → Label → Option State) : State → List Label → Option State :=
  runWhen step fun _ _ => True

theorem run_cons (step : State → Label → Option State) (s : State) (l : Label)
    (rest : List Label) : run step s (l :: rest) = (step s l).bind (run step · rest) :=
  if_pos trivial

theorem run_singleton (step : State → Label → Option State) (s : State) (l : Label) :
    run step s [l] = step s l := by
  rw [run_cons]
  cases step s l with
  | none => rfl
  | some s' => rfl

theorem run_append (step : State → Label → Option State) (s : State) (front back : List Label) :
    run step s (front ++ back) = (run step s front).bind (run step · back) := by
  induction front generalizing s with
  | nil => rfl
  | cons l rest inductionHypothesis =>
      rw [List.cons_append, run_cons, run_cons, Option.bind_assoc]
      exact congrArg (step s l).bind (funext fun s' => inductionHypothesis s')

section Executable

variable [∀ s l, Decidable (allowed s l)]

theorem reachedWhen_of_runWhen {s s' : State} {labels : List Label}
    (reached : ReachedWhen step allowed initial s)
    (ran : runWhen step allowed s labels = some s') :
    ReachedWhen step allowed initial s' := by
  induction labels generalizing s with
  | nil =>
      simp only [runWhen, Option.some.injEq] at ran
      exact ran ▸ reached
  | cons l rest inductionHypothesis =>
      simp only [runWhen] at ran
      split at ran
      · next meets =>
          obtain ⟨middle, taken, later⟩ := Option.bind_eq_some_iff.mp ran
          exact inductionHypothesis (.next reached meets taken) later
      · cases ran

/-- The state an executed list of labels leads to is reached. -/
theorem reachedWhen_getD (s : State) (labels : List Label) (fallback : State)
    (ran : (runWhen step allowed s labels).isSome) :
    ReachedWhen step allowed (· = s) ((runWhen step allowed s labels).getD fallback) := by
  obtain ⟨s', leads⟩ := Option.isSome_iff_exists.mp ran
  rw [leads]
  exact reachedWhen_of_runWhen (.start rfl) leads

/-- An executed list of labels that ends in a state passing `test` shows that
such a state is reachable. -/
theorem exists_reachedWhen_of_runWhen (step : State → Label → Option State)
    (allowed : State → Label → Prop) [∀ s l, Decidable (allowed s l)]
    (initial : State → Prop) (s : State) (labels : List Label) (test : State → Prop)
    [DecidablePred test] (begins : initial s)
    (passed : (runWhen step allowed s labels).any (fun s' => decide (test s')) = true) :
    ∃ s', ReachedWhen step allowed initial s' ∧ test s' := by
  obtain ⟨s', ran, passes⟩ := (Option.any_eq_true _ _).mp passed
  exact ⟨s', reachedWhen_of_runWhen (.start begins) ran, of_decide_eq_true passes⟩

end Executable

/-! ### One run, state by state -/

/-- `holds` is true of every state the labels lead through. -/
def Along (step : State → Label → Option State) (holds : State → Prop) :
    State → List Label → Prop
  | s, [] => holds s
  | s, l :: rest => holds s ∧ ∀ s', step s l = some s' → Along step holds s' rest

/-- Every step the labels take meets `allowed`. -/
def Meets (step : State → Label → Option State) (allowed : State → Label → Prop) :
    State → List Label → Prop
  | _, [] => True
  | s, l :: rest => ∀ s', step s l = some s' → allowed s l ∧ Meets step allowed s' rest

/-- When `allowed` is, under an invariant, exactly what one step needs to keep
a property, a run of labels that `admits` holds of keeps it throughout exactly
when all its steps are allowed. -/
theorem along_iff_meets_of_labels (admits : Label → Prop) (holds invariant : State → Prop)
    (preserved : ∀ s l s', admits l → invariant s → step s l = some s' → invariant s')
    (exact : ∀ s l s', admits l → invariant s → holds s → step s l = some s' →
      (holds s' ↔ allowed s l))
    {s : State} (begins : invariant s) (starts : holds s) (labels : List Label)
    (admitted : ∀ l ∈ labels, admits l) :
    Along step holds s labels ↔ Meets step allowed s labels := by
  induction labels generalizing s with
  | nil => exact iff_of_true starts trivial
  | cons l rest inductionHypothesis =>
      have first := admitted l List.mem_cons_self
      have afterwards : ∀ s', step s l = some s' → holds s' →
          (Along step holds s' rest ↔ Meets step allowed s' rest) :=
        fun s' taken kept => inductionHypothesis (preserved s l s' first begins taken) kept
          fun later member => admitted later (List.mem_cons_of_mem _ member)
      constructor
      · intro along s' taken
        have later := along.2 s' taken
        have kept : holds s' := by
          cases rest with
          | nil => exact later
          | cons next others => exact later.1
        exact ⟨(exact s l s' first begins starts taken).mp kept,
          (afterwards s' taken kept).mp later⟩
      · intro meets
        refine ⟨starts, fun s' taken => ?_⟩
        obtain ⟨permitted, later⟩ := meets s' taken
        have kept : holds s' := (exact s l s' first begins starts taken).mpr permitted
        exact (afterwards s' taken kept).mpr later

/-- The same for runs of any labels. -/
theorem along_iff_meets (holds invariant : State → Prop)
    (preserved : ∀ s l s', invariant s → step s l = some s' → invariant s')
    (exact : ∀ s l s', invariant s → holds s → step s l = some s' →
      (holds s' ↔ allowed s l))
    {s : State} (begins : invariant s) (starts : holds s) (labels : List Label) :
    Along step holds s labels ↔ Meets step allowed s labels :=
  along_iff_meets_of_labels (fun _ => True) holds invariant
    (fun s l s' _ => preserved s l s') (fun s l s' _ => exact s l s') begins starts labels
    fun _ _ => trivial

/-- An invariant of the allowed steps holds throughout a run of them. -/
theorem along_of_meets (holds : State → Prop)
    (preserved : ∀ s l s', holds s → allowed s l → step s l = some s' → holds s')
    {s : State} (starts : holds s) (labels : List Label) (meets : Meets step allowed s labels) :
    Along step holds s labels := by
  induction labels generalizing s with
  | nil => exact starts
  | cons l rest inductionHypothesis =>
      refine ⟨starts, fun s' taken => ?_⟩
      obtain ⟨permitted, later⟩ := meets s' taken
      exact inductionHypothesis (preserved s l s' starts permitted taken) later

theorem Along.mono {holds weaker : State → Prop} (implies : ∀ s, holds s → weaker s) {s : State}
    {labels : List Label} (along : Along step holds s labels) : Along step weaker s labels := by
  induction labels generalizing s with
  | nil => exact implies s along
  | cons l rest inductionHypothesis =>
      exact ⟨implies s along.1, fun s' taken => inductionHypothesis (along.2 s' taken)⟩

/-- A step leads to one state, so what holds of all it leads to holds of this one. -/
theorem forall_of_step {s s' : State} {l : Label} (taken : step s l = some s')
    {holds : State → Prop} : (∀ other, step s l = some other → holds other) ↔ holds s' := by
  constructor
  · intro all
    exact all s' taken
  · intro held other same
    exact Option.some.inj (taken.symm.trans same) ▸ held

/-- Conditions that agree, under an invariant, on every step that can be taken
are met by the same runs. -/
theorem meets_congr (invariant : State → Prop)
    (preserved : ∀ s l s', invariant s → step s l = some s' → invariant s')
    (agree : ∀ s l s', invariant s → step s l = some s' → (allowed s l ↔ weaker s l))
    {s : State} (begins : invariant s) (labels : List Label) :
    Meets step allowed s labels ↔ Meets step weaker s labels := by
  induction labels generalizing s with
  | nil => exact Iff.rfl
  | cons l rest inductionHypothesis =>
      refine forall_congr' fun s' => forall_congr' fun taken => ?_
      exact and_congr (agree s l s' begins taken)
        (inductionHypothesis (preserved s l s' begins taken))

/-! ### Goals no run can avoid -/

/-- Whatever steps are taken, a state with `goal` is reached: until it is, some
step can be taken, and none can be taken for ever. -/
inductive Inevitable (step : State → Label → Option State) (goal : State → Prop) :
    State → Prop where
  | now {s : State} (met : goal s) : Inevitable step goal s
  | later {s : State} (enabled : ∃ l, (step s l).isSome)
      (afterwards : ∀ l s', step s l = some s' → Inevitable step goal s') : Inevitable step goal s

/-- A measure that every step lowers runs out. -/
theorem inevitable_of_decreases (measure : State → Nat) {goal : State → Prop}
    (decreases : ∀ s l s', step s l = some s' → measure s' < measure s)
    (enabled : ∀ s, ¬ goal s → ∃ l, (step s l).isSome) (s : State) :
    Inevitable step goal s := by
  induction bound : measure s using Nat.strongRecOn generalizing s with
  | ind bounded inductionHypothesis =>
      subst bound
      by_cases met : goal s
      · exact .now met
      · exact .later (enabled s met) fun l s' taken =>
          inductionHypothesis (measure s') (decreases s l s' taken) s' rfl

/-- The same for a measure that is lowered wherever an invariant holds. -/
theorem inevitable_of_decreases_on (invariant : State → Prop) (measure : State → Nat)
    {goal : State → Prop}
    (preserved : ∀ s l s', invariant s → step s l = some s' → invariant s')
    (decreases : ∀ s l s', invariant s → step s l = some s' → measure s' < measure s)
    (enabled : ∀ s, invariant s → ¬ goal s → ∃ l, (step s l).isSome)
    {s : State} (begins : invariant s) : Inevitable step goal s := by
  induction bound : measure s using Nat.strongRecOn generalizing s with
  | ind bounded inductionHypothesis =>
      subst bound
      by_cases met : goal s
      · exact .now met
      · refine .later (enabled s begins met) fun l s' taken => ?_
        exact inductionHypothesis (measure s') (decreases s l s' begins taken)
          (preserved s l s' begins taken) rfl

/-! ### Simulation -/

section Simulation

universe w x

variable {Abstract : Type w} {Action : Type x}

/-- What the labels of a run are to another system, which may depend on the state
they are taken in. -/
def translated (step : State → Label → Option State) (action : State → Label → Action) :
    State → List Label → List Action
  | _, [] => []
  | s, l :: rest => action s l :: (step s l).elim [] (translated step action · rest)

/-- Where every step is one of another system between related states, so is every
run. -/
theorem run_simulated {step : State → Label → Option State}
    {abstract : Abstract → Action → Option Abstract} {action : State → Label → Action}
    (related : State → Abstract → Prop)
    (simulates : ∀ s a l s', related s a → step s l = some s' →
      ∃ a', abstract a (action s l) = some a' ∧ related s' a')
    {s s' : State} {a : Abstract} {labels : List Label} (starts : related s a)
    (ran : run step s labels = some s') :
    ∃ a', run abstract a (translated step action s labels) = some a' ∧ related s' a' := by
  induction labels generalizing s a with
  | nil =>
      have ended : s = s' := Option.some.inj ran
      exact ⟨a, rfl, ended ▸ starts⟩
  | cons l rest inductionHypothesis =>
      rw [run_cons] at ran
      obtain ⟨middle, taken, later⟩ := Option.bind_eq_some_iff.mp ran
      obtain ⟨next, follows, relates⟩ := simulates s a l middle starts taken
      obtain ⟨last, goesOn, ends⟩ := inductionHypothesis relates later
      refine ⟨last, ?_, ends⟩
      rw [translated, taken, run_cons, follows]
      exact goesOn

end Simulation

/-! ### Services that answer every call -/

section Service

universe w x

variable {Call : Type v} {Answer : Type w} {Other : Type x}

/-- What a service answers to some calls made one after the other. -/
def answers (serve : State → Call → State × Answer) : State → List Call → List Answer
  | _, [] => []
  | s, call :: rest => (serve s call).2 :: answers serve (serve s call).1 rest

/-- Services that give related states the same answers, and leave them related,
cannot be told apart. -/
theorem answers_eq_of_related {serve : State → Call → State × Answer}
    {serve' : Other → Call → Other × Answer} (related : State → Other → Prop)
    (agrees : ∀ s t call, related s t → (serve s call).2 = (serve' t call).2)
    (preserved : ∀ s t call, related s t → related (serve s call).1 (serve' t call).1)
    {s : State} {t : Other} (starts : related s t) (calls : List Call) :
    answers serve s calls = answers serve' t calls := by
  induction calls generalizing s t with
  | nil => rfl
  | cons call rest inductionHypothesis =>
      rw [answers, answers, agrees s t call starts,
        inductionHypothesis (preserved s t call starts)]

end Service

end CollabEditor.Library
