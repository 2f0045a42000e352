import Mathlib.Logic.Function.Basic
import Mathlib.Data.List.Basic

/-!
Owns regular expressions as a backtracking matcher runs them, greedily and with
captures, and that it finds a match exactly when there is one.

Does not own lazy quantifiers, alternatives, lookaround or flags.
-/

set_option autoImplicit false

namespace CollabEditor.Library

universe u v

/-- Expressions over texts of some symbols. -/
inductive Regex (Symbol : Type u) where
  /-- `^`. -/
  | start
  /-- `$`. -/
  | finish
  | text (symbols : List Symbol)
  /-- `[..]{least,most}`. -/
  | many (accepts : Symbol → Bool) (least most : ℕ)
  | seq (first second : Regex Symbol)
  /-- `(..)?`. -/
  | optional (inner : Regex Symbol)
  /-- `(..)`, the group of this number. -/
  | group (number : ℕ) (inner : Regex Symbol)

/-- How far a match has come: what is before it, what is left, and the groups. -/
structure Place (Symbol : Type u) where
  before : List Symbol
  rest : List Symbol
  captures : ℕ → Option (List Symbol)

variable {Symbol : Type u} {Result : Type v}

namespace Place

/-- The place after some symbols. -/
def past (place : Place Symbol) (symbols rest : List Symbol) : Place Symbol :=
  { place with before := place.before ++ symbols, rest := rest }

/-- A group that began here captures what it has read. -/
def capture (began ended : Place Symbol) (number : ℕ) : Place Symbol :=
  let text := ended.before.drop began.before.length
  { ended with captures := Function.update ended.captures number (some text) }

end Place

namespace Regex

/-- As many symbols as possible, and fewer when the rest does not match then. -/
def runMany (accepts : Symbol → Bool) : ℕ → ℕ → List Symbol → List Symbol →
    (List Symbol → List Symbol → Option Result) → Option Result
  | least, most, taken, rest, go =>
      match most, rest with
      | most + 1, symbol :: rest =>
          let more := if accepts symbol then
            runMany accepts (least - 1) most (taken ++ [symbol]) rest go else none
          if least = 0 then more.orElse fun _ => go taken (symbol :: rest) else more
      | _, rest => if least = 0 then go taken rest else none

/-- The first match after which `go` succeeds. -/
def run [DecidableEq Symbol] : Regex Symbol → Place Symbol → (Place Symbol → Option Result) →
    Option Result
  | .start, place, go => if place.before = [] then go place else none
  | .finish, place, go => if place.rest = [] then go place else none
  | .text symbols, place, go =>
      if symbols <+: place.rest then go (place.past symbols (place.rest.drop symbols.length))
      else none
  | .many accepts least most, place, go =>
      runMany accepts least most [] place.rest fun symbols rest => go (place.past symbols rest)
  | .seq first second, place, go => first.run place fun middle => second.run middle go
  | .optional inner, place, go => (inner.run place go).orElse fun _ => go place
  | .group number inner, place, go => inner.run place fun ended => go (place.capture ended number)

/-- The first match at this place or a later one. -/
def execFrom [DecidableEq Symbol] (regex : Regex Symbol) (before : List Symbol) :
    List Symbol → Option (Place Symbol)
  | [] => regex.run ⟨before, [], fun _ => none⟩ some
  | symbol :: rest =>
      (regex.run ⟨before, symbol :: rest, fun _ => none⟩ some).orElse fun _ =>
        regex.execFrom (before ++ [symbol]) rest

/-- `exec`. -/
def exec [DecidableEq Symbol] (regex : Regex Symbol) (input : List Symbol) :
    Option (Place Symbol) :=
  regex.execFrom [] input

/-- What a match consists of. -/
def Matches : Regex Symbol → Place Symbol → Place Symbol → Prop
  | .start, place, ended => place.before = [] ∧ ended = place
  | .finish, place, ended => place.rest = [] ∧ ended = place
  | .text symbols, place, ended => ∃ rest, place.rest = symbols ++ rest ∧
      ended = place.past symbols rest
  | .many accepts least most, place, ended => ∃ symbols rest, place.rest = symbols ++ rest ∧
      (∀ symbol ∈ symbols, accepts symbol = true) ∧ least ≤ symbols.length ∧ symbols.length ≤ most ∧
        ended = place.past symbols rest
  | .seq first second, place, ended => ∃ middle, first.Matches place middle ∧
      second.Matches middle ended
  | .optional inner, place, ended => inner.Matches place ended ∨ ended = place
  | .group number inner, place, ended => ∃ within, inner.Matches place within ∧
      ended = place.capture within number

/-! ### The matcher finds what there is -/

private theorem orElse_eq_some {first second : Option Result} {result : Result}
    (found : (first.orElse fun _ => second) = some result) :
    first = some result ∨ second = some result := by
  cases first with
  | none => exact Or.inr found
  | some value => exact Or.inl found

private theorem isSome_orElse {first second : Option Result}
    (found : first.isSome ∨ second.isSome) :
    (first.orElse fun _ => second).isSome := by
  cases first with
  | none => exact found.resolve_left Bool.false_ne_true
  | some value => rfl

private theorem runMany_sound {accepts : Symbol → Bool} {most : ℕ} {result : Result}
    {go : List Symbol → List Symbol → Option Result} {least : ℕ} {taken rest : List Symbol}
    (ran : runMany accepts least most taken rest go = some result) :
    ∃ symbols later, rest = symbols ++ later ∧ (∀ symbol ∈ symbols, accepts symbol = true) ∧
      least ≤ symbols.length ∧ symbols.length ≤ most ∧
        go (taken ++ symbols) later = some result := by
  have stops : ∀ {least most : ℕ} {taken rest : List Symbol},
      (if least = 0 then go taken rest else none) = some result →
      ∃ symbols later, rest = symbols ++ later ∧ (∀ symbol ∈ symbols, accepts symbol = true) ∧
        least ≤ symbols.length ∧ symbols.length ≤ most ∧
          go (taken ++ symbols) later = some result := by
    intro least most taken rest stopped
    obtain ⟨rfl, went⟩ := Option.ite_none_right_eq_some.mp stopped
    exact ⟨[], rest, rfl, nofun, Nat.le_refl 0, Nat.zero_le most, by rwa [List.append_nil]⟩
  induction most generalizing least taken rest with
  | zero => exact stops ran
  | succ most inductionHypothesis =>
      cases rest with
      | nil => exact stops ran
      | cons symbol rest =>
          have goesOn : (if accepts symbol then
                runMany accepts (least - 1) most (taken ++ [symbol]) rest go else none) =
                some result →
              ∃ symbols later, symbol :: rest = symbols ++ later ∧
                (∀ symbol ∈ symbols, accepts symbol = true) ∧ least ≤ symbols.length ∧
                  symbols.length ≤ most + 1 ∧ go (taken ++ symbols) later = some result := by
            intro went
            obtain ⟨accepted, later⟩ := Option.ite_none_right_eq_some.mp went
            obtain ⟨symbols, rest, rfl, all, above, below, ends⟩ := inductionHypothesis later
            refine ⟨symbol :: symbols, rest, rfl, List.forall_mem_cons.mpr ⟨accepted, all⟩,
              ?_, ?_, ?_⟩
            · rw [List.length_cons]
              omega
            · rw [List.length_cons]
              omega
            · rw [List.append_cons]
              exact ends
          unfold runMany at ran
          dsimp only at ran
          split at ran
          · next none =>
              rcases orElse_eq_some ran with went | stopped
              · exact goesOn went
              · exact stops ((if_pos none).trans stopped)
          · exact goesOn ran

private theorem runMany_complete {accepts : Symbol → Bool} {most : ℕ}
    {go : List Symbol → List Symbol → Option Result} {least : ℕ} {taken symbols later : List Symbol}
    (all : ∀ symbol ∈ symbols, accepts symbol = true) (above : least ≤ symbols.length)
    (below : symbols.length ≤ most) (succeeds : (go (taken ++ symbols) later).isSome) :
    (runMany accepts least most taken (symbols ++ later) go).isSome := by
  induction most generalizing least taken symbols with
  | zero =>
      obtain rfl : symbols = [] := List.eq_nil_of_length_eq_zero (by omega)
      obtain rfl : least = 0 := Nat.le_zero.mp above
      rwa [List.append_nil] at succeeds
  | succ most inductionHypothesis =>
      cases symbols with
      | nil =>
          obtain rfl : least = 0 := Nat.le_zero.mp above
          rw [List.append_nil] at succeeds
          cases later with
          | nil => exact succeeds
          | cons symbol later => exact isSome_orElse (Or.inr succeeds)
      | cons symbol symbols =>
          obtain ⟨accepted, others⟩ := List.forall_mem_cons.mp all
          rw [List.length_cons] at above below
          rw [List.append_cons] at succeeds
          have more := @inductionHypothesis (least - 1) (taken ++ [symbol]) symbols others
            (by omega) (by omega) succeeds
          rw [List.cons_append]
          unfold runMany
          dsimp only
          rw [if_pos accepted]
          split
          · exact isSome_orElse (Or.inl more)
          · exact more

variable [DecidableEq Symbol]

private theorem run_sound {regex : Regex Symbol} {place : Place Symbol}
    {go : Place Symbol → Option Result} {result : Result}
    (ran : regex.run place go = some result) :
    ∃ ended, regex.Matches place ended ∧ go ended = some result := by
  induction regex generalizing place go with
  | start =>
      obtain ⟨atStart, went⟩ := Option.ite_none_right_eq_some.mp ran
      exact ⟨place, ⟨atStart, rfl⟩, went⟩
  | finish =>
      obtain ⟨atEnd, went⟩ := Option.ite_none_right_eq_some.mp ran
      exact ⟨place, ⟨atEnd, rfl⟩, went⟩
  | text symbols =>
      obtain ⟨⟨rest, begins⟩, went⟩ := Option.ite_none_right_eq_some.mp ran
      rw [← begins, List.drop_left] at went
      exact ⟨_, ⟨rest, begins.symm, rfl⟩, went⟩
  | many accepts least most =>
      obtain ⟨symbols, later, splits, all, above, below, went⟩ := runMany_sound ran
      exact ⟨_, ⟨symbols, later, splits, all, above, below, rfl⟩, went⟩
  | seq first second firstHypothesis secondHypothesis =>
      obtain ⟨middle, front, went⟩ := firstHypothesis ran
      obtain ⟨ended, back, ends⟩ := secondHypothesis went
      exact ⟨ended, ⟨middle, front, back⟩, ends⟩
  | optional inner inductionHypothesis =>
      rcases orElse_eq_some ran with matched | skipped
      · obtain ⟨ended, within, ends⟩ := inductionHypothesis matched
        exact ⟨ended, Or.inl within, ends⟩
      · exact ⟨place, Or.inr rfl, skipped⟩
  | group number inner inductionHypothesis =>
      obtain ⟨within, isWithin, ends⟩ := inductionHypothesis ran
      exact ⟨_, ⟨within, isWithin, rfl⟩, ends⟩

private theorem run_complete {regex : Regex Symbol} {place ended : Place Symbol}
    {go : Place Symbol → Option Result} (isMatch : regex.Matches place ended)
    (succeeds : (go ended).isSome) : (regex.run place go).isSome := by
  induction regex generalizing place ended go with
  | start =>
      obtain ⟨atStart, rfl⟩ := isMatch
      rwa [run, if_pos atStart]
  | finish =>
      obtain ⟨atEnd, rfl⟩ := isMatch
      rwa [run, if_pos atEnd]
  | text symbols =>
      obtain ⟨rest, begins, rfl⟩ := isMatch
      rwa [run, begins, if_pos (List.prefix_append _ _), List.drop_left]
  | many accepts least most =>
      obtain ⟨symbols, rest, splits, all, above, below, rfl⟩ := isMatch
      rw [run, splits]
      exact runMany_complete all above below succeeds
  | seq first second firstHypothesis secondHypothesis =>
      obtain ⟨middle, front, back⟩ := isMatch
      exact firstHypothesis front (secondHypothesis back succeeds)
  | optional inner inductionHypothesis =>
      refine isSome_orElse ?_
      rcases isMatch with within | rfl
      · exact Or.inl (inductionHypothesis within succeeds)
      · exact Or.inr succeeds
  | group number inner inductionHypothesis =>
      obtain ⟨within, isWithin, rfl⟩ := isMatch
      exact inductionHypothesis isWithin succeeds

private theorem execFrom_sound {regex : Regex Symbol} {before rest : List Symbol}
    {ended : Place Symbol} (found : regex.execFrom before rest = some ended) :
    ∃ skipped later, rest = skipped ++ later ∧
      regex.Matches ⟨before ++ skipped, later, fun _ => none⟩ ended := by
  have here : ∀ {before rest : List Symbol},
      regex.run ⟨before, rest, fun _ => none⟩ some = some ended →
      ∃ skipped later, rest = skipped ++ later ∧
        regex.Matches ⟨before ++ skipped, later, fun _ => none⟩ ended := by
    intro before rest ran
    obtain ⟨_, isMatch, same⟩ := run_sound ran
    cases same
    exact ⟨[], rest, rfl, by rwa [List.append_nil]⟩
  induction rest generalizing before with
  | nil => exact here found
  | cons symbol rest inductionHypothesis =>
      rcases orElse_eq_some found with now | later
      · exact here now
      · obtain ⟨skipped, rest, rfl, isMatch⟩ := inductionHypothesis later
        exact ⟨symbol :: skipped, rest, rfl, by rwa [List.append_cons]⟩

/-- What `exec` returns is a match somewhere in the text. -/
theorem exec_sound {regex : Regex Symbol} {input : List Symbol} {ended : Place Symbol}
    (found : regex.exec input = some ended) :
    ∃ skipped later, input = skipped ++ later ∧
      regex.Matches ⟨skipped, later, fun _ => none⟩ ended :=
  execFrom_sound found

private theorem execFrom_complete {regex : Regex Symbol} {before skipped later : List Symbol}
    {ended : Place Symbol}
    (isMatch : regex.Matches ⟨before ++ skipped, later, fun _ => none⟩ ended) :
    (regex.execFrom before (skipped ++ later)).isSome := by
  induction skipped generalizing before with
  | nil =>
      rw [List.append_nil] at isMatch
      have here : (regex.run ⟨before, later, fun _ => none⟩ some).isSome :=
        run_complete isMatch rfl
      cases later with
      | nil => exact here
      | cons symbol later => exact isSome_orElse (Or.inl here)
  | cons symbol skipped inductionHypothesis =>
      rw [List.append_cons] at isMatch
      exact isSome_orElse (Or.inr (inductionHypothesis isMatch))

/-- When there is a match somewhere in the text, `exec` returns one. -/
theorem exec_complete {regex : Regex Symbol} {skipped later : List Symbol} {ended : Place Symbol}
    (isMatch : regex.Matches ⟨skipped, later, fun _ => none⟩ ended) :
    (regex.exec (skipped ++ later)).isSome :=
  execFrom_complete isMatch

end Regex

end CollabEditor.Library
