import Mathlib.Data.List.Basic

/-!
# Machines that emit

A step relation takes a state and an event to a next state and to what the step
emits. A run collects the events and the emissions of its steps in order. The runs
that keep a property are compared with those whose steps meet a condition.
-/

set_option autoImplicit false

namespace Library

abbrev Step (σ ε ω : Type) := σ → ε → List ω → σ → Prop

namespace Step

variable {σ ε ω : Type}

/-- The steps whose event meets a condition in the state before. -/
def guarded (step : Step σ ε ω) (condition : σ → ε → Prop) : Step σ ε ω :=
  fun state event added next => condition state event ∧ step state event added next

/-- The steps to states that have a property. -/
def keeping (step : Step σ ε ω) (property : σ → Prop) : Step σ ε ω :=
  fun state event added next => step state event added next ∧ property next

end Step

inductive Runs {σ ε ω : Type} (step : Step σ ε ω) (start : σ) : List ε → List ω → σ → Prop where
  | start : Runs step start [] [] start
  | step {events emitted state event added next} :
      Runs step start events emitted state → step state event added next →
      Runs step start (events ++ [event]) (emitted ++ added) next

namespace Runs

variable {σ ε ω : Type} {step : Step σ ε ω} {start state : σ} {events : List ε} {emitted : List ω}

/-- What holds at the start and survives every step holds in every state reached. -/
theorem invariant (property : List ω → σ → Prop) (initial : property [] start)
    (each : ∀ emitted state event added next, property emitted state →
      step state event added next → property (emitted ++ added) next)
    (ran : Runs step start events emitted state) : property emitted state := by
  induction ran with
  | start => exact initial
  | step _ stepped ih => exact each _ _ _ _ _ ih stepped

theorem single {event : ε} (stepped : step start event emitted state) :
    Runs step start [event] emitted state := by
  have ran := Runs.step (.start : Runs step start [] [] start) stepped
  rwa [List.nil_append, List.nil_append] at ran

/-- The last step of a run. -/
theorem last {event : ε} (ran : Runs step start (events ++ [event]) emitted state) :
    ∃ between earlier added, Runs step start events earlier between ∧
      step between event added state ∧ emitted = earlier ++ added := by
  generalize split : events ++ [event] = all at ran
  cases ran with
  | start => exact absurd split (List.append_ne_nil_of_right_ne_nil events (List.cons_ne_nil _ _))
  | step ran stepped =>
      obtain ⟨rfl, same⟩ := List.append_inj' split rfl
      cases same
      exact ⟨_, _, _, ran, stepped, rfl⟩

theorem trans {later : List ε} {more : List ω} {final : σ} (first : Runs step start events emitted state)
    (second : Runs step state later more final) :
    Runs step start (events ++ later) (emitted ++ more) final := by
  induction second with
  | start =>
      rw [List.append_nil, List.append_nil]
      exact first
  | step _ stepped ih =>
      rw [← List.append_assoc, ← List.append_assoc]
      exact ih.step stepped

theorem mono {other : Step σ ε ω} (each : ∀ state event added next, step state event added next →
    other state event added next) (ran : Runs step start events emitted state) :
    Runs other start events emitted state := by
  induction ran with
  | start => exact .start
  | step _ stepped ih => exact ih.step (each _ _ _ _ stepped)

theorem of_guarded {condition : σ → ε → Prop}
    (ran : Runs (step.guarded condition) start events emitted state) :
    Runs step start events emitted state := ran.mono fun _ _ _ _ stepped => stepped.2

/-- Where a condition decides of each step whether it keeps a property, the runs that stay
within the property are the runs whose steps meet the condition. An invariant of all runs
may help to decide. -/
theorem keeping_iff_guarded_within (invariant : σ → Prop) {property : σ → Prop}
    {condition : σ → ε → Prop} (holds : invariant start)
    (kept : ∀ state event added next, invariant state → step state event added next → invariant next)
    (initial : property start)
    (each : ∀ state event added next, invariant state → property state → step state event added next →
      (property next ↔ condition state event)) :
    Runs (step.keeping property) start events emitted state ↔
      Runs (step.guarded condition) start events emitted state := by
  constructor
  · intro ran
    suffices both : invariant state ∧ property state ∧ Runs (step.guarded condition) start events emitted state
      from both.2.2
    induction ran with
    | start => exact ⟨holds, initial, .start⟩
    | step _ stepped ih =>
        obtain ⟨held, had, guarded⟩ := ih
        obtain ⟨taken, has⟩ := stepped
        exact ⟨kept _ _ _ _ held taken, has, guarded.step ⟨(each _ _ _ _ held had taken).mp has, taken⟩⟩
  · intro ran
    suffices both : invariant state ∧ property state ∧ Runs (step.keeping property) start events emitted state
      from both.2.2
    induction ran with
    | start => exact ⟨holds, initial, .start⟩
    | step _ stepped ih =>
        obtain ⟨held, had, keeping⟩ := ih
        obtain ⟨meets, taken⟩ := stepped
        have has := (each _ _ _ _ held had taken).mpr meets
        exact ⟨kept _ _ _ _ held taken, has, keeping.step ⟨taken, has⟩⟩

theorem keeping_iff_guarded {property : σ → Prop} {condition : σ → ε → Prop}
    (initial : property start)
    (each : ∀ state event added next, property state → step state event added next →
      (property next ↔ condition state event)) :
    Runs (step.keeping property) start events emitted state ↔
      Runs (step.guarded condition) start events emitted state :=
  keeping_iff_guarded_within (fun _ => True) trivial (fun _ _ _ _ _ _ => trivial) initial
    fun state event added next _ => each state event added next

end Runs

section Functions

variable {σ ε ω : Type}

def runAll (step : σ → ε → Option (σ × List ω)) : σ → List ε → Option (σ × List ω)
  | state, [] => some (state, [])
  | state, event :: events => do
      let (next, added) ← step state event
      let (final, emitted) ← runAll step next events
      return (final, added ++ emitted)

theorem Runs.of_runAll {step : σ → ε → Option (σ × List ω)} {start final : σ} {events : List ε}
    {emitted : List ω} (result : runAll step start events = some (final, emitted)) :
    Runs (fun state event added next => step state event = some (next, added)) start events
      emitted final := by
  induction events generalizing start emitted with
  | nil =>
      cases result
      exact .start
  | cons event events ih =>
      obtain ⟨⟨next, added⟩, stepped, rest⟩ := Option.bind_eq_some_iff.mp result
      obtain ⟨⟨last, more⟩, ran, same⟩ := Option.bind_eq_some_iff.mp rest
      cases same
      exact (Runs.single stepped).trans (ih ran)

/-- The step function where it meets a condition. -/
def guardedBy (condition : σ → ε → Prop) [∀ state event, Decidable (condition state event)]
    (step : σ → ε → Option (σ × List ω)) (state : σ) (event : ε) : Option (σ × List ω) :=
  if condition state event then step state event else none

theorem Runs.of_runAll_guardedBy {condition : σ → ε → Prop}
    [∀ state event, Decidable (condition state event)] {step : σ → ε → Option (σ × List ω)}
    {start final : σ} {events : List ε} {emitted : List ω}
    (result : runAll (guardedBy condition step) start events = some (final, emitted)) :
    Runs (Step.guarded (fun state event added next => step state event = some (next, added))
      condition) start events emitted final := by
  refine (Runs.of_runAll result).mono fun state event added next stepped => ?_
  unfold guardedBy at stepped
  split at stepped
  case isTrue meets => exact ⟨meets, stepped⟩
  case isFalse => cases stepped

end Functions

end Library
