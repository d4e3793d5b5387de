import Mathlib.Data.List.Induction
import Mathlib.Data.List.ReduceOption

/-!
# Deferred drawing

Colours, and references to colours that are kept elsewhere, wait on a cell until a flush draws
the references over the colours, with what is kept by then. Whether all groupings of the same
events into flushes end alike can be told from the events alone.
-/

set_option autoImplicit false

namespace Library

variable {α κ : Type}

/-- A cell: the colour below, the last reference that waits, and what is kept. -/
structure Deferred (α κ : Type) where
  under : α
  referred : Option κ
  contents : κ → α

inductive Deferred.Event (α κ : Type) where
  | keep
  | replace (colour : α)
  | cover (colour : α)
  | refer (key : κ)
  | store (contents : κ → α)

/-- What the events make of a cell if each is drawn as it arrives, the last reference since a
replacement, and whether no later flush can tell. -/
structure Arrived (α κ : Type) where
  colour : α
  last : Option κ
  contents : κ → α
  settled : Bool

namespace Deferred

/-- What the next flush draws. -/
def due (cell : Deferred α κ) : α :=
  match cell.referred with
  | some key => cell.contents key
  | none => cell.under

theorem due_of_some {cell : Deferred α κ} {key : κ} (waits : cell.referred = some key) :
    cell.due = cell.contents key := by
  unfold due
  rw [waits]

theorem due_of_none {cell : Deferred α κ} (drawn : cell.referred = none) : cell.due = cell.under := by
  unfold due
  rw [drawn]

def flush (cell : Deferred α κ) : Deferred α κ := { cell with under := cell.due, referred := none }

def step (cell : Deferred α κ) : Event α κ → Deferred α κ
  | .keep => cell
  | .replace colour => { cell with under := colour, referred := none }
  | .cover colour => { cell with under := colour }
  | .refer key => { cell with referred := some key }
  | .store contents => { cell with contents }

/-- An event, or a flush. -/
def act (cell : Deferred α κ) : Option (Event α κ) → Deferred α κ
  | some event => cell.step event
  | none => cell.flush

def run (cell : Deferred α κ) (acts : List (Option (Event α κ))) : Deferred α κ := acts.foldl act cell

def arrived (cell : Deferred α κ) : Arrived α κ where
  colour := cell.due
  last := cell.referred
  contents := cell.contents
  settled := true

theorem run_append (cell : Deferred α κ) (first second : List (Option (Event α κ))) :
    cell.run (first ++ second) = (cell.run first).run second := List.foldl_append

theorem reduceOption_append_flush (acts : List (Option (Event α κ))) (event : Event α κ) :
    (acts ++ [none, some event]).reduceOption = acts.reduceOption ++ [event] := by
  rw [List.reduceOption_append]
  rfl

end Deferred

namespace Arrived

variable [DecidableEq α]

def step (arrived : Arrived α κ) : Deferred.Event α κ → Arrived α κ
  | .keep => arrived
  | .replace colour => { arrived with colour, last := none, settled := true }
  | .cover colour =>
      { arrived with colour, settled := arrived.last.all fun key => arrived.contents key = colour }
  | .refer key =>
      { arrived with colour := arrived.contents key, last := some key, settled := true }
  | .store contents =>
      { arrived with
        contents
        settled := arrived.settled && arrived.last.all fun key => contents key = arrived.colour }

def run (arrived : Arrived α κ) (events : List (Deferred.Event α κ)) : Arrived α κ :=
  events.foldl step arrived

theorem run_append (arrived : Arrived α κ) (events : List (Deferred.Event α κ))
    (event : Deferred.Event α κ) : arrived.run (events ++ [event]) = (arrived.run events).step event :=
  List.foldl_append

end Arrived

namespace Deferred

/-! ## Settled cells -/

/-- However far a cell has been flushed, only the last reference can still wait on it. -/
structure Follows (cell : Deferred α κ) (arrived : Arrived α κ) : Prop where
  contents : cell.contents = arrived.contents
  referred : ∀ key ∈ cell.referred, key ∈ arrived.last
  due : arrived.settled = true → cell.due = arrived.colour

variable {cell : Deferred α κ} {arrived : Arrived α κ}

theorem follows_arrived (cell : Deferred α κ) : cell.Follows cell.arrived :=
  ⟨rfl, fun _ member => member, fun _ => rfl⟩

theorem Follows.flush (follows : cell.Follows arrived) : cell.flush.Follows arrived where
  contents := follows.contents
  referred := nofun
  due := follows.due

variable [DecidableEq α]

theorem Follows.step (follows : cell.Follows arrived) (event : Event α κ) :
    (cell.step event).Follows (arrived.step event) := by
  obtain ⟨contents, referred, due⟩ := follows
  cases event with
  | keep => exact ⟨contents, referred, due⟩
  | replace colour => exact ⟨contents, nofun, fun _ => rfl⟩
  | refer key => exact ⟨contents, fun _ member => member, fun _ => congrFun contents key⟩
  | cover colour =>
      refine ⟨contents, referred, fun settled => ?_⟩
      cases waits : (cell.step (.cover colour)).referred with
      | none => exact due_of_none waits
      | some key =>
          have last : arrived.last = some key := referred key waits
          simp only [Arrived.step, last, Option.all_some, decide_eq_true_eq] at settled
          exact (due_of_some waits).trans ((congrFun contents key).trans settled)
  | store next =>
      refine ⟨rfl, referred, fun settled => ?_⟩
      simp only [Arrived.step, Bool.and_eq_true] at settled
      cases waits : (cell.step (.store next)).referred with
      | none =>
          have drawn : cell.due = cell.under := due_of_none waits
          exact (due_of_none waits).trans (drawn.symm.trans (due settled.1))
      | some key =>
          have last : arrived.last = some key := referred key waits
          simp only [last, Option.all_some, decide_eq_true_eq] at settled
          exact (due_of_some waits).trans settled.2

theorem Follows.run (follows : cell.Follows arrived) (acts : List (Option (Event α κ))) :
    (cell.run acts).Follows (arrived.run acts.reduceOption) := by
  induction acts generalizing cell arrived with
  | nil => exact follows
  | cons act acts ih =>
      cases act with
      | some event => exact ih (follows.step event)
      | none => exact ih follows.flush

/-! ## Cells that are not settled -/

/-- Without a flush the last reference waits. -/
theorem run_map_some (cell : Deferred α κ) (events : List (Event α κ)) :
    (cell.run (events.map some)).referred = (cell.arrived.run events).last ∧
      (cell.run (events.map some)).contents = (cell.arrived.run events).contents := by
  induction events using List.reverseRecOn with
  | nil => exact ⟨rfl, rfl⟩
  | append_singleton events event ih =>
      obtain ⟨referred, contents⟩ := ih
      rw [List.map_append, run_append, Arrived.run_append]
      cases event with
      | replace => exact ⟨rfl, contents⟩
      | refer => exact ⟨rfl, contents⟩
      | store => exact ⟨referred, rfl⟩
      | keep | cover => exact ⟨referred, contents⟩

/-- Flushing before each event draws them in the order of their arrival. -/
theorem exists_due_eq (cell : Deferred α κ) (events : List (Event α κ)) :
    ∃ acts, acts.reduceOption = events ∧ (cell.run acts).due = (cell.arrived.run events).colour := by
  induction events using List.reverseRecOn with
  | nil => exact ⟨[], rfl, rfl⟩
  | append_singleton events event ih =>
      obtain ⟨acts, reduced, due⟩ := ih
      have contents := ((follows_arrived cell).run acts).contents
      rw [reduced] at contents
      refine ⟨acts ++ [none, some event], ?_, ?_⟩
      · rw [reduceOption_append_flush, reduced]
      · rw [run_append, Arrived.run_append]
        cases event with
        | replace => rfl
        | cover => rfl
        | refer key => exact congrFun contents key
        | keep | store => exact due

/-- A cell that is not settled can end with another colour. -/
theorem exists_due_ne (cell : Deferred α κ) (events : List (Event α κ))
    (unsettled : (cell.arrived.run events).settled = false) :
    ∃ acts, acts.reduceOption = events ∧ (cell.run acts).due ≠ (cell.arrived.run events).colour := by
  induction events using List.reverseRecOn with
  | nil => cases unsettled
  | append_singleton events event ih =>
      obtain ⟨referred, contents⟩ := run_map_some cell events
      have lazy : (events.map some ++ [some event]).reduceOption = events ++ [event] := by
        rw [List.reduceOption_append, List.reduceOption, List.filterMap_map]
        exact congrArg (· ++ [event]) List.filterMap_some
      rw [Arrived.run_append] at unsettled ⊢
      cases event with
      | keep =>
          obtain ⟨acts, reduced, apart⟩ := ih unsettled
          refine ⟨acts ++ [none, some .keep], ?_, ?_⟩
          · rw [reduceOption_append_flush, reduced]
          · rw [run_append]
            exact apart
      | replace => cases unsettled
      | refer => cases unsettled
      | cover colour =>
          cases last : (cell.arrived.run events).last with
          | none => simp [Arrived.step, last] at unsettled
          | some key =>
              refine ⟨_, lazy, ?_⟩
              have waits : ((cell.run (events.map some)).step (.cover colour)).referred = some key :=
                referred.trans last
              rw [run_append]
              refine ne_of_eq_of_ne ((due_of_some waits).trans (congrFun contents key)) ?_
              simpa [Arrived.step, last] using unsettled
      | store next =>
          cases before : (cell.arrived.run events).settled with
          | false =>
              obtain ⟨acts, reduced, apart⟩ := ih before
              refine ⟨acts ++ [none, some (.store next)], ?_, ?_⟩
              · rw [reduceOption_append_flush, reduced]
              · rw [run_append]
                exact apart
          | true =>
              cases last : (cell.arrived.run events).last with
              | none => simp [Arrived.step, before, last] at unsettled
              | some key =>
                  refine ⟨_, lazy, ?_⟩
                  have waits : ((cell.run (events.map some)).step (.store next)).referred = some key :=
                    referred.trans last
                  rw [run_append]
                  refine ne_of_eq_of_ne (due_of_some waits) ?_
                  change next key ≠ (cell.arrived.run events).colour
                  simpa [Arrived.step, before, last] using unsettled

/-- All groupings of the events into flushes end alike if and only if the cell is settled. -/
theorem grouping_iff_settled (cell : Deferred α κ) (events : List (Event α κ)) :
    (∀ first second, first.reduceOption = events → second.reduceOption = events →
        (cell.run first).due = (cell.run second).due) ↔ (cell.arrived.run events).settled = true := by
  constructor
  · intro alike
    by_contra unsettled
    obtain ⟨first, firstReduced, apart⟩ := exists_due_ne cell events (Bool.eq_false_iff.mpr unsettled)
    obtain ⟨second, secondReduced, due⟩ := exists_due_eq cell events
    exact apart ((alike first second firstReduced secondReduced).trans due)
  · intro settled first second firstReduced secondReduced
    have one := ((follows_arrived cell).run first).due
    have other := ((follows_arrived cell).run second).due
    rw [firstReduced] at one
    rw [secondReduced] at other
    exact (one settled).trans (other settled).symm

end Deferred

end Library
