import Mathlib.Data.List.Induction

/-!
# Gates

A gate stands before a machine until the first event. It lets the events behind through if
it accepts the first one, and is shut for good otherwise.
-/

set_option autoImplicit false

namespace Library

inductive Gate (σ : Type) where
  | waiting
  | opened (inner : σ)
  | shut

variable {σ ε ω : Type}

/-- What opens a gate, with what that emits, and what the machine behind it does. -/
structure Gatekeeper (σ ε ω : Type) where
  accept : ε → Option (σ × List ω)
  inner : σ → ε → σ × List ω

namespace Gatekeeper

variable (keeper : Gatekeeper σ ε ω)

/-- What the first event does to the gate. -/
def answer (event : ε) : Gate σ × List ω :=
  match keeper.accept event with
  | some (start, emitted) => (.opened start, emitted)
  | none => (.shut, [])

theorem answer_of_some {event : ε} {opening : σ × List ω} (accepted : keeper.accept event = some opening) :
    keeper.answer event = (.opened opening.1, opening.2) := by
  unfold answer
  rw [accepted]

theorem answer_of_none {event : ε} (refused : keeper.accept event = none) :
    keeper.answer event = (.shut, []) := by
  unfold answer
  rw [refused]

def pass : Gate σ → ε → Gate σ × List ω
  | .waiting, event => keeper.answer event
  | .opened state, event =>
      let (next, emitted) := keeper.inner state event
      (.opened next, emitted)
  | .shut, _ => (.shut, [])

/-- The gate after a sequence of events. -/
def after (events : List ε) : Gate σ := events.foldl (fun gate event => (keeper.pass gate event).1) .waiting

theorem after_append (events : List ε) (event : ε) :
    keeper.after (events ++ [event]) = (keeper.pass (keeper.after events) event).1 :=
  List.foldl_append

/-- The first event decides whether the gate is open. -/
inductive Decided : List ε → Gate σ → Prop where
  | waiting : Decided [] .waiting
  | opened {first rest inner} : (keeper.accept first).isSome → Decided (first :: rest) (.opened inner)
  | shut {first rest} : keeper.accept first = none → Decided (first :: rest) .shut

theorem decided (events : List ε) : keeper.Decided events (keeper.after events) := by
  induction events using List.reverseRecOn with
  | nil => exact .waiting
  | append_singleton events event ih =>
      rw [after_append]
      generalize keeper.after events = gate at ih
      cases ih with
      | waiting =>
          change keeper.Decided [event] (keeper.answer event).1
          cases accepted : keeper.accept event with
          | none =>
              rw [keeper.answer_of_none accepted]
              exact .shut accepted
          | some opening =>
              rw [keeper.answer_of_some accepted]
              exact .opened (Option.isSome_of_eq_some accepted)
      | opened accepted => exact .opened accepted
      | shut refused => exact .shut refused

/-- Nothing is emitted unless the first event is accepted. -/
theorem accepted_of_emitted {events : List ε} {event : ε}
    (emitted : (keeper.pass (keeper.after events) event).2 ≠ []) :
    ∃ first rest, events ++ [event] = first :: rest ∧ (keeper.accept first).isSome := by
  have decided := keeper.decided events
  generalize keeper.after events = gate at decided emitted
  cases decided with
  | waiting =>
      refine ⟨event, [], rfl, ?_⟩
      change (keeper.answer event).2 ≠ [] at emitted
      cases accepted : keeper.accept event with
      | none =>
          rw [keeper.answer_of_none accepted] at emitted
          exact absurd rfl emitted
      | some opening => rfl
  | @opened first rest inner accepted => exact ⟨first, rest ++ [event], rfl, accepted⟩
  | shut refused => exact absurd rfl emitted

/-! ## Silence -/

/-- The first event is refused, or opens the gate without a word and no later one is heard. -/
def Silent (heard : ε → Prop) : List ε → Prop
  | [] => True
  | first :: rest =>
      ∀ opening, keeper.accept first = some opening → opening.2 = [] ∧ ∀ event ∈ rest, ¬ heard event

/-- Where the machine behind the gate emits for the events that are heard, a sequence is
silent as long as no event emits. -/
theorem silent_append_iff {heard : ε → Prop}
    (emits : ∀ state event, (keeper.inner state event).2 = [] ↔ ¬ heard event) (events : List ε)
    (event : ε) :
    keeper.Silent heard (events ++ [event]) ↔
      keeper.Silent heard events ∧ (keeper.pass (keeper.after events) event).2 = [] := by
  have decided := keeper.decided events
  generalize keeper.after events = gate at decided
  cases decided with
  | waiting =>
      change keeper.Silent heard [event] ↔ True ∧ (keeper.answer event).2 = []
      cases accepted : keeper.accept event with
      | none => simp [Silent, accepted, keeper.answer_of_none accepted]
      | some opening => simp [Silent, accepted, keeper.answer_of_some accepted]
  | @opened first rest inner accepted =>
      obtain ⟨opening, accepted⟩ := Option.isSome_iff_exists.mp accepted
      change keeper.Silent heard (first :: (rest ++ [event])) ↔
        _ ∧ (keeper.inner inner event).2 = []
      rw [emits]
      simp only [Silent, accepted, Option.some.injEq, forall_eq', List.forall_mem_append,
        List.forall_mem_singleton, and_assoc]
  | shut refused =>
      change keeper.Silent heard (_ :: (_ ++ [event])) ↔ _
      simp [Silent, refused, pass]

end Gatekeeper

end Library
