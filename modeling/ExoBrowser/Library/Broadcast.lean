import Mathlib.Data.List.Basic

/-!
# Bounded broadcast

A channel keeps the last `capacity` values sent. A receiver that is further behind is
told so once, and goes on at the oldest value that is left.
-/

set_option autoImplicit false

namespace Library

inductive Reception (α : Type) where
  | item (value : α)
  | lagged (missed : Nat)
  | empty
deriving DecidableEq, Repr

namespace Broadcast

variable {α : Type} {capacity next : Nat} {sent : List α}

/-- Position of the oldest value left of all values sent. -/
def oldest (capacity : Nat) (sent : List α) : Nat := sent.length - capacity

def Lags (capacity : Nat) (sent : List α) (next : Nat) : Prop := next < oldest capacity sent

instance (capacity : Nat) (sent : List α) (next : Nat) : Decidable (Lags capacity sent next) :=
  inferInstanceAs (Decidable (_ < _))

/-- What the receiver at `next` receives, and where it is afterwards. -/
def receive (capacity : Nat) (sent : List α) (next : Nat) : Reception α × Nat :=
  if Lags capacity sent next then
    (.lagged (oldest capacity sent - next), oldest capacity sent)
  else
    match sent[next]? with
    | some value => (.item value, next + 1)
    | none => (.empty, next)

theorem receive_of_lags (lags : Lags capacity sent next) :
    receive capacity sent next = (.lagged (oldest capacity sent - next), oldest capacity sent) :=
  if_pos lags

theorem receive_item {value : α} (current : ¬ Lags capacity sent next)
    (found : sent[next]? = some value) : receive capacity sent next = (.item value, next + 1) := by
  rw [receive, if_neg current, found]

theorem receive_empty (current : ¬ Lags capacity sent next) (absent : sent[next]? = none) :
    receive capacity sent next = (.empty, next) := by
  rw [receive, if_neg current, absent]

theorem receive_cases (capacity : Nat) (sent : List α) (next : Nat) :
    (Lags capacity sent next ∧
        receive capacity sent next =
          (.lagged (oldest capacity sent - next), oldest capacity sent)) ∨
      (∃ value, ¬ Lags capacity sent next ∧ sent[next]? = some value ∧
        receive capacity sent next = (.item value, next + 1)) ∨
      (¬ Lags capacity sent next ∧ receive capacity sent next = (.empty, next)) := by
  by_cases lags : Lags capacity sent next
  · exact .inl ⟨lags, receive_of_lags lags⟩
  · cases found : sent[next]? with
    | some value => exact .inr (.inl ⟨value, lags, rfl, receive_item lags found⟩)
    | none => exact .inr (.inr ⟨lags, receive_empty lags found⟩)

end Broadcast

end Library
