import ExoBrowser.Library.Checked

/-!
# Agreement

A checked computation against a plain one that computes the same and is not checked at all.
Where the two agree, the checks never fail.
-/

set_option autoImplicit false

namespace Library.Checked

variable {ε α β ρ τ : Type}

/-- Both return, and what they return is related, or both stop with the same error. -/
def Agrees (computation : Checked ε α) (plain : Except ε β) (related : α → β → Prop) : Prop :=
  match computation, plain with
  | .ok value, .ok other => related value other
  | .error (.err error), .error other => error = other
  | _, _ => False

namespace Agrees

variable {computation : Checked ε α} {plain : Except ε β} {related : α → β → Prop}

theorem fail (error : ε) : Agrees (Checked.fail error : Checked ε α) (.error error) related := rfl

theorem pure {value : α} {other : β} (same : related value other) :
    Agrees (Pure.pure value : Checked ε α) (Pure.pure other) related := same

theorem bind {continuation : α → Checked ε ρ} {following : β → Except ε τ} {later : ρ → τ → Prop}
    (first : Agrees computation plain related)
    (second : ∀ value other, related value other → Agrees (continuation value) (following other) later) :
    Agrees (computation >>= continuation) (plain >>= following) later := by
  match computation, plain, first with
  | .ok value, .ok other, first => exact second value other first
  | .error (.err _), .error _, first => exact first

theorem step {continuation : α → Checked ε ρ} {value : α} {later : ρ → β → Prop}
    (result : computation = .ok value) (rest : Agrees (continuation value) plain later) :
    Agrees (computation >>= continuation) plain later := by
  subst result
  exact rest

theorem mono {weaker : α → β → Prop} (agrees : Agrees computation plain related)
    (weaken : ∀ value other, related value other → weaker value other) :
    Agrees computation plain weaker := by
  match computation, plain, agrees with
  | .ok value, .ok other, agrees => exact weaken value other agrees
  | .error (.err _), .error _, agrees => exact agrees

/-- The plain computation goes on and the checked one has returned. -/
theorem andThen {following : β → Except ε τ} {later : α → τ → Prop}
    (first : Agrees computation plain related)
    (second : ∀ value other, related value other → Agrees (.ok value : Checked ε α) (following other) later) :
    Agrees computation (plain >>= following) later := by
  match computation, plain, first with
  | .ok value, .ok other, first => exact second value other first
  | .error (.err _), .error _, first => exact first

theorem and_safe {good : α → Prop} (agrees : Agrees computation plain related)
    (safe : Safe computation good) :
    Agrees computation plain fun value other => related value other ∧ good value := by
  match computation, plain, agrees with
  | .ok value, .ok other, agrees => exact ⟨agrees, safe⟩
  | .error (.err _), .error _, agrees => exact agrees

theorem eq_mapError {plain : Except ε α} (agrees : Agrees computation plain Eq) :
    computation = plain.mapError .err := by
  match computation, plain, agrees with
  | .ok value, .ok other, agrees => exact congrArg Except.ok agrees
  | .error (.err _), .error _, agrees => exact congrArg (Except.error ∘ Stop.err) agrees

end Agrees

end Library.Checked

namespace Library

/-! ## Loops -/

/-- Two passes that go on from related states, or leave with the same result. -/
def Pass.Both {σ τ ρ : Type} (related : σ → τ → Prop) : Pass σ ρ → Pass τ ρ → Prop
  | .again state, .again other => related state other
  | .leave result, .leave other => result = other
  | _, _ => False

variable {ε ρ σ τ : Type}

/-- The loop agrees with a plain recursion whose steps agree with its passes. -/
theorem loop_agrees {body : σ → Checked ε (Pass σ ρ)} {step : τ → Except ε (Pass τ ρ)}
    {recursion : τ → Except ε ρ} (related : σ → τ → Prop) (measure : σ → Nat)
    (stops : ∀ other error, step other = .error error → recursion other = .error error)
    (leaves : ∀ other result, step other = .ok (.leave result) → recursion other = .ok result)
    (goesOn : ∀ other next, step other = .ok (.again next) → recursion other = recursion next)
    (each : ∀ state other, related state other → Checked.Agrees (body state) (step other)
      (Pass.Both fun next following => related next following ∧ measure next < measure state))
    {state : σ} {other : τ} (initial : related state other) {fuel : Nat}
    (enough : measure state < fuel) : Checked.Agrees (loop body fuel state) (recursion other) Eq := by
  induction fuel generalizing state other with
  | zero => exact absurd enough (Nat.not_lt_zero _)
  | succ fuel ih =>
      have pass := each state other initial
      match taken : body state, stepped : step other, pass with
      | .error (.err error), .error failed, pass =>
          rw [loop_error taken, stops other failed stepped]
          exact pass
      | .ok (.leave value), .ok (.leave result), pass =>
          rw [loop_leave taken, leaves other result stepped]
          exact pass
      | .ok (.again next), .ok (.again following), pass =>
          rw [loop_again taken, goesOn other following stepped]
          exact ih pass.1 (Nat.lt_of_lt_of_le pass.2 (Nat.le_of_lt_succ enough))

end Library
