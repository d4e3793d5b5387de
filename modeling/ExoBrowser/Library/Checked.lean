import Mathlib.Data.List.Basic

/-!
# Checked computations

Computations of a language whose failures are of two kinds: errors a caller can
inspect, and panics. Slices, indices and subtractions are checked where they are
made, and an unbounded loop runs on fuel, so that termination is a fact to prove.
-/

set_option autoImplicit false

namespace Library

/-- Why a computation aborted instead of returning. `stuck` is not an abort of
the language: it marks a loop that used up its fuel. -/
inductive Panic where
  | outOfRange
  | overflow
  | explicit
  | stuck
deriving DecidableEq, Repr

inductive Stop (ε : Type) where
  | err (error : ε)
  | panic (panic : Panic)
deriving DecidableEq, Repr

abbrev Checked (ε : Type) := Except (Stop ε)

namespace Checked

variable {ε α ρ σ : Type}

def fail (error : ε) : Checked ε α := .error (.err error)

def abort (panic : Panic) : Checked ε α := .error (.panic panic)

def slice (values : List α) (start stop : Nat) : Checked ε (List α) :=
  if start ≤ stop ∧ stop ≤ values.length then .ok ((values.drop start).take (stop - start))
  else abort .outOfRange

def index (values : List α) (position : Nat) : Checked ε α :=
  match values[position]? with
  | some value => .ok value
  | none => abort .outOfRange

def sub (left right : Nat) : Checked ε Nat :=
  if right ≤ left then .ok (left - right) else abort .overflow

/-- Overwrite the slice that starts at `start` with `source`, which must fit. -/
def overwrite (values : List α) (start : Nat) (source : List α) : Checked ε (List α) :=
  if start + source.length ≤ values.length then
    .ok (values.take start ++ source ++ values.drop (start + source.length))
  else abort .outOfRange

/-- `values[start..stop].fill(value)`. -/
def fill (values : List α) (start stop : Nat) (value : α) : Checked ε (List α) := do
  let part ← slice values start stop
  overwrite values start (List.replicate part.length value)

/-- The computation does not panic, and what it returns satisfies `good`. -/
def Safe (computation : Checked ε α) (good : α → Prop) : Prop :=
  match computation with
  | .ok value => good value
  | .error (.err _) => True
  | .error (.panic _) => False

/-- The computation returns, and what it returns satisfies `good`. -/
def Returns (computation : Checked ε α) (good : α → Prop) : Prop :=
  ∃ value, computation = .ok value ∧ good value

/-- Whatever the computation returns, if it returns, satisfies `good`. -/
def Yields (computation : Checked ε α) (good : α → Prop) : Prop :=
  ∀ value, computation = .ok value → good value

theorem Yields.pure {value : α} {good : α → Prop} (property : good value) :
    Yields (Pure.pure value : Checked ε α) good := by
  rintro _ ⟨⟩
  exact property

theorem Yields.bind {computation : Checked ε α} {continuation : α → Checked ε ρ} {good : ρ → Prop}
    (each : ∀ value, computation = .ok value → Yields (continuation value) good) :
    Yields (computation >>= continuation) good := by
  intro result returned
  match computation, each with
  | .ok value, each => exact each value rfl result returned
  | .error stop, _ => cases returned

theorem Yields.ite {condition : Prop} [Decidable condition] {first second : Checked ε α}
    {good : α → Prop} (holds : condition → Yields first good) (fails : ¬ condition → Yields second good) :
    Yields (if condition then first else second) good := by
  split
  case isTrue met => exact holds met
  case isFalse unmet => exact fails unmet

@[simp] theorem safe_ok (value : α) (good : α → Prop) :
    Safe (ε := ε) (.ok value) good ↔ good value := Iff.rfl

@[simp] theorem safe_pure (value : α) (good : α → Prop) :
    Safe (ε := ε) (pure value) good ↔ good value := Iff.rfl

@[simp] theorem safe_err (error : ε) (good : α → Prop) :
    Safe (.error (.err error)) good ↔ True := Iff.rfl

@[simp] theorem safe_fail (error : ε) (good : α → Prop) : Safe (fail error) good ↔ True := Iff.rfl

@[simp] theorem safe_abort (panic : Panic) (good : α → Prop) :
    Safe (ε := ε) (abort panic) good ↔ False := Iff.rfl

theorem Safe.bind {computation : Checked ε α} {continuation : α → Checked ε ρ}
    {middle : α → Prop} {good : ρ → Prop} (first : Safe computation middle)
    (second : ∀ value, middle value → Safe (continuation value) good) :
    Safe (computation >>= continuation) good := by
  match computation, first with
  | .ok value, first => exact second value first
  | .error (.err _), _ => trivial

theorem Safe.mono {computation : Checked ε α} {good better : α → Prop}
    (safe : Safe computation good) (weaken : ∀ value, good value → better value) :
    Safe computation better := by
  match computation, safe with
  | .ok value, safe => exact weaken value safe
  | .error (.err _), _ => trivial

theorem Safe.of_ok {computation : Checked ε α} {good : α → Prop} {value : α}
    (safe : Safe computation good) (result : computation = .ok value) : good value := by
  subst result
  exact safe

theorem Safe.ne_panic {computation : Checked ε α} {good : α → Prop}
    (safe : Safe computation good) (panic : Panic) : computation ≠ .error (.panic panic) := by
  rintro rfl
  exact safe

theorem Returns.safe {computation : Checked ε α} {good : α → Prop}
    (returns : Returns computation good) : Safe computation good := by
  obtain ⟨value, rfl, property⟩ := returns
  exact property

@[simp] theorem returns_ok (value : α) (good : α → Prop) :
    Returns (ε := ε) (.ok value) good ↔ good value := by
  constructor
  · rintro ⟨_, same, property⟩
    cases same
    exact property
  · exact fun property => ⟨value, rfl, property⟩

@[simp] theorem returns_pure (value : α) (good : α → Prop) :
    Returns (ε := ε) (pure value) good ↔ good value := returns_ok value good

theorem Returns.bind {computation : Checked ε α} {continuation : α → Checked ε ρ}
    {middle : α → Prop} {good : ρ → Prop} (first : Returns computation middle)
    (second : ∀ value, middle value → Returns (continuation value) good) :
    Returns (computation >>= continuation) good := by
  obtain ⟨value, rfl, property⟩ := first
  exact second value property

theorem Returns.mono {computation : Checked ε α} {good better : α → Prop}
    (returns : Returns computation good) (weaken : ∀ value, good value → better value) :
    Returns computation better := by
  obtain ⟨value, result, property⟩ := returns
  exact ⟨value, result, weaken value property⟩

theorem Returns.step {computation : Checked ε α} {continuation : α → Checked ε ρ} {value : α}
    {good : ρ → Prop} (result : computation = .ok value)
    (rest : Returns (continuation value) good) : Returns (computation >>= continuation) good := by
  subst result
  exact rest

theorem Safe.step {computation : Checked ε α} {continuation : α → Checked ε ρ} {value : α}
    {good : ρ → Prop} (result : computation = .ok value)
    (rest : Safe (continuation value) good) : Safe (computation >>= continuation) good := by
  subst result
  exact rest

theorem Safe.foldlM {values : List α} {step : σ → α → Checked ε σ} (invariant : σ → Prop)
    (each : ∀ state, invariant state → ∀ value ∈ values, Safe (step state value) invariant)
    {state : σ} (initial : invariant state) : Safe (values.foldlM step state) invariant := by
  induction values generalizing state with
  | nil => exact initial
  | cons value values ih =>
      rw [List.foldlM_cons]
      refine (each state initial value List.mem_cons_self).bind fun next property => ?_
      exact ih (fun state invariant value member =>
        each state invariant value (List.mem_cons_of_mem _ member)) property

theorem Returns.mapM {step : α → Checked ε ρ} {values : List α} {good : α → ρ → Prop}
    (each : ∀ value ∈ values, Returns (step value) (good value)) :
    Returns (values.mapM step) fun results =>
      (∀ value ∈ values, ∃ result ∈ results, good value result) ∧
        ∀ result ∈ results, ∃ value ∈ values, good value result := by
  induction values with
  | nil => exact ⟨[], rfl, fun _ member => absurd member List.not_mem_nil,
      fun _ member => absurd member List.not_mem_nil⟩
  | cons value values ih =>
      rw [List.mapM_cons]
      refine (each value List.mem_cons_self).bind fun result here => ?_
      obtain ⟨results, mapped, forward, backward⟩ :=
        ih fun other member => each other (List.mem_cons_of_mem _ member)
      refine .step mapped ⟨result :: results, rfl, ?_, ?_⟩
      · intro other member
        rcases List.mem_cons.mp member with rfl | rest
        · exact ⟨result, List.mem_cons_self, here⟩
        · obtain ⟨found, inResults, property⟩ := forward other rest
          exact ⟨found, List.mem_cons_of_mem _ inResults, property⟩
      · intro found member
        rcases List.mem_cons.mp member with rfl | rest
        · exact ⟨value, List.mem_cons_self, here⟩
        · obtain ⟨other, inValues, property⟩ := backward found rest
          exact ⟨other, List.mem_cons_of_mem _ inValues, property⟩

theorem mapM_eq_ok {step : α → Checked ε ρ} {values : List α} {result : α → ρ}
    (each : ∀ value ∈ values, step value = .ok (result value)) :
    values.mapM step = .ok (values.map result) := by
  induction values with
  | nil => rfl
  | cons value values ih =>
      obtain ⟨first, rest⟩ := List.forall_mem_cons.mp each
      rw [List.mapM_cons, first, ih rest]
      rfl

theorem Yields.mapM {step : α → Checked ε ρ} {values : List α} {good : ρ → Prop}
    (each : ∀ value, Yields (step value) good) :
    Yields (values.mapM step) fun results => ∀ result ∈ results, good result := by
  induction values with
  | nil => exact .pure fun _ member => absurd member List.not_mem_nil
  | cons value values ih =>
      rw [List.mapM_cons]
      refine .bind fun first here => .bind fun rest mapped => .pure ?_
      exact List.forall_mem_cons.mpr ⟨each value first here, ih rest mapped⟩

/-- The computation returns if `calm` holds, and whatever it returns satisfies `good`. -/
structure ReturnsIf (calm : Prop) (computation : Checked ε α) (good : α → Prop) : Prop where
  returns : calm → ∃ value, computation = .ok value
  good : Yields computation good

namespace ReturnsIf

variable {calm : Prop} {computation : Checked ε α} {good : α → Prop}

theorem of_returns (returns : Returns computation good) : ReturnsIf calm computation good := by
  obtain ⟨value, rfl, property⟩ := returns
  exact ⟨fun _ => ⟨value, rfl⟩, .pure property⟩

theorem pure {value : α} (property : good value) : ReturnsIf (ε := ε) calm (Pure.pure value) good :=
  .of_returns ⟨value, rfl, property⟩

theorem of_calm (returnsIf : ReturnsIf calm computation good) (holds : calm) :
    Returns computation good := by
  obtain ⟨value, result⟩ := returnsIf.returns holds
  exact ⟨value, result, returnsIf.good value result⟩

theorem mono {better : α → Prop} (returnsIf : ReturnsIf calm computation good)
    (weaken : ∀ value, good value → better value) : ReturnsIf calm computation better :=
  ⟨returnsIf.returns, fun value result => weaken value (returnsIf.good value result)⟩

theorem weaken {quiet : Prop} (returnsIf : ReturnsIf calm computation good) (quieter : quiet → calm) :
    ReturnsIf quiet computation good := ⟨fun holds => returnsIf.returns (quieter holds), returnsIf.good⟩

theorem bind {continuation : α → Checked ε ρ} {better : ρ → Prop}
    (first : ReturnsIf calm computation good)
    (second : ∀ value, good value → ReturnsIf calm (continuation value) better) :
    ReturnsIf calm (computation >>= continuation) better := by
  constructor
  · intro holds
    obtain ⟨value, rfl⟩ := first.returns holds
    exact (second value (first.good value rfl)).returns holds
  · exact .bind fun value result => (second value (first.good value result)).good

theorem foldlM {step : σ → α → Checked ε σ} (invariant : σ → Prop) {values : List α}
    (each : ∀ state, invariant state → ∀ value ∈ values, ReturnsIf calm (step state value) invariant)
    {state : σ} (initial : invariant state) : ReturnsIf calm (values.foldlM step state) invariant := by
  induction values generalizing state with
  | nil => exact .pure initial
  | cons value values ih =>
      rw [List.foldlM_cons]
      refine (each state initial value List.mem_cons_self).bind fun next kept => ?_
      exact ih (fun state property other member =>
        each state property other (List.mem_cons_of_mem _ member)) kept

/-- The invariant rule for a loop over a list, told from what is already processed. -/
theorem foldlM_append {step : σ → α → Checked ε σ} (invariant : List α → σ → Prop) {values : List α}
    (each : ∀ done value rest, values = done ++ value :: rest → ∀ state, invariant done state →
      ReturnsIf calm (step state value) (invariant (done ++ [value])))
    {state : σ} (initial : invariant [] state) :
    ReturnsIf calm (values.foldlM step state) (invariant values) := by
  suffices general : ∀ done rest, values = done ++ rest → ∀ state, invariant done state →
      ReturnsIf calm (rest.foldlM step state) (invariant values) from general [] values rfl state initial
  intro done rest split
  induction rest generalizing done with
  | nil =>
      intro state property
      rw [split, List.append_nil]
      exact .pure property
  | cons value rest ih =>
      intro state property
      rw [List.foldlM_cons]
      refine (each done value rest split state property).bind fun next kept => ?_
      exact ih (done ++ [value]) (by rw [split, List.append_assoc]; rfl) next kept

theorem foldlM_range {step : σ → Nat → Checked ε σ} (invariant : Nat → σ → Prop) (n : Nat)
    (each : ∀ i < n, ∀ state, invariant i state → ReturnsIf calm (step state i) (invariant (i + 1)))
    {state : σ} (initial : invariant 0 state) :
    ReturnsIf calm ((List.range n).foldlM step state) (invariant n) := by
  induction n with
  | zero => exact .pure initial
  | succ n ih =>
      rw [List.range_succ, List.foldlM_append]
      refine (ih fun i small => each i (Nat.lt_succ_of_lt small)).bind fun next property => ?_
      have stepped := each n (Nat.lt_succ_self n) next property
      exact stepped.bind fun result kept => .pure kept

end ReturnsIf

theorem Yields.foldlM {step : σ → α → Checked ε σ} (invariant : σ → Prop) {values : List α}
    (each : ∀ state, invariant state → ∀ value ∈ values, Yields (step state value) invariant)
    {state : σ} (initial : invariant state) : Yields (values.foldlM step state) invariant :=
  (ReturnsIf.foldlM invariant (fun state property value member =>
    (⟨False.elim, each state property value member⟩ : ReturnsIf False _ _)) initial).good

theorem Yields.overwrite (values source : List α) (start : Nat) :
    Yields (ε := ε) (Checked.overwrite values start source) fun out => out.length = values.length := by
  refine .ite (fun fits => .pure ?_) fun _ _ returned => by cases returned
  simp only [List.length_append, List.length_take, List.length_drop]
  omega

theorem Returns.foldlM_append {step : σ → α → Checked ε σ} (invariant : List α → σ → Prop)
    {values : List α}
    (each : ∀ done value rest, values = done ++ value :: rest → ∀ state, invariant done state →
      Returns (step state value) (invariant (done ++ [value])))
    {state : σ} (initial : invariant [] state) :
    Returns (values.foldlM step state) (invariant values) :=
  (ReturnsIf.foldlM_append invariant (fun done value rest split state property =>
    .of_returns (each done value rest split state property)) initial).of_calm trivial

theorem Returns.foldlM_range {step : σ → Nat → Checked ε σ} (invariant : Nat → σ → Prop) (n : Nat)
    (each : ∀ i < n, ∀ state, invariant i state → Returns (step state i) (invariant (i + 1)))
    {state : σ} (initial : invariant 0 state) :
    Returns ((List.range n).foldlM step state) (invariant n) :=
  (ReturnsIf.foldlM_range invariant n (fun i small state property =>
    .of_returns (each i small state property)) initial).of_calm trivial

theorem ok_bind (value : α) (continuation : α → Checked ε ρ) :
    ((.ok value : Checked ε α) >>= continuation) = continuation value := rfl

theorem bind_eq_ok {computation : Checked ε α} {continuation : α → Checked ε ρ} {value : ρ}
    (returned : computation >>= continuation = .ok value) :
    ∃ middle, computation = .ok middle ∧ continuation middle = .ok value := by
  cases computation with
  | error stop => cases returned
  | ok middle => exact ⟨middle, rfl, returned⟩

theorem eq_ok_of_toOption {computation : Checked ε α} {value : α}
    (found : computation.toOption = some value) : computation = .ok value := by
  cases computation with
  | ok result =>
      cases found
      rfl
  | error stop => cases found

theorem bind_ne_error {computation : Checked ε α} {continuation : α → Checked ε ρ} {stop : Stop ε}
    (first : computation ≠ .error stop) (second : ∀ value, continuation value ≠ .error stop) :
    computation >>= continuation ≠ .error stop := by
  cases computation with
  | error other =>
      intro same
      cases same
      exact first rfl
  | ok value => exact second value

theorem slice_eq_ok {values : List α} {start stop : Nat} (ordered : start ≤ stop)
    (bounded : stop ≤ values.length) :
    slice (ε := ε) values start stop = .ok ((values.drop start).take (stop - start)) :=
  if_pos ⟨ordered, bounded⟩

theorem slice_add_eq_ok {values : List α} {start width : Nat}
    (inside : start + width ≤ values.length) :
    slice (ε := ε) values start (start + width) = .ok ((values.drop start).take width) := by
  rw [slice_eq_ok (Nat.le_add_right start width) inside, Nat.add_sub_cancel_left]

theorem index_eq_ok {values : List α} {position : Nat} {value : α}
    (found : values[position]? = some value) : index (ε := ε) values position = .ok value := by
  simp [index, found]

/-- The first of the values that are left. -/
theorem next_of_drop {values rest : List α} {position : Nat} {value : α}
    (ahead : values.drop position = value :: rest) :
    position < values.length ∧ values[position]? = some value ∧ values.drop (position + 1) = rest := by
  have here : values[position]? = some value := by
    have first := congrArg (·[0]?) ahead
    simpa [List.getElem?_drop] using first
  refine ⟨(List.getElem?_eq_some_iff.mp here).1, here, ?_⟩
  rw [← List.drop_drop, ahead]
  rfl

theorem getElem?_of_index_eq_ok {values : List α} {position : Nat} {value : α}
    (returned : index (ε := ε) values position = .ok value) : values[position]? = some value := by
  unfold index at returned
  cases found : values[position]? with
  | none =>
      rw [found] at returned
      cases returned
  | some at_position =>
      rw [found] at returned
      cases returned
      rfl

theorem mem_of_index_eq_ok {values : List α} {position : Nat} {value : α}
    (returned : index (ε := ε) values position = .ok value) : value ∈ values :=
  List.mem_of_getElem? (getElem?_of_index_eq_ok returned)

theorem sub_eq_ok {left right : Nat} (ordered : right ≤ left) :
    sub (ε := ε) left right = .ok (left - right) := if_pos ordered

theorem overwrite_eq_ok {values source : List α} {start : Nat}
    (fits : start + source.length ≤ values.length) :
    overwrite (ε := ε) values start source =
      .ok (values.take start ++ source ++ values.drop (start + source.length)) := if_pos fits

theorem getElem?_overwrite {values source : List α} {start i : Nat}
    (fits : start + source.length ≤ values.length) :
    (values.take start ++ source ++ values.drop (start + source.length))[i]? =
      if start ≤ i ∧ i < start + source.length then source[i - start]? else values[i]? := by
  have taken : (values.take start).length = start := List.length_take_of_le (by omega)
  by_cases before : i < start
  · rw [if_neg (by omega), List.append_assoc, List.getElem?_append_left (by omega),
      List.getElem?_take_of_lt before]
  · by_cases inside : i < start + source.length
    · rw [if_pos (by omega), List.getElem?_append_left (by rw [List.length_append]; omega),
        List.getElem?_append_right (by omega), taken]
    · rw [if_neg (by omega), List.getElem?_append_right (by rw [List.length_append]; omega),
        List.getElem?_drop, List.length_append, taken]
      congr 1
      omega

theorem overwrite_returns {values source : List α} {start : Nat}
    (fits : start + source.length ≤ values.length) :
    Returns (ε := ε) (overwrite values start source) fun result =>
      result.length = values.length := by
  refine ⟨_, overwrite_eq_ok fits, ?_⟩
  simp only [List.length_append, List.length_take, List.length_drop]
  omega

theorem fill_eq_overwrite {values : List α} {start count : Nat} {value : α}
    (inside : start + count ≤ values.length) :
    fill (ε := ε) values start (start + count) value =
      overwrite values start (List.replicate count value) := by
  have length : ((values.drop start).take count).length = count := by
    rw [List.length_take, List.length_drop]
    omega
  rw [fill, slice_add_eq_ok inside, ok_bind, length]

theorem fill_returns {values : List α} {start stop : Nat} {value : α} (ordered : start ≤ stop)
    (bounded : stop ≤ values.length) :
    Returns (ε := ε) (fill values start stop value) fun result => result.length = values.length := by
  refine .step (slice_eq_ok ordered bounded) (overwrite_returns ?_)
  simp only [List.length_replicate, List.length_take, List.length_drop]
  omega

/-- The computation returns something `good` if `fits` holds, and otherwise leaves the
range of a slice. -/
def InRangeIff (computation : Checked ε α) (fits : Prop) (good : α → Prop) : Prop :=
  (fits → Returns computation good) ∧ (¬fits → computation = abort .outOfRange)

namespace InRangeIff

variable {computation : Checked ε α} {fits : Prop} {good : α → Prop}

theorem of_returns (returns : Returns computation good) : InRangeIff computation True good :=
  ⟨fun _ => returns, fun absurdity => absurd trivial absurdity⟩

theorem congr {other : Prop} (same : fits ↔ other) (decides : InRangeIff computation fits good) :
    InRangeIff computation other good :=
  ⟨fun holds => decides.1 (same.mpr holds), fun fails => decides.2 fun holds => fails (same.mp holds)⟩

theorem ne_outOfRange_iff (decides : InRangeIff computation fits good) :
    computation ≠ .error (.panic .outOfRange) ↔ fits := by
  constructor
  · intro inRange
    by_contra fails
    exact inRange (decides.2 fails)
  · intro holds
    obtain ⟨value, result, _⟩ := decides.1 holds
    rw [result]
    exact nofun

theorem bind {continuation : α → Checked ε ρ} {later : Prop} {better : ρ → Prop}
    (first : InRangeIff computation fits good)
    (second : ∀ value, good value → InRangeIff (continuation value) later better) :
    InRangeIff (computation >>= continuation) (fits ∧ later) better := by
  constructor
  · rintro ⟨holds, laterHolds⟩
    exact (first.1 holds).bind fun value property => (second value property).1 laterHolds
  · intro fails
    by_cases holds : fits
    · obtain ⟨value, rfl, property⟩ := first.1 holds
      exact (second value property).2 fun laterHolds => fails ⟨holds, laterHolds⟩
    · rw [first.2 holds]
      rfl

theorem andThen {continuation : α → Checked ε ρ} {better : ρ → Prop}
    (first : InRangeIff computation fits good)
    (second : ∀ value, good value → Returns (continuation value) better) :
    InRangeIff (computation >>= continuation) fits better :=
  (first.bind fun value property => .of_returns (second value property)).congr (Iff.of_eq (and_true fits))

theorem foldlM {step : σ → α → Checked ε σ} (invariant : σ → Prop) (each : α → Prop)
    {values : List α} (passes : ∀ state, invariant state → ∀ value ∈ values,
      InRangeIff (step state value) (each value) invariant)
    {state : σ} (initial : invariant state) :
    InRangeIff (values.foldlM step state) (∀ value ∈ values, each value) invariant := by
  induction values generalizing state with
  | nil => exact (of_returns ⟨state, rfl, initial⟩).congr (by simp)
  | cons value values ih =>
      rw [List.foldlM_cons]
      have rest (next : σ) (property : invariant next) := ih
        (fun state holds other member => passes state holds other (List.mem_cons_of_mem _ member))
        property
      exact ((passes state initial value List.mem_cons_self).bind rest).congr
        List.forall_mem_cons.symm

end InRangeIff

/-- The computation returns something `good` if `fits` holds, and otherwise panics as it says. -/
def PanicsUnless (panic : Panic) (computation : Checked ε α) (fits : Prop) (good : α → Prop) : Prop :=
  (fits → Returns computation good) ∧ (¬fits → computation = abort panic)

namespace PanicsUnless

variable {panic : Panic} {computation : Checked ε α} {fits : Prop} {good : α → Prop}

theorem of_returns (returns : Returns computation good) : PanicsUnless panic computation True good :=
  ⟨fun _ => returns, fun absurdity => absurd trivial absurdity⟩

theorem pure {value : α} (holds : fits) (property : good value) :
    PanicsUnless panic (Pure.pure value : Checked ε α) fits good :=
  ⟨fun _ => ⟨value, rfl, property⟩, fun fails => absurd holds fails⟩

theorem congr {other : Prop} (decides : PanicsUnless panic computation fits good)
    (same : fits ↔ other) : PanicsUnless panic computation other good :=
  ⟨fun holds => decides.1 (same.mpr holds), fun fails => decides.2 fun holds => fails (same.mp holds)⟩

theorem returns_iff (decides : PanicsUnless panic computation fits good) :
    (∃ value, computation = .ok value) ↔ fits := by
  constructor
  · rintro ⟨value, result⟩
    by_contra fails
    rw [decides.2 fails] at result
    cases result
  · intro holds
    obtain ⟨value, result, _⟩ := decides.1 holds
    exact ⟨value, result⟩

theorem bind {continuation : α → Checked ε ρ} {later : Prop} {better : ρ → Prop}
    (first : PanicsUnless panic computation fits good)
    (second : ∀ value, good value → PanicsUnless panic (continuation value) later better) :
    PanicsUnless panic (computation >>= continuation) (fits ∧ later) better := by
  constructor
  · rintro ⟨holds, laterHolds⟩
    exact (first.1 holds).bind fun value property => (second value property).1 laterHolds
  · intro fails
    by_cases holds : fits
    · obtain ⟨value, rfl, property⟩ := first.1 holds
      exact (second value property).2 fun laterHolds => fails ⟨holds, laterHolds⟩
    · rw [first.2 holds]
      rfl

theorem andThen {continuation : α → Checked ε ρ} {better : ρ → Prop}
    (first : PanicsUnless panic computation fits good)
    (second : ∀ value, good value → Returns (continuation value) better) :
    PanicsUnless panic (computation >>= continuation) fits better :=
  (first.bind fun value property => .of_returns (second value property)).congr
    (Iff.of_eq (and_true fits))

end PanicsUnless

theorem slice_inRangeIff (values : List α) (start stop : Nat) :
    InRangeIff (ε := ε) (slice values start stop) (start ≤ stop ∧ stop ≤ values.length)
      fun part => part.length = stop - start := by
  constructor
  · rintro ⟨ordered, bounded⟩
    refine ⟨_, slice_eq_ok ordered bounded, ?_⟩
    change ((values.drop start).take (stop - start)).length = stop - start
    rw [List.length_take, List.length_drop]
    omega
  · intro outside
    exact if_neg outside

end Checked

inductive Pass (σ ρ : Type) where
  | again (state : σ)
  | leave (result : ρ)
deriving DecidableEq, Repr

/-- What holds of the state a pass hands on, or of the result it leaves with. -/
def Pass.Meets {σ ρ : Type} (continues : σ → Prop) (ends : ρ → Prop) : Pass σ ρ → Prop
  | .again state => continues state
  | .leave result => ends result

@[simp] theorem Pass.meets_again {σ ρ : Type} (continues : σ → Prop) (ends : ρ → Prop)
    (state : σ) : (Pass.again state).Meets continues ends ↔ continues state := Iff.rfl

@[simp] theorem Pass.meets_leave {σ ρ : Type} (continues : σ → Prop) (ends : ρ → Prop)
    (result : ρ) : (Pass.leave result).Meets continues ends ↔ ends result := Iff.rfl

def Pass.map {σ ρ : Type} (state : σ → σ) (result : ρ → ρ) : Pass σ ρ → Pass σ ρ
  | .again next => .again (state next)
  | .leave value => .leave (result value)

/-- `loop { body }`, for at most `fuel` passes. -/
def loop {ε σ ρ : Type} (body : σ → Checked ε (Pass σ ρ)) : Nat → σ → Checked ε ρ
  | 0, _ => .error (.panic .stuck)
  | fuel + 1, state =>
      match body state with
      | .error stop => .error stop
      | .ok (.leave result) => .ok result
      | .ok (.again next) => loop body fuel next

section LoopRules

variable {ε ρ σ : Type} {body : σ → Checked ε (Pass σ ρ)}

theorem loop_leave {state : σ} {result : ρ} {fuel : Nat}
    (pass : body state = .ok (.leave result)) : loop body (fuel + 1) state = .ok result := by
  simp [loop, pass]

theorem loop_again {state next : σ} {fuel : Nat}
    (pass : body state = .ok (.again next)) :
    loop body (fuel + 1) state = loop body fuel next := by
  simp [loop, pass]

theorem loop_error {state : σ} {stop : Stop ε} {fuel : Nat}
    (pass : body state = .error stop) : loop body (fuel + 1) state = .error stop := by
  simp [loop, pass]

theorem loop_map (change : σ → σ) (result : ρ → ρ)
    (pass : ∀ state, body (change state) = Pass.map change result <$> body state)
    (fuel : Nat) (state : σ) : loop body fuel (change state) = result <$> loop body fuel state := by
  induction fuel generalizing state with
  | zero => rfl
  | succ fuel ih =>
      have once := pass state
      match taken : body state with
      | .error stop =>
          rw [taken] at once
          rw [loop_error once, loop_error taken]
          rfl
      | .ok (.leave value) =>
          rw [taken] at once
          rw [loop_leave once, loop_leave taken]
          rfl
      | .ok (.again next) =>
          rw [taken] at once
          rw [loop_again once, loop_again taken, ih]

/-- The invariant rule for a loop that may end in an error but never panics. -/
theorem loop_safe (invariant : σ → Prop) (measure : σ → Nat) {good : ρ → Prop}
    (step : ∀ state, invariant state → Checked.Safe (body state)
      (Pass.Meets (fun next => invariant next ∧ measure next < measure state) good))
    {state : σ} (initial : invariant state) {fuel : Nat} (enough : measure state < fuel) :
    Checked.Safe (loop body fuel state) good := by
  induction fuel generalizing state with
  | zero => exact absurd enough (Nat.not_lt_zero _)
  | succ fuel ih =>
      have pass := step state initial
      match result : body state with
      | .error (.err error) => simp [loop_error result]
      | .error (.panic panic) => simp [result, Checked.Safe] at pass
      | .ok (.leave value) =>
          rw [loop_leave result]
          simpa [result] using pass
      | .ok (.again next) =>
          rw [loop_again result]
          have progress : invariant next ∧ measure next < measure state := by
            simpa [result] using pass
          exact ih progress.1 (by omega)

theorem loop_returns (invariant : σ → Prop) (measure : σ → Nat) {good : ρ → Prop}
    (step : ∀ state, invariant state → Checked.Returns (body state)
      (Pass.Meets (fun next => invariant next ∧ measure next < measure state) good))
    {state : σ} (initial : invariant state) {fuel : Nat} (enough : measure state < fuel) :
    Checked.Returns (loop body fuel state) good := by
  induction fuel generalizing state with
  | zero => exact absurd enough (Nat.not_lt_zero _)
  | succ fuel ih =>
      obtain ⟨pass, result, property⟩ := step state initial
      cases pass with
      | leave value => exact ⟨value, loop_leave result, property⟩
      | again next =>
          rw [loop_again result]
          exact ih property.1 (by have := property.2; omega)

end LoopRules

end Library
