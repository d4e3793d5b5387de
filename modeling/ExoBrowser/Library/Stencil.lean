import ExoBrowser.Library.Checked

/-!
# Stencils

Operations on a canvas that leave the same marks whatever the canvas shows. Drawn a
second time, they change nothing.
-/

set_option autoImplicit false

namespace Library

variable {ε α β γ : Type}

/-- Lay marks over a canvas. A cell without a mark stays. -/
def stamp (marks : Nat → Option α) (canvas : List α) : List α :=
  canvas.mapIdx fun i old => (marks i).getD old

/-- The later marks lie over the earlier ones. -/
def overMarks (earlier later : Nat → Option α) : Nat → Option α :=
  fun i => (later i).or (earlier i)

section Marks

variable {marks earlier later : Nat → Option α} {canvas : List α}

@[simp] theorem length_stamp : (stamp marks canvas).length = canvas.length :=
  List.length_mapIdx

theorem getElem?_stamp (i : Nat) :
    (stamp marks canvas)[i]? = canvas[i]?.map fun old => (marks i).getD old :=
  List.getElem?_mapIdx

theorem stamp_none : stamp (fun _ => none) canvas = canvas := by
  refine List.ext_getElem? fun i => ?_
  cases stored : canvas[i]? <;> simp [getElem?_stamp, stored]

theorem stamp_stamp : stamp later (stamp earlier canvas) = stamp (overMarks earlier later) canvas := by
  refine List.ext_getElem? fun i => ?_
  cases stored : canvas[i]? with
  | none => simp [getElem?_stamp, stored]
  | some old =>
      cases covered : later i <;> simp [getElem?_stamp, overMarks, stored, covered]

/-- A canvas shows the marks where laying them over it changes nothing. -/
theorem stamp_eq_self_iff :
    stamp marks canvas = canvas ↔
      ∀ i < canvas.length, ∀ mark ∈ marks i, canvas[i]? = some mark := by
  constructor
  · intro same i inside mark marked
    have cell : (stamp marks canvas)[i]? = canvas[i]?.map fun old => (marks i).getD old := getElem?_stamp i
    rw [same, List.getElem?_eq_getElem inside] at cell
    simpa [List.getElem?_eq_getElem inside, Option.mem_def.mp marked] using cell
  · intro shown
    refine List.ext_getElem? fun i => ?_
    rw [getElem?_stamp]
    cases stored : canvas[i]? with
    | none => rfl
    | some old =>
        obtain ⟨inside, _⟩ := List.getElem?_eq_some_iff.mp stored
        cases marked : marks i with
        | none => rfl
        | some mark => simpa [stored, eq_comm] using shown i inside mark marked

end Marks

/-- On canvases of `size` cells the operation leaves fixed marks, and makes its result of the
canvas and a fixed answer; or it stops, always the same way. -/
inductive Stencil {β ρ : Type} (size : Nat) (finish : β → List α → ρ)
    (draw : List α → Checked ε ρ) : Prop where
  | draws (marks : Nat → Option α) (answer : β)
      (each : ∀ canvas, canvas.length = size → draw canvas = .ok (finish answer (stamp marks canvas)))
  | stops (stop : Stop ε) (each : ∀ canvas, canvas.length = size → draw canvas = .error stop)

/-- A stencil whose result is the canvas. -/
abbrev Draws (size : Nat) (draw : List α → Checked ε (List α)) : Prop :=
  Stencil size (fun (_ : Unit) canvas => canvas) draw

/-- A stencil whose result is the canvas with an answer. -/
abbrev Answers {β : Type} (size : Nat) (draw : List α → Checked ε (List α × β)) : Prop :=
  Stencil size (fun answer canvas => (canvas, answer)) draw

namespace Stencil

variable {β γ ρ ρ' : Type} {size : Nat} {finish : β → List α → ρ} {draw : List α → Checked ε ρ}

protected theorem pure (answer : β) :
    Stencil (ε := ε) size finish fun canvas => Pure.pure (finish answer canvas) :=
  .draws (fun _ => none) answer fun canvas _ => by rw [stamp_none]; rfl

theorem bind {finish' : γ → List α → ρ'} {rest : ρ → Checked ε ρ'} (stencil : Stencil size finish draw)
    (each : ∀ answer, Stencil size finish' fun canvas => rest (finish answer canvas)) :
    Stencil size finish' fun canvas => draw canvas >>= rest := by
  cases stencil with
  | stops stop stopped => exact .stops stop fun canvas length => by rw [stopped canvas length]; rfl
  | draws earlier answer drawn =>
      have between (canvas : List α) (length : canvas.length = size) :
          (stamp earlier canvas).length = size := by simpa using length
      cases each answer with
      | stops stop stopped =>
          refine .stops stop fun canvas length => ?_
          simp only [drawn canvas length]
          exact stopped _ (between canvas length)
      | draws later last after =>
          refine .draws (overMarks earlier later) last fun canvas length => ?_
          simp only [drawn canvas length, ← stamp_stamp]
          exact after _ (between canvas length)

/-- What is computed first does not depend on the canvas. -/
theorem compute {computation : Checked ε γ} {rest : γ → List α → Checked ε ρ}
    (each : ∀ value, Stencil size finish (rest value)) :
    Stencil size finish fun canvas => computation >>= fun value => rest value canvas := by
  cases computation with
  | error stop => exact .stops stop fun _ _ => rfl
  | ok value => exact each value

theorem ite {condition : Prop} [Decidable condition] {first second : List α → Checked ε ρ}
    (whenTrue : condition → Stencil size finish first)
    (whenFalse : ¬ condition → Stencil size finish second) :
    Stencil size finish fun canvas => if condition then first canvas else second canvas := by
  by_cases met : condition
  · simpa only [if_pos met] using whenTrue met
  · simpa only [if_neg met] using whenFalse met

/-! ### Drawing -/

theorem unchanged : Draws (ε := ε) size fun canvas : List α => Pure.pure canvas :=
  Stencil.pure ()

theorem foldlM {step : List α → γ → Checked ε (List α)} (values : List γ)
    (each : ∀ value ∈ values, Draws size fun canvas => step canvas value) :
    Draws size fun canvas => values.foldlM step canvas := by
  induction values with
  | nil => exact unchanged
  | cons value values ih =>
      simp only [List.foldlM_cons]
      exact (each value List.mem_cons_self).bind fun _ =>
        ih fun other member => each other (List.mem_cons_of_mem _ member)

protected theorem overwrite (start : Nat) (source : List α) :
    Draws size fun canvas => Checked.overwrite (ε := ε) canvas start source := by
  by_cases fits : start + source.length ≤ size
  · refine .draws (fun i => if start ≤ i then source[i - start]? else none) () fun canvas length => ?_
    subst length
    rw [Checked.overwrite, if_pos fits]
    refine congrArg Except.ok (List.ext_getElem? fun i => ?_)
    have startInside : start ≤ canvas.length := by omega
    rw [getElem?_stamp]
    by_cases left : i < start
    · have inTake : i < (canvas.take start).length := by
        rw [List.length_take]
        omega
      rw [List.append_assoc, List.getElem?_append_left inTake, List.getElem?_take_of_lt left,
        if_neg (by omega)]
      cases canvas[i]? <;> rfl
    · rw [if_pos (by omega), List.append_assoc, List.getElem?_append_right
        (by rw [List.length_take]; omega), List.length_take, Nat.min_eq_left startInside]
      by_cases inside : i - start < source.length
      · have stored : i < canvas.length := by omega
        rw [List.getElem?_append_left inside, List.getElem?_eq_getElem inside,
          List.getElem?_eq_getElem stored]
        rfl
      · rw [List.getElem?_append_right (by omega), List.getElem?_drop,
          List.getElem?_eq_none (by omega : source.length ≤ i - start)]
        have index : start + source.length + (i - start - source.length) = i := by omega
        rw [index]
        cases canvas[i]? <;> rfl
  · refine .stops (.panic .outOfRange) fun canvas length => ?_
    subst length
    exact if_neg fits

protected theorem fill (start stop : Nat) (value : α) :
    Draws size fun canvas => Checked.fill (ε := ε) canvas start stop value := by
  by_cases ordered : start ≤ stop ∧ stop ≤ size
  · have same : ∀ canvas : List α, canvas.length = size →
        Checked.fill (ε := ε) canvas start stop value =
          Checked.overwrite canvas start (List.replicate (stop - start) value) := by
      intro canvas length
      subst length
      have part : ((canvas.drop start).take (stop - start)).length = stop - start := by
        rw [List.length_take, List.length_drop]
        omega
      simp only [Checked.fill, Checked.slice, if_pos ordered]
      change Checked.overwrite canvas start (List.replicate (List.length _) value) = _
      rw [part]
    have overwritten : Draws (ε := ε) size _ :=
      Stencil.overwrite start (List.replicate (stop - start) value)
    cases overwritten with
    | stops stop each =>
        exact .stops stop fun canvas length => (same canvas length).trans (each canvas length)
    | draws marks _ each =>
        exact .draws marks () fun canvas length => (same canvas length).trans (each canvas length)
  · refine .stops (.panic .outOfRange) fun canvas length => ?_
    subst length
    simp only [Checked.fill, Checked.slice, if_neg ordered]
    rfl

/-- What a stencil drew, it leaves as it is when it draws again. -/
theorem again {draw : List α → Checked ε (List α)} (draws : Draws size draw) {canvas drawn : List α} (length : canvas.length = size)
    (drew : draw canvas = .ok drawn) : draw drawn = .ok drawn := by
  cases draws with
  | stops stop each =>
      rw [each canvas length] at drew
      cases drew
  | draws marks _ each =>
      rw [each canvas length] at drew
      cases drew
      rw [each _ (by simpa using length), stamp_stamp]
      refine congrArg Except.ok (List.ext_getElem? fun i => ?_)
      cases marked : marks i <;> simp [getElem?_stamp, overMarks, marked]

/-- A drawing shows on another canvas too that agrees with the drawn one on a region, if no
mark is outside of it. -/
theorem shown_of_agree {draw : List α → Checked ε (List α)} (draws : Draws size draw) {canvas other : List α}
    (length : canvas.length = size) (otherLength : other.length = size) {region : Nat → Prop}
    (confined : ∀ before after, before.length = size → draw before = .ok after →
      ∀ i, ¬ region i → after[i]? = before[i]?)
    (two : ∀ value : α, ∃ different, different ≠ value)
    (shown : draw canvas = .ok canvas) (agree : ∀ i, region i → other[i]? = canvas[i]?) :
    draw other = .ok other := by
  cases draws with
  | stops stop each =>
      rw [each canvas length] at shown
      cases shown
  | draws marks _ each =>
      rw [each canvas length] at shown
      have marked := stamp_eq_self_iff.mp (Except.ok.inj shown)
      rw [each other otherLength]
      refine congrArg Except.ok (stamp_eq_self_iff.mpr fun i inside mark here => ?_)
      by_cases inRegion : region i
      · rw [agree i inRegion]
        exact marked i (by omega) mark here
      · -- a canvas that shows another value there would change
        obtain ⟨different, ne⟩ := two mark
        have before : (other.set i different).length = size := by simpa using otherLength
        have kept := confined _ _ before (each _ before) i inRegion
        rw [getElem?_stamp, List.getElem?_set_self inside, Option.mem_def.mp here] at kept
        exact absurd (Option.some.inj kept).symm ne

end Stencil

end Library
