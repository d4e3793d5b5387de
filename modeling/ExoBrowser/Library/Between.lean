import Mathlib.Data.Finset.Lattice.Fold

/-!
# Values between those near them

A family of values is drawn from another one, such that each value lies between those near its
place. What is drawn from such a family in turn lies between the values near what is near.
-/

set_option autoImplicit false

namespace Library

variable {ι κ μ α : Type}

/-- Each value of `result` lies between all bounds of the values of `source` near its place. -/
def StaysBetween [LE α] (near : ι → Set κ) (source : κ → α) (result : ι → α) : Prop :=
  ∀ i low high, (∀ j ∈ near i, low ≤ source j ∧ source j ≤ high) → low ≤ result i ∧ result i ≤ high

theorem StaysBetween.trans [LE α] {near : κ → Set μ} {nearer : ι → Set κ} {source : μ → α}
    {middle : κ → α} {result : ι → α} (first : StaysBetween near source middle)
    (second : StaysBetween nearer middle result) :
    StaysBetween (fun i => {j | ∃ k ∈ nearer i, j ∈ near k}) source result := by
  intro i low high bounds
  apply second i low high
  intro k k_near
  apply first k low high
  intro j j_near
  exact bounds j ⟨k, k_near, j_near⟩

/-- Where all values near a place are the same, it takes their value. -/
theorem StaysBetween.uniform [PartialOrder α] {near : ι → Set κ} {source : κ → α} {result : ι → α}
    (between : StaysBetween near source result) {i : ι} {value : α}
    (same : ∀ j ∈ near i, source j = value) : result i = value := by
  have bounds : value ≤ result i ∧ result i ≤ value :=
    between i value value fun j j_near => ⟨(same j j_near).ge, (same j j_near).le⟩
  exact le_antisymm bounds.2 bounds.1

/-- Where finitely many places are near, the value lies between the least and the greatest there. -/
theorem StaysBetween.least_greatest [Lattice α] {near : ι → Set κ} {source : κ → α} {result : ι → α}
    (between : StaysBetween near source result) {i : ι} {places : Finset κ} (some_place : places.Nonempty)
    (within : ∀ j ∈ near i, j ∈ places) :
    places.inf' some_place source ≤ result i ∧ result i ≤ places.sup' some_place source := by
  apply between i
  intro j j_near
  exact ⟨Finset.inf'_le source (within j j_near), Finset.le_sup' source (within j j_near)⟩

end Library
