import ExoBrowser.Library.Checked
import Mathlib.Tactic.Ring

/-!
# Canvases

A canvas is a list of cells in rows of one width. What a painter changes lies in a
region of it, and a loop over rows paints the regions of its rows.
-/

set_option autoImplicit false

namespace Library

/-! ## Cells -/

/-- Where the cell in a column of a row is. -/
def cell (width col row : Nat) : Nat := row * width + col

section Cells

variable {width col row : Nat}

theorem cell_div (col_lt : col < width) : cell width col row / width = row := by
  rw [cell, Nat.mul_comm, Nat.mul_add_div (by omega), Nat.div_eq_of_lt col_lt, Nat.add_zero]

theorem cell_div_mod (width i : Nat) : cell width (i % width) (i / width) = i := by
  rw [cell, Nat.mul_comm]
  exact Nat.div_add_mod i width

theorem row_lt_of_cell {start stop : Nat} (col_lt : col < width) :
    start * width ≤ cell width col row ∧ cell width col row < stop * width ↔
      start ≤ row ∧ row < stop := by
  rw [← Nat.le_div_iff_mul_le (by omega), ← Nat.div_lt_iff_lt_mul (by omega), cell_div col_lt]

/-- A span of a row holds cells of that row only. -/
theorem span_iff {y x0 x1 : Nat} (col_lt : col < width) (x1_le : x1 ≤ width) :
    y * width + x0 ≤ cell width col row ∧ cell width col row < y * width + x1 ↔
      row = y ∧ x0 ≤ col ∧ col < x1 := by
  constructor
  · rintro ⟨above, below⟩
    have within : y * width ≤ cell width col row ∧ cell width col row < (y + 1) * width :=
      ⟨by omega, by rw [Nat.succ_mul]; omega⟩
    obtain ⟨lower, upper⟩ := (row_lt_of_cell col_lt).mp within
    have same : row = y := by omega
    subst same
    unfold cell at above below
    exact ⟨rfl, by omega, by omega⟩
  · rintro ⟨rfl, left, right⟩
    unfold cell
    exact ⟨by omega, by omega⟩

end Cells

/-- A part of one of several rows of the same length, laid one after the other. -/
theorem take_drop_flatten {α : Type} {rows : List (List α)} {length r k m : Nat} {row : List α}
    (same : ∀ row ∈ rows, row.length = length) (here : rows[r]? = some row) (fits : k + m ≤ length) :
    (rows.flatten.drop (length * r + k)).take m = (row.drop k).take m := by
  induction rows generalizing r with
  | nil => cases here
  | cons first rest ih =>
      obtain ⟨sized, others⟩ := List.forall_mem_cons.mp same
      subst sized
      cases r with
      | zero =>
          cases here
          rw [Nat.mul_zero, Nat.zero_add, List.flatten_cons, List.drop_append_of_le_length (by omega),
            List.take_append_of_le_length (by rw [List.length_drop]; omega)]
      | succ r =>
          have later : first.length * (r + 1) + k = first.length + (first.length * r + k) := by
            rw [Nat.mul_succ]
            omega
          rw [later, List.flatten_cons, List.drop_length_add_append]
          exact ih others here

/-! ## Regions -/

section Regions

variable {α : Type} {width : Nat} {region other : Nat → Nat → Prop} {value : Nat → Nat → α}
  {before between after : List α}

/-- The canvas keeps its length, and its cells outside of the region. -/
structure Confined (width : Nat) (region : Nat → Nat → Prop) (before after : List α) : Prop where
  length : after.length = before.length
  outside : ∀ col < width, ∀ row, ¬ region col row →
    after[cell width col row]? = before[cell width col row]?

/-- The region is painted, and nothing else. -/
structure Painted (width : Nat) (region : Nat → Nat → Prop) (value : Nat → Nat → α)
    (before after : List α) : Prop extends Confined width region before after where
  inside : ∀ col < width, ∀ row, region col row →
    after[cell width col row]? = some (value col row)

namespace Confined

theorem refl (width : Nat) (region : Nat → Nat → Prop) (canvas : List α) :
    Confined width region canvas canvas := ⟨rfl, fun _ _ _ _ => rfl⟩

theorem mono (confined : Confined width region before after)
    (larger : ∀ col < width, ∀ row, region col row → other col row) :
    Confined width other before after where
  length := confined.length
  outside := fun col col_lt row apart =>
    confined.outside col col_lt row fun inside => apart (larger col col_lt row inside)

theorem trans (first : Confined width region before between)
    (second : Confined width region between after) : Confined width region before after where
  length := second.length.trans first.length
  outside := fun col col_lt row apart =>
    (second.outside col col_lt row apart).trans (first.outside col col_lt row apart)

/-- Painters that stay in the region stay in it one after the other. -/
theorem foldlM {ε β : Type} {step : List α → β → Checked ε (List α)} {values : List β}
    (each : ∀ canvas, canvas.length = before.length → ∀ value ∈ values,
      Checked.Returns (step canvas value) (Confined width region canvas)) :
    Checked.Returns (values.foldlM step before) (Confined width region before) := by
  refine Checked.Returns.foldlM_append (fun _ => Confined width region before) ?_ (refl _ _ _)
  intro done value rest split canvas confined
  have member : value ∈ values := by
    rw [split]
    exact List.mem_append_right _ List.mem_cons_self
  obtain ⟨next, stepped, kept⟩ := each canvas confined.length value member
  exact ⟨next, stepped, confined.trans kept⟩

end Confined

namespace Painted

theorem none (width : Nat) (value : Nat → Nat → α) (canvas : List α) :
    Painted width (fun _ _ => False) value canvas canvas :=
  ⟨.refl _ _ _, fun _ _ _ inside => inside.elim⟩

theorem congr (painted : Painted width region value before after)
    (same : ∀ col < width, ∀ row, region col row ↔ other col row) :
    Painted width other value before after where
  length := painted.length
  outside := fun col col_lt row apart =>
    painted.outside col col_lt row fun inside => apart ((same col col_lt row).mp inside)
  inside := fun col col_lt row inside =>
    painted.inside col col_lt row ((same col col_lt row).mpr inside)

/-- What counts are the values in the region. -/
theorem recolor {color : Nat → Nat → α} (painted : Painted width region value before after)
    (same : ∀ col < width, ∀ row, region col row → value col row = color col row) :
    Painted width region color before after where
  toConfined := painted.toConfined
  inside := fun col col_lt row inside => by
    rw [painted.inside col col_lt row inside, same col col_lt row inside]

theorem union (first : Painted width region value before between)
    (second : Painted width other value between after) :
    Painted width (fun col row => region col row ∨ other col row) value before after where
  length := second.length.trans first.length
  outside := fun col col_lt row apart =>
    (second.outside col col_lt row fun inside => apart (.inr inside)).trans
      (first.outside col col_lt row fun inside => apart (.inl inside))
  inside := fun col col_lt row inside => by
    by_cases later : other col row
    · exact second.inside col col_lt row later
    · rw [second.outside col col_lt row later]
      exact first.inside col col_lt row (inside.resolve_right later)

/-- A loop paints row after row. -/
theorem rows_returnsIf {ε : Type} {calm : Prop} {step : List α → Nat → Checked ε (List α)}
    {columns : Nat → Prop} {top : Nat} (n : Nat)
    (each : ∀ i < n, ∀ canvas, canvas.length = before.length →
      Checked.ReturnsIf calm (step canvas i)
        (Painted width (fun col row => row = top + i ∧ columns col) value canvas)) :
    Checked.ReturnsIf calm ((List.range n).foldlM step before)
      (Painted width (fun col row => (top ≤ row ∧ row < top + n) ∧ columns col) value before) := by
  refine Checked.ReturnsIf.foldlM_range (fun k => Painted width
    (fun col row => (top ≤ row ∧ row < top + k) ∧ columns col) value before) n ?_
    ((none width value before).congr fun col _ row => iff_of_false id fun inside => by omega)
  intro i i_lt canvas painted
  refine (each i i_lt canvas painted.length).mono fun next row => ?_
  refine (painted.union row).congr fun col _ row => ?_
  constructor
  · rintro (⟨above, here⟩ | ⟨rfl, here⟩)
    · exact ⟨by omega, here⟩
    · exact ⟨by omega, here⟩
  · rintro ⟨between, here⟩
    by_cases last : row = top + i
    · exact .inr ⟨last, here⟩
    · exact .inl ⟨by omega, here⟩

theorem rows {ε : Type} {step : List α → Nat → Checked ε (List α)} {columns : Nat → Prop} {top : Nat}
    (n : Nat) (each : ∀ i < n, ∀ canvas, canvas.length = before.length →
      Checked.Returns (step canvas i)
        (Painted width (fun col row => row = top + i ∧ columns col) value canvas)) :
    Checked.Returns ((List.range n).foldlM step before)
      (Painted width (fun col row => (top ≤ row ∧ row < top + n) ∧ columns col) value before) :=
  (rows_returnsIf n fun i i_lt canvas length => .of_returns (each i i_lt canvas length)).of_calm trivial

end Painted

/-- Some cells of the region take the color, and every other place of the canvas stays. -/
structure Tinted (width : Nat) (region : Nat → Nat → Prop) (color : α) (before after : List α) :
    Prop where
  length : after.length = before.length
  each : ∀ i, after[i]? = before[i]? ∨
    (∃ col row, col < width ∧ region col row ∧ i = cell width col row) ∧ after[i]? = some color

namespace Tinted

variable {color : α}

theorem refl (width : Nat) (region : Nat → Nat → Prop) (color : α) (canvas : List α) :
    Tinted width region color canvas canvas := ⟨rfl, fun _ => .inl rfl⟩

theorem trans (first : Tinted width region color before between)
    (second : Tinted width region color between after) : Tinted width region color before after where
  length := second.length.trans first.length
  each := fun i => by
    rcases second.each i with kept | taken
    · rw [kept]
      exact first.each i
    · exact .inr taken

theorem of_painted (wide : 0 < width) (painted : Painted width region (fun _ _ => color) before after)
    (larger : ∀ col < width, ∀ row, region col row → other col row) :
    Tinted width other color before after where
  length := painted.length
  each := fun i => by
    have col_lt : i % width < width := Nat.mod_lt i wide
    have place := cell_div_mod width i
    by_cases here : region (i % width) (i / width)
    · have drawn := painted.inside _ col_lt _ here
      rw [place] at drawn
      exact .inr ⟨⟨_, _, col_lt, larger _ col_lt _ here, place.symm⟩, drawn⟩
    · have kept := painted.outside _ col_lt _ here
      rw [place] at kept
      exact .inl kept

theorem toConfined (tinted : Tinted width region color before after) :
    Confined width region before after where
  length := tinted.length
  outside := fun col col_lt row apart => by
    refine (tinted.each _).resolve_right ?_
    rintro ⟨⟨other, line, other_lt, here, place⟩, _⟩
    have same_row : row = line := by
      have here_row : cell width col row / width = row := cell_div col_lt
      rw [place, cell_div other_lt] at here_row
      exact here_row.symm
    subst same_row
    have same_col : col = other := Nat.add_left_cancel place
    subst same_col
    exact apart here

theorem foldlM {ε β : Type} {step : List α → β → Checked ε (List α)} {values : List β}
    (each : ∀ canvas, canvas.length = before.length → ∀ value ∈ values,
      Checked.Returns (step canvas value) (Tinted width region color canvas)) :
    Checked.Returns (values.foldlM step before) (Tinted width region color before) := by
  refine Checked.Returns.foldlM_append (fun _ => Tinted width region color before) ?_ (refl _ _ _ _)
  intro done value rest split canvas tinted
  have member : value ∈ values := by
    rw [split]
    exact List.mem_append_right _ List.mem_cons_self
  obtain ⟨next, stepped, kept⟩ := each canvas tinted.length value member
  exact ⟨next, stepped, tinted.trans kept⟩

end Tinted

/-! ## Painters -/

variable {ε : Type}

theorem painted_overwrite {source : List α} {start : Nat} (fits : start + source.length ≤ before.length)
    (same : ∀ col < width, ∀ row,
      start ≤ cell width col row ∧ cell width col row < start + source.length ↔ region col row)
    (drawn : ∀ col < width, ∀ row, region col row →
      source[cell width col row - start]? = some (value col row)) :
    Checked.Returns (ε := ε) (Checked.overwrite before start source)
      (Painted width region value before) := by
  obtain ⟨after, result, length⟩ := Checked.overwrite_returns (ε := ε) fits
  cases result.symm.trans (Checked.overwrite_eq_ok fits)
  refine ⟨_, result, ⟨length, fun col col_lt row apart => ?_⟩, fun col col_lt row inside => ?_⟩
  · rw [Checked.getElem?_overwrite fits, if_neg fun within => apart ((same col col_lt row).mp within)]
  · rw [Checked.getElem?_overwrite fits, if_pos ((same col col_lt row).mpr inside)]
    exact drawn col col_lt row inside

/-- Writing a part of a row. -/
theorem painted_span {source : List α} {x y count : Nat} (length : source.length = count)
    (fits : cell width x y + count ≤ before.length) (inRow : x + count ≤ width)
    (drawn : ∀ i < count, source[i]? = some (value (x + i) y)) :
    Checked.Returns (ε := ε) (Checked.overwrite before (cell width x y) source)
      (Painted width (fun col row => row = y ∧ x ≤ col ∧ col < x + count) value before) := by
  subst length
  refine painted_overwrite fits (fun col col_lt row => ?_) fun col col_lt row inside => ?_
  · have within : y * width + x ≤ cell width col row ∧ cell width col row < y * width + (x + source.length) ↔ _ :=
      span_iff col_lt inRow
    rwa [← Nat.add_assoc] at within
  · obtain ⟨rfl, left, right⟩ := inside
    have place : cell width col row - cell width x row = col - x := by
      unfold cell
      omega
    rw [place, drawn (col - x) (by omega), Nat.add_sub_cancel' left]

theorem painted_fill_span {color : α} {x y stop : Nat} (ordered : x ≤ stop) (inRow : stop ≤ width)
    (fits : cell width stop y ≤ before.length) :
    Checked.Returns (ε := ε) (Checked.fill before (cell width x y) (cell width stop y) color)
      (Painted width (fun col row => row = y ∧ x ≤ col ∧ col < stop) (fun _ _ => color) before) := by
  obtain ⟨count, rfl⟩ := Nat.exists_eq_add_of_le ordered
  have here : cell width (x + count) y = cell width x y + count := (Nat.add_assoc _ x count).symm
  rw [here] at fits ⊢
  rw [Checked.fill_eq_overwrite fits]
  exact painted_span List.length_replicate fits inRow fun i i_lt =>
    List.getElem?_replicate_of_lt i_lt

theorem painted_fill_rows {color : α} {top bottom : Nat} (ordered : top ≤ bottom)
    (fits : bottom * width ≤ before.length) :
    Checked.Returns (ε := ε) (Checked.fill before (top * width) (bottom * width) color)
      (Painted width (fun _ row => top ≤ row ∧ row < bottom) (fun _ _ => color) before) := by
  obtain ⟨count, here⟩ := Nat.exists_eq_add_of_le (Nat.mul_le_mul_right width ordered)
  have length : (List.replicate count color).length = count := List.length_replicate
  rw [here] at fits ⊢
  rw [Checked.fill_eq_overwrite fits]
  refine painted_overwrite (by rw [length]; exact fits) (fun col col_lt row => ?_) fun col col_lt row inside => ?_
  · rw [length, ← here]
    exact row_lt_of_cell col_lt
  · have within := (row_lt_of_cell col_lt).mpr inside
    exact List.getElem?_replicate_of_lt (by omega)

theorem painted_set {color : α} {x y : Nat} (inRow : x < width) (fits : cell width x y < before.length) :
    Checked.Returns (ε := ε) (Checked.overwrite before (cell width x y) [color])
      (Painted width (fun col row => row = y ∧ x ≤ col ∧ col < x + 1) (fun _ _ => color) before) :=
  painted_span rfl fits inRow fun i i_lt => by
    cases Nat.lt_one_iff.mp i_lt
    rfl

/-- Writing that returns changes what it is written over. -/
theorem confined_overwrite {source : List α} {start : Nat} (inside : ∀ col < width, ∀ row,
      start ≤ cell width col row → cell width col row < start + source.length → region col row) :
    Checked.Yields (ε := ε) (Checked.overwrite before start source) (Confined width region before) := by
  intro after result
  by_cases fits : start + source.length ≤ before.length
  · have length := Checked.Yields.overwrite before source start after result
    rw [Checked.overwrite_eq_ok fits] at result
    cases result
    refine ⟨length, fun col col_lt row apart => ?_⟩
    rw [Checked.getElem?_overwrite fits, if_neg fun within =>
      apart (inside col col_lt row within.1 within.2)]
  · rw [Checked.overwrite, if_neg fits] at result
    cases result

theorem confined_fill {color : α} {start stop : Nat} (inside : ∀ col < width, ∀ row,
      start ≤ cell width col row → cell width col row < stop → region col row) :
    Checked.Yields (ε := ε) (Checked.fill before start stop color) (Confined width region before) := by
  refine .bind fun part sliced => ?_
  unfold Checked.slice at sliced
  split at sliced
  case isTrue ordered =>
      cases sliced
      refine confined_overwrite fun col col_lt row above below => inside col col_lt row above ?_
      simp at below
      omega
  case isFalse => cases sliced

end Regions

end Library
