import ExoBrowser.Library.Picture

/-!
# Pictures through a window

A window of a fixed size shows a part of a picture, and a background beside it. Edits that
are older than what the window shows do not spoil it for good.
-/

set_option autoImplicit false

namespace Library

variable {α β : Type}

/-- The size of the window, what it shows beside a picture, and how it shows a pixel. -/
structure View (α β : Type) where
  width : Nat
  height : Nat
  beside : β
  shade : α → β

/-- The edit stays inside a picture of the size. -/
def Edit.Inside (width height : Nat) : Edit α → Prop
  | .replace _ => True
  | .patch rect _ => rect.Within ⟨0, 0, width, height⟩

namespace View

variable (view : View α β)

def target (width height : Nat) (pixel : Nat → Nat → α) : Nat → Nat → β :=
  fun col row => if col < width ∧ row < height then view.shade (pixel col row) else view.beside

def edit : Edit α → Edit β
  | .replace picture => .replace {
      width := view.width
      height := view.height
      pixel := view.target picture.width picture.height picture.pixel }
  | .patch rect pixel => .patch rect fun col row => view.shade (pixel col row)

theorem hides {later earlier : Edit α} (hides : later.Hides earlier) :
    (view.edit later).Hides (view.edit earlier) := by
  cases later with
  | replace picture => trivial
  | patch outer pixel =>
      cases earlier with
      | replace picture => exact hides.elim
      | patch inner hidden => exact hides

variable {view} {width height : Nat} {before target : Nat → Nat → α}

theorem paints {edit : Edit α} (paints : edit.Paints width height target)
    (inside : edit.Inside width height) :
    (view.edit edit).Paints view.width view.height (view.target width height target) := by
  cases edit with
  | replace picture =>
      obtain ⟨rfl, rfl, pixels⟩ := paints
      refine ⟨rfl, rfl, fun col _ row _ => ?_⟩
      simp only [View.target]
      split
      case isTrue within => rw [pixels col within.1 row within.2]
      case isFalse => rfl
  | patch rect pixel =>
      intro col _ row _ covered
      obtain ⟨_, col_lt, _, row_lt⟩ := inside.contains covered
      simp only [Nat.zero_add] at col_lt row_lt
      unfold View.target
      rw [if_pos ⟨col_lt, row_lt⟩]
      exact congrArg view.shade (paints col col_lt row row_lt covered)

/-- Edits that lead from one picture to the next lead the window there too. -/
theorem leads {edits : List (Edit α)} (leads : Leads width height before target edits)
    (inside : ∀ edit ∈ edits, edit.Inside width height) :
    Leads view.width view.height (view.target width height before) (view.target width height target)
      (edits.map view.edit) := by
  obtain ⟨painted, covers⟩ := leads
  constructor
  · intro seen member
    obtain ⟨edit, from_edits, rfl⟩ := List.mem_map.mp member
    exact paints (painted edit from_edits) (inside edit from_edits)
  · intro col _ row _ differs
    unfold View.target at differs
    by_cases within : col < width ∧ row < height
    · rw [if_pos within, if_pos within] at differs
      obtain ⟨edit, member, covering⟩ := covers col within.1 row within.2 fun same =>
        differs (congrArg view.shade same)
      refine ⟨view.edit edit, List.mem_map_of_mem member, ?_⟩
      cases edit with
      | replace picture => trivial
      | patch rect pixel => exact covering
    · rw [if_neg within, if_neg within] at differs
      exact absurd rfl differs

end View

/-! ## Backlogs -/

section Backlog

variable {width height : Nat} {before target : Nat → Nat → α} {edits more : List (Edit α)}

theorem Picture.Shows.trans {shown picture : Picture α}
    (first : shown.Shows picture.width picture.height picture.pixel)
    (second : picture.Shows width height target) : shown.Shows width height target := by
  obtain ⟨rfl, rfl, same⟩ := second
  refine ⟨first.1, first.2.1, fun col col_lt row row_lt => ?_⟩
  rw [first.2.2 col col_lt row row_lt, same col col_lt row row_lt]

theorem Leads.refl : Leads width height target target ([] : List (Edit α)) :=
  ⟨nofun, fun _ _ _ _ differs => absurd rfl differs⟩

/-- From wherever they are replayed, and over whatever picture, the edits leave each pixel as
it was or as in the target. -/
def Refreshes (width height : Nat) (target : Nat → Nat → α) (edits : List (Edit α)) : Prop :=
  ∀ stale, stale <:+ edits → ∀ (picture : Picture α) (fixed : Nat → Nat → α),
    picture.Shows width height fixed →
    ∃ result, replay stale (some picture) = some result ∧ result.Mixes width height target fixed

theorem Refreshes.nil : Refreshes width height target ([] : List (Edit α)) := by
  intro stale cut picture fixed shows
  cases List.suffix_nil.mp cut
  exact ⟨picture, rfl, shows.mixes _⟩

theorem Refreshes.append (refreshes : Refreshes width height before edits)
    (leads : Leads width height before target more) :
    Refreshes width height target (edits ++ more) := by
  intro stale cut picture fixed shows
  obtain ⟨dropped, split⟩ := cut
  rcases List.append_eq_append_iff.mp split with ⟨early, edits_eq, rfl⟩ | ⟨late, _, rfl⟩
  · have cut : early <:+ edits := ⟨dropped, edits_eq.symm⟩
    obtain ⟨between, replayed, mixes⟩ := refreshes early cut picture fixed shows
    obtain ⟨result, onward, mixed⟩ := leads.mixes mixes
    refine ⟨result, ?_, mixed⟩
    rw [replay_append, replayed, onward]
  · have paints : ∀ edit ∈ stale, edit.Paints width height target := fun edit member =>
      leads.1 edit (List.mem_append_right late member)
    exact shows.replay_mixes paints

/-- A picture that replaces all others may have a size of its own. -/
theorem Refreshes.replace {picture : Picture α} (shows : picture.Shows width height target) :
    Refreshes width height target (edits ++ [.replace picture]) := by
  intro stale cut shown fixed start
  rcases List.suffix_concat_iff.mp cut with rfl | ⟨early, rfl, _⟩
  · exact ⟨shown, rfl, start.mixes target⟩
  · refine ⟨picture, ?_, shows.1, shows.2.1, fun col col_lt row row_lt => .inl (shows.2.2 col col_lt row row_lt)⟩
    rw [replay_append]
    rfl

/-- Replayed over the target itself, a backlog leaves the target. -/
theorem Refreshes.shows (refreshes : Refreshes width height target edits) {stale : List (Edit α)}
    (cut : stale <:+ edits) {picture : Picture α} (shows : picture.Shows width height target) :
    ∃ result, replay stale (some picture) = some result ∧ result.Shows width height target := by
  obtain ⟨result, replayed, mixes⟩ := refreshes stale cut picture target shows
  exact ⟨result, replayed, mixes.shows⟩

end Backlog

end Library
