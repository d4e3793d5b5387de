import Mathlib.Data.List.Basic

/-!
# Pictures and edits

A picture is replaced as a whole, or overwritten in a rectangle clipped to it.
The laws say what a sequence of such edits leaves at each pixel.
-/

set_option autoImplicit false

namespace Library

structure Rect where
  x : Nat
  y : Nat
  w : Nat
  h : Nat
deriving DecidableEq, Repr

namespace Rect

def Contains (rect : Rect) (col row : Nat) : Prop :=
  rect.x ≤ col ∧ col < rect.x + rect.w ∧ rect.y ≤ row ∧ row < rect.y + rect.h

instance (rect : Rect) (col row : Nat) : Decidable (rect.Contains col row) :=
  inferInstanceAs (Decidable (_ ∧ _))

def Within (inner outer : Rect) : Prop :=
  outer.x ≤ inner.x ∧ outer.y ≤ inner.y ∧ inner.x + inner.w ≤ outer.x + outer.w ∧
    inner.y + inner.h ≤ outer.y + outer.h

instance (inner outer : Rect) : Decidable (inner.Within outer) :=
  inferInstanceAs (Decidable (_ ∧ _))

theorem Within.contains {inner outer : Rect} (within : inner.Within outer) {col row : Nat}
    (inside : inner.Contains col row) : outer.Contains col row := by
  obtain ⟨left, top, right, bottom⟩ := within
  obtain ⟨fromLeft, toRight, fromTop, toBottom⟩ := inside
  exact ⟨by omega, by omega, by omega, by omega⟩

end Rect

structure Picture (α : Type) where
  width : Nat
  height : Nat
  pixel : Nat → Nat → α

/-- A rectangle is filled from its own corner. -/
inductive Edit (α : Type) where
  | replace (picture : Picture α)
  | patch (rect : Rect) (pixel : Nat → Nat → α)

section Editing

variable {α : Type}

/-- Overwrite a rectangle, as far as it lies inside the picture. -/
def Picture.patch (picture : Picture α) (rect : Rect) (pixel : Nat → Nat → α) : Picture α :=
  { picture with
    pixel := fun col row =>
      if rect.Contains col row ∧ col < picture.width ∧ row < picture.height then
        pixel (col - rect.x) (row - rect.y)
      else picture.pixel col row }

def Edit.apply : Edit α → Option (Picture α) → Option (Picture α)
  | .replace picture, _ => some picture
  | .patch rect pixel, shown => shown.map (·.patch rect pixel)

def replay (edits : List (Edit α)) (shown : Option (Picture α)) : Option (Picture α) :=
  edits.foldl (fun shown edit => edit.apply shown) shown

@[simp] theorem replay_nil (shown : Option (Picture α)) : replay [] shown = shown := rfl

@[simp] theorem replay_cons (edit : Edit α) (edits : List (Edit α)) (shown : Option (Picture α)) :
    replay (edit :: edits) shown = replay edits (edit.apply shown) := rfl

theorem replay_append (first second : List (Edit α)) (shown : Option (Picture α)) :
    replay (first ++ second) shown = replay second (replay first shown) :=
  List.foldl_append

/-- A patch hides the patches inside it. -/
theorem Picture.patch_patch (picture : Picture α) {inner outer : Rect}
    (within : inner.Within outer) (hidden pixel : Nat → Nat → α) :
    (picture.patch inner hidden).patch outer pixel = picture.patch outer pixel := by
  unfold Picture.patch
  simp only
  congr 1
  funext col row
  by_cases covered : outer.Contains col row ∧ col < picture.width ∧ row < picture.height
  · rw [if_pos covered, if_pos covered]
  · rw [if_neg covered, if_neg covered, if_neg]
    rintro ⟨inside, visible⟩
    exact covered ⟨within.contains inside, visible⟩

def Edit.Hides : Edit α → Edit α → Prop
  | .replace _, _ => True
  | .patch outer _, .patch inner _ => inner.Within outer
  | .patch _ _, .replace _ => False

theorem Edit.Hides.apply {later earlier : Edit α} (hides : later.Hides earlier)
    (shown : Option (Picture α)) : later.apply (earlier.apply shown) = later.apply shown := by
  cases later with
  | replace picture => rfl
  | patch outer pixel =>
      cases earlier with
      | replace picture => exact hides.elim
      | patch inner hidden =>
          cases shown with
          | none => rfl
          | some picture => exact congrArg some (picture.patch_patch hides hidden pixel)

end Editing

section Painting

variable {α : Type}

def Picture.Shows (picture : Picture α) (width height : Nat) (target : Nat → Nat → α) : Prop :=
  picture.width = width ∧ picture.height = height ∧
    ∀ col < width, ∀ row < height, picture.pixel col row = target col row

/-- A patch keeps pictures that show the same the same. -/
theorem Picture.Shows.patch {shown picture : Picture α}
    (shows : shown.Shows picture.width picture.height picture.pixel) (rect : Rect)
    (pixel : Nat → Nat → α) :
    (shown.patch rect pixel).Shows picture.width picture.height (picture.patch rect pixel).pixel := by
  obtain ⟨width_eq, height_eq, same⟩ := shows
  refine ⟨width_eq, height_eq, fun col col_lt row row_lt => ?_⟩
  unfold Picture.patch
  simp only [width_eq, height_eq, same col col_lt row row_lt]

/-- Whatever the edit changes, it changes to `target`. -/
def Edit.Paints (width height : Nat) (target : Nat → Nat → α) : Edit α → Prop
  | .replace picture => picture.Shows width height target
  | .patch rect pixel => ∀ col < width, ∀ row < height, rect.Contains col row →
      pixel (col - rect.x) (row - rect.y) = target col row

def Edit.Covers (col row : Nat) : Edit α → Prop
  | .replace _ => True
  | .patch rect _ => rect.Contains col row

variable {width height : Nat} {before target : Nat → Nat → α}

/-- Edits that paint `target` change a pixel they cover to it and leave the others. -/
theorem replay_pixel {edits : List (Edit α)} (paints : ∀ edit ∈ edits, edit.Paints width height target)
    {picture : Picture α} (width_eq : picture.width = width) (height_eq : picture.height = height) :
    ∃ result, replay edits (some picture) = some result ∧ result.width = width ∧
      result.height = height ∧ ∀ col < width, ∀ row < height,
        ((∃ edit ∈ edits, edit.Covers col row) → result.pixel col row = target col row) ∧
          ((∀ edit ∈ edits, ¬ edit.Covers col row) →
            result.pixel col row = picture.pixel col row) := by
  induction edits generalizing picture with
  | nil => exact ⟨picture, rfl, width_eq, height_eq, fun _ _ _ _ => ⟨nofun, fun _ => rfl⟩⟩
  | cons edit edits ih =>
      have paintsEdit := paints edit List.mem_cons_self
      have paintsRest := fun other member => paints other (List.mem_cons_of_mem _ member)
      obtain ⟨next, applied, nextWidth, nextHeight, nextPixel⟩ :
          ∃ next, edit.apply (some picture) = some next ∧ next.width = width ∧
            next.height = height ∧ ∀ col < width, ∀ row < height,
              (edit.Covers col row → next.pixel col row = target col row) ∧
                (¬ edit.Covers col row → next.pixel col row = picture.pixel col row) := by
        cases edit with
        | replace whole =>
            obtain ⟨wholeWidth, wholeHeight, wholePixel⟩ := paintsEdit
            exact ⟨whole, rfl, wholeWidth, wholeHeight, fun col colLt row rowLt =>
              ⟨fun _ => wholePixel col colLt row rowLt, fun uncovered => absurd trivial uncovered⟩⟩
        | patch rect pixel =>
            refine ⟨picture.patch rect pixel, rfl, width_eq, height_eq, fun col colLt row rowLt => ?_⟩
            refine ⟨fun covered => ?_, fun uncovered => if_neg fun inside => uncovered inside.1⟩
            have inside : rect.Contains col row ∧ col < picture.width ∧ row < picture.height :=
              ⟨covered, width_eq ▸ colLt, height_eq ▸ rowLt⟩
            exact (if_pos inside).trans (paintsEdit col colLt row rowLt covered)
      obtain ⟨result, replayed, resultWidth, resultHeight, resultPixel⟩ :=
        ih paintsRest nextWidth nextHeight
      refine ⟨result, by rw [replay_cons, applied, replayed], resultWidth, resultHeight,
        fun col colLt row rowLt => ?_⟩
      obtain ⟨painted, kept⟩ := resultPixel col colLt row rowLt
      obtain ⟨paintedFirst, keptFirst⟩ := nextPixel col colLt row rowLt
      constructor
      · rintro ⟨covering, member, covers⟩
        by_cases later : ∃ other ∈ edits, other.Covers col row
        · exact painted later
        · have untouched : ∀ other ∈ edits, ¬ other.Covers col row :=
            fun other inRest coversRest => later ⟨other, inRest, coversRest⟩
          rw [kept untouched]
          rcases List.mem_cons.mp member with rfl | inRest
          · exact paintedFirst covers
          · exact absurd covers (untouched covering inRest)
      · intro uncovered
        rw [kept fun other member => uncovered other (List.mem_cons_of_mem _ member)]
        exact keptFirst (uncovered edit List.mem_cons_self)

/-- Edits lead from one target to the next: they paint the next one, wherever it differs. -/
def Leads (width height : Nat) (before target : Nat → Nat → α) (edits : List (Edit α)) : Prop :=
  (∀ edit ∈ edits, edit.Paints width height target) ∧
    ∀ col < width, ∀ row < height, before col row ≠ target col row →
      ∃ edit ∈ edits, edit.Covers col row

def Picture.Mixes (picture : Picture α) (width height : Nat) (left right : Nat → Nat → α) : Prop :=
  picture.width = width ∧ picture.height = height ∧
    ∀ col < width, ∀ row < height,
      picture.pixel col row = left col row ∨ picture.pixel col row = right col row

theorem Picture.Shows.mixes {picture : Picture α} (shows : picture.Shows width height target)
    (other : Nat → Nat → α) : picture.Mixes width height other target :=
  ⟨shows.1, shows.2.1, fun col colLt row rowLt => .inr (shows.2.2 col colLt row rowLt)⟩

theorem Picture.Mixes.shows {picture : Picture α} (mixes : picture.Mixes width height target target) :
    picture.Shows width height target :=
  ⟨mixes.1, mixes.2.1, fun col colLt row rowLt => (mixes.2.2 col colLt row rowLt).elim id id⟩

theorem Picture.Shows.replay_mixes {picture : Picture α} {fixed : Nat → Nat → α}
    (shows : picture.Shows width height fixed) {edits : List (Edit α)}
    (paints : ∀ edit ∈ edits, edit.Paints width height target) :
    ∃ result, replay edits (some picture) = some result ∧
      result.Mixes width height target fixed := by
  obtain ⟨result, replayed, resultWidth, resultHeight, pixels⟩ :=
    replay_pixel paints shows.1 shows.2.1
  refine ⟨result, replayed, resultWidth, resultHeight, fun col colLt row rowLt => ?_⟩
  obtain ⟨painted, kept⟩ := pixels col colLt row rowLt
  by_cases covered : ∃ edit ∈ edits, edit.Covers col row
  · exact .inl (painted covered)
  · rw [kept fun edit member covering => covered ⟨edit, member, covering⟩]
    exact .inr (shows.2.2 col colLt row rowLt)

/-- Edits that lead to the next target carry a stale pixel with them: it is repainted,
or it did not change. -/
theorem Leads.mixes {edits : List (Edit α)} (leads : Leads width height before target edits)
    {picture : Picture α} {fixed : Nat → Nat → α} (mixes : picture.Mixes width height before fixed) :
    ∃ result, replay edits (some picture) = some result ∧
      result.Mixes width height target fixed := by
  obtain ⟨paints, covers⟩ := leads
  obtain ⟨width_eq, height_eq, mixed⟩ := mixes
  obtain ⟨result, replayed, resultWidth, resultHeight, pixels⟩ := replay_pixel paints width_eq height_eq
  refine ⟨result, replayed, resultWidth, resultHeight, fun col colLt row rowLt => ?_⟩
  obtain ⟨painted, kept⟩ := pixels col colLt row rowLt
  by_cases covered : ∃ edit ∈ edits, edit.Covers col row
  · exact .inl (painted covered)
  · have unchanged : before col row = target col row := by
      by_contra differs
      exact covered (covers col colLt row rowLt differs)
    rw [kept fun edit member covering => covered ⟨edit, member, covering⟩, ← unchanged]
    exact mixed col colLt row rowLt

theorem Leads.shows {edits : List (Edit α)} (leads : Leads width height before target edits)
    {picture : Picture α} (shows : picture.Shows width height before) :
    ∃ result, replay edits (some picture) = some result ∧ result.Shows width height target := by
  have mixes : picture.Mixes width height before target :=
    ⟨shows.1, shows.2.1, fun col colLt row rowLt => .inl (shows.2.2 col colLt row rowLt)⟩
  obtain ⟨result, replayed, mixed⟩ := leads.mixes mixes
  exact ⟨result, replayed, mixed.shows⟩

/-! ## Films -/

/-- Scenes that each lead from the target of the one before to their own. -/
def Film (width height : Nat) : (Nat → Nat → α) → List ((Nat → Nat → α) × List (Edit α)) → Prop
  | _, [] => True
  | before, (target, edits) :: rest =>
      Leads width height before target edits ∧ Film width height target rest

def finalTarget : (Nat → Nat → α) → List ((Nat → Nat → α) × List (Edit α)) → Nat → Nat → α
  | before, [] => before
  | _, (target, _) :: rest => finalTarget target rest

theorem finalTarget_append (before : Nat → Nat → α) (early late : List ((Nat → Nat → α) × List (Edit α))) :
    finalTarget before (early ++ late) = finalTarget (finalTarget before early) late := by
  induction early generalizing before with
  | nil => rfl
  | cons scene early ih => exact ih scene.1

theorem Film.append {early late : List ((Nat → Nat → α) × List (Edit α))} :
    Film width height before (early ++ late) ↔
      Film width height before early ∧ Film width height (finalTarget before early) late := by
  induction early generalizing before with
  | nil => simp [Film, finalTarget]
  | cons scene early ih => exact (and_congr_right fun _ => ih).trans and_assoc.symm

theorem Film.carries {carried : (Nat → Nat → α) → Picture α → Prop}
    (each : ∀ before target edits picture, Leads width height before target edits →
      carried before picture →
      ∃ result, replay edits (some picture) = some result ∧ carried target result)
    {scenes : List ((Nat → Nat → α) × List (Edit α))} (film : Film width height before scenes)
    {picture : Picture α} (start : carried before picture) :
    ∃ result, replay (scenes.flatMap (·.2)) (some picture) = some result ∧
      carried (finalTarget before scenes) result := by
  induction scenes generalizing before picture with
  | nil => exact ⟨picture, rfl, start⟩
  | cons scene scenes ih =>
      obtain ⟨leads, rest⟩ := film
      obtain ⟨next, replayed, carriedNext⟩ := each _ _ _ _ leads start
      obtain ⟨result, replayedRest, carriedResult⟩ := ih rest carriedNext
      refine ⟨result, ?_, carriedResult⟩
      rw [List.flatMap_cons, replay_append, replayed, replayedRest]

/-- Replaying the end of a film, from wherever it is cut, over a picture of some target
leaves each pixel as in that target or as at the end of the film. -/
theorem Film.stale {scenes : List ((Nat → Nat → α) × List (Edit α))}
    (film : Film width height before scenes) {stale : List (Edit α)}
    (cut : stale <:+ scenes.flatMap (·.2)) {picture : Picture α} {fixed : Nat → Nat → α}
    (shows : picture.Shows width height fixed) :
    ∃ result, replay stale (some picture) = some result ∧
      result.Mixes width height (finalTarget before scenes) fixed := by
  induction scenes generalizing before with
  | nil =>
      rw [List.flatMap_nil, List.suffix_nil] at cut
      exact ⟨picture, by rw [cut, replay_nil], shows.mixes _⟩
  | cons scene scenes ih =>
      obtain ⟨target, edits⟩ := scene
      obtain ⟨leads, rest⟩ := film
      obtain ⟨dropped, split⟩ := cut
      rw [List.flatMap_cons] at split
      rcases List.append_eq_append_iff.mp split with ⟨tail, edits_eq, rfl⟩ | ⟨later, _, rest_eq⟩
      · have paints : ∀ edit ∈ tail, edit.Paints width height target := by
          intro edit member
          have included : edit ∈ dropped ++ tail := List.mem_append_right _ member
          rw [← edits_eq] at included
          exact leads.1 edit included
        obtain ⟨next, replayed, mixes⟩ := Picture.Shows.replay_mixes shows paints
        obtain ⟨result, replayedRest, mixed⟩ := Film.carries
          (fun _ _ _ _ leads mixes => leads.mixes mixes) rest mixes
        refine ⟨result, ?_, mixed⟩
        rw [replay_append, replayed, replayedRest]
      · exact ih rest ⟨later, rest_eq.symm⟩

/-- A picture of some scene's target, over which the film is replayed from anywhere before
the end of that scene, ends as the last target. -/
theorem Film.converges {early late : List ((Nat → Nat → α) × List (Edit α))}
    (film : Film width height before (early ++ late)) {stale : List (Edit α)}
    (cut : stale <:+ early.flatMap (·.2)) {picture : Picture α}
    (shows : picture.Shows width height (finalTarget before early)) :
    ∃ result, replay (stale ++ late.flatMap (·.2)) (some picture) = some result ∧
      result.Shows width height (finalTarget before (early ++ late)) := by
  obtain ⟨filmEarly, filmLate⟩ := Film.append.mp film
  obtain ⟨back, replayed, mixes⟩ := filmEarly.stale cut shows
  obtain ⟨result, replayedLate, showsLast⟩ :=
    Film.carries (fun _ _ _ _ leads shows => leads.shows shows) filmLate mixes.shows
  refine ⟨result, ?_, ?_⟩
  · rw [replay_append, replayed, replayedLate]
  · rw [finalTarget_append]
    exact showsLast

end Painting

end Library
