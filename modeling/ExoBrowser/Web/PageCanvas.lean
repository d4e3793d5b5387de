import ExoBrowser.Host.Screen
import ExoBrowser.Web.PageMessages

/-!
# The canvas of the page

The page shows what any subscriber shows, in the colours of its canvas, as long as no message
has it show another tab.
-/

set_option autoImplicit false

namespace ExoBrowser.Web

open Library Proto Host

/-- The canvas has the picture, if there is one, in its own colours. -/
def Page.Depicts (page : Page) (shown : Option (Picture Bytes)) : Prop :=
  ∀ picture ∈ shown,
    page.canvas.Shows picture.width picture.height fun col row => shade (picture.pixel col row)

/-- The page shows another tab, from the image that it has of it. -/
def selectsTab : Message → Bool
  | .tabActivated _ => true
  | _ => false

/-- A message that leaves the canvas alone. -/
def Aside (m : Message) : Prop := sentEdit m = none ∧ selectsTab m = false

section Canvas

variable {page : Page} {shown : Option (Picture Bytes)} {m : Message}

theorem sizeCanvas_size (page : Page) (width height : Nat) :
    (page.sizeCanvas width height).canvas.width = width ∧
      (page.sizeCanvas width height).canvas.height = height := by
  unfold Page.sizeCanvas
  split
  case isTrue => exact ⟨rfl, rfl⟩
  case isFalse same =>
    rw [not_or, not_ne_iff, not_ne_iff] at same
    exact same

theorem depicts_none (page : Page) : page.Depicts none :=
  fun _ absent => absurd absent (Option.not_mem_none _)

theorem depicts_of_canvas {other : Page} (same : other.canvas = page.canvas) (depicts : page.Depicts shown) :
    other.Depicts shown := by
  intro picture member
  rw [same]
  exact depicts picture member

theorem listTab_canvas (page : Page) (tabId : Nat) (title url : String) :
    (page.listTab tabId title url).canvas = page.canvas := by
  unfold Page.listTab
  split <;> rfl

theorem setTabUrl_canvas (page : Page) (tabId : Nat) (url : String) :
    (page.setTabUrl tabId url).canvas = page.canvas := by
  unfold Page.setTabUrl
  simp only
  split <;> rfl

theorem apply_canvas (aside : Aside m) : (page.apply m).canvas = page.canvas := by
  obtain ⟨silent, stays⟩ := aside
  cases m with
  | rawFrame => cases silent
  | subframe => cases silent
  | tabActivated => cases stays
  | tabCreated tabId => exact listTab_canvas (page.countTab tabId.toNat) _ _ _
  | tabUrl => exact setTabUrl_canvas page _ _
  | _ => rfl

/-- A whole image is all that is seen. -/
theorem paint_canvas (page : Page) (w h stride : Nat) (pixels : Bytes) :
    (page.paint (sentImage w h stride pixels)).canvas.Shows w h
      fun col row => shade (pixelAt pixels stride col row) := by
  obtain ⟨width, height⟩ := sizeCanvas_size page w h
  refine ⟨width, height, fun col col_lt row row_lt => ?_⟩
  have inside : (⟨0, 0, w, h⟩ : Rect).Contains col row ∧ col < (page.sizeCanvas w h).canvas.width ∧
      row < (page.sizeCanvas w h).canvas.height := by
    rw [width, height, Rect.Contains, Nat.zero_add, Nat.zero_add]
    exact ⟨⟨Nat.zero_le col, col_lt, Nat.zero_le row, row_lt⟩, col_lt, row_lt⟩
  exact (if_pos inside).trans (if_pos ⟨col_lt, row_lt⟩)

theorem patch_canvas {picture : Picture Bytes} {canvas : Image}
    (shows : canvas.Shows picture.width picture.height fun col row => shade (picture.pixel col row))
    (x y w h stride : Nat) (pixels : Bytes) :
    (canvas.patch ⟨x, y, w, h⟩ (sentImage w h stride pixels).pixel).Shows picture.width picture.height
      fun col row => shade ((picture.patch ⟨x, y, w, h⟩ (pixelAt pixels stride)).pixel col row) := by
  obtain ⟨width, height, same⟩ := shows
  refine ⟨width, height, fun col col_lt row row_lt => ?_⟩
  unfold Picture.patch
  simp only [width, height, col_lt, row_lt, and_true]
  by_cases inside : (⟨x, y, w, h⟩ : Rect).Contains col row
  · rw [if_pos inside, if_pos inside]
    obtain ⟨left, right, top, bottom⟩ := inside
    exact if_pos ⟨Nat.sub_lt_left_of_lt_add left right, Nat.sub_lt_left_of_lt_add top bottom⟩
  · rw [if_neg inside, if_neg inside]
    exact same col col_lt row row_lt

/-- What a message does to the canvas, it does to every picture. -/
theorem depicts_apply (depicts : page.Depicts shown) (stays : selectsTab m = false) :
    (page.apply m).Depicts (replay (sentEdits [m]) shown) := by
  by_cases silent : sentEdit m = none
  · have quiet : sentEdits [m] = [] := List.filterMap_cons_none silent
    rw [quiet, replay_nil]
    exact depicts_of_canvas (apply_canvas ⟨silent, stays⟩) depicts
  · cases m with
    | rawFrame tsUs width height stride format compression pixels =>
        rintro picture ⟨⟩
        exact paint_canvas page width.toNat height.toNat stride.toNat pixels
    | subframe tsUs x y w h stride format compression pixels =>
        intro picture member
        obtain ⟨before, found, rfl⟩ := Option.map_eq_some_iff.mp member
        exact patch_canvas (depicts before found) x.toNat y.toNat w.toNat h.toNat stride.toNat pixels
    | _ => exact absurd rfl silent

end Canvas

/-! ## What the host publishes -/

/-- Frames have whole rows, and only a switch has the page show another tab. -/
theorem drawable_of_ordinary {m : Message} (ordinary : Ordinary m) : Drawable m ∧ selectsTab m = false := by
  rcases ordinary with ⟨f, tsUs, wellFormed, sends⟩ | told
  · cases sends with
    | whole =>
        refine ⟨?_, rfl⟩
        simp only [Frame.rawFrame, Drawable, wellFormed.toNat_width, wellFormed.toNat_height, f.toNat_stride]
        refine ⟨wellFormed.width_pos, wellFormed.height_pos, ?_, wellFormed.pixels_length.ge⟩
        rw [Nat.mul_comm]
        exact wellFormed.stride_ge
    | @part region sub cols rows wide tall length =>
        refine ⟨?_, rfl⟩
        simp only [Drawable, region.toNat_stride]
        refine ⟨wide, tall, (Nat.mul_comm _ _).le, ?_⟩
        rw [length, Nat.mul_comm]
  · cases told <;> exact ⟨trivial, rfl⟩

theorem aside_drawable {m : Message} (aside : Aside m) : Drawable m := by
  obtain ⟨silent, _⟩ := aside
  cases m with
  | rawFrame => cases silent
  | subframe => cases silent
  | _ => trivial

end ExoBrowser.Web
