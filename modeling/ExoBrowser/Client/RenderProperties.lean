import ExoBrowser.Client.Render
import ExoBrowser.Proto.PixelsProperties

/-!
# Compositor

Which pictures `render_into` can copy: those whose visible rows end inside their
pixels. It draws every other stage inside the buffer.
-/

set_option autoImplicit false

namespace ExoBrowser.Client

open Library Proto Checked

theorem length_copyBgraRowToU32 (srcBgra : Bytes) (dstU32 : List UInt32) :
    (copyBgraRowToU32 srcBgra dstU32).length = dstU32.length := by
  unfold copyBgraRowToU32
  simp only [List.length_append, List.length_map, List.length_drop, length_asChunks,
    List.length_take]
  omega

/-! ## Arithmetic -/

theorem toNat_min32 (left right : UInt32) : (min left right).toNat = min left.toNat right.toNat := by
  have chosen : min left right = if left ≤ right then left else right := rfl
  rcases Nat.le_total left.toNat right.toNat with below | above
  · rw [chosen, if_pos (UInt32.le_iff_toNat_le.mpr below), Nat.min_eq_left below]
  · rw [chosen, Nat.min_eq_right above]
    split
    case isTrue below => exact Nat.le_antisymm (UInt32.le_iff_toNat_le.mp below) above
    case isFalse => rfl

theorem toNat_sub32 {left right : UInt32} (ordered : right.toNat ≤ left.toNat) :
    (left - right).toNat = left.toNat - right.toNat :=
  UInt32.toNat_sub_of_le left right (UInt32.le_iff_toNat_le.mpr ordered)

theorem toNat_contentHeight (height : UInt32) :
    (contentHeight height).toNat = height.toNat - chromeH.toNat := by
  unfold contentHeight
  split
  case isTrue tall => exact toNat_sub32 (UInt32.le_iff_toNat_le.mp tall)
  case isFalse short =>
    have below : ¬chromeH.toNat ≤ height.toNat := fun le => short (UInt32.le_iff_toNat_le.mpr le)
    change 0 = height.toNat - chromeH.toNat
    omega

theorem Build.add32_eq_ok {build : Build} {left right : UInt32}
    (small : left.toNat + right.toNat < 2 ^ 32) : build.add32 left right = .ok (left + right) :=
  if_pos (.inl small)

theorem toNat_add32 {left right : UInt32} (small : left.toNat + right.toNat < 2 ^ 32) :
    (left + right).toNat = left.toNat + right.toNat := by
  rw [UInt32.toNat_add, Nat.mod_eq_of_lt small]

/-! ## Rows -/

theorem copyRow_inRangeIff {pixels : Bytes} {srcStart dstStart copyW : Nat} {buffer : List UInt32}
    (room : dstStart + copyW ≤ buffer.length) :
    InRangeIff (Window.copyRow pixels srcStart dstStart copyW buffer)
      (srcStart + copyW * 4 ≤ pixels.length) fun drawn => drawn.length = buffer.length := by
  have source := (slice_inRangeIff (ε := Empty) pixels srcStart (srcStart + copyW * 4)).congr
    (and_iff_right (Nat.le_add_right srcStart (copyW * 4)))
  refine source.andThen fun src _ => ?_
  refine .step (slice_add_eq_ok room) (overwrite_returns ?_)
  rw [length_copyBgraRowToU32, List.length_take, List.length_drop]
  omega

theorem copyWords_returns {words buffer : List UInt32} {srcStart dstStart copyW : Nat}
    (inside : srcStart + copyW ≤ words.length) (room : dstStart + copyW ≤ buffer.length) :
    Returns (Window.copyWords words srcStart dstStart copyW buffer) fun drawn =>
      drawn.length = buffer.length := by
  refine .step (slice_add_eq_ok room) (.step (slice_add_eq_ok inside) (overwrite_returns ?_))
  rw [List.length_take, List.length_drop]
  omega

/-- Of the rows of a picture the last one copied decides. -/
theorem rows_fit_iff {copyW copyH stride h : Nat} (rows : copyH ≤ h) :
    (∀ y ∈ List.range copyH, y * stride + copyW * 4 ≤ stride * h) ↔
      (0 < copyH → copyW * 4 ≤ stride * (h - copyH + 1)) := by
  have split : 0 < copyH → stride * h = (copyH - 1) * stride + stride * (h - copyH + 1) := by
    intro some
    rw [Nat.mul_comm (copyH - 1), ← Nat.mul_add]
    congr 1
    omega
  constructor
  · intro all some
    have last := all (copyH - 1) (List.mem_range.mpr (by omega))
    rw [split some] at last
    omega
  · intro last y member
    have small := List.mem_range.mp member
    have above : y * stride ≤ (copyH - 1) * stride := Nat.mul_le_mul_right stride (by omega)
    have fits := last (by omega)
    rw [split (by omega)]
    omega

namespace Window

variable {window : Window}

theorem rowStart_inside {row width : Nat} (columns : width ≤ window.bw.toNat)
    (rows : row < window.contentH.toNat) : window.rowStart row + width ≤ window.needed := by
  have height : chromeH.toNat + row + 1 ≤ window.bh.toNat := by
    rw [contentH, toNat_contentHeight] at rows
    omega
  calc window.rowStart row + width
      ≤ (chromeH.toNat + row) * window.bw.toNat + window.bw.toNat := Nat.add_le_add_left columns _
    _ = (chromeH.toNat + row + 1) * window.bw.toNat := (Nat.succ_mul _ _).symm
    _ ≤ window.bh.toNat * window.bw.toNat := Nat.mul_le_mul_right _ height
    _ = window.needed := Nat.mul_comm _ _

theorem rowStart_le_needed {row : Nat} (some : 0 < window.contentH.toNat)
    (rows : row ≤ window.contentH.toNat) : window.rowStart row ≤ window.needed := by
  have height : chromeH.toNat + row ≤ window.bh.toNat := by
    rw [contentH, toNat_contentHeight] at rows some
    omega
  rw [needed, Nat.mul_comm window.bw.toNat]
  exact Nat.mul_le_mul_right _ height

variable {room : Nat}

theorem drawRows_inRangeIff {copyW copyH : Nat} {row : Nat → List UInt32 → Run (List UInt32)}
    {each : Nat → Prop} (holds : window.needed ≤ room)
    (rows : copyH ≤ window.contentH.toNat) (some : 0 < window.contentH.toNat)
    (copies : ∀ y < copyH, ∀ buffer, buffer.length = room →
      InRangeIff (row y buffer) (each y) fun drawn => drawn.length = room)
    {buffer : List UInt32} (sized : buffer.length = room) :
    InRangeIff (window.drawRows copyW copyH row buffer) (∀ y ∈ List.range copyH, each y)
      fun drawn => drawn.length = room := by
  refine (InRangeIff.foldlM (fun drawn => drawn.length = room) each ?_ sized).andThen ?_
  · intro buffer sized y member
    have small := List.mem_range.mp member
    refine (copies y small buffer sized).andThen fun copied length => ?_
    split
    case isTrue narrow =>
      have inside := window.rowStart_inside (Nat.le_refl _) (Nat.lt_of_lt_of_le small rows)
      rw [← length]
      exact fill_returns (by omega) (by omega)
    case isFalse => exact ⟨copied, rfl, length⟩
  · intro drawn length
    split
    case isTrue short =>
      have start := window.rowStart_le_needed some rows
      rw [← length]
      exact fill_returns start (by omega)
    case isFalse => exact ⟨drawn, rfl, length⟩

/-! ## Rectangles -/

/-- A rectangle of the content area, of which rows that are `stride` bytes apart are
copied: from the last one copied on, the pixels hold what is visible of a row. -/
def Fits (window : Window) (x y w h stride : Nat) : Prop :=
  let copyW := min (x + w) window.bw.toNat - min x window.bw.toNat
  let copyH := min (y + h) window.contentH.toNat - min y window.contentH.toNat
  0 < copyW → 0 < copyH → copyW * 4 ≤ stride * (h - copyH + 1)

instance (window : Window) (x y w h stride : Nat) : Decidable (window.Fits x y w h stride) := by
  unfold Fits
  infer_instance

theorem fits_of_stride {x y w h stride : Nat} (wide : w * 4 ≤ stride) :
    window.Fits x y w h stride := by
  intro _ _
  have rows : stride * 1 ≤ stride * (h - (min (y + h) window.contentH.toNat -
    min y window.contentH.toNat) + 1) := Nat.mul_le_mul_left stride (Nat.le_add_left 1 _)
  omega

structure Shows (window : Window) (x y w h : Nat) (part : Clip) : Prop where
  x0 : part.x0.toNat = min x window.bw.toNat
  y0 : part.y0.toNat = min y window.contentH.toNat
  copyW : part.copyW.toNat = min (x + w) window.bw.toNat - part.x0.toNat
  copyH : part.copyH.toNat = min (y + h) window.contentH.toNat - part.y0.toNat
  wide : 0 < part.copyW.toNat
  tall : 0 < part.copyH.toNat

theorem Shows.fits_iff {x y w h stride : Nat} {part : Clip} (shows : window.Shows x y w h part) :
    window.Fits x y w h stride ↔
      (0 < part.copyH.toNat → part.copyW.toNat * 4 ≤ stride * (h - part.copyH.toNat + 1)) := by
  have wide := shows.wide
  have tall := shows.tall
  rw [shows.copyW, shows.x0] at wide ⊢
  rw [shows.copyH, shows.y0] at tall ⊢
  exact ⟨fun fits _ => fits wide tall, fun fits _ _ => fits tall⟩

/-- Fields that come from 16 bits on the wire. -/
abbrev Narrow (value : UInt32) : Prop := value.toNat ≤ 65535

theorem clip_returns {build : Build} {x y w h : UInt32} (x_narrow : Narrow x)
    (y_narrow : Narrow y) (w_narrow : Narrow w) (h_narrow : Narrow h) :
    Returns (window.clip build x y w h) fun
      | some part => window.Shows x.toNat y.toNat w.toNat h.toNat part
      | none => ∀ stride, window.Fits x.toNat y.toNat w.toNat h.toNat stride := by
  have xs : x.toNat + w.toNat < 2 ^ 32 := by omega
  have ys : y.toNat + h.toNat < 2 ^ 32 := by omega
  refine .step (Build.add32_eq_ok xs) (.step (Build.add32_eq_ok ys) ?_)
  have x0 := toNat_min32 x window.bw
  have y0 := toNat_min32 y window.contentH
  have x1 := toNat_min32 (x + w) window.bw
  have y1 := toNat_min32 (y + h) window.contentH
  rw [toNat_add32 xs] at x1
  rw [toNat_add32 ys] at y1
  rw [returns_pure]
  generalize min x window.bw = left, min y window.contentH = top, min (x + w) window.bw = right,
    min (y + h) window.contentH = bottom at x0 y0 x1 y1 ⊢
  rcases Decidable.em (right > left ∧ bottom > top) with visible | hidden
  · rw [if_pos visible]
    have columns := UInt32.lt_iff_toNat_lt.mp visible.1
    have rows := UInt32.lt_iff_toNat_lt.mp visible.2
    have copyW := toNat_sub32 (Nat.le_of_lt columns)
    have copyH := toNat_sub32 (Nat.le_of_lt rows)
    exact {
      x0, y0
      copyW := by rw [copyW, x1]
      copyH := by rw [copyH, y1]
      wide := by change 0 < (right - left).toNat; omega
      tall := by change 0 < (bottom - top).toNat; omega }
  · rw [if_neg hidden]
    intro stride wide tall
    exfalso
    apply hidden
    constructor
    · exact UInt32.lt_iff_toNat_lt.mpr (by omega)
    · exact UInt32.lt_iff_toNat_lt.mpr (by omega)

theorem drawClip_inRangeIff {build : Build} {part : Clip} {x y w h : Nat}
    (shows : window.Shows x y w h part) (y_narrow : y ≤ 65535) (holds : window.needed ≤ room)
    {row : Nat → Nat → List UInt32 → Run (List UInt32)} {each : Nat → Prop}
    (copies : ∀ i < part.copyH.toNat, ∀ dstOff buffer, buffer.length = room →
      dstOff + part.copyW.toNat ≤ room →
      InRangeIff (row i dstOff buffer) (each i) fun drawn => drawn.length = room)
    {canvas : List UInt32 × List DamageRect} (sized : canvas.1.length = room) :
    InRangeIff (window.drawClip build part row canvas.1 canvas.2)
      (∀ i ∈ List.range part.copyH.toNat, each i) fun drawn => drawn.1.length = room := by
  refine (InRangeIff.foldlM (fun drawn => drawn.length = room) each ?_ sized).andThen ?_
  · intro buffer sized i member
    have small := List.mem_range.mp member
    have left := shows.x0
    have right := shows.copyW
    have bottom := shows.copyH
    have columns : part.x0.toNat + part.copyW.toNat ≤ window.bw.toNat := by omega
    have inside := window.rowStart_inside columns (by omega : part.y0.toNat + i < window.contentH.toNat)
    exact copies i small _ buffer sized (by omega)
  · intro drawn length
    have top := shows.y0
    have below : chromeH.toNat + part.y0.toNat < 2 ^ 32 := by
      have chrome : chromeH.toNat = 96 := rfl
      omega
    exact .step (Build.add32_eq_ok below) ⟨_, rfl, length⟩

/-! ## Pictures -/

/-- A picture whose pixels are as long as its fields say. -/
structure FrameSound (f : GfxFrame) : Prop where
  length : f.pixels.length = f.stride.toNat * f.height.toNat

structure SubframeSound (s : GfxSubframe) : Prop where
  length : s.pixels.length = s.stride.toNat * s.h.toNat
  x : Narrow s.x
  y : Narrow s.y
  w : Narrow s.w
  h : Narrow s.h

/-- A frame is drawn in the corner of the content area. -/
def FrameFits (window : Window) (f : GfxFrame) : Prop :=
  window.Fits 0 0 f.width.toNat f.height.toNat f.stride.toNat

def SubframeFits (window : Window) (s : GfxSubframe) : Prop :=
  window.Fits s.x.toNat s.y.toNat s.w.toNat s.h.toNat s.stride.toNat

theorem drawFrame_inRangeIff {f : GfxFrame} (sound : FrameSound f) (holds : window.needed ≤ room)
    (some : 0 < window.contentH.toNat) {buffer : List UInt32} (sized : buffer.length = room) :
    InRangeIff (window.drawFrame f buffer) (window.FrameFits f) fun drawn =>
      drawn.length = room := by
  have copyW := toNat_min32 f.width window.bw
  have copyH := toNat_min32 f.height window.contentH
  change InRangeIff (window.drawRows (min f.width window.bw).toNat
    (min f.height window.contentH).toNat (fun y => copyRow f.pixels (y * f.stride.toNat)
      (window.rowStart y) (min f.width window.bw).toNat) buffer) _ _
  generalize (min f.width window.bw).toNat = columns,
    (min f.height window.contentH).toNat = rows at copyW copyH ⊢
  have copies (y : Nat) (small : y < rows) (buffer : List UInt32) (sized : buffer.length = room) :
      InRangeIff (copyRow f.pixels (y * f.stride.toNat) (window.rowStart y) columns buffer)
        (y * f.stride.toNat + columns * 4 ≤ f.pixels.length) fun drawn => drawn.length = room := by
    have inside := window.rowStart_inside (by omega : columns ≤ window.bw.toNat)
      (by omega : y < window.contentH.toNat)
    rw [← sized]
    exact copyRow_inRangeIff (by omega)
  refine (drawRows_inRangeIff holds (by omega) some copies sized).congr ?_
  rw [sound.length, rows_fit_iff (by omega)]
  unfold FrameFits Fits
  simp only [Nat.zero_add, Nat.zero_min, Nat.sub_zero, ← copyW, ← copyH]
  constructor
  · exact fun fits _ => fits
  · intro fits tall
    rcases Nat.eq_zero_or_pos columns with none | wide
    · omega
    · exact fits wide tall

theorem drawSubframe_inRangeIff {build : Build} {s : GfxSubframe} (sound : SubframeSound s)
    (holds : window.needed ≤ room) {canvas : List UInt32 × List DamageRect}
    (sized : canvas.1.length = room) :
    InRangeIff (window.drawSubframe build canvas s) (window.SubframeFits s) fun drawn =>
      drawn.1.length = room := by
  obtain ⟨found, clipped, shown⟩ : Returns (window.clip build s.x s.y s.w s.h) _ :=
    clip_returns sound.x sound.y sound.w sound.h
  unfold drawSubframe
  rw [clipped, ok_bind]
  cases found with
  | none =>
      have unchanged : Returns (pure canvas : Run _) fun drawn => drawn.1.length = room :=
        (returns_pure canvas _).mpr sized
      exact (InRangeIff.of_returns unchanged).congr (iff_of_true trivial (shown s.stride.toNat))
  | some part =>
      have copies (i : Nat) (_ : i < part.copyH.toNat) (dstOff : Nat) (buffer : List UInt32)
          (sized : buffer.length = room) (inside : dstOff + part.copyW.toNat ≤ room) :
          InRangeIff (copyRow s.pixels (i * s.stride.toNat) dstOff part.copyW.toNat buffer)
            (i * s.stride.toNat + part.copyW.toNat * 4 ≤ s.pixels.length) fun drawn =>
              drawn.length = room := by
        rw [← sized] at inside ⊢
        exact copyRow_inRangeIff inside
      refine (drawClip_inRangeIff shown sound.y holds copies sized).congr ?_
      have rows : part.copyH.toNat ≤ s.h.toNat := by
        have copyH := shown.copyH
        have top := shown.y0
        omega
      rw [sound.length, rows_fit_iff rows]
      exact shown.fits_iff.symm

/-- Tiles always are as large as what is copied of them. -/
theorem drawTile_returns {build : Build} {tileCache : UInt64 → Option (List UInt32)}
    (cached : ∀ hash tile, tileCache hash = some tile → tile.length = 64 * 64)
    {tx ty : UInt32} (x_narrow : Narrow tx) (y_narrow : Narrow ty) (hash : UInt64)
    (holds : window.needed ≤ room) {canvas : List UInt32 × List DamageRect}
    (sized : canvas.1.length = room) :
    Returns (window.drawTile build tileCache canvas (tx, ty, hash)) fun drawn =>
      drawn.1.length = room := by
  cases found : tileCache hash with
  | none =>
      simp only [drawTile, found]
      exact ⟨canvas, rfl, sized⟩
  | some tile =>
      have size := cached hash tile found
      obtain ⟨clipped, result, shown⟩ : Returns (window.clip build tx ty 64 64) _ :=
        clip_returns x_narrow y_narrow (by decide) (by decide)
      simp only [drawTile, found, result, ok_bind]
      cases clipped with
      | none => exact ⟨canvas, rfl, sized⟩
      | some part =>
          have wide : part.copyW.toNat ≤ 64 := by
            have copyW := shown.copyW
            have left := shown.x0
            have side : (64 : UInt32).toNat = 64 := rfl
            omega
          have tall : part.copyH.toNat ≤ 64 := by
            have copyH := shown.copyH
            have top := shown.y0
            have side : (64 : UInt32).toNat = 64 := rfl
            omega
          have copies (i : Nat) (small : i < part.copyH.toNat) (dstOff : Nat)
              (buffer : List UInt32) (sized : buffer.length = room)
              (inside : dstOff + part.copyW.toNat ≤ room) :
              InRangeIff (copyWords tile (i * BrowserCore.tileSide) dstOff part.copyW.toNat buffer)
                True fun drawn => drawn.length = room := by
            have row : i * BrowserCore.tileSide ≤ 63 * 64 :=
              Nat.mul_le_mul (by omega) (Nat.le_refl 64)
            rw [← sized] at inside ⊢
            exact .of_returns (copyWords_returns (by omega) inside)
          exact (drawClip_inRangeIff shown y_narrow holds copies sized).1 fun _ _ => trivial

theorem fits_of_hidden {x y w h stride : Nat}
    (hidden : window.bw.toNat = 0 ∨ window.contentH.toNat = 0) : window.Fits x y w h stride := by
  intro wide tall
  omega

end Window

/-! ## Stages -/

/-- What is pending satisfies `frame` and `subframe`, cached tiles are whole, and no tab
has a buffer. -/
structure BrowserCore.Holds (frame : GfxFrame → Prop) (subframe : GfxSubframe → Prop)
    (core : BrowserCore) : Prop where
  frames : ∀ f ∈ core.pendingFrames, frame f
  subframes : ∀ s ∈ core.pendingSubframes, subframe s
  tiles : ∀ pending ∈ core.pendingTiles, Window.Narrow pending.1 ∧ Window.Narrow pending.2.1
  cached : ∀ hash tile, core.tileCache hash = some tile → tile.length = 64 * 64
  activeBuf : core.activeBuf = none
  tabComposites : ∀ tabId, core.tabComposites tabId = none

abbrev BrowserCore.Sound (core : BrowserCore) : Prop :=
  core.Holds Window.FrameSound Window.SubframeSound

namespace BrowserCore

variable {build : Build} {painter : Painter} {core : BrowserCore} {buffer : List UInt32}

/-- The background is filled from `CHROME_H * bw` on, which overflows. -/
def FillOverflows (build : Build) (core : BrowserCore) : Prop :=
  build.overflowChecks = true ∧ core.pendingFrames = [] ∧ core.fullContentDirty = true ∧
    2 ^ 32 ≤ chromeH.toNat * core.window.bw.toNat

/-- The picture to copy first and the subframes copied over it. -/
def PixelsFit (core : BrowserCore) : Prop :=
  (∀ f ∈ core.pendingFrames.getLast?, core.window.FrameFits f) ∧
    ∀ s ∈ core.pendingSubframes, core.window.SubframeFits s

private theorem fillStart_le {build : Build} {window : Window} {start : UInt32}
    (some : 0 < window.contentH.toNat) (product : build.mul32 chromeH window.bw = .ok start) :
    start.toNat ≤ window.needed := by
  have row := window.rowStart_le_needed some (Nat.zero_le _)
  unfold Build.mul32 at product
  split at product
  case isTrue =>
    cases product
    rw [UInt32.toNat_mul]
    exact Nat.le_trans (Nat.mod_le _ _) row
  case isFalse => cases product

theorem renderWhole_overflow (sound : core.Sound) (overflows : core.FillOverflows build)
    (damage : List DamageRect) :
    core.renderWhole build buffer damage = .error (.panic .overflow) := by
  obtain ⟨checked, noFrame, dirty, large⟩ := overflows
  have product : build.mul32 chromeH core.window.bw = Checked.abort .overflow := by
    refine if_neg ?_
    rw [checked]
    simp only [Bool.not_true, Bool.false_eq_true, or_false]
    omega
  unfold renderWhole
  rw [noFrame, dirty, sound.activeBuf, product]
  rfl

theorem renderWhole_inRangeIff (sound : core.Sound) (starts : ¬core.FillOverflows build)
    (some : 0 < core.window.contentH.toNat) (holds : core.window.needed ≤ buffer.length)
    (damage : List DamageRect) :
    InRangeIff (core.renderWhole build buffer damage)
      (∀ f ∈ core.pendingFrames.getLast?, core.window.FrameFits f)
      fun drawn => drawn.1.length = buffer.length := by
  unfold renderWhole
  cases last : core.pendingFrames.getLast? with
  | some f =>
      have member : f ∈ core.pendingFrames := List.mem_of_getLast? last
      refine ((Window.drawFrame_inRangeIff (sound.frames f member) holds some rfl).andThen
        fun drawn length => ⟨_, rfl, length⟩).congr ?_
      simp only [Option.mem_def, Option.some.injEq, forall_eq']
  | none =>
      refine (InRangeIff.of_returns ?_).congr (iff_of_true trivial nofun)
      cases dirty : core.fullContentDirty with
      | false => exact ⟨_, rfl, rfl⟩
      | true =>
          rw [sound.activeBuf]
          have noFrame : core.pendingFrames = [] := List.getLast?_eq_none_iff.mp last
          have product : ∃ start, build.mul32 chromeH core.window.bw = .ok start := by
            refine ⟨_, if_pos ?_⟩
            rcases Nat.lt_or_ge (chromeH.toNat * core.window.bw.toNat) (2 ^ 32) with small | large
            · exact .inl small
            · cases checked : build.overflowChecks with
              | false => exact .inr rfl
              | true => exact absurd ⟨checked, noFrame, dirty, large⟩ starts
          obtain ⟨start, result⟩ := product
          refine .step result (.bind (fill_returns (fillStart_le some result) holds) ?_)
          intro drawn length
          exact ⟨_, rfl, length⟩

theorem renderContent_overflow (sound : core.Sound) (overflows : core.FillOverflows build)
    (damage : List DamageRect) :
    core.renderContent build buffer damage = .error (.panic .overflow) := by
  unfold renderContent
  rw [renderWhole_overflow sound overflows]
  rfl

theorem renderContent_inRangeIff (sound : core.Sound) (starts : ¬core.FillOverflows build)
    (some : 0 < core.window.contentH.toNat) (holds : core.window.needed ≤ buffer.length)
    (damage : List DamageRect) :
    InRangeIff (core.renderContent build buffer damage) core.PixelsFit
      fun drawn => drawn.1.length = buffer.length := by
  refine (renderWhole_inRangeIff sound starts some holds damage).bind fun whole length => ?_
  refine (InRangeIff.foldlM (fun canvas => canvas.1.length = buffer.length)
    core.window.SubframeFits ?_ length).andThen ?_
  · intro canvas sized s member
    exact Window.drawSubframe_inRangeIff (sound.subframes s member) holds sized
  · intro canvas sized
    refine (InRangeIff.foldlM
      (fun canvas : List UInt32 × List DamageRect => canvas.1.length = buffer.length)
      (fun _ => True) ?_ sized).1 fun _ _ => trivial
    rintro canvas sized ⟨tx, ty, hash⟩ member
    obtain ⟨x_narrow, y_narrow⟩ := sound.tiles _ member
    exact .of_returns (Window.drawTile_returns sound.cached x_narrow y_narrow hash holds sized)

/-! ## Rendering -/

/-- The call stops before it reads pixels: the toolbar cannot be drawn, or the
background cannot be filled. -/
def StopsEarly (build : Build) (painter : Painter) (core : BrowserCore) (buffer : List UInt32) :
    Prop :=
  (core.tickAudio.chromeDirty = true ∧ painter.chrome core.tickAudio buffer = none) ∨
    core.FillOverflows build

private theorem painted_ne_outOfRange {α : Type} (drawn : Option α) :
    painted drawn ≠ .error (.panic .outOfRange) := by
  cases drawn with
  | none => exact nofun
  | some value => exact nofun

theorem tickAudio_eq (core : BrowserCore) : ∃ left dirty, core.tickAudio =
    { core with audioPlayingFramesLeft := left, chromeDirty := dirty } := by
  unfold tickAudio
  split
  case isTrue => exact ⟨_, _, rfl⟩
  case isFalse => exact ⟨core.audioPlayingFramesLeft, core.chromeDirty, rfl⟩

theorem renderChrome_spec (painter : Painter) (core : BrowserCore) (buffer : List UInt32) :
    (core.chromeDirty = true ∧ painter.chrome core buffer = none ∧
        core.renderChrome painter buffer = .error (.panic .explicit)) ∨
      (¬(core.chromeDirty = true ∧ painter.chrome core buffer = none) ∧
        ∃ dirty drawn damage, drawn.length = buffer.length ∧ core.renderChrome painter buffer =
          .ok ({ core with chromeDirty := dirty }, drawn, damage)) := by
  unfold renderChrome
  cases dirty : core.chromeDirty with
  | false =>
      exact .inr ⟨nofun, core.chromeDirty, buffer, [], rfl, rfl⟩
  | true =>
      cases drawing : painter.chrome core buffer with
      | none => exact .inl ⟨rfl, rfl, rfl⟩
      | some drawn =>
          exact .inr ⟨nofun, false, drawn.val, _, drawn.property, rfl⟩

theorem renderToast_eq_ok {next : BrowserCore} {drawn : List UInt32}
    {damage damaged : List DamageRect}
    (returned : core.renderToast painter buffer damage = .ok (next, drawn, damaged)) :
    ∃ left dirty, next = { core with statusToastFramesLeft := left, fullContentDirty := dirty } := by
  unfold renderToast at returned
  split at returned
  case isTrue =>
    split at returned
    case h_1 =>
      obtain ⟨_, _, result⟩ := bind_eq_ok returned
      cases result
      exact ⟨_, _, rfl⟩
    case h_2 =>
      cases returned
      exact ⟨_, _, rfl⟩
  case isFalse =>
    cases returned
    exact ⟨core.statusToastFramesLeft, core.fullContentDirty, rfl⟩

theorem renderOverlay_eq_ok {next : BrowserCore} {drawn : List UInt32}
    {damage damaged : List DamageRect}
    (returned : core.renderOverlay painter buffer damage = .ok (next, drawn, damaged)) :
    ∃ left dirty, next = { core with statusToastFramesLeft := left, fullContentDirty := dirty } := by
  obtain ⟨⟨toasted, _, _⟩, toast, rest⟩ := bind_eq_ok returned
  obtain ⟨left, dirty, rfl⟩ := renderToast_eq_ok toast
  refine ⟨left, dirty, ?_⟩
  cases cursor : core.synthCursor with
  | none =>
      simp only [cursor] at rest
      cases rest
      rfl
  | some position =>
      simp only [cursor] at rest
      obtain ⟨_, _, result⟩ := bind_eq_ok rest
      cases result
      rfl

/-- Without a toast and a cursor there is no overlay. -/
theorem renderOverlay_of_none (noToast : core.statusToastFramesLeft = 0)
    (noCursor : core.synthCursor = none) (buffer : List UInt32) (damage : List DamageRect) :
    core.renderOverlay painter buffer damage = .ok (core, buffer, damage) := by
  have stopped : ¬ core.statusToastFramesLeft > 0 := by
    rw [noToast]
    decide
  have toast : core.renderToast painter buffer damage = .ok (core, buffer, damage) := if_neg stopped
  unfold renderOverlay
  rw [toast, ok_bind]
  simp only [noCursor]
  rfl

theorem renderOverlay_ne_outOfRange (core : BrowserCore) (buffer : List UInt32)
    (damage : List DamageRect) :
    core.renderOverlay painter buffer damage ≠ .error (.panic .outOfRange) := by
  refine bind_ne_error ?_ ?_
  · unfold renderToast
    split
    case isTrue =>
      split
      case h_1 => exact bind_ne_error (painted_ne_outOfRange _) fun _ => nofun
      case h_2 => exact nofun
    case isFalse => exact nofun
  · rintro ⟨core, buffer, damage⟩
    simp only
    split
    case h_1 => exact bind_ne_error (painted_ne_outOfRange _) fun _ => nofun
    case h_2 => exact nofun

theorem pixelsFit_of_hidden
    (hidden : core.window.bw.toNat = 0 ∨ core.window.contentH.toNat = 0) : core.PixelsFit :=
  ⟨fun _ _ => Window.fits_of_hidden hidden, fun _ _ => Window.fits_of_hidden hidden⟩

private theorem rest_ne_outOfRange_iff (sound : core.Sound)
    (holds : core.window.needed ≤ buffer.length) (damage : List DamageRect) :
    (if core.window.contentH > 0 then do
        let (drawn, damaged) ← core.renderContent build buffer damage
        core.contentDone.renderOverlay painter drawn damaged
      else core.renderOverlay painter buffer damage) ≠ .error (.panic .outOfRange) ↔
      core.FillOverflows build ∨ core.PixelsFit := by
  split
  case isTrue visible =>
    have some : 0 < core.window.contentH.toNat := UInt32.lt_iff_toNat_lt.mp visible
    rcases Classical.em (core.FillOverflows build) with overflows | starts
    · rw [renderContent_overflow sound overflows]
      exact iff_of_true nofun (.inl overflows)
    · have content := renderContent_inRangeIff sound starts some holds damage
      rw [or_iff_right starts, ← content.ne_outOfRange_iff]
      constructor
      · intro inRange outside
        rw [outside] at inRange
        exact inRange rfl
      · intro inRange
        exact bind_ne_error inRange fun _ => renderOverlay_ne_outOfRange _ _ _
  case isFalse hidden =>
    have none : core.window.contentH.toNat = 0 := by
      have notAbove : ¬0 < core.window.contentH.toNat := fun above =>
        hidden (UInt32.lt_iff_toNat_lt.mpr above)
      omega
    exact iff_of_true (renderOverlay_ne_outOfRange _ _ _) (.inr (pixelsFit_of_hidden (.inr none)))

/-- A call slices out of range if and only if it gets to pixels that do not fit. -/
theorem renderInto_ne_outOfRange_iff (sound : core.Sound)
    (holds : core.window.needed ≤ buffer.length) :
    core.renderInto build painter buffer ≠ .error (.panic .outOfRange) ↔
      core.StopsEarly build painter buffer ∨ core.PixelsFit := by
  unfold renderInto
  split
  case isTrue empty =>
    refine iff_of_true nofun (.inr (pixelsFit_of_hidden ?_))
    rcases empty with noWidth | noHeight | short
    · exact .inl (congrArg UInt32.toNat noWidth)
    · refine .inr ?_
      rw [Window.contentH, noHeight]
      rfl
    · omega
  case isFalse =>
    obtain ⟨left, dirty, ticked⟩ := tickAudio_eq core
    rcases renderChrome_spec painter core.tickAudio buffer with
      ⟨isDirty, fails, result⟩ | ⟨draws, chromeDirty, drawn, damage, length, result⟩
    · rw [result]
      exact iff_of_true nofun (.inl (.inl ⟨isDirty, fails⟩))
    · rw [result, ok_bind, StopsEarly, or_iff_right draws, ticked]
      have kept : BrowserCore.Sound
          { core with audioPlayingFramesLeft := left, chromeDirty := chromeDirty } :=
        { sound with }
      exact rest_ne_outOfRange_iff kept (length ▸ holds) damage

/-- What a render leaves of a core: the content is drawn or left alone, and the rest ticks. -/
theorem renderInto_eq_ok {next : BrowserCore} {drawn : List UInt32} {damage : List DamageRect}
    (returned : core.renderInto build painter buffer = .ok (next, drawn, damage)) :
    ∃ base left chromeDirty toastLeft contentDirty, (base = core ∨ base = core.contentDone) ∧
      next = { base with
        audioPlayingFramesLeft := left
        chromeDirty := chromeDirty
        statusToastFramesLeft := toastLeft
        fullContentDirty := contentDirty } := by
  unfold BrowserCore.renderInto at returned
  split at returned
  case isTrue =>
    cases returned
    exact ⟨core, _, _, _, _, .inl rfl, rfl⟩
  case isFalse =>
    obtain ⟨⟨base, canvas, damaged⟩, chrome, rest⟩ := bind_eq_ok returned
    obtain ⟨left, dirty, ticked⟩ := tickAudio_eq core
    have shown : ∃ chromeDirty, base =
        { core with audioPlayingFramesLeft := left, chromeDirty := chromeDirty } := by
      rcases renderChrome_spec painter core.tickAudio buffer with
        ⟨_, _, result⟩ | ⟨_, chromeDirty, _, _, _, result⟩
      · rw [result] at chrome
        cases chrome
      · rw [result, ticked] at chrome
        cases chrome
        exact ⟨chromeDirty, rfl⟩
    obtain ⟨chromeDirty, rfl⟩ := shown
    simp only at rest
    split at rest
    case isTrue =>
      obtain ⟨⟨content, contentDamage⟩, _, overlay⟩ := bind_eq_ok rest
      obtain ⟨toastLeft, contentDirty, rfl⟩ := renderOverlay_eq_ok overlay
      exact ⟨core.contentDone, left, chromeDirty, toastLeft, contentDirty, .inr rfl, rfl⟩
    case isFalse =>
      obtain ⟨toastLeft, contentDirty, rfl⟩ := renderOverlay_eq_ok rest
      exact ⟨core, left, chromeDirty, toastLeft, contentDirty, .inl rfl, rfl⟩

theorem Holds.renderInto {frame : GfxFrame → Prop} {subframe : GfxSubframe → Prop}
    {next : BrowserCore} {drawn : List UInt32} {damage : List DamageRect}
    (sound : core.Holds frame subframe)
    (returned : core.renderInto build painter buffer = .ok (next, drawn, damage)) :
    next.Holds frame subframe := by
  obtain ⟨base, _, _, _, _, kept | done, rfl⟩ := renderInto_eq_ok returned
  · subst kept
    exact { sound with }
  · subst done
    exact { sound with frames := nofun, subframes := nofun, tiles := nofun }

end BrowserCore

end ExoBrowser.Client
