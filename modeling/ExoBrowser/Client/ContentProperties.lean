import ExoBrowser.Client.PaintProperties
import ExoBrowser.Library.Picture

/-!
# Content

What the copies of `render_into` leave at each pixel of the content area.
-/

set_option autoImplicit false

namespace ExoBrowser.Client

open Library Proto Checked

variable {build : Build} {window : Window} {buffer : List UInt32}

/-! ## Colours -/

/-- The colour of the pixel whose bytes start at `start`: `0x00RRGGBB`. -/
def bgrWord (pixels : Bytes) (start : Nat) : UInt32 :=
  UInt32.ofNat ((pixels.getD start 0).toNat + 256 * (pixels.getD (start + 1) 0).toNat +
    65536 * (pixels.getD (start + 2) 0).toNat)

theorem asChunks_words (bytes : Bytes) (i : Nat) (inside : i < bytes.length / 4) :
    ((asChunks bytes).1.map Chunk.word)[i]? = some (bgrWord bytes (4 * i)) := by
  induction bytes using asChunks.induct generalizing i with
  | case1 b g r a rest ih =>
      simp only [asChunks, List.map_cons]
      cases i with
      | zero =>
          simp only [List.getElem?_cons_zero, Option.some.injEq, Chunk.word, bgrWord]
          congr 1
          simp [ofLeBytes, Nat.ofDigits_cons]
          ring
      | succ i =>
          rw [List.getElem?_cons_succ, ih i (by simp only [List.length_cons] at inside; omega)]
          rfl
  | case2 short few =>
      have none_left := (length_asChunks short).1
      simp only [asChunks, List.length_nil] at none_left
      omega

theorem bgrWord_slice {pixels : Bytes} {start size i : Nat} (inside : 4 * i + 3 ≤ size) :
    bgrWord ((pixels.drop start).take size) (4 * i) = bgrWord pixels (start + 4 * i) := by
  have byte (c : Nat) (c_lt : c < 3) :
      ((pixels.drop start).take size).getD (4 * i + c) 0 = pixels.getD (start + 4 * i + c) 0 := by
    rw [List.getD_eq_getElem?_getD, List.getD_eq_getElem?_getD, List.getElem?_take_of_lt (by omega),
      List.getElem?_drop, Nat.add_assoc]
  have first := byte 0 (by decide)
  rw [Nat.add_zero, Nat.add_zero] at first
  rw [bgrWord, bgrWord, first, byte 1 (by decide), byte 2 (by decide)]

theorem copyBgraRowToU32_words {pixels : Bytes} {start count i : Nat} {dst : List UInt32}
    (inside : start + count * 4 ≤ pixels.length) (length : dst.length = count) (i_lt : i < count) :
    (copyBgraRowToU32 ((pixels.drop start).take (count * 4)) dst)[i]? =
      some (bgrWord pixels (start + 4 * i)) := by
  have taken : ((pixels.drop start).take (count * 4)).length = count * 4 := by
    rw [List.length_take, List.length_drop]
    omega
  have all : min dst.length (((pixels.drop start).take (count * 4)).length / 4) = count := by omega
  unfold copyBgraRowToU32
  simp only [all, List.take_take, Nat.min_self]
  have whole : i < ((pixels.drop start).take (count * 4)).length / 4 := by omega
  rw [List.getElem?_append_left, asChunks_words _ i whole, bgrWord_slice (by omega)]
  rw [List.length_map, (length_asChunks _).1]
  exact whole

/-! ## Rows -/

namespace Window

/-- A row of a picture, from `x` on in row `y` of the buffer. -/
theorem copyRow_returnsIf {pixels : Bytes} {srcStart x y copyW : Nat} {value : Nat → Nat → UInt32}
    (inRow : x + copyW ≤ window.bw.toNat) (fits : cell window.bw.toNat x y + copyW ≤ buffer.length)
    (drawn : ∀ i < copyW, value (x + i) y = bgrWord pixels (srcStart + 4 * i)) :
    ReturnsIf (srcStart + copyW * 4 ≤ pixels.length)
      (copyRow pixels srcStart (cell window.bw.toNat x y) copyW buffer)
      (Painted window.bw.toNat (fun col row => row = y ∧ x ≤ col ∧ col < x + copyW) value buffer) := by
  by_cases inside : srcStart + copyW * 4 ≤ pixels.length
  · refine .of_returns (.step (slice_add_eq_ok inside) (.step (slice_add_eq_ok fits) ?_))
    have length : ((buffer.drop (cell window.bw.toNat x y)).take copyW).length = copyW := by
      rw [List.length_take, List.length_drop]
      omega
    refine painted_span ?_ fits inRow fun i i_lt => ?_
    · rw [length_copyBgraRowToU32, length]
    · rw [copyBgraRowToU32_words inside length i_lt, drawn i i_lt]
  · refine ⟨fun whole => absurd whole inside, fun next returned => ?_⟩
    obtain ⟨src, sliced, _⟩ := bind_eq_ok returned
    rw [slice, if_neg fun ordered => inside ordered.2] at sliced
    cases sliced

theorem copyRow_paints {pixels : Bytes} {srcStart x y copyW : Nat} {value : Nat → Nat → UInt32}
    (inside : srcStart + copyW * 4 ≤ pixels.length) (inRow : x + copyW ≤ window.bw.toNat)
    (fits : cell window.bw.toNat x y + copyW ≤ buffer.length)
    (drawn : ∀ i < copyW, value (x + i) y = bgrWord pixels (srcStart + 4 * i)) :
    Returns (copyRow pixels srcStart (cell window.bw.toNat x y) copyW buffer)
      (Painted window.bw.toNat (fun col row => row = y ∧ x ≤ col ∧ col < x + copyW) value buffer) :=
  (copyRow_returnsIf inRow fits drawn).of_calm inside

theorem copyWords_paints {words : List UInt32} {srcStart x y copyW : Nat} {value : Nat → Nat → UInt32}
    (inside : srcStart + copyW ≤ words.length) (inRow : x + copyW ≤ window.bw.toNat)
    (fits : cell window.bw.toNat x y + copyW ≤ buffer.length)
    (drawn : ∀ i < copyW, words[srcStart + i]? = some (value (x + i) y)) :
    Returns (copyWords words srcStart (cell window.bw.toNat x y) copyW buffer)
      (Painted window.bw.toNat (fun col row => row = y ∧ x ≤ col ∧ col < x + copyW) value buffer) := by
  refine .step (slice_add_eq_ok fits) (.step (slice_add_eq_ok inside) ?_)
  refine painted_span ?_ fits inRow fun i i_lt => ?_
  · rw [List.length_take, List.length_drop]
    omega
  · rw [List.getElem?_take_of_lt i_lt, List.getElem?_drop, drawn i i_lt]

/-- The rows of the content area. -/
def Content (window : Window) (_ row : Nat) : Prop := chromeH.toNat ≤ row ∧ row < window.bh.toNat

theorem chromeH_add_contentH (some : 0 < window.contentH.toNat) :
    chromeH.toNat + window.contentH.toNat = window.bh.toNat := by
  rw [contentH, toNat_contentHeight] at some ⊢
  omega

/-- The rows of a picture at the top left, and the background around it. -/
theorem drawRows_paints {copyW copyH : Nat} {row : Nat → List UInt32 → Run (List UInt32)}
    {value : Nat → Nat → UInt32} (holds : window.needed ≤ buffer.length)
    (some : 0 < window.contentH.toNat) (rows : copyH ≤ window.contentH.toNat)
    (columns : copyW ≤ window.bw.toNat)
    (copies : ∀ y < copyH, ∀ canvas, canvas.length = buffer.length → Returns (row y canvas)
      (Painted window.bw.toNat (fun col line => line = chromeH.toNat + y ∧ 0 ≤ col ∧ col < 0 + copyW)
        value canvas))
    (right : ∀ col < window.bw.toNat, ∀ line, copyW ≤ col → value col line = background)
    (below : ∀ line < window.bh.toNat, ∀ col, chromeH.toNat + copyH ≤ line → value col line = background) :
    Returns (window.drawRows copyW copyH row buffer)
      (Painted window.bw.toNat window.Content value buffer) := by
  have height := chromeH_add_contentH some
  have commuted : window.needed = window.bh.toNat * window.bw.toNat := Nat.mul_comm _ _
  have each (y : Nat) (y_lt : y < copyH) (canvas : List UInt32) (length : canvas.length = buffer.length) :
      Returns (do
          let copied ← row y canvas
          if copyW < window.bw.toNat then
            Checked.fill copied (window.rowStart y + copyW) (window.rowStart y + window.bw.toNat) background
          else return copied)
        (Painted window.bw.toNat (fun col line => line = chromeH.toNat + y ∧ True) value canvas) := by
    refine (copies y y_lt canvas length).bind fun copied painted => ?_
    split
    case isTrue narrow =>
      have row_lt : chromeH.toNat + y < window.bh.toNat := by omega
      have fits := cell_le_needed (Nat.le_refl window.bw.toNat) row_lt
      have roomy : cell window.bw.toNat window.bw.toNat (chromeH.toNat + y) ≤ copied.length := by
        rw [painted.length, length]
        exact Nat.le_trans fits holds
      refine (painted_fill_span (Nat.le_of_lt narrow) (Nat.le_refl _) roomy).mono fun drawn filled => ?_
      have padded : Painted window.bw.toNat _ value copied drawn :=
        filled.recolor fun col col_lt line inside => (right col col_lt line inside.2.1).symm
      refine (painted.union padded).congr fun col col_lt line => ?_
      simp only [and_true]
      omega
    case isFalse wide =>
      refine ⟨copied, rfl, painted.congr fun col col_lt line => ?_⟩
      simp only [and_true]
      omega
  unfold drawRows
  refine (Painted.rows copyH each).bind fun drawn painted => ?_
  split
  case isTrue short =>
    have fits : window.bh.toNat * window.bw.toNat ≤ drawn.length := by
      rw [painted.length, ← commuted]
      exact holds
    have bottom : chromeH.toNat + copyH ≤ window.bh.toNat := by omega
    rw [commuted]
    refine (painted_fill_rows bottom fits).mono fun final filled => ?_
    have padded : Painted window.bw.toNat _ value drawn final :=
      filled.recolor fun col _ line inside => (below line inside.2 col inside.1).symm
    refine (painted.union padded).congr fun col col_lt line => ?_
    simp only [Content, and_true]
    omega
  case isFalse tall =>
    refine ⟨drawn, rfl, painted.congr fun col col_lt line => ?_⟩
    simp only [Content, and_true]
    omega

/-! ## Pictures -/

/-- A picture whose rows lie in its stride, and its stride in its pixels. -/
structure Whole (w h stride : Nat) (pixels : Bytes) : Prop where
  wide : 4 * w ≤ stride
  tall : stride * h ≤ pixels.length

theorem Whole.row {w h stride : Nat} {pixels : Bytes} (whole : Whole w h stride pixels) {y width : Nat}
    (y_lt : y < h) (width_le : width ≤ w) : y * stride + width * 4 ≤ pixels.length := by
  have rows : (y + 1) * stride ≤ h * stride := Nat.mul_le_mul_right stride y_lt
  have wide := whole.wide
  have tall := whole.tall
  rw [Nat.mul_comm] at tall
  rw [Nat.succ_mul] at rows
  omega

/-- What a frame makes of a pixel of the content area. -/
def framePixel (f : GfxFrame) (col row : Nat) : UInt32 :=
  if col < f.width.toNat ∧ row < f.height.toNat then
    bgrWord f.pixels (row * f.stride.toNat + 4 * col)
  else background

theorem drawFrame_paints {f : GfxFrame}
    (whole : Whole f.width.toNat f.height.toNat f.stride.toNat f.pixels)
    (holds : window.needed ≤ buffer.length) (some : 0 < window.contentH.toNat) :
    Returns (window.drawFrame f buffer)
      (Painted window.bw.toNat window.Content (fun col row => framePixel f col (row - chromeH.toNat))
        buffer) := by
  have copyW := toNat_min32 f.width window.bw
  have copyH := toNat_min32 f.height window.contentH
  unfold drawFrame
  simp only
  generalize (min f.width window.bw).toNat = columns,
    (min f.height window.contentH).toNat = rows at copyW copyH ⊢
  have height := chromeH_add_contentH some
  refine drawRows_paints holds some (by omega) (by omega) (fun y y_lt canvas length => ?_)
    (fun col col_lt line outside => ?_) (fun line line_lt col outside => ?_)
  · have fits := cell_le_needed (by omega : columns ≤ window.bw.toNat)
      (by omega : chromeH.toNat + y < window.bh.toNat)
    have inside : y * f.stride.toNat + columns * 4 ≤ f.pixels.length :=
      whole.row (by omega) (by omega)
    unfold cell at fits
    change Returns (copyRow _ _ (cell window.bw.toNat 0 (chromeH.toNat + y)) _ _) _
    refine copyRow_paints inside (by omega) ?_ fun i i_lt => ?_
    · unfold cell
      omega
    · rw [framePixel, if_pos (by omega), Nat.add_sub_cancel_left, Nat.zero_add]
  · rw [framePixel, if_neg (by omega)]
  · rw [framePixel, if_neg (by omega)]

/-! ## Patches -/

/-- The rectangle of a subframe or a tile, in the content area. -/
def Inside (window : Window) (rect : Rect) (col row : Nat) : Prop :=
  window.Content col row ∧ rect.Contains col (row - chromeH.toNat)

/-- The far corner of a rectangle is in 32 bits. -/
def Unwrapped (x y w h : UInt32) : Prop := x.toNat + w.toNat < 2 ^ 32 ∧ y.toNat + h.toNat < 2 ^ 32

instance (x y w h : UInt32) : Decidable (Unwrapped x y w h) := inferInstanceAs (Decidable (_ ∧ _))

/-- Where the sums wrap around, nothing is drawn. -/
theorem clip_returnsIf {x y w h : UInt32} :
    ReturnsIf (build.overflowChecks = true → Unwrapped x y w h)
      (window.clip build x y w h) fun
        | some part => Unwrapped x y w h ∧ window.Shows x.toNat y.toNat w.toNat h.toNat part
        | none => x.toNat + w.toNat < 2 ^ 32 → y.toNat + h.toNat < 2 ^ 32 →
            min x.toNat window.bw.toNat = min (x.toNat + w.toNat) window.bw.toNat ∨
              min y.toNat window.contentH.toNat = min (y.toNat + h.toNat) window.contentH.toNat := by
  have sum (left right : UInt32) : ReturnsIf
      (build.overflowChecks = true → left.toNat + right.toNat < 2 ^ 32) (build.add32 left right)
      fun total => total = left + right := by
    unfold Build.add32
    split
    case isTrue => exact .pure rfl
    case isFalse overflows =>
      refine ⟨fun calm => ?_, nofun⟩
      simp only [not_or, Bool.not_eq_true', Bool.not_eq_false] at overflows
      exact absurd (calm overflows.2) overflows.1
  unfold clip
  refine ((sum x w).weaken fun calm checked => (calm checked).1).bind ?_
  rintro _ rfl
  refine ((sum y h).weaken fun calm checked => (calm checked).2).bind ?_
  rintro _ rfl
  refine .pure ?_
  have x0 := toNat_min32 x window.bw
  have y0 := toNat_min32 y window.contentH
  have x1 := toNat_min32 (x + w) window.bw
  have y1 := toNat_min32 (y + h) window.contentH
  have wide := UInt32.toNat_add x w
  have tall := UInt32.toNat_add y h
  have w_lt := w.toNat_lt
  have h_lt := h.toNat_lt
  generalize min x window.bw = left, min y window.contentH = top, min (x + w) window.bw = right,
    min (y + h) window.contentH = bottom at x0 y0 x1 y1 ⊢
  by_cases visible : right > left ∧ bottom > top
  · rw [if_pos visible]
    have columns := UInt32.lt_iff_toNat_lt.mp visible.1
    have rows := UInt32.lt_iff_toNat_lt.mp visible.2
    have copyW := toNat_sub32 (Nat.le_of_lt columns)
    have copyH := toNat_sub32 (Nat.le_of_lt rows)
    refine ⟨⟨by omega, by omega⟩, ?_⟩
    constructor
    · exact x0
    · exact y0
    · change (right - left).toNat = min (x.toNat + w.toNat) window.bw.toNat - left.toNat
      omega
    · change (bottom - top).toNat = min (y.toNat + h.toNat) window.contentH.toNat - top.toNat
      omega
    · change 0 < (right - left).toNat
      omega
    · change 0 < (bottom - top).toNat
      omega
  · rw [if_neg visible]
    intro noWrapX noWrapY
    have hidden : ¬ (left.toNat < right.toNat ∧ top.toNat < bottom.toNat) := fun shown =>
      visible ⟨UInt32.lt_iff_toNat_lt.mpr shown.1, UInt32.lt_iff_toNat_lt.mpr shown.2⟩
    omega

/-- A buffer with its damage, of which a part is drawn and reported. -/
structure Patched (window : Window) (region : Nat → Nat → Prop) (value : Nat → Nat → UInt32)
    (before after : List UInt32 × List DamageRect) : Prop where
  painted : Painted window.bw.toNat region value before.1 after.1
  kept : ∀ rect ∈ before.2, rect ∈ after.2
  covered : ∀ col < window.bw.toNat, ∀ row, region col row → ∃ rect ∈ after.2, rect.Covers col row

theorem drawClip_patches {calm : Prop} {part : Clip} {x y w h : Nat} (shows : window.Shows x y w h part)
    {canvas : List UInt32 × List DamageRect} {row : Nat → Nat → List UInt32 → Run (List UInt32)}
    {value : Nat → Nat → UInt32} (copies : ∀ i < part.copyH.toNat, ∀ buffer,
      buffer.length = canvas.1.length →
      ReturnsIf calm (row i (cell window.bw.toNat x (chromeH.toNat + (y + i))) buffer)
        (Painted window.bw.toNat
          (fun col line => line = chromeH.toNat + y + i ∧ x ≤ col ∧ col < x + part.copyW.toNat) value buffer)) :
    ReturnsIf calm (window.drawClip build part row canvas.1 canvas.2)
      (window.Patched (window.Inside ⟨x, y, w, h⟩) value canvas) := by
  obtain ⟨x0, y0, copyW, copyH, wide, tall⟩ := shows
  have left : part.x0.toNat = x := by omega
  have top : part.y0.toNat = y := by omega
  have height := chromeH_add_contentH (by omega : 0 < window.contentH.toNat)
  have chrome : chromeH.toNat = 96 := rfl
  have bh_lt := window.bh.toNat_lt
  have place : (chromeH + part.y0).toNat = chromeH.toNat + y := by
    rw [toNat_add32 (by omega), top]
  unfold drawClip
  rw [left, top]
  refine (Painted.rows_returnsIf _ copies).bind fun drawn painted => ?_
  refine .of_returns (.step (Build.add32_eq_ok (by omega)) ⟨_, rfl, ?_, ?_, ?_⟩)
  · refine painted.congr fun col col_lt line => ?_
    unfold Inside Content Rect.Contains
    simp only
    omega
  · exact fun rect member => List.mem_append_left _ member
  · intro col col_lt line inside
    refine ⟨_, List.mem_append_right _ List.mem_cons_self, ?_⟩
    unfold Inside Content Rect.Contains at inside
    unfold DamageRect.Covers
    simp only at inside ⊢
    omega

/-- What is drawn of a rectangle: all that the window shows of it, unless its far corner
is out of 32 bits. -/
structure PatchedRect (window : Window) (x y w h : UInt32) (value : Nat → Nat → UInt32)
    (before after : List UInt32 × List DamageRect) (region : Nat → Nat → Prop) : Prop where
  patched : window.Patched region value before after
  exact : x.toNat + w.toNat < 2 ^ 32 → y.toNat + h.toNat < 2 ^ 32 → ∀ col < window.bw.toNat, ∀ row,
    region col row ↔ window.Inside ⟨x.toNat, y.toNat, w.toNat, h.toNat⟩ col row

/-- Where a rectangle is drawn in the buffer. -/
def Copied (window : Window) (x y w h : UInt32) (col row : Nat) : Prop :=
  Unwrapped x y w h ∧ window.Inside ⟨x.toNat, y.toNat, w.toNat, h.toNat⟩ col row

theorem Patched.toRect {x y w h : UInt32} {value : Nat → Nat → UInt32}
    {before after : List UInt32 × List DamageRect}
    (patched : window.Patched (window.Copied x y w h) value before after) :
    window.PatchedRect x y w h value before after (window.Copied x y w h) where
  patched := patched
  exact := fun noWrapX noWrapY _ _ _ => and_iff_right ⟨noWrapX, noWrapY⟩

/-- A copy of the rows of a rectangle that the window shows. -/
theorem clip_patches {calm : Prop} {x y w h : UInt32} {canvas : List UInt32 × List DamageRect}
    (row : UInt32 → Nat → Nat → List UInt32 → Run (List UInt32)) {value : Nat → Nat → UInt32}
    (copies : ∀ copyW : UInt32, ∀ i, x.toNat + copyW.toNat ≤ window.bw.toNat → copyW.toNat ≤ w.toNat →
      chromeH.toNat + (y.toNat + i) < window.bh.toNat → i < h.toNat → ∀ buffer,
      buffer.length = canvas.1.length →
      ReturnsIf calm (row copyW i (cell window.bw.toNat x.toNat (chromeH.toNat + (y.toNat + i))) buffer)
        (Painted window.bw.toNat (fun col line => line = chromeH.toNat + y.toNat + i ∧ x.toNat ≤ col ∧
          col < x.toNat + copyW.toNat) value buffer)) :
    ReturnsIf (calm ∧ (build.overflowChecks = true → Unwrapped x y w h))
      (do match ← window.clip build x y w h with
          | some part => window.drawClip build part (row part.copyW) canvas.1 canvas.2
          | none => return canvas)
      (window.Patched (window.Copied x y w h) value canvas) := by
  refine (clip_returnsIf.weaken And.right).bind fun clipped shown => ?_
  cases clipped with
  | some part =>
      obtain ⟨unwrapped, shows⟩ : Unwrapped x y w h ∧
        window.Shows x.toNat y.toNat w.toNat h.toNat part := shown
      have drew : ReturnsIf calm (window.drawClip build part (row part.copyW) canvas.1 canvas.2) _ :=
        drawClip_patches shows fun i i_lt buffer length => by
          obtain ⟨x0, y0, copyW, copyH, wide, tall⟩ := shows
          have height := chromeH_add_contentH (by omega : 0 < window.contentH.toNat)
          exact copies part.copyW i (by omega) (by omega) (by omega) (by omega) buffer length
      refine (drew.weaken And.left).mono fun next patched => ?_
      have same (col row : Nat) : window.Inside ⟨x.toNat, y.toNat, w.toNat, h.toNat⟩ col row ↔
          window.Copied x y w h col row := (and_iff_right unwrapped).symm
      exact {
        patched with
        painted := patched.painted.congr fun col _ row => same col row
        covered := fun col col_lt row inside => patched.covered col col_lt row ((same col row).mpr inside) }
  | none =>
      have nowhere (col : Nat) (col_lt : col < window.bw.toNat) (row : Nat) :
          ¬ window.Copied x y w h col row := by
        rintro ⟨⟨noWrapX, noWrapY⟩, ⟨above, below⟩, inside⟩
        have hidden := shown noWrapX noWrapY
        have some : 0 < window.contentH.toNat := by
          rw [contentH, toNat_contentHeight]
          omega
        have height := chromeH_add_contentH some
        unfold Rect.Contains at inside
        simp only at inside
        omega
      refine .pure { painted := ?_, kept := fun _ member => member, covered := ?_ }
      · exact (Painted.none _ value canvas.1).congr fun col col_lt row =>
          iff_of_false id (nowhere col col_lt row)
      · exact fun col col_lt row inside => absurd inside (nowhere col col_lt row)

/-- What a subframe makes of a pixel of the content area. -/
def subframePixel (s : GfxSubframe) (col row : Nat) : UInt32 :=
  bgrWord s.pixels ((row - s.y.toNat) * s.stride.toNat + 4 * (col - s.x.toNat))

def tilePixel (tile : List UInt32) (tx ty : UInt32) (col row : Nat) : UInt32 :=
  tile.getD ((row - ty.toNat) * BrowserCore.tileSide + (col - tx.toNat)) 0

theorem drawSubframe_returnsIf {s : GfxSubframe} {canvas : List UInt32 × List DamageRect}
    (holds : window.needed ≤ canvas.1.length) :
    ReturnsIf (Whole s.w.toNat s.h.toNat s.stride.toNat s.pixels ∧
        (build.overflowChecks = true → Unwrapped s.x s.y s.w s.h))
      (window.drawSubframe build canvas s) (window.Patched (window.Copied s.x s.y s.w s.h)
        (fun col row => subframePixel s col (row - chromeH.toNat)) canvas) := by
  refine clip_patches (fun copyW y dstOff => copyRow s.pixels (y * s.stride.toNat) dstOff copyW.toNat)
    fun copyW i inRow narrow inWindow i_lt buffer length => ?_
  have fits := cell_le_needed inRow inWindow
  have place : chromeH.toNat + s.y.toNat + i = chromeH.toNat + (s.y.toNat + i) := Nat.add_assoc _ _ _
  rw [place]
  unfold cell at fits
  refine (copyRow_returnsIf inRow ?_ fun k k_lt => ?_).weaken fun whole => whole.row i_lt narrow
  · unfold cell
    omega
  · rw [Nat.add_sub_cancel_left, subframePixel, Nat.add_sub_cancel_left, Nat.add_sub_cancel_left]

theorem drawSubframe_patches {s : GfxSubframe}
    (whole : Whole s.w.toNat s.h.toNat s.stride.toNat s.pixels)
    {canvas : List UInt32 × List DamageRect} (holds : window.needed ≤ canvas.1.length) :
    ReturnsIf (build.overflowChecks = true →
        s.x.toNat + s.w.toNat < 2 ^ 32 ∧ s.y.toNat + s.h.toNat < 2 ^ 32)
      (window.drawSubframe build canvas s) fun next => ∃ region, window.PatchedRect s.x s.y s.w s.h
        (fun col row => subframePixel s col (row - chromeH.toNat)) canvas next region :=
  ((drawSubframe_returnsIf holds).weaken fun calm => ⟨whole, calm⟩).mono fun _ patched =>
    ⟨_, patched.toRect⟩

theorem drawTile_returnsIf {tileCache : UInt64 → Option (List UInt32)} {tx ty : UInt32} {hash : UInt64}
    {tile : List UInt32} (found : tileCache hash = some tile) (size : tile.length = 64 * 64)
    {canvas : List UInt32 × List DamageRect} (holds : window.needed ≤ canvas.1.length) :
    ReturnsIf (build.overflowChecks = true → Unwrapped tx ty 64 64)
      (window.drawTile build tileCache canvas (tx, ty, hash)) (window.Patched (window.Copied tx ty 64 64)
        (fun col row => tilePixel tile tx ty col (row - chromeH.toNat)) canvas) := by
  unfold drawTile
  simp only [found]
  refine ReturnsIf.weaken ?_ fun calm => And.intro trivial calm
  refine clip_patches
    (fun copyW y dstOff => copyWords tile (y * BrowserCore.tileSide) dstOff copyW.toNat)
    fun copyW i inRow narrow inWindow i_lt buffer length => .of_returns ?_
  have row : i * BrowserCore.tileSide ≤ 63 * 64 := Nat.mul_le_mul (Nat.le_of_lt_succ i_lt) (Nat.le_refl 64)
  have side : (64 : UInt32).toNat = 64 := rfl
  have inside : i * BrowserCore.tileSide + copyW.toNat ≤ tile.length := by omega
  have fits := cell_le_needed inRow inWindow
  have place : chromeH.toNat + ty.toNat + i = chromeH.toNat + (ty.toNat + i) := Nat.add_assoc _ _ _
  rw [place]
  unfold cell at fits
  refine copyWords_paints inside inRow ?_ fun k k_lt => ?_
  · unfold cell
    omega
  · rw [Nat.add_sub_cancel_left, tilePixel, Nat.add_sub_cancel_left, Nat.add_sub_cancel_left,
      List.getD_eq_getElem?_getD, List.getElem?_eq_getElem (by omega), Option.getD_some]

theorem drawTile_patches {tileCache : UInt64 → Option (List UInt32)} {tx ty : UInt32} {hash : UInt64}
    {tile : List UInt32} (found : tileCache hash = some tile) (size : tile.length = 64 * 64)
    {canvas : List UInt32 × List DamageRect} (holds : window.needed ≤ canvas.1.length) :
    ReturnsIf (build.overflowChecks = true → tx.toNat + 64 < 2 ^ 32 ∧ ty.toNat + 64 < 2 ^ 32)
      (window.drawTile build tileCache canvas (tx, ty, hash)) fun next => ∃ region,
        window.PatchedRect tx ty 64 64 (fun col row => tilePixel tile tx ty col (row - chromeH.toNat))
          canvas next region :=
  (drawTile_returnsIf found size holds).mono fun _ patched => ⟨_, patched.toRect⟩

end Window

/-! ## The whole content -/

/-- The pixels of what is pending reach as far as their fields say, cached tiles are whole,
no tab has a buffer, there is one toast only, and no cursor is drawn. -/
structure BrowserCore.Intact (core : BrowserCore) : Prop where
  frames : ∀ f ∈ core.pendingFrames, f.stride.toNat * f.height.toNat ≤ f.pixels.length
  subframes : ∀ s ∈ core.pendingSubframes, s.stride.toNat * s.h.toNat ≤ s.pixels.length
  cached : ∀ hash tile, core.tileCache hash = some tile → tile.length = 64 * 64
  activeBuf : core.activeBuf = none
  tabComposites : ∀ tabId, core.tabComposites tabId = none
  toast : ∀ msg ∈ core.statusToastText, msg = clearedToast
  synthCursor : core.synthCursor = none

/-- The strides of pending pictures are as wide as their rows. -/
structure BrowserCore.RowsFit (core : BrowserCore) : Prop where
  frames : ∀ f ∈ core.pendingFrames, 4 * f.width.toNat ≤ f.stride.toNat
  subframes : ∀ s ∈ core.pendingSubframes, 4 * s.w.toNat ≤ s.stride.toNat

namespace BrowserCore

variable {core : BrowserCore}

/-- The sides that 16 bits hold. -/
structure Narrow (core : BrowserCore) : Prop where
  wide : core.window.bw.toNat ≤ 65535
  tall : core.window.bh.toNat ≤ 65535

theorem whole_frame (intact : core.Intact) (fits : core.RowsFit) {f : GfxFrame}
    (member : f ∈ core.pendingFrames) :
    Window.Whole f.width.toNat f.height.toNat f.stride.toNat f.pixels :=
  ⟨fits.frames f member, intact.frames f member⟩

theorem whole_subframe (intact : core.Intact) (fits : core.RowsFit) {s : GfxSubframe}
    (member : s ∈ core.pendingSubframes) :
    Window.Whole s.w.toNat s.h.toNat s.stride.toNat s.pixels :=
  ⟨fits.subframes s member, intact.subframes s member⟩

/-- What the whole content area is redrawn with. -/
def wholePixel (core : BrowserCore) : Option (Nat → Nat → UInt32) :=
  match core.pendingFrames.getLast? with
  | some f => some (Window.framePixel f)
  | none => if core.fullContentDirty then some fun _ _ => background else none

def Redrawn (core : BrowserCore) (before after : List UInt32 × List DamageRect) : Prop :=
  match core.wholePixel with
  | some pixel => core.window.Patched core.window.Content
      (fun col row => pixel col (row - chromeH.toNat)) before after
  | none => after = before

theorem redrawn_of_painted (pixel : Nat → Nat → UInt32) {drawn : List UInt32} {damage : List DamageRect}
    (some : 0 < core.window.contentH.toNat)
    (painted : Painted core.window.bw.toNat core.window.Content
      (fun col row => pixel col (row - chromeH.toNat)) buffer drawn) :
    core.window.Patched core.window.Content (fun col row => pixel col (row - chromeH.toNat))
      (buffer, damage) (drawn, damage ++ [core.window.contentRect]) where
  painted := painted
  kept := fun _ member => List.mem_append_left _ member
  covered := by
    intro col col_lt row inside
    have height := Window.chromeH_add_contentH some
    refine ⟨_, List.mem_append_right _ List.mem_cons_self, ?_⟩
    unfold Window.Content at inside
    exact ⟨Nat.zero_le _, by simpa [Window.contentRect] using col_lt, inside.1, by
      change row < chromeH.toNat + core.window.contentH.toNat
      omega⟩

theorem renderWhole_returns (intact : core.Intact) (fits : core.RowsFit) (narrow : core.Narrow)
    (some : 0 < core.window.contentH.toNat) (holds : core.window.needed ≤ buffer.length)
    (damage : List DamageRect) :
    Returns (core.renderWhole build buffer damage) (core.Redrawn (buffer, damage)) := by
  have height := Window.chromeH_add_contentH some
  have wide := narrow.wide
  unfold renderWhole Redrawn wholePixel
  cases last : core.pendingFrames.getLast? with
  | some f =>
      have member : f ∈ core.pendingFrames := List.mem_of_getLast? last
      exact (Window.drawFrame_paints (whole_frame intact fits member) holds some).bind
        fun drawn painted => ⟨_, rfl, redrawn_of_painted _ some painted⟩
  | none =>
      simp only
      cases dirty : core.fullContentDirty with
      | false => exact ⟨_, rfl, rfl⟩
      | true =>
          rw [intact.activeBuf]
          have chrome : chromeH.toNat = 96 := rfl
          have small : chromeH.toNat * core.window.bw.toNat < 2 ^ 32 := by
            rw [chrome]
            omega
          have product : build.mul32 chromeH core.window.bw = .ok (chromeH * core.window.bw) :=
            if_pos (.inl small)
          have start : (chromeH * core.window.bw).toNat = chromeH.toNat * core.window.bw.toNat := by
            rw [UInt32.toNat_mul, Nat.mod_eq_of_lt small]
          have commuted : core.window.needed = core.window.bh.toNat * core.window.bw.toNat :=
            Nat.mul_comm _ _
          refine .step product ?_
          rw [start, commuted]
          refine (painted_fill_rows (by omega) (commuted ▸ holds)).bind fun drawn painted => ?_
          exact ⟨_, rfl, redrawn_of_painted (fun _ _ => background) some painted⟩

end BrowserCore

end ExoBrowser.Client
