import ExoBrowser.Client.Paint
import ExoBrowser.Client.RenderProperties
import ExoBrowser.Library.Canvas

/-!
# Shapes and text

What a shape paints: a rectangle exactly what of it the window shows, every other
shape a part of the rectangle around it.
-/

set_option autoImplicit false

namespace ExoBrowser.Client

open Library Checked

variable {build : Build} {window : Window} {buf : List UInt32}

/-! ## Arithmetic -/

theorem Build.i32_eq_ok {value : Int} (low : -2 ^ 31 ≤ value) (high : value < 2 ^ 31) :
    build.i32 value = .ok value := by
  unfold Build.i32
  rw [if_pos (.inl ⟨low, high⟩), Int.bmod_eq_of_le (by omega) (by omega)]

theorem Build.u32_eq_ok {value : Nat} (small : value < 2 ^ 32) : build.u32 value = .ok value := by
  unfold Build.u32
  rw [if_pos (.inl small), Nat.mod_eq_of_lt small]

theorem asU32_eq {value : Int} (low : 0 ≤ value) (high : value < 2 ^ 32) : asU32 value = value.toNat := by
  unfold asU32
  rw [Int.emod_eq_of_lt low high]

theorem asI32_eq {value : Nat} (small : value < 2 ^ 31) : asI32 value = value := by
  unfold asI32
  exact Int.bmod_eq_of_le (by omega) (by omega)

/-- Positions and sizes that two additions do not take out of 32 bits. -/
def Small (value : Int) : Prop := -2 ^ 29 ≤ value ∧ value ≤ 2 ^ 29

theorem small_of_natAbs {value : Int} (small : value.natAbs ≤ 2 ^ 29) : Small value := by
  unfold Small
  omega

/-- The pixels of a rectangle of the window. -/
def DamageRect.Covers (rect : DamageRect) (col row : Nat) : Prop :=
  rect.x.toNat ≤ col ∧ col < rect.x.toNat + rect.w.toNat ∧
    rect.y.toNat ≤ row ∧ row < rect.y.toNat + rect.h.toNat

namespace Window

/-- The buffer holds the window, whose pixels 32 bits can count. -/
structure Holds (window : Window) (room : Nat) : Prop where
  wide : window.bw.toNat < 2 ^ 31
  tall : window.bh.toNat < 2 ^ 31
  counted : window.needed < 2 ^ 32
  room : window.needed ≤ room

/-- The pixels of a rectangle. -/
def Area (x y w h : Int) (col row : Nat) : Prop :=
  x ≤ col ∧ col < x + w ∧ y ≤ row ∧ row < y + h

/-- What of a rectangle the window shows. -/
def Shown (window : Window) (x y w h : Int) (col row : Nat) : Prop :=
  Area x y w h col row ∧ row < window.bh.toNat

theorem cell_le_needed {col row : Nat} (col_le : col ≤ window.bw.toNat) (row_lt : row < window.bh.toNat) :
    cell window.bw.toNat col row ≤ window.needed := by
  calc cell window.bw.toNat col row ≤ (row + 1) * window.bw.toNat := by
        unfold cell
        rw [Nat.succ_mul]
        omega
    _ ≤ window.bh.toNat * window.bw.toNat := Nat.mul_le_mul_right _ row_lt
    _ = window.needed := Nat.mul_comm _ _

/-! ## Rectangles -/

theorem fillSpan_returns (holds : window.Holds buf.length) {x0 x1 row : Nat} {color : UInt32}
    (ordered : x0 ≤ x1) (inRow : x1 ≤ window.bw.toNat) (row_lt : row < window.bh.toNat) :
    Returns (window.fillSpan build x0 x1 color buf row)
      (Painted window.bw.toNat (fun col y => y = row ∧ x0 ≤ col ∧ col < x1) (fun _ _ => color) buf) := by
  have start := cell_le_needed (Nat.le_trans ordered inRow) row_lt
  have stop := cell_le_needed inRow row_lt
  have room := holds.room
  have counted := holds.counted
  refine .step (Build.u32_eq_ok (Nat.lt_of_le_of_lt start counted)) ?_
  refine .step (Build.u32_eq_ok (Nat.lt_of_le_of_lt stop counted)) ?_
  exact painted_fill_span ordered inRow (Nat.le_trans stop room)

/-- The rows of a rectangle that is not empty. -/
theorem fillRows_returns (holds : window.Holds buf.length) {x0 x1 y0 y1 : Nat} {color : UInt32}
    (ordered : x0 ≤ x1) (inRow : x1 ≤ window.bw.toNat) (y1_le : y1 ≤ window.bh.toNat) :
    Returns ((List.range (y1 - y0)).foldlM
        (fun buf i => window.fillSpan build x0 x1 color buf (y0 + i)) buf)
      (Painted window.bw.toNat
        (fun col row => (y0 ≤ row ∧ row < y0 + (y1 - y0)) ∧ x0 ≤ col ∧ col < x1) (fun _ _ => color) buf) :=
  Painted.rows _ fun _ _ _ length => fillSpan_returns (length ▸ holds) ordered inRow (by omega)

theorem fillRect_returns (holds : window.Holds buf.length) {x y w h : Int} {color : UInt32}
    (x_small : Small x) (y_small : Small y) (w_small : Small w) (h_small : Small h) :
    Returns (window.fillRect build x y w h color buf)
      (Painted window.bw.toNat (window.Shown x y w h) (fun _ _ => color) buf) := by
  have wide := holds.wide
  have tall := holds.tall
  unfold Small at x_small y_small w_small h_small
  unfold fillRect
  refine .step (Build.i32_eq_ok (by omega) (by omega)) (.step (Build.i32_eq_ok (by omega) (by omega)) ?_)
  rw [asI32_eq wide, asI32_eq tall, asU32_eq (by omega) (by omega), asU32_eq (by omega) (by omega),
    asU32_eq (by omega) (by omega), asU32_eq (by omega) (by omega)]
  simp only
  split
  case isTrue empty =>
    refine ⟨buf, rfl, (Painted.none _ _ buf).congr fun col col_lt row => iff_of_false id ?_⟩
    rintro ⟨⟨left, right, top, bottom⟩, row_lt⟩
    omega
  case isFalse some =>
    refine (fillRows_returns holds (by omega) (by omega) (by omega)).mono fun drawn painted =>
      painted.congr fun col col_lt row => ?_
    unfold Shown Area
    omega

/-! ## Parts of rectangles -/

theorem cornerInset_returns {r d : Int} (r_high : r ≤ 46340) (d_low : 0 ≤ d) (d_high : d ≤ r) :
    Returns (cornerInset build r d) fun inset => 0 ≤ inset ∧ inset ≤ r := by
  obtain ⟨r, rfl⟩ := Int.eq_ofNat_of_zero_le (Int.le_trans d_low d_high)
  obtain ⟨d, rfl⟩ := Int.eq_ofNat_of_zero_le d_low
  have square : r * r ≤ 46340 * 46340 := Nat.mul_le_mul (by omega) (by omega)
  have distance : d * d ≤ r * r := Nat.mul_le_mul (by omega) (by omega)
  rw [cornerInset, ← Nat.cast_mul, ← Nat.cast_mul, Build.i32_eq_ok (by omega) (by omega), ok_bind,
    Build.i32_eq_ok (by omega) (by omega), ok_bind, Build.i32_eq_ok (by omega) (by omega), ok_bind]
  have larger : r * r < (r + 1) * (r + 1) := Nat.mul_self_lt_mul_self (Nat.lt_succ_self r)
  have root : (max ((r * r : Nat) - (d * d : Nat) : Int) 0).toNat.sqrt < r + 1 :=
    Nat.sqrt_lt.mpr (by omega)
  rw [Build.i32_eq_ok (by omega) (by omega), returns_ok]
  omega

theorem rowInset_returns {h r : Int} {dy : Nat} (h_small : Small h) (r_low : 2 ≤ r) (r_high : r ≤ 46340)
    (dy_lt : dy < h.toNat) :
    Returns (rowInset build h r dy) fun inset => 0 ≤ inset ∧ inset ≤ r := by
  unfold Small at h_small
  unfold rowInset
  split
  case isTrue upper =>
    refine .step (Build.i32_eq_ok (by omega) (by omega)) (.step (Build.i32_eq_ok (by omega) (by omega)) ?_)
    exact cornerInset_returns r_high (by omega) (by omega)
  case isFalse lower =>
    refine .step (Build.i32_eq_ok (by omega) (by omega)) ?_
    split
    case isTrue corner =>
      refine .step (Build.i32_eq_ok (by omega) (by omega)) ?_
      exact cornerInset_returns r_high (by omega) (by omega)
    case isFalse middle => exact ⟨0, rfl, by omega, by omega⟩

/-- The rows of the window that are there. A window without rows may be as wide as it says. -/
structure HoldsRows (window : Window) (room : Nat) : Prop where
  wide : 0 < window.bh.toNat → window.bw.toNat < 2 ^ 31
  counted : window.needed < 2 ^ 32
  room : window.needed ≤ room

theorem Holds.rows {room : Nat} (holds : window.Holds room) : window.HoldsRows room :=
  ⟨fun _ => holds.wide, holds.counted, holds.room⟩

theorem fillRoundedRow_tints (holds : window.HoldsRows buf.length) {x y w h r : Int} {color : UInt32}
    {dy : Nat} (x_small : Small x) (y_small : Small y) (w_small : Small w) (h_small : Small h)
    (r_low : 2 ≤ r) (r_high : r ≤ 46340) (dy_lt : dy < h.toNat) :
    Returns (window.fillRoundedRow build x y w h r color buf dy)
      (Tinted window.bw.toNat (window.Shown x y w h) color buf) := by
  have insetReturns : Returns (rowInset build h r dy) _ := rowInset_returns h_small r_low r_high dy_lt
  unfold Small at x_small y_small w_small h_small
  unfold fillRoundedRow
  refine .step (Build.i32_eq_ok (by omega) (by omega)) ?_
  split
  case isTrue => exact ⟨buf, rfl, .refl _ _ _ _⟩
  case isFalse visible =>
    obtain ⟨py_low, py_high⟩ : 0 ≤ y + dy ∧ asU32 (y + dy) < window.bh.toNat := by omega
    have wide := holds.wide (Nat.zero_lt_of_lt py_high)
    rw [asU32_eq py_low (by omega)] at py_high ⊢
    refine insetReturns.bind fun inset ⟨inset_low, inset_high⟩ => ?_
    refine .step (Build.i32_eq_ok (by omega) (by omega)) (.step (Build.i32_eq_ok (by omega) (by omega)) ?_)
    refine .step (Build.i32_eq_ok (by omega) (by omega)) ?_
    rw [asI32_eq wide, asU32_eq (by omega) (by omega), asU32_eq (by omega) (by omega)]
    simp only
    split
    case isTrue ordered =>
      have rowStart : cell window.bw.toNat 0 (y + dy).toNat < 2 ^ 32 :=
        Nat.lt_of_le_of_lt (cell_le_needed (Nat.zero_le _) py_high) holds.counted
      refine .step (Build.u32_eq_ok rowStart) ?_
      refine (painted_fill_span (Nat.le_of_lt ordered) (by omega)
        (Nat.le_trans (cell_le_needed (by omega) py_high) holds.room)).mono fun drawn painted => ?_
      refine .of_painted (by omega) painted fun col col_lt row inside => ?_
      unfold Shown Area
      omega
    case isFalse => exact ⟨buf, rfl, .refl _ _ _ _⟩

theorem fillRoundedRows_tint (holds : window.HoldsRows buf.length) {x y w h r : Int} {color : UInt32}
    (x_small : Small x) (y_small : Small y) (w_small : Small w) (h_small : Small h)
    (r_low : 2 ≤ r) (r_high : r ≤ 46340) :
    Returns ((List.range h.toNat).foldlM (window.fillRoundedRow build x y w h r color) buf)
      (Tinted window.bw.toNat (window.Shown x y w h) color buf) :=
  Tinted.foldlM fun _ length _ member =>
    fillRoundedRow_tints (length ▸ holds) x_small y_small w_small h_small r_low r_high
      (List.mem_range.mp member)

theorem fillRoundedRect_returns (holds : window.Holds buf.length) {x y w h r : Int} {color : UInt32}
    (x_small : Small x) (y_small : Small y) (w_small : Small w) (h_small : Small h)
    (r_high : r ≤ 46340) :
    Returns (window.fillRoundedRect build x y w h r color buf)
      (Confined window.bw.toNat (window.Shown x y w h) buf) := by
  unfold fillRoundedRect
  split
  case isTrue =>
    exact (fillRect_returns holds x_small y_small w_small h_small).mono
      fun drawn painted => painted.toConfined
  case isFalse round =>
    exact (fillRoundedRows_tint holds.rows x_small y_small w_small h_small (by omega) r_high).mono
      fun drawn tinted => tinted.toConfined

/-! ## Clipping -/

/-- The word at `i` is a pixel of the window and of the rectangle. -/
def ShownAt (window : Window) (x y w h : Int) (i : Nat) : Prop :=
  ∃ col row, col < window.bw.toNat ∧ row < window.bh.toNat ∧ i = row * window.bw.toNat + col ∧
    Area x y w h col row

/-- The color is at the words of the rectangle, and no other word has changed. -/
structure Clipped (window : Window) (x y w h : Int) (color : UInt32) (before after : List UInt32) :
    Prop where
  length : after.length = before.length
  inside : ∀ i, window.ShownAt x y w h i → after[i]? = some color
  outside : ∀ i, ¬ window.ShownAt x y w h i → after[i]? = before[i]?

/-- The color is at some words of the rectangle, and no other word has changed. -/
structure ClippedWithin (window : Window) (x y w h : Int) (color : UInt32)
    (before after : List UInt32) : Prop where
  length : after.length = before.length
  each : ∀ i, after[i]? = before[i]? ∨ window.ShownAt x y w h i ∧ after[i]? = some color

theorem Clipped.within {x y w h : Int} {color : UInt32} {before after : List UInt32}
    (clipped : window.Clipped x y w h color before after) :
    window.ClippedWithin x y w h color before after where
  length := clipped.length
  each := fun i => by
    by_cases shown : window.ShownAt x y w h i
    · exact .inr ⟨shown, clipped.inside i shown⟩
    · exact .inl (clipped.outside i shown)

theorem clipped_of_painted {x y w h : Int} {color : UInt32} {before after : List UInt32}
    (wide : 0 < window.bw.toNat)
    (painted : Painted window.bw.toNat (window.Shown x y w h) (fun _ _ => color) before after) :
    window.Clipped x y w h color before after where
  length := painted.length
  inside := by
    rintro _ ⟨col, row, col_lt, row_lt, rfl, area⟩
    exact painted.inside col col_lt row ⟨area, row_lt⟩
  outside := fun i apart => by
    have col_lt : i % window.bw.toNat < window.bw.toNat := Nat.mod_lt i wide
    have place := cell_div_mod window.bw.toNat i
    have kept := painted.outside _ col_lt (i / window.bw.toNat) fun shown =>
      apart ⟨_, _, col_lt, shown.2, place.symm, shown.1⟩
    rwa [place] at kept

theorem clippedWithin_of_tinted {x y w h : Int} {color : UInt32} {before after : List UInt32}
    (tinted : Tinted window.bw.toNat (window.Shown x y w h) color before after) :
    window.ClippedWithin x y w h color before after where
  length := tinted.length
  each := fun i => (tinted.each i).imp_right fun ⟨⟨col, row, col_lt, shown, place⟩, drawn⟩ =>
    ⟨⟨col, row, col_lt, shown.2, place, shown.1⟩, drawn⟩

theorem clipped_hidden (hidden : window.bw.toNat = 0 ∨ window.bh.toNat = 0) (x y w h : Int)
    (color : UInt32) (buf : List UInt32) : window.Clipped x y w h color buf buf where
  length := rfl
  inside := by
    rintro i ⟨col, row, col_lt, row_lt, _⟩
    omega
  outside := fun _ _ => rfl

/-- Nothing is painted in a window without pixels. -/
theorem fillRect_hidden (hidden : window.bw.toNat = 0 ∨ window.bh.toNat = 0) {x y w h : Int}
    {color : UInt32} (x_small : Small x) (y_small : Small y) (w_small : Small w) (h_small : Small h) :
    window.fillRect build x y w h color buf = .ok buf := by
  unfold Small at x_small y_small w_small h_small
  have none (value : Int) : asU32 (min (max value 0) (asI32 0)) = 0 := by
    rw [asI32_eq (by decide), asU32_eq (by omega) (by omega)]
    omega
  unfold fillRect
  rw [Build.i32_eq_ok (by omega) (by omega), ok_bind, Build.i32_eq_ok (by omega) (by omega), ok_bind]
  simp only
  refine if_pos ?_
  rcases hidden with narrow | flat
  · left
    rw [narrow, none]
    exact Nat.zero_le _
  · right
    rw [flat, none]
    exact Nat.zero_le _

theorem fillRect_clips (counted : window.needed < 2 ^ 31) (room : window.needed ≤ buf.length)
    {x y w h : Int} {color : UInt32} (x_small : Small x) (y_small : Small y) (w_small : Small w)
    (h_small : Small h) :
    Returns (window.fillRect build x y w h color buf) (window.Clipped x y w h color buf) := by
  by_cases hidden : window.bw.toNat = 0 ∨ window.bh.toNat = 0
  · refine ⟨buf, fillRect_hidden hidden x_small y_small w_small h_small, ?_⟩
    exact clipped_hidden hidden x y w h color buf
  · obtain ⟨wide, tall⟩ := not_or.mp hidden
    have columns : window.bw.toNat ≤ window.needed := Nat.le_mul_of_pos_right _ (Nat.pos_of_ne_zero tall)
    have rows : window.bh.toNat ≤ window.needed := Nat.le_mul_of_pos_left _ (Nat.pos_of_ne_zero wide)
    have holds : window.Holds buf.length := ⟨by omega, by omega, by omega, room⟩
    exact (fillRect_returns holds x_small y_small w_small h_small).mono fun drawn painted =>
      clipped_of_painted (Nat.pos_of_ne_zero wide) painted

theorem fillRoundedRect_clips (counted : window.needed < 2 ^ 31) (room : window.needed ≤ buf.length)
    {x y w h r : Int} {color : UInt32} (x_small : Small x) (y_small : Small y) (w_small : Small w)
    (h_small : Small h) (r_high : r ≤ 46340) :
    Returns (window.fillRoundedRect build x y w h r color buf)
      (window.ClippedWithin x y w h color buf) := by
  unfold fillRoundedRect
  split
  case isTrue =>
    exact (fillRect_clips counted room x_small y_small w_small h_small).mono fun drawn clipped =>
      clipped.within
  case isFalse round =>
    have holds : window.HoldsRows buf.length := by
      refine ⟨fun tall => ?_, by omega, room⟩
      have columns : window.bw.toNat ≤ window.needed := Nat.le_mul_of_pos_right _ tall
      omega
    exact (fillRoundedRows_tint holds x_small y_small w_small h_small (by omega) r_high).mono
      fun drawn tinted => clippedWithin_of_tinted tinted

/-- Rectangles are clipped to the window: a plain one is painted wholly, one with rounded corners
in part, and no index is out of range. -/
theorem rectangles_clipped (build : Build) (window : Window) (buf : List UInt32) (x y w h r : Int)
    (color : UInt32) (counted : window.needed < 2 ^ 31) (room : window.needed ≤ buf.length)
    (x_small : x.natAbs ≤ 2 ^ 29) (y_small : y.natAbs ≤ 2 ^ 29) (w_small : w.natAbs ≤ 2 ^ 29)
    (h_small : h.natAbs ≤ 2 ^ 29) (r_high : r ≤ 46340) :
    Returns (window.fillRect build x y w h color buf) (window.Clipped x y w h color buf) ∧
      Returns (window.fillRoundedRect build x y w h r color buf)
        (window.ClippedWithin x y w h color buf) :=
  ⟨fillRect_clips counted room (small_of_natAbs x_small) (small_of_natAbs y_small)
      (small_of_natAbs w_small) (small_of_natAbs h_small),
    fillRoundedRect_clips counted room (small_of_natAbs x_small) (small_of_natAbs y_small)
      (small_of_natAbs w_small) (small_of_natAbs h_small) r_high⟩

/-- A rectangle with corners of more than half its height, partly left of a window of two pixels. -/
theorem rectangles_clipped_corner :
    Returns (Window.fillRect ⟨2, 1⟩ ⟨true⟩ (-1) 0 2 1 7 [0, 0, 0])
        (Window.Clipped ⟨2, 1⟩ (-1) 0 2 1 7 [0, 0, 0]) ∧
      Returns (Window.fillRoundedRect ⟨2, 1⟩ ⟨true⟩ (-1) 0 2 1 3 7 [0, 0, 0])
        (Window.ClippedWithin ⟨2, 1⟩ (-1) 0 2 1 7 [0, 0, 0]) :=
  rectangles_clipped ⟨true⟩ ⟨2, 1⟩ [0, 0, 0] (-1) 0 2 1 3 7 (by decide) (by decide) (by decide)
    (by decide) (by decide) (by decide) (by decide)

/-! ## Text -/

theorem drawGlyphPixel_returns (holds : window.Holds buf.length) {penX : Int} {py col : Nat}
    {bits : UInt8} {color : UInt32} (pen_small : Small penX) (py_lt : py < window.bh.toNat)
    (col_lt : col < 8) :
    Returns (window.drawGlyphPixel build penX py bits color buf col)
      (Confined window.bw.toNat (window.Shown penX py 8 1) buf) := by
  have wide := holds.wide
  unfold Small at pen_small
  unfold drawGlyphPixel
  split
  case isTrue =>
    refine .step (Build.i32_eq_ok (by omega) (by omega)) ?_
    split
    case isTrue visible =>
      obtain ⟨px_low, px_high⟩ := visible
      rw [asU32_eq px_low (by omega)] at px_high ⊢
      have inside : cell window.bw.toNat (penX + col).toNat py < window.needed :=
        cell_le_needed px_high py_lt
      refine .step (Build.u32_eq_ok (Nat.lt_trans inside holds.counted)) ?_
      refine (painted_set px_high (Nat.lt_of_lt_of_le inside holds.room)).mono fun drawn painted => ?_
      refine painted.toConfined.mono fun other other_lt row here => ?_
      unfold Shown Area
      omega
    case isFalse => exact ⟨buf, rfl, .refl _ _ _⟩
  case isFalse => exact ⟨buf, rfl, .refl _ _ _⟩

theorem drawGlyphRow_returns (holds : window.Holds buf.length) {penX y : Int} {glyph : Glyph}
    {color : UInt32} (pen_small : Small penX) (y_small : Small y) (row : Fin 8) :
    Returns (window.drawGlyphRow build penX y glyph color buf row)
      (Confined window.bw.toNat (window.Shown penX (y + 3) 8 8) buf) := by
  have tall := holds.tall
  have row_lt := row.isLt
  unfold Small at y_small
  unfold drawGlyphRow
  refine .step (Build.i32_eq_ok (by omega) (by omega)) (.step (Build.i32_eq_ok (by omega) (by omega)) ?_)
  split
  case isTrue => exact ⟨buf, rfl, .refl _ _ _⟩
  case isFalse visible =>
    obtain ⟨py_low, py_high⟩ : 0 ≤ y + 3 + row ∧ asU32 (y + 3 + row) < window.bh.toNat := by omega
    rw [asU32_eq py_low (by omega)] at py_high ⊢
    refine Confined.foldlM fun canvas length col member => ?_
    have col_lt : col < 8 := List.mem_range.mp member
    refine (drawGlyphPixel_returns (length ▸ holds) pen_small py_high col_lt).mono fun _ confined => ?_
    refine confined.mono fun other other_lt line here => ?_
    unfold Shown Area at here ⊢
    omega

theorem drawGlyph_returns (holds : window.Holds buf.length) {penX y : Int} {glyph : Glyph}
    {color : UInt32} (pen_small : Small penX) (y_small : Small y) :
    Returns (window.drawGlyph build penX y glyph color buf)
      (Confined window.bw.toNat (window.Shown penX (y + 3) 8 8) buf) :=
  Confined.foldlM fun _ length row _ => drawGlyphRow_returns (length ▸ holds) pen_small y_small row

/-- The pen stays between the left edge and the limit, so the glyphs do. -/
theorem drawChars_returns (holds : window.Holds buf.length) {font : BasicFonts} {x y maxW : Int}
    {color : UInt32} (x_small : Small x) (y_small : Small y) (end_small : Small (x + maxW)) {chars : List Char} {penX : Int} (pen_low : x ≤ penX)
    (pen_high : penX ≤ x + maxW) :
    Returns (window.drawChars build font x y color maxW chars penX buf) fun drawn =>
      Confined window.bw.toNat (window.Shown x (y + 3) maxW 8) buf drawn.1 ∧
        x ≤ drawn.2 ∧ drawn.2 ≤ x + maxW := by
  unfold Small at x_small end_small
  induction chars generalizing penX buf with
  | nil => exact ⟨_, rfl, .refl _ _ _, pen_low, pen_high⟩
  | cons ch rest ih =>
      unfold drawChars
      refine .step (Build.i32_eq_ok (by omega) (by omega)) ?_
      refine .step (Build.i32_eq_ok (by omega) (by omega)) ?_
      split
      case isTrue => exact ⟨_, rfl, .refl _ _ _, pen_low, pen_high⟩
      case isFalse room =>
        refine (drawGlyph_returns holds (by unfold Small; omega) y_small).bind fun drawn confined => ?_
        refine .step (Build.i32_eq_ok (by omega) (by omega)) ?_
        refine (ih (confined.length ▸ holds) (by omega) (by omega)).mono ?_
        rintro ⟨final, penEnd⟩ ⟨later, pen⟩
        refine ⟨Confined.trans (confined.mono fun col _ row here => ?_) later, pen⟩
        unfold Shown Area at here ⊢
        omega

theorem drawText_returns (holds : window.Holds buf.length) {font : BasicFonts} {x y maxW : Int}
    {color : UInt32} {text : String} (x_small : Small x) (y_small : Small y) (max_low : 0 ≤ maxW)
    (end_small : Small (x + maxW)) :
    Returns (window.drawText build font x y color text maxW buf) fun drawn =>
      Confined window.bw.toNat (window.Shown x (y + 3) maxW 8) buf drawn.1 ∧
        0 ≤ drawn.2 ∧ drawn.2 ≤ maxW := by
  refine (drawChars_returns holds x_small y_small end_small (Int.le_refl x) (by omega)).bind ?_
  rintro ⟨drawn, penX⟩ ⟨confined, pen_low, pen_high⟩
  unfold Small at x_small end_small
  refine .step (Build.i32_eq_ok (by omega) (by omega)) ?_
  exact ⟨_, rfl, confined, by omega, by omega⟩

end Window

end ExoBrowser.Client
