import ExoBrowser.Proto.PixelsProperties

/-!
# Half resolution

What halving a picture, and enlarging it again, make of the channels of its pixels.
-/

set_option autoImplicit false

namespace ExoBrowser.Proto

open Library

/-! ## Channels -/

/-- A channel of a pixel, by column, row and channel. -/
abbrev Channels := Nat → Nat → Nat → UInt8

/-- The first `count` pixels of a picture that is `w` pixels wide. -/
def Draws (w count : Nat) (value : Channels) (pixels : Bytes) : Prop :=
  ∀ i < count, ∀ c < 4, pixels[i * 4 + c]? = some (value (i % w) (i / w) c)

/-- A row of `w` pixels. -/
structure DrawsRow (w : Nat) (value : Nat → Nat → UInt8) (row : Bytes) : Prop where
  length : row.length = w * 4
  pixels : ∀ x < w, ∀ c < 4, row[x * 4 + c]? = some (value x c)

/-- The mean of the pixels at the four corners, which is opaque. -/
def mean (value : Channels) (x0 x1 y0 y1 : Nat) (c : Nat) : UInt8 :=
  if c = 3 then 0xFF
  else boxAverage (value x0 y0 c) (value x1 y0 c) (value x0 y1 c) (value x1 y1 c)

def halved (w h : Nat) (value : Channels) : Channels := fun qx qy =>
  mean value (qx * 2) (min (qx * 2 + 1) (w - 1)) (qy * 2) (min (qy * 2 + 1) (h - 1))

def enlarged (w h : Nat) (value : Channels) : Channels := fun x y =>
  let qw := (w + 1) / 2
  let qh := (h + 1) / 2
  let qx0 := min (x / 2) (qw - 1)
  let qy0 := min (y / 2) (qh - 1)
  mean value qx0 (min (qx0 + x % 2) (qw - 1)) qy0 (min (qy0 + y % 2) (qh - 1))

variable {target : Target} {w h : Nat} {value : Channels}

theorem div_row {width col row : Nat} (col_lt : col < width) : (row * width + col) / width = row := by
  rw [Nat.mul_comm, Nat.mul_add_div (by omega), Nat.div_eq_of_lt col_lt, Nat.add_zero]

theorem Draws.pixel {count col row c : Nat} {pixels : Bytes} (draws : Draws w count value pixels)
    (col_lt : col < w) (inside : row * w + col < count) (c_lt : c < 4) :
    pixels[(row * w + col) * 4 + c]? = some (value col row c) := by
  have drawn := draws (row * w + col) inside c c_lt
  rwa [Nat.mul_add_mod_of_lt col_lt, div_row col_lt] at drawn

theorem Draws.zero (w : Nat) (value : Channels) (pixels : Bytes) : Draws w 0 value pixels :=
  fun _ none_lt => absurd none_lt (Nat.not_lt_zero _)

/-- The channels of a picture without gaps between its rows. -/
def channelsOf (w : Nat) (pixels : Bytes) : Channels := fun x y c => pixels.getD ((y * w + x) * 4 + c) 0

theorem draws_channelsOf {pixels : Bytes} (length : pixels.length = h * w * 4) :
    Draws w (h * w) (channelsOf w pixels) pixels := by
  intro i i_lt c c_lt
  have inside : i * 4 + c < pixels.length := by omega
  rw [channelsOf, Nat.div_add_mod', List.getD_eq_getElem?_getD, List.getElem?_eq_getElem inside,
    Option.getD_some]

/-- One more pixel at the end. -/
theorem Draws.append {count : Nat} {pixels pixel : Bytes} (draws : Draws w count value pixels)
    (length : pixels.length = count * 4)
    (drawn : ∀ c < 4, pixel[c]? = some (value (count % w) (count / w) c)) :
    Draws w (count + 1) value (pixels ++ pixel) := by
  intro i i_lt c c_lt
  rcases Nat.lt_succ_iff_lt_or_eq.mp i_lt with before | rfl
  · rw [List.getElem?_append_left (by omega)]
    exact draws i before c c_lt
  · rw [List.getElem?_append_right (by omega), length, Nat.add_sub_cancel_left]
    exact drawn c c_lt

theorem Draws.row {pixels : Bytes} {y : Nat} (draws : Draws w (h * w) value pixels)
    (length : pixels.length = h * w * 4) (y_lt : y < h) (small : pixels.length ≤ target.usizeMax) :
    Checked.Returns (rowSlice target pixels y (w * 4)) (DrawsRow w fun x => value x y) := by
  have inside : (y + 1) * w ≤ h * w := Nat.mul_le_mul_right w y_lt
  rw [Nat.succ_mul] at inside
  have assoc : y * (w * 4) = y * w * 4 := (Nat.mul_assoc y w 4).symm
  refine ⟨_, rowSlice_eq_ok (by omega) small, ?_, fun x x_lt c c_lt => ?_⟩
  · rw [List.length_take_of_le]
    rw [List.length_drop]
    omega
  · rw [List.getElem?_take_of_lt (by omega), List.getElem?_drop]
    have shift : y * (w * 4) + (x * 4 + c) = (y * w + x) * 4 + c := by
      rw [assoc]
      ring
    rw [shift]
    exact draws.pixel x_lt (by omega) c_lt

theorem averagedPixel_draws {row0 row1 : Bytes} {above below : Nat → Nat → UInt8} {x0 x1 : Nat}
    (first : DrawsRow w above row0) (second : DrawsRow w below row1) (x0_lt : x0 < w)
    (x1_lt : x1 < w) (small : w * 4 ≤ target.usizeMax) :
    Checked.Returns (averagedPixel target row0 row1 x0 x1) fun pixel =>
      pixel.length = 4 ∧ ∀ c < 4, pixel[c]? = some (if c = 3 then 0xFF
        else boxAverage (above x0 c) (above x1 c) (below x0 c) (below x1 c)) := by
  have corner {row : Bytes} {channel : Nat → Nat → UInt8} {x : Nat} (drawn : DrawsRow w channel row)
      (x_lt : x < w) : Checked.Returns (rowSlice target row x 4) fun pixel =>
        ∀ c < 4, pixel[c]? = some (channel x c) := by
    have length := drawn.length
    refine ⟨_, rowSlice_eq_ok (by omega) (by omega), fun c c_lt => ?_⟩
    rw [List.getElem?_take_of_lt c_lt, List.getElem?_drop]
    exact drawn.pixels x x_lt c c_lt
  unfold averagedPixel
  refine (corner first x0_lt).bind fun p00 p00_eq => (corner first x1_lt).bind fun p10 p10_eq => ?_
  refine (corner second x0_lt).bind fun p01 p01_eq => (corner second x1_lt).bind fun p11 p11_eq => ?_
  have channel (c : Nat) (c_lt : c < 4) : (do
      return boxAverage (← Checked.index p00 c) (← Checked.index p10 c) (← Checked.index p01 c)
        (← Checked.index p11 c) : Checked Error UInt8) =
        .ok (boxAverage (above x0 c) (above x1 c) (below x0 c) (below x1 c)) := by
    rw [Checked.index_eq_ok (p00_eq c c_lt), Checked.index_eq_ok (p10_eq c c_lt),
      Checked.index_eq_ok (p01_eq c c_lt), Checked.index_eq_ok (p11_eq c c_lt)]
    rfl
  refine .step (channel 0 (by decide)) (.step (channel 1 (by decide))
    (.step (channel 2 (by decide)) ⟨_, rfl, rfl, fun c c_lt => ?_⟩))
  match c, c_lt with
  | 0, _ | 1, _ | 2, _ | 3, _ => rfl

/-! ## Halving -/

theorem downsample2x2Bgra_draws {src : Bytes} (w_pos : 0 < w) (h_pos : 0 < h)
    (drawn : Draws w (h * w) value src) (length : src.length = h * w * 4)
    (small : src.length ≤ target.usizeMax) :
    Checked.Returns (downsample2x2Bgra target src w h) fun down =>
      down.length = (h + 1) / 2 * ((w + 1) / 2) * 4 ∧
        Draws ((w + 1) / 2) ((h + 1) / 2 * ((w + 1) / 2)) (halved w h value) down := by
  have half_le : (w + 1) / 2 * ((h + 1) / 2) ≤ h * w := by
    rw [Nat.mul_comm h w]
    exact Nat.mul_le_mul (by omega) (by omega)
  have w_le : w ≤ h * w := Nat.le_mul_of_pos_left w h_pos
  unfold downsample2x2Bgra
  refine .step (target.mul_of_le (by omega)) (.step (target.mul_of_le (by omega))
    (.step (target.mul_of_le (by omega)) ?_))
  refine Checked.Returns.foldlM_range (fun n (down : Bytes) => down.length = n * ((w + 1) / 2) * 4 ∧
    Draws ((w + 1) / 2) (n * ((w + 1) / 2)) (halved w h value) down) ((h + 1) / 2)
    (fun qy qy_lt out filled => ?_) ⟨by rw [Nat.zero_mul]; rfl, by rw [Nat.zero_mul]; exact .zero _ _ _⟩
  have above_lt : qy * 2 < h := by omega
  have below_lt : min (qy * 2 + 1) (h - 1) < h := by omega
  refine (drawn.row length above_lt (by omega)).bind fun row0 above => ?_
  refine (drawn.row length below_lt (by omega)).bind fun row1 below => ?_
  rw [Nat.succ_mul]
  refine Checked.Returns.foldlM_range (fun k (down : Bytes) =>
    down.length = (qy * ((w + 1) / 2) + k) * 4 ∧
      Draws ((w + 1) / 2) (qy * ((w + 1) / 2) + k) (halved w h value) down) ((w + 1) / 2)
    (fun qx qx_lt down drawnHalf => ?_) filled
  have left_lt : qx * 2 < w := by omega
  have right_lt : min (qx * 2 + 1) (w - 1) < w := by omega
  refine (averagedPixel_draws above below left_lt right_lt (by omega)).bind
    fun pixel averaged => ⟨_, rfl, ?_, ?_⟩
  · rw [List.length_append, drawnHalf.1, averaged.1]
    ring
  · refine drawnHalf.2.append drawnHalf.1 fun c c_lt => ?_
    rw [Nat.mul_add_mod_of_lt qx_lt, div_row qx_lt]
    exact averaged.2 c c_lt

/-! ## Enlarging -/

/-- A row between two rows of the half picture. -/
def enlargedRow (w : Nat) (above below : Nat → Nat → UInt8) (x c : Nat) : UInt8 :=
  let qx0 := min (x / 2) ((w + 1) / 2 - 1)
  let qx1 := min (qx0 + x % 2) ((w + 1) / 2 - 1)
  if c = 3 then 0xFF else boxAverage (above qx0 c) (above qx1 c) (below qx0 c) (below qx1 c)

theorem upsampleRow_draws {qrow0 qrow1 drow : Bytes} {above below : Nat → Nat → UInt8}
    (w_pos : 0 < w) (first : DrawsRow ((w + 1) / 2) above qrow0)
    (second : DrawsRow ((w + 1) / 2) below qrow1) (length : drow.length = w * 4)
    (small : w * 4 ≤ target.usizeMax) :
    Checked.Returns (upsampleRow target qrow0 qrow1 w ((w + 1) / 2) drow)
      (DrawsRow w (enlargedRow w above below)) := by
  suffices filled : Checked.Returns (upsampleRow target qrow0 qrow1 w ((w + 1) / 2) drow) fun row =>
      row.length = w * 4 ∧ ∀ x < w, ∀ c < 4,
        row[x * 4 + c]? = some (enlargedRow w above below x c) by
    obtain ⟨row, result, row_length, pixels⟩ := filled
    exact ⟨row, result, row_length, pixels⟩
  refine Checked.Returns.foldlM_range (fun k (row : Bytes) => row.length = w * 4 ∧
    ∀ x < k, ∀ c < 4, row[x * 4 + c]? = some (enlargedRow w above below x c)) w (fun x x_lt row drawn => ?_)
    ⟨length, fun _ none_lt => absurd none_lt (Nat.not_lt_zero _)⟩
  have left_lt : min (x / 2) ((w + 1) / 2 - 1) < (w + 1) / 2 := by omega
  have right_lt : min (min (x / 2) ((w + 1) / 2 - 1) + x % 2) ((w + 1) / 2 - 1) < (w + 1) / 2 := by
    omega
  refine (averagedPixel_draws first second left_lt right_lt (by omega)).bind fun pixel averaged => ?_
  refine .step (target.mul_of_le (by omega)) ?_
  have fits : x * 4 + pixel.length ≤ row.length := by omega
  refine ⟨_, Checked.overwrite_eq_ok fits, ?_, fun other other_lt c c_lt => ?_⟩
  · simp only [List.length_append, List.length_take, List.length_drop]
    omega
  · rw [Checked.getElem?_overwrite fits, averaged.1]
    rcases Nat.lt_succ_iff_lt_or_eq.mp other_lt with before | rfl
    · rw [if_neg (by omega)]
      exact drawn.2 other before c c_lt
    · rw [if_pos (by omega), Nat.add_sub_cancel_left]
      exact averaged.2 c c_lt

theorem upsample2x2Bgra_draws {qsrc : Bytes} (w_pos : 0 < w) (h_pos : 0 < h)
    (drawn : Draws ((w + 1) / 2) ((h + 1) / 2 * ((w + 1) / 2)) value qsrc)
    (length : qsrc.length = (h + 1) / 2 * ((w + 1) / 2) * 4) (small : h * w * 4 ≤ target.usizeMax) :
    Checked.Returns (upsample2x2Bgra target qsrc w h) fun out =>
      out.length = h * w * 4 ∧ Draws w (h * w) (enlarged w h value) out := by
  have half_le : (h + 1) / 2 * ((w + 1) / 2) ≤ h * w := Nat.mul_le_mul (by omega) (by omega)
  have w_le : w ≤ h * w := Nat.le_mul_of_pos_left w h_pos
  have commuted : w * h = h * w := Nat.mul_comm w h
  have commutedHalf : (w + 1) / 2 * ((h + 1) / 2) = (h + 1) / 2 * ((w + 1) / 2) := Nat.mul_comm _ _
  unfold upsample2x2Bgra
  refine .step (target.mul_of_le (by omega)) (.step (target.mul_of_le (by omega)) ?_)
  rw [if_neg (by omega)]
  refine .step (target.mul_of_le (by omega)) (.step (target.mul_of_le (by omega)) ?_)
  rw [if_neg (by omega)]
  refine .step (target.mul_of_le (by omega)) (.step (target.mul_of_le (by omega)) ?_)
  refine Checked.Returns.foldlM_range (fun n (out : Bytes) => out.length = h * w * 4 ∧
    Draws w (n * w) (enlarged w h value) out) h (fun y y_lt out state => ?_)
    ⟨by rw [List.length_replicate, commuted], by rw [Nat.zero_mul]; exact .zero _ _ _⟩
  obtain ⟨out_length, done⟩ := state
  have inside : (y + 1) * w ≤ h * w := Nat.mul_le_mul_right w y_lt
  rw [Nat.succ_mul] at inside
  have assoc : y * (w * 4) = y * w * 4 := (Nat.mul_assoc y w 4).symm
  have above_lt : min (y / 2) ((h + 1) / 2 - 1) < (h + 1) / 2 := by omega
  have below_lt : min (min (y / 2) ((h + 1) / 2 - 1) + y % 2) ((h + 1) / 2 - 1) < (h + 1) / 2 := by
    omega
  refine (drawn.row length above_lt (by omega)).bind fun qrow0 above => ?_
  refine (drawn.row length below_lt (by omega)).bind fun qrow1 below => ?_
  refine (rowSlice_returns (by omega) (by omega)).bind fun drow drow_length => ?_
  refine (upsampleRow_draws w_pos above below drow_length (by omega)).bind fun row drawnRow => ?_
  have row_length := drawnRow.length
  have fits : y * (w * 4) + row.length ≤ out.length := by omega
  refine ⟨_, Checked.overwrite_eq_ok fits, ?_, fun i i_lt c c_lt => ?_⟩
  · simp only [List.length_append, List.length_take, List.length_drop]
    omega
  · rw [Checked.getElem?_overwrite fits, row_length]
    rw [Nat.succ_mul] at i_lt
    by_cases before : i < y * w
    · rw [if_neg (by omega)]
      exact done i before c c_lt
    · obtain ⟨x, rfl⟩ := Nat.exists_eq_add_of_le (Nat.not_lt.mp before)
      have x_lt : x < w := by omega
      have shift : (y * w + x) * 4 + c - y * (w * 4) = x * 4 + c := by omega
      rw [if_pos (by omega), shift, Nat.mul_add_mod_of_lt x_lt, div_row x_lt]
      exact drawnRow.pixels x x_lt c c_lt

end ExoBrowser.Proto
