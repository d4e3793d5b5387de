import ExoBrowser.Host.Frame
import ExoBrowser.Web.FramingProperties
import ExoBrowser.Web.Page

/-!
# Images on the page

What the script makes of the pixels of an image, whose rows may be longer than the image is wide.
-/

set_option autoImplicit false

namespace ExoBrowser.Web

open Library Proto Host

/-! ## Pixels -/

/-- Red, green and blue of a pixel that is sent as blue, green and red. -/
def shade (pixel : Bytes) : UInt32 := word (pixel.getD 2 0) (pixel.getD 1 0) (pixel.getD 0 0) 255

theorem swapPixel_word (blue green red alpha : UInt8) :
    swapPixel (word blue green red alpha) = word red green blue 255 := by
  apply UInt32.toBitVec_inj.mp
  simp only [swapPixel, word, UInt32.toBitVec_or, UInt32.toBitVec_and, UInt32.toBitVec_shiftLeft,
    UInt32.toBitVec_shiftRight, UInt8.toBitVec_toUInt32]
  apply BitVec.eq_of_getLsbD_eq
  intro i inside
  interval_cases i <;> simp

theorem length_toWords {words : Nat} {bytes : Bytes} (length : bytes.length = 4 * words) :
    (toWords bytes).length = words := by
  induction words generalizing bytes with
  | zero =>
      cases List.eq_nil_of_length_eq_zero length
      rfl
  | succ words ih =>
      match bytes, length with
      | first :: second :: third :: fourth :: rest, length =>
          simp only [toWords, List.length_cons] at length ⊢
          rw [ih (by omega)]

theorem getElem?_toWords {words position : Nat} {bytes : Bytes} (length : bytes.length = 4 * words)
    (inside : position < words) :
    let pixel := (bytes.drop (4 * position)).take 4
    (toWords bytes)[position]? =
      some (word (pixel.getD 0 0) (pixel.getD 1 0) (pixel.getD 2 0) (pixel.getD 3 0)) := by
  induction words generalizing bytes position with
  | zero => exact absurd inside (Nat.not_lt_zero _)
  | succ words ih =>
      match bytes, length with
      | first :: second :: third :: fourth :: rest, length =>
          cases position with
          | zero => simp [toWords]
          | succ position =>
              simp only [List.length_cons] at length
              exact @ih position rest (by omega) (Nat.lt_of_succ_lt_succ inside)

/-! ## Rows -/

/-- The image that is sent, without what its rows have behind their pixels. -/
def sentImage (w h stride : Nat) (pixels : Bytes) : Image where
  width := w
  height := h
  pixel := fun col row => if col < w ∧ row < h then shade (pixelAt pixels stride col row) else 0

section Rows

variable {raw : Bytes} {w h stride : Nat}

theorem subarray_nat {bytes : Bytes} {start length : Nat} (inside : start + length ≤ bytes.length) :
    subarray bytes start ↑(start + length) = (bytes.drop start).take length := by
  have taken : ((bytes.drop start).take length).length = length := by
    rw [List.length_take, List.length_drop]
    omega
  have part := @subarray_eq bytes ((bytes.drop start).take length) ((bytes.drop start).drop length) start
    (List.take_append_drop _ _).symm (by rw [taken]; exact inside)
  rwa [taken] at part

theorem pixelAt_front {front rest out : Bytes} {n col row : Nat} (col_lt : col < w) (row_lt : row < n)
    (front_eq : front = out.take (n * (w * 4))) (long : n * (w * 4) ≤ out.length) :
    pixelAt (front ++ rest) (w * 4) col row = pixelAt out (w * 4) col row := by
  have rowEnd : (row + 1) * (w * 4) ≤ n * (w * 4) := Nat.mul_le_mul_right _ row_lt
  rw [Nat.succ_mul] at rowEnd
  have front_length : front.length = n * (w * 4) := by
    rw [front_eq, List.length_take, Nat.min_eq_left long]
  unfold pixelAt
  rw [List.drop_append_of_le_length (by omega), List.take_append_of_le_length
    (by rw [List.length_drop]; omega), front_eq, List.drop_take, List.take_take, Nat.min_eq_left (by omega)]

theorem pixelAt_row {front row rest : Bytes} {n col : Nat} (col_lt : col < w)
    (front_length : front.length = n * (w * 4)) (row_length : row.length = w * 4) :
    pixelAt (front ++ row ++ rest) (w * 4) col n = (row.drop (4 * col)).take 4 := by
  unfold pixelAt
  rw [← front_length, ← List.drop_drop, List.append_assoc, List.drop_left,
    List.drop_append_of_le_length (by omega), List.take_append_of_le_length]
  rw [List.length_drop]
  omega

/-- The rows before `n` are in place. -/
structure Filled (raw : Bytes) (w h stride n : Nat) (out : Bytes) : Prop where
  length : out.length = w * h * 4
  pixels : ∀ col < w, ∀ row < n, pixelAt out (w * 4) col row = pixelAt raw stride col row

theorem filled_row {n : Nat} {out : Bytes} (wide : w * 4 ≤ stride) (whole : stride * h ≤ raw.length)
    (inside : n < h) (filled : Filled raw w h stride n out) :
    Checked.Returns (ε := Empty)
      (Checked.overwrite out (n * (w * 4)) (subarray raw ↑(n * stride) ↑(n * stride + w * 4)))
      (Filled raw w h stride (n + 1)) := by
  have source : n * stride + w * 4 ≤ raw.length := by
    have rows := Nat.mul_le_mul_right stride inside
    rw [Nat.succ_mul, Nat.mul_comm h] at rows
    omega
  have room : n * (w * 4) + w * 4 ≤ out.length := by
    have rows := Nat.mul_le_mul_right (w * 4) inside
    have total : h * (w * 4) = w * h * 4 := by ring
    rw [Nat.succ_mul, total] at rows
    rw [filled.length]
    exact rows
  have row_length : ((raw.drop (n * stride)).take (w * 4)).length = w * 4 := by
    rw [List.length_take, List.length_drop]
    omega
  rw [subarray_nat source, Checked.overwrite_eq_ok (by rw [row_length]; exact room), row_length]
  have front_length : (out.take (n * (w * 4))).length = n * (w * 4) := List.length_take_of_le (by omega)
  refine ⟨_, rfl, ?_, fun col col_lt row row_lt => ?_⟩
  · rw [List.length_append, List.length_append, front_length, row_length, List.length_drop, ← filled.length]
    omega
  · rcases Nat.lt_succ_iff_lt_or_eq.mp row_lt with before | rfl
    · rw [List.append_assoc, pixelAt_front col_lt before rfl (by omega)]
      exact filled.pixels col col_lt row before
    · rw [pixelAt_row col_lt front_length row_length, List.drop_take, List.take_take, List.drop_drop,
        Nat.min_eq_left (by omega)]
      rfl

theorem pixelBytes_returns (wide : w * 4 ≤ stride) (whole : stride * h ≤ raw.length) :
    Checked.Returns (pixelBytes raw w h stride) (Filled raw w h stride h) := by
  unfold pixelBytes
  simp only
  split
  case isTrue tight =>
    have total : w * h * 4 ≤ raw.length := by
      calc w * h * 4 = stride * h := by rw [tight]; ring
        _ ≤ raw.length := whole
    have part : subarray raw 0 ↑(w * h * 4) = raw.take (w * h * 4) := by
      have part := @subarray_nat raw 0 (w * h * 4) (by omega)
      rwa [Nat.zero_add, List.drop_zero] at part
    have taken : (raw.take (w * h * 4)).length = w * h * 4 := List.length_take_of_le total
    rw [part, Checked.overwrite_eq_ok (by rw [taken, List.length_replicate]; omega), taken]
    refine ⟨_, rfl, by simp [taken], fun col col_lt row row_lt => ?_⟩
    have last : raw.take (w * h * 4) = raw.take (h * (w * 4)) := by
      congr 1
      ring
    rw [List.take_zero, List.nil_append, tight]
    exact pixelAt_front col_lt row_lt last (by calc h * (w * 4) = w * h * 4 := by ring
      _ ≤ raw.length := total)
  case isFalse =>
    refine Checked.Returns.foldlM_range (Filled raw w h stride) h (fun n inside out filled =>
      filled_row wide whole inside filled) ?_
    exact ⟨List.length_replicate, fun _ _ _ none => absurd none (Nat.not_lt_zero _)⟩

/-- The pixels of an image that is not empty become its picture. -/
theorem imageData_filled {out : Bytes} (filled : Filled raw w h stride h out) (w_pos : 0 < w) (h_pos : 0 < h) :
    imageData out w h = .ok (sentImage w h stride raw) := by
  have length : out.length = 4 * (w * h) := by rw [filled.length, Nat.mul_comm]
  have some_word : (toWords out).map swapPixel ≠ [] := by
    intro none
    have count := congrArg List.length none
    rw [List.length_map, length_toWords length, List.length_nil] at count
    exact absurd count (Nat.ne_of_gt (Nat.mul_pos w_pos h_pos))
  unfold imageData sentImage
  simp only
  rw [if_neg some_word]
  congr 2
  funext col row
  by_cases col_lt : col < w
  · rw [if_pos col_lt]
    by_cases row_lt : row < h
    · have inside : row * w + col < w * h := by
        have rows := Nat.mul_le_mul_right w row_lt
        rw [Nat.succ_mul, Nat.mul_comm h] at rows
        omega
      have found := getElem?_toWords length inside
      have same : pixelAt out (w * 4) col row = (out.drop (4 * (row * w + col))).take 4 := by
        unfold pixelAt
        congr 2
        ring
      simp only at found
      rw [← same, filled.pixels col col_lt row row_lt] at found
      rw [if_pos ⟨col_lt, row_lt⟩, List.getD_eq_getElem?_getD, List.getElem?_map, found]
      exact swapPixel_word _ _ _ _
    · have beyond : w * h ≤ row * w + col := by
        have rows := Nat.mul_le_mul_right w (Nat.not_lt.mp row_lt)
        rw [Nat.mul_comm h] at rows
        omega
      rw [if_neg fun inside => row_lt inside.2, List.getD_eq_getElem?_getD, List.getElem?_eq_none]
      · rfl
      · rw [List.length_map, length_toWords length]
        exact beyond
  · rw [if_neg col_lt, if_neg fun inside => col_lt inside.1]

end Rows

end ExoBrowser.Web
