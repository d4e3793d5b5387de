import ExoBrowser.Library.Between
import ExoBrowser.Proto.HalfResolution
import Mathlib.Order.Interval.Finset.Nat
import Mathlib.Order.Lattice.Nat
import Mathlib.Tactic.Ring

/-!
# The colours of a picture that was halved

Halving a picture and enlarging it again takes two rounded means. Each of them stays between the
pixels that it is the mean of, so that the colours stay between those of the pixels around.
-/

set_option autoImplicit false

namespace ExoBrowser.Proto

open Library

/-- A channel by the position of the pixel. -/
def plane (value : Channels) (c : Nat) (place : Nat × Nat) : Nat := (value place.1 place.2 c).toNat

/-- The two columns, or rows, that are averaged at `q` when `size` of them are halved. -/
def halvedFrom (size q : Nat) : Set Nat := {q * 2, min (q * 2 + 1) (size - 1)}

/-- The two columns, or rows, of the half picture that are averaged at `x`. -/
def enlargedFrom (size x : Nat) : Set Nat :=
  let q := min (x / 2) ((size + 1) / 2 - 1)
  {q, min (q + x % 2) ((size + 1) / 2 - 1)}

/-- The columns, or rows, around `x`. -/
def around (size x : Nat) : Finset Nat :=
  Finset.Icc (2 * (x / 2)) (min (size - 1) (2 * (x / 2) + 1 + 2 * (x % 2)))

/-! ## Rounded means -/

theorem toNat_boxAverage (a b c d : UInt8) :
    (boxAverage a b c d).toNat = (a.toNat + b.toNat + c.toNat + d.toNat + 2) / 4 := by
  have := a.toNat_lt
  have := b.toNat_lt
  have := c.toNat_lt
  have := d.toNat_lt
  simp [boxAverage, Nat.shiftRight_eq_div_pow]
  omega

theorem mean_between {value : Channels} {x0 x1 y0 y1 c low high : Nat} (colour : c < 3)
    (bounds : ∀ p ∈ ({x0, x1} : Set Nat) ×ˢ ({y0, y1} : Set Nat),
      low ≤ plane value c p ∧ plane value c p ≤ high) :
    low ≤ (mean value x0 x1 y0 y1 c).toNat ∧ (mean value x0 x1 y0 y1 c).toNat ≤ high := by
  have corner00 := bounds (x0, y0) (by simp)
  have corner10 := bounds (x1, y0) (by simp)
  have corner01 := bounds (x0, y1) (by simp)
  have corner11 := bounds (x1, y1) (by simp)
  simp only [plane] at corner00 corner10 corner01 corner11
  rw [mean, if_neg (by omega), toNat_boxAverage]
  omega

theorem halved_between (w h : Nat) (value : Channels) {c : Nat} (colour : c < 3) :
    StaysBetween (fun q => halvedFrom w q.1 ×ˢ halvedFrom h q.2) (plane value c)
      (plane (halved w h value) c) :=
  fun _ _ _ bounds => mean_between colour bounds

theorem enlarged_between (w h : Nat) (value : Channels) {c : Nat} (colour : c < 3) :
    StaysBetween (fun p => enlargedFrom w p.1 ×ˢ enlargedFrom h p.2) (plane value c)
      (plane (enlarged w h value) c) :=
  fun _ _ _ bounds => mean_between colour bounds

/-! ## The pixels around -/

theorem around_nonempty {size x : Nat} (x_lt : x < size) : (around size x).Nonempty := by
  rw [around, Finset.nonempty_Icc]
  omega

/-- What the two means take their columns from lies around the column, also at an odd edge. -/
theorem mem_around {size x q j : Nat} (x_lt : x < size) (enlarges : q ∈ enlargedFrom size x)
    (halves : j ∈ halvedFrom size q) : j ∈ around size x := by
  simp only [enlargedFrom, halvedFrom, Set.mem_insert_iff, Set.mem_singleton_iff] at enlarges halves
  rw [around, Finset.mem_Icc]
  omega

/-- Halving a picture and enlarging it again gives each pixel a colour between those around. -/
theorem restored_between {w h x y c : Nat} (value : Channels) (x_lt : x < w) (y_lt : y < h)
    (colour : c < 3) :
    ∃ near : Nat × Nat → Set (Nat × Nat), (∀ p ∈ near (x, y), p ∈ around w x ×ˢ around h y) ∧
      StaysBetween near (plane value c) (plane (enlarged w h (halved w h value)) c) := by
  refine ⟨_, ?_, (halved_between w h value colour).trans (enlarged_between w h _ colour)⟩
  intro p p_near
  obtain ⟨q, enlarges, halves⟩ := p_near
  rw [Finset.mem_product]
  exact ⟨mem_around x_lt enlarges.1 halves.1, mem_around y_lt enlarges.2 halves.2⟩

theorem channelsOf_of_draws {w h x y c : Nat} {value : Channels} {pixels : Bytes}
    (drawn : Draws w (h * w) value pixels) (x_lt : x < w) (y_lt : y < h) (c_lt : c < 4) :
    channelsOf w pixels x y c = value x y c := by
  have row : (y + 1) * w ≤ h * w := Nat.mul_le_mul_right w y_lt
  rw [Nat.succ_mul] at row
  rw [channelsOf, List.getD_eq_getElem?_getD, drawn.pixel x_lt (by omega) c_lt, Option.getD_some]

/-- Halving an image and enlarging it again succeeds for every size. The pixels are opaque, each
colour lies between the least and the greatest around its pixel, and where all around are the same
it is theirs. -/
theorem upsample_downsample_range {target : Target} {w h : Nat} {src : Bytes} (w_pos : 1 ≤ w)
    (h_pos : 1 ≤ h) (length : src.length = 4 * w * h) (small : src.length ≤ target.usizeMax) :
    ∃ down out, downsample2x2Bgra target src w h = .ok down ∧
      upsample2x2Bgra target down w h = .ok out ∧ out.length = 4 * w * h ∧
      ∀ x y, ∀ x_lt : x < w, ∀ y_lt : y < h, channelsOf w out x y 3 = 0xFF ∧
        ∀ c < 3,
          let near := around w x ×ˢ around h y
          let some_near : near.Nonempty := (around_nonempty x_lt).product (around_nonempty y_lt)
          near.inf' some_near (plane (channelsOf w src) c) ≤ plane (channelsOf w out) c (x, y) ∧
            plane (channelsOf w out) c (x, y) ≤ near.sup' some_near (plane (channelsOf w src) c) ∧
            ∀ value, (∀ p ∈ near, channelsOf w src p.1 p.2 c = value) →
              channelsOf w out x y c = value := by
  have commuted : 4 * w * h = h * w * 4 := by ring
  rw [commuted] at length
  obtain ⟨down, halves, down_length, half⟩ :=
    downsample2x2Bgra_draws w_pos h_pos (draws_channelsOf length) length small
  obtain ⟨out, enlarges, out_length, drawn⟩ :=
    upsample2x2Bgra_draws w_pos h_pos half down_length (by rwa [← length])
  refine ⟨down, out, halves, enlarges, by rw [out_length, commuted], ?_⟩
  intro x y x_lt y_lt
  have alpha : channelsOf w out x y 3 = 0xFF := channelsOf_of_draws drawn x_lt y_lt (by decide)
  refine ⟨alpha, ?_⟩
  intro c colour near some_near
  have restored : channelsOf w out x y c = enlarged w h (halved w h (channelsOf w src)) x y c :=
    channelsOf_of_draws drawn x_lt y_lt (by omega)
  obtain ⟨samples, within, between⟩ := restored_between (channelsOf w src) x_lt y_lt colour
  have range := between.least_greatest some_near within
  have same : plane (channelsOf w out) c (x, y) =
      plane (enlarged w h (halved w h (channelsOf w src))) c (x, y) := by
    simp only [plane, restored]
  rw [same]
  refine ⟨range.1, range.2, ?_⟩
  intro value uniform
  have exact : plane (enlarged w h (halved w h (channelsOf w src))) c (x, y) = value.toNat :=
    between.uniform fun p p_near => congrArg UInt8.toNat (uniform p (within p p_near))
  rw [restored]
  exact UInt8.toNat_inj.mp exact

/-- Of three pixels in a row the first two have one colour, which the first one keeps. -/
theorem upsample_downsample_range_row :
    ∃ down out,
      downsample2x2Bgra .bits64 [10, 10, 10, 255, 10, 10, 10, 255, 90, 90, 90, 255] 3 1 = .ok down ∧
        upsample2x2Bgra .bits64 down 3 1 = .ok out ∧ out.length = 12 ∧ channelsOf 3 out 0 0 1 = 10 := by
  obtain ⟨down, out, halves, enlarges, length, range⟩ :=
    @upsample_downsample_range .bits64 3 1 [10, 10, 10, 255, 10, 10, 10, 255, 90, 90, 90, 255]
      (by decide) (by decide) rfl (by decide)
  have first := (range 0 0 (by decide) (by decide)).2 1 (by decide)
  exact ⟨down, out, halves, enlarges, length, first.2.2 10 (by decide)⟩

end ExoBrowser.Proto
