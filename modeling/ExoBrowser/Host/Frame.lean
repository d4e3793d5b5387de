import ExoBrowser.Library.Picture
import ExoBrowser.Proto.Codec

/-!
# Frames

The framebuffers that WPE delivers, the messages the host builds from them, and
what a client shows of these messages.
-/

set_option autoImplicit false

namespace ExoBrowser.Host

open Library Proto

/-- Host functions have no errors of their own: they return or panic. -/
abbrev Run := Checked Empty

/-- A frame from WPE. Its sizes are `i32` values that are not negative. -/
structure Frame where
  tabId : UInt32
  width : Nat
  height : Nat
  stride : Nat
  format : UInt32
  pixels : Bytes
  stride_lt : stride < 2 ^ 31

/-- A frame of a size that a client can ask for, with whole rows. -/
structure Frame.WellFormed (f : Frame) : Prop where
  width_pos : 0 < f.width
  width_le : f.width ≤ 65535
  height_pos : 0 < f.height
  height_le : f.height ≤ 65535
  stride_ge : 4 * f.width ≤ f.stride
  pixels_length : f.pixels.length = f.stride * f.height

def pixelAt (pixels : Bytes) (stride col row : Nat) : Bytes :=
  (pixels.drop (row * stride + 4 * col)).take 4

def Frame.pixel (f : Frame) : Nat → Nat → Bytes := pixelAt f.pixels f.stride

def Frame.picture (f : Frame) : Picture Bytes := { width := f.width, height := f.height, pixel := f.pixel }

/-- The `RawFrame` that the pump, `snapshot` and `switch_tab` build from a frame. -/
def Frame.rawFrame (f : Frame) (tsUs : UInt64) : Message :=
  .rawFrame tsUs (UInt16.ofNat f.width) (UInt16.ofNat f.height) (UInt32.ofNat f.stride) f.format
    Compression.zstd f.pixels

structure Region where
  x : UInt16
  y : UInt16
  w : UInt16
  h : UInt16
deriving DecidableEq, Repr

def Region.rect (region : Region) : Rect :=
  { x := region.x.toNat, y := region.y.toNat, w := region.w.toNat, h := region.h.toNat }

def extractSubrect (pixels : Bytes) (stride : Nat) (region : Region) : Run Bytes :=
  (List.range region.h.toNat).foldlM (fun out yy => do
    let rowStart := (region.y.toNat + yy) * stride + region.x.toNat * 4
    return out ++ (← Checked.slice pixels rowStart (rowStart + region.w.toNat * 4))) []

/-! ## Sizes in a message -/

theorem Frame.toNat_stride (f : Frame) : (UInt32.ofNat f.stride).toNat = f.stride :=
  UInt32.toNat_ofNat_of_lt' (Nat.lt_trans f.stride_lt (by decide))

theorem Frame.WellFormed.toNat_width {f : Frame} (wellFormed : f.WellFormed) :
    (UInt16.ofNat f.width).toNat = f.width :=
  UInt16.toNat_ofNat_of_lt' (Nat.lt_succ_of_le wellFormed.width_le)

theorem Frame.WellFormed.toNat_height {f : Frame} (wellFormed : f.WellFormed) :
    (UInt16.ofNat f.height).toNat = f.height :=
  UInt16.toNat_ofNat_of_lt' (Nat.lt_succ_of_le wellFormed.height_le)

/-- The rows of a rectangle lie one behind the other. -/
theorem Region.toNat_stride (region : Region) :
    (UInt32.ofNat (region.w.toNat * 4)).toNat = 4 * region.w.toNat := by
  have w_lt := region.w.toNat_lt
  have small : region.w.toNat * 4 < 2 ^ 18 := by omega
  rw [UInt32.toNat_ofNat_of_lt' (Nat.lt_trans small (by decide)), Nat.mul_comm]

/-! ## What a client shows -/

/-- The pixels that a client decodes from a payload: the ones encoded, except that
half resolution averages them. -/
def receivedPixels (target : Target) (compression : UInt8) (w h : Nat) (pixels : Bytes) : Bytes :=
  if compression = Compression.lz4DeltaQ2 then
    let decoded : Checked Error Bytes := do
      let down ← downsample2x2Bgra target pixels w h
      upsample2x2Bgra target down w h
    match decoded with
    | .ok out => out
    | .error _ => pixels
  else pixels

/-- A `RawFrame` replaces the picture, a `Subframe` overwrites its rectangle, and no
other message touches it. -/
def editOf (target : Target) : Message → Option (Edit Bytes)
  | .rawFrame _ width height stride _ compression pixels =>
      let shown := receivedPixels target compression width.toNat height.toNat pixels
      some (.replace
        { width := width.toNat, height := height.toNat, pixel := pixelAt shown stride.toNat })
  | .subframe _ x y w h stride _ compression pixels =>
      let shown := receivedPixels target compression w.toNat h.toNat pixels
      some (.patch { x := x.toNat, y := y.toNat, w := w.toNat, h := h.toNat }
        (pixelAt shown stride.toNat))
  | _ => none

def editsOf (target : Target) (messages : List Message) : List (Edit Bytes) :=
  messages.filterMap (editOf target)

/-- What a message shows with the pixels that are in it before they are encoded. -/
def sentEdit : Message → Option (Edit Bytes)
  | .rawFrame _ width height stride _ _ pixels =>
      some (.replace
        { width := width.toNat, height := height.toNat, pixel := pixelAt pixels stride.toNat })
  | .subframe _ x y w h stride _ _ pixels =>
      some (.patch { x := x.toNat, y := y.toNat, w := w.toNat, h := h.toNat }
        (pixelAt pixels stride.toNat))
  | _ => none

def sentEdits (messages : List Message) : List (Edit Bytes) := messages.filterMap sentEdit

end ExoBrowser.Host
