import ExoBrowser.Proto.Lz4
import ExoBrowser.Proto.Message

/-!
# Pixel payloads

The spatial filter, the half-resolution images and the four payload formats that
the frame, subframe and tile messages share.
-/

set_option autoImplicit false

namespace ExoBrowser.Proto

open Library

/-! ## Spatial filter -/

structure Chunk where
  b : UInt8
  g : UInt8
  r : UInt8
  a : UInt8
deriving DecidableEq, Repr

namespace Chunk

def toBytes (chunk : Chunk) : Bytes := [chunk.b, chunk.g, chunk.r, chunk.a]

def wrappingSub (curr prev : Chunk) : Chunk :=
  { b := curr.b - prev.b, g := curr.g - prev.g, r := curr.r - prev.r, a := curr.a - prev.a }

def wrappingAdd (delta prev : Chunk) : Chunk :=
  { b := delta.b + prev.b, g := delta.g + prev.g, r := delta.r + prev.r, a := delta.a + prev.a }

end Chunk

def asChunks : Bytes → List Chunk × Bytes
  | b :: g :: r :: a :: rest => (⟨b, g, r, a⟩ :: (asChunks rest).1, (asChunks rest).2)
  | short => ([], short)

def filterChunks : Chunk → List Chunk → List Chunk
  | _, [] => []
  | prev, curr :: rest => curr.wrappingSub prev :: filterChunks curr rest

def unfilterChunks : Chunk → List Chunk → List Chunk
  | _, [] => []
  | prev, chunk :: rest => chunk.wrappingAdd prev :: unfilterChunks (chunk.wrappingAdd prev) rest

/-- `out` as the filter leaves it: resized with zeros, then its chunks replaced. -/
def spatialFilterSubInto (pixels out : Bytes) : Bytes :=
  let out := out.take pixels.length ++ List.replicate (pixels.length - out.length) 0
  match (asChunks pixels).1 with
  | [] => out
  | first :: rest =>
      (first :: filterChunks first rest).flatMap Chunk.toBytes ++ (asChunks out).2

def spatialUnfilterSubInPlace (buf : Bytes) : Bytes :=
  match asChunks buf with
  | ([], tail) => tail
  | (first :: rest, tail) => (first :: unfilterChunks first rest).flatMap Chunk.toBytes ++ tail

/-! ## Half resolution -/

def boxAverage (a b c d : UInt8) : UInt8 :=
  ((a.toUInt16 + b.toUInt16 + c.toUInt16 + d.toUInt16 + 2) >>> 2).toUInt8

def rowSlice (target : Target) (src : Bytes) (index width : Nat) : Checked Error Bytes := do
  let start ← target.mul index width
  let stop ← target.add start width
  Checked.slice src start stop

def averagedPixel (target : Target) (row0 row1 : Bytes) (x0 x1 : Nat) : Checked Error Bytes := do
  let p00 ← rowSlice target row0 x0 4
  let p10 ← rowSlice target row0 x1 4
  let p01 ← rowSlice target row1 x0 4
  let p11 ← rowSlice target row1 x1 4
  let channel (c : Nat) : Checked Error UInt8 := do
    return boxAverage (← Checked.index p00 c) (← Checked.index p10 c) (← Checked.index p01 c)
      (← Checked.index p11 c)
  return [← channel 0, ← channel 1, ← channel 2, 0xFF]

def downsample2x2Bgra (target : Target) (src : Bytes) (w h : Nat) : Checked Error Bytes := do
  let qw := (w + 1) / 2
  let qh := (h + 1) / 2
  let _reserved ← target.mul (← target.mul qw qh) 4
  let stride ← target.mul w 4
  (List.range qh).foldlM (fun out qy => do
    let y0 := qy * 2
    let y1 := min (y0 + 1) (h - 1)
    let row0 ← rowSlice target src y0 stride
    let row1 ← rowSlice target src y1 stride
    (List.range qw).foldlM (fun out qx => do
      let x0 := qx * 2
      let x1 := min (x0 + 1) (w - 1)
      return out ++ (← averagedPixel target row0 row1 x0 x1)) out) []

def upsampleRow (target : Target) (qrow0 qrow1 : Bytes) (w qw : Nat) (drow : Bytes) :
    Checked Error Bytes :=
  (List.range w).foldlM (fun drow x => do
    let qx0 := min (x / 2) (qw - 1)
    let qx1 := min (qx0 + x % 2) (qw - 1)
    let pixel ← averagedPixel target qrow0 qrow1 qx0 qx1
    Checked.overwrite drow (← target.mul x 4) pixel) drow

def upsample2x2Bgra (target : Target) (qsrc : Bytes) (w h : Nat) : Checked Error Bytes := do
  let qw := (w + 1) / 2
  let qh := (h + 1) / 2
  let out := List.replicate (← target.mul (← target.mul w h) 4) 0
  if qw = 0 ∨ qh = 0 then return out
  else if qsrc.length < (← target.mul (← target.mul qw qh) 4) then return out
  else do
    let qstride ← target.mul qw 4
    let dstride ← target.mul w 4
    (List.range h).foldlM (fun out y => do
      let qy0 := min (y / 2) (qh - 1)
      let qy1 := min (qy0 + y % 2) (qh - 1)
      let qrow0 ← rowSlice target qsrc qy0 qstride
      let qrow1 ← rowSlice target qsrc qy1 qstride
      let drow ← rowSlice target out y dstride
      Checked.overwrite out (y * dstride) (← upsampleRow target qrow0 qrow1 w qw drow)) out

/-! ## Payload formats -/

def encoded (emitter : Wire Unit) : Checked Error Bytes := Prod.snd <$> emitter.run []

def writePayloadGeom (target : Target) (compression : UInt8) (w h : UInt16) (pixels : Bytes) :
    Wire Unit :=
  match compression with
  | 0 => extend pixels
  | 1 => lz4EncodeInto pixels
  | 2 => do
      let filtered := spatialFilterSubInto pixels []
      let stage1 ← (encoded (lz4EncodeInto filtered) : Checked Error Bytes)
      lz4EncodeInto stage1
  | 3 => do
      let down ← (downsample2x2Bgra target pixels w.toNat h.toNat : Checked Error Bytes)
      lz4EncodeInto (spatialFilterSubInto down [])
  | _ => throw (.panic .explicit)

/-- The pixels that a payload stands for, before their length is checked. -/
def decodePixels (target : Target) (compression : UInt8) (w h expectedLen : Nat) (wire : Bytes) :
    Checked Error Bytes :=
  match compression with
  | 0 => return wire
  | 1 => lz4Decode target wire (some expectedLen)
  | 2 => do
      let stage1 ← lz4Decode target wire none
      let out ← lz4Decode target stage1 (some expectedLen)
      return spatialUnfilterSubInPlace out
  | 3 => do
      let qw := (w + 1) / 2
      let qh := (h + 1) / 2
      let qlen := target.saturatingMul (target.saturatingMul qw qh) 4
      let qbuf ← lz4Decode target wire (some qlen)
      upsample2x2Bgra target (spatialUnfilterSubInPlace qbuf) w h
  | _ => Checked.fail .invalidValue

def readPayloadGeom (target : Target) (compression : UInt8) (w h expectedLen : Nat) :
    Wire Bytes := do
  let wire ← get
  set ([] : Bytes)
  let pixels ← (decodePixels target compression w h expectedLen wire : Checked Error Bytes)
  if pixels.length ≠ expectedLen then throw (.err .invalidValue) else return pixels

end ExoBrowser.Proto
