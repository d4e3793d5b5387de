import ExoBrowser.Client.Input
import ExoBrowser.Client.Render

/-!
# Shapes and text

Filled rectangles, with and without rounded corners, outlines, and text in glyphs of
eight by eight pixels. Everything is clipped to the window.
-/

set_option autoImplicit false

namespace ExoBrowser.Client

open Library

/-- The value of a sum of products of `u32`. -/
def Build.u32 (build : Build) (value : Nat) : Run Nat :=
  if value < 2 ^ 32 ∨ !build.overflowChecks then .ok (value % 2 ^ 32) else Checked.abort .overflow

/-- The cast `as u32` of an `i32`. -/
def asU32 (value : Int) : Nat := (value % 2 ^ 32).toNat

/-- A row of a glyph is a byte, whose lowest bit is the leftmost pixel. -/
abbrev Glyph := Vector UInt8 8

/-- `font8x8::BASIC_FONTS.get`. -/
abbrev BasicFonts := Char → Option Glyph

namespace Window

variable (window : Window) (build : Build)

/-! ## Rectangles -/

/-- One row of a shape: `buf[row * bw + x0..row * bw + x1].fill(color)`. -/
def fillSpan (x0 x1 : Nat) (color : UInt32) (buf : List UInt32) (row : Nat) : Run (List UInt32) := do
  Checked.fill buf (← build.u32 (row * window.bw.toNat + x0))
    (← build.u32 (row * window.bw.toNat + x1)) color

def fillRect (x y w h : Int) (color : UInt32) (buf : List UInt32) : Run (List UInt32) := do
  let x0 := asU32 (max x 0)
  let y0 := asU32 (max y 0)
  let x1 := asU32 (min (max (← build.i32 (x + w)) 0) (asI32 window.bw.toNat))
  let y1 := asU32 (min (max (← build.i32 (y + h)) 0) (asI32 window.bh.toNat))
  if x0 ≥ x1 ∨ y0 ≥ y1 then return buf
  else (List.range (y1 - y0)).foldlM (fun buf i => window.fillSpan build x0 x1 color buf (y0 + i)) buf

/-- How far a row that is `d` rows from the middle of a corner is set in. -/
def cornerInset (r d : Int) : Run Int := do
  let rest ← build.i32 ((← build.i32 (r * r)) - (← build.i32 (d * d)))
  build.i32 (r - (max rest 0).toNat.sqrt)

def rowInset (h r dy : Int) : Run Int := do
  if dy < r then cornerInset build r (← build.i32 ((← build.i32 (r - dy)) - 1))
  else
    let lower ← build.i32 (h - r)
    if dy ≥ lower then cornerInset build r (← build.i32 (dy - lower)) else return 0

/-- The row `dy` of a rectangle with rounded corners. -/
def fillRoundedRow (x y w h r : Int) (color : UInt32) (buf : List UInt32) (dy : Nat) :
    Run (List UInt32) := do
  let py ← build.i32 (y + dy)
  if py < 0 ∨ asU32 py ≥ window.bh.toNat then return buf
  else
    let inset ← rowInset build h r dy
    let x0 := asU32 (max (← build.i32 (x + inset)) 0)
    let right ← build.i32 ((← build.i32 (x + w)) - inset)
    let x1 := asU32 (min (max right 0) (asI32 window.bw.toNat))
    if x0 < x1 then
      let rowOff ← build.u32 (asU32 py * window.bw.toNat)
      Checked.fill buf (rowOff + x0) (rowOff + x1) color
    else return buf

def fillRoundedRect (x y w h r : Int) (color : UInt32) (buf : List UInt32) : Run (List UInt32) := do
  if r ≤ 1 then window.fillRect build x y w h color buf
  else (List.range h.toNat).foldlM (window.fillRoundedRow build x y w h r color) buf

def strokeRoundedRect (x y w h : Int) (color : UInt32) (buf : List UInt32) : Run (List UInt32) := do
  let buf ← window.fillRect build (← build.i32 (x + 2)) y (← build.i32 (w - 4)) 1 color buf
  let bottom ← build.i32 ((← build.i32 (y + h)) - 1)
  let buf ← window.fillRect build (← build.i32 (x + 2)) bottom (← build.i32 (w - 4)) 1 color buf
  let buf ← window.fillRect build x (← build.i32 (y + 2)) 1 (← build.i32 (h - 4)) color buf
  let right ← build.i32 ((← build.i32 (x + w)) - 1)
  window.fillRect build right (← build.i32 (y + 2)) 1 (← build.i32 (h - 4)) color buf

/-! ## Text -/

def drawGlyphPixel (penX : Int) (py : Nat) (bits : UInt8) (color : UInt32) (buf : List UInt32)
    (col : Nat) : Run (List UInt32) := do
  if bits.toNat.testBit col then
    let px ← build.i32 (penX + col)
    if px ≥ 0 ∧ asU32 px < window.bw.toNat then
      Checked.overwrite buf (← build.u32 (py * window.bw.toNat + asU32 px)) [color]
    else return buf
  else return buf

def drawGlyphRow (penX y : Int) (glyph : Glyph) (color : UInt32) (buf : List UInt32) (row : Fin 8) :
    Run (List UInt32) := do
  let py ← build.i32 ((← build.i32 (y + 3)) + row.val)
  if py < 0 ∨ asU32 py ≥ window.bh.toNat then return buf
  else
    (List.range 8).foldlM (window.drawGlyphPixel build penX (asU32 py) (glyph.get row) color) buf

def drawGlyph (penX y : Int) (glyph : Glyph) (color : UInt32) (buf : List UInt32) :
    Run (List UInt32) :=
  (List.finRange 8).foldlM (window.drawGlyphRow build penX y glyph color) buf

/-- The characters from the pen on, up to the first that does not end before the limit. -/
def drawChars (font : BasicFonts) (x y : Int) (color : UInt32) (maxW : Int) :
    List Char → Int → List UInt32 → Run (List UInt32 × Int)
  | [], penX, buf => return (buf, penX)
  | ch :: rest, penX, buf => do
      if (← build.i32 (penX + 8)) > (← build.i32 (x + maxW)) then return (buf, penX)
      else
        let glyph := (font ch).getD (Vector.replicate 8 0)
        let drawn ← window.drawGlyph build penX y glyph color buf
        drawChars font x y color maxW rest (← build.i32 (penX + 8)) drawn

/-- Draw text in bitmap glyphs, whose size is fixed. The answer is its width. -/
def drawText (font : BasicFonts) (x y : Int) (color : UInt32) (text : String) (maxW : Int)
    (buf : List UInt32) : Run (List UInt32 × Int) := do
  let (drawn, penX) ← window.drawChars build font x y color maxW text.toList x buf
  return (drawn, ← build.i32 (penX - x))

end Window

end ExoBrowser.Client
