import ExoBrowser.Client.Core

/-!
# Compositor

`render_into`: what of the pending frames, subframes and tiles is copied into the
buffer of the window, and which rectangles of it changed.
-/

set_option autoImplicit false

namespace ExoBrowser.Client

open Library Proto

def background : UInt32 := 0x0F0F12

/-- What drawing into a slice leaves: the length of a `&mut [u32]` is fixed. -/
abbrev Drawn (buffer : List UInt32) := { drawn : List UInt32 // drawn.length = buffer.length }

/-- The parts of `render_into` that draw shapes and text: the toolbar, the toast with
the rectangle it reports, and the cursor. They look at no pixel data. `none` is a panic. -/
structure Painter where
  chrome : BrowserCore → (buffer : List UInt32) → Option (Drawn buffer)
  toast : UInt32 × UInt32 → String → (buffer : List UInt32) → Option (Drawn buffer × DamageRect)
  cursor : UInt32 × UInt32 → Int32 × Int32 → (buffer : List UInt32) → Option (Drawn buffer)

def painted {α : Type} : Option α → Run α
  | some drawn => return drawn
  | none => Checked.abort .explicit

/-! ## Content -/

structure Window where
  bw : UInt32
  bh : UInt32

namespace Window

variable (window : Window)

def needed : Nat := window.bw.toNat * window.bh.toNat

def contentH : UInt32 := contentHeight window.bh

def rowStart (row : Nat) : Nat := (chromeH.toNat + row) * window.bw.toNat

/-- Copy the rows of a picture to the top left of the content area, and fill the rest. -/
def drawRows (copyW copyH : Nat) (row : Nat → List UInt32 → Run (List UInt32))
    (buffer : List UInt32) : Run (List UInt32) := do
  let drawn ← (List.range copyH).foldlM (fun buffer y => do
    let dstStart := window.rowStart y
    let copied ← row y buffer
    if copyW < window.bw.toNat then
      Checked.fill copied (dstStart + copyW) (dstStart + window.bw.toNat) background
    else return copied) buffer
  if copyH < window.contentH.toNat then
    Checked.fill drawn (window.rowStart copyH) window.needed background
  else return drawn

def copyRow (pixels : Bytes) (srcStart dstStart copyW : Nat) (buffer : List UInt32) :
    Run (List UInt32) := do
  let src ← Checked.slice pixels srcStart (srcStart + copyW * 4)
  let dst ← Checked.slice buffer dstStart (dstStart + copyW)
  Checked.overwrite buffer dstStart (copyBgraRowToU32 src dst)

/-- `copy_from_slice` of a row of words. -/
def copyWords (words : List UInt32) (srcStart dstStart copyW : Nat) (buffer : List UInt32) :
    Run (List UInt32) := do
  let _ ← Checked.slice buffer dstStart (dstStart + copyW)
  let src ← Checked.slice words srcStart (srcStart + copyW)
  Checked.overwrite buffer dstStart src

def drawFrame (f : GfxFrame) (buffer : List UInt32) : Run (List UInt32) :=
  let copyW := (min f.width window.bw).toNat
  let copyH := (min f.height window.contentH).toNat
  window.drawRows copyW copyH (fun y =>
    copyRow f.pixels (y * f.stride.toNat) (window.rowStart y) copyW) buffer

def drawTabBuffer (tb : TabBuffer) (buffer : List UInt32) : Run (List UInt32) :=
  let copyW := (min tb.w window.bw).toNat
  let copyH := (min tb.h window.contentH).toNat
  window.drawRows copyW copyH (fun y =>
    copyWords tb.pixels (y * tb.w.toNat) (window.rowStart y) copyW) buffer

def contentRect : DamageRect := { x := 0, y := chromeH, w := window.bw, h := window.contentH }

structure Clip where
  x0 : UInt32
  y0 : UInt32
  copyW : UInt32
  copyH : UInt32

def clip (build : Build) (x y w h : UInt32) : Run (Option Clip) := do
  let x0 := min x window.bw
  let y0 := min y window.contentH
  let x1 := min (← build.add32 x w) window.bw
  let y1 := min (← build.add32 y h) window.contentH
  return if x1 > x0 ∧ y1 > y0 then some { x0, y0, copyW := x1 - x0, copyH := y1 - y0 } else none

def drawClip (build : Build) (part : Clip) (row : Nat → Nat → List UInt32 → Run (List UInt32))
    (buffer : List UInt32) (damage : List DamageRect) : Run (List UInt32 × List DamageRect) := do
  let drawn ← (List.range part.copyH.toNat).foldlM (fun buffer y =>
    row y (window.rowStart (part.y0.toNat + y) + part.x0.toNat) buffer) buffer
  return (drawn, damage ++ [{
    x := part.x0, y := ← build.add32 chromeH part.y0, w := part.copyW, h := part.copyH }])

def drawSubframe (build : Build) (canvas : List UInt32 × List DamageRect) (s : GfxSubframe) :
    Run (List UInt32 × List DamageRect) := do
  match ← window.clip build s.x s.y s.w s.h with
  | some part =>
      window.drawClip build part (fun y dstOff =>
        copyRow s.pixels (y * s.stride.toNat) dstOff part.copyW.toNat) canvas.1 canvas.2
  | none => return canvas

def drawTile (build : Build) (tileCache : UInt64 → Option (List UInt32))
    (canvas : List UInt32 × List DamageRect) (pending : UInt32 × UInt32 × UInt64) :
    Run (List UInt32 × List DamageRect) := do
  let (tx, ty, hash) := pending
  match tileCache hash with
  | some tile =>
      match ← window.clip build tx ty 64 64 with
      | some part =>
          window.drawClip build part (fun y dstOff =>
            copyWords tile (y * BrowserCore.tileSide) dstOff part.copyW.toNat) canvas.1 canvas.2
      | none => return canvas
  | none => return canvas

end Window

namespace BrowserCore

variable (build : Build) (painter : Painter) (core : BrowserCore)

def window : Window := { bw := core.winSize.1, bh := core.winSize.2 }

/-- The whole content area: the newest pending frame, or what was there before if all
of it is dirty. -/
def renderWhole (buffer : List UInt32) (damage : List DamageRect) :
    Run (List UInt32 × List DamageRect) := do
  match core.pendingFrames.getLast? with
  | some f => return (← core.window.drawFrame f buffer, damage ++ [core.window.contentRect])
  | none =>
      if core.fullContentDirty then
        match core.activeBuf with
        | some tb =>
            return (← core.window.drawTabBuffer tb buffer, damage ++ [core.window.contentRect])
        | none => do
            let start ← build.mul32 chromeH core.window.bw
            return (← Checked.fill buffer start.toNat core.window.needed background,
              damage ++ [core.window.contentRect])
      else return (buffer, damage)

/-- The content stage: the whole area first, then the subframes and the tiles on it. -/
def renderContent (buffer : List UInt32) (damage : List DamageRect) :
    Run (List UInt32 × List DamageRect) := do
  let whole ← core.renderWhole build buffer damage
  let subframes ← core.pendingSubframes.foldlM (core.window.drawSubframe build) whole
  core.pendingTiles.foldlM (core.window.drawTile build core.tileCache) subframes

/-- The state after the content stage. What was dirty is drawn. -/
def contentDone : BrowserCore :=
  { core with
    fullContentDirty := false
    pendingFrames := []
    pendingSubframes := []
    pendingTiles := []
    pendingDamage := [] }

def tickAudio : BrowserCore :=
  if core.audioPlayingFramesLeft > 0 then
    { core with
      audioPlayingFramesLeft := core.audioPlayingFramesLeft - 1
      chromeDirty := core.chromeDirty || core.audioPlayingFramesLeft - 1 = 0 }
  else core

def renderChrome (buffer : List UInt32) : Run (BrowserCore × List UInt32 × List DamageRect) := do
  if core.chromeDirty then
    let drawn ← painted (painter.chrome core buffer)
    return ({ core with chromeDirty := false }, drawn.val,
      [{ x := 0, y := 0, w := core.window.bw, h := min chromeH core.window.bh }])
  else return (core, buffer, [])

/-- The toast stage. When the toast goes, the content under it is dirty. -/
def renderToast (buffer : List UInt32) (damage : List DamageRect) :
    Run (BrowserCore × List UInt32 × List DamageRect) := do
  if core.statusToastFramesLeft > 0 then
    let next :=
      { core with
        statusToastFramesLeft := core.statusToastFramesLeft - 1
        fullContentDirty := core.fullContentDirty || core.statusToastFramesLeft - 1 = 0 }
    match core.statusToastText with
    | some msg =>
        let (drawn, rect) ← painted (painter.toast core.winSize msg buffer)
        return (next, drawn.val, damage ++ [rect])
    | none => return (next, buffer, damage)
  else return (core, buffer, damage)

def renderOverlay (buffer : List UInt32) (damage : List DamageRect) :
    Run (BrowserCore × List UInt32 × List DamageRect) := do
  let (core, buffer, damage) ← core.renderToast painter buffer damage
  match core.synthCursor with
  | some position =>
      let drawn ← painted (painter.cursor core.winSize position buffer)
      return (core, drawn.val, damage)
  | none => return (core, buffer, damage)

def renderInto (buffer : List UInt32) : Run (BrowserCore × List UInt32 × List DamageRect) := do
  if core.window.bw = 0 ∨ core.window.bh = 0 ∨ buffer.length < core.window.needed then
    return (core, buffer, [])
  else
    let (core, buffer, damage) ← core.tickAudio.renderChrome painter buffer
    if core.window.contentH > 0 then
      let (drawn, damaged) ← core.renderContent build buffer damage
      core.contentDone.renderOverlay painter drawn damaged
    else core.renderOverlay painter buffer damage

end BrowserCore

end ExoBrowser.Client
