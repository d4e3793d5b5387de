import ExoBrowser.Client.Chrome
import ExoBrowser.Client.Input
import ExoBrowser.Library.Machine

/-!
# The X11 backend

`run_x11_loop`: the events of the X server and of the host that one turn takes, and the
requests that it makes. The server draws the requests and may lose what it has drawn.

The client is one for which `get_ttf` finds no TrueType font, so that `draw_text` draws bitmap
glyphs, as it does without `std`.
-/

set_option autoImplicit false

namespace ExoBrowser.Client

open Library Proto

/-! ## Keys -/

def modShift : UInt32 := 2
def modMeta : UInt32 := 8

namespace KeyButMask

def shift : UInt16 := 1
def control : UInt16 := 4
def mod1 : UInt16 := 8
def mod4 : UInt16 := 64

end KeyButMask

structure Keymap where
  minKeycode : UInt8
  keysymsPerKeycode : Nat
  keysyms : List UInt32

def lookupX11Keysym (keymap : Keymap) (keycode : UInt8) (shift : Bool) : UInt32 :=
  if keycode < keymap.minKeycode ∨ keymap.keysymsPerKeycode = 0 then 0
  else
    let idx := (keycode - keymap.minKeycode).toNat * keymap.keysymsPerKeycode
    let col := if shift ∧ keymap.keysymsPerKeycode > 1 then 1 else 0
    let sym := keymap.keysyms.getD (idx + col) 0
    if sym ≠ 0 then sym else keymap.keysyms.getD idx 0

/-- The modifiers that an X event names. -/
def x11Mods (state : UInt16) : UInt32 :=
  (if state &&& KeyButMask.shift = KeyButMask.shift then modShift else 0) |||
  (if state &&& KeyButMask.control = KeyButMask.control then modCtrl else 0) |||
  (if state &&& KeyButMask.mod1 = KeyButMask.mod1 then modAlt else 0) |||
  (if state &&& KeyButMask.mod4 = KeyButMask.mod4 then modMeta else 0)

/-- The modifier that a key is, if it is one. -/
def keysymModifier (keysym : UInt32) : UInt32 :=
  if keysym = 0xffe1 ∨ keysym = 0xffe2 then modShift
  else if keysym = 0xffe3 ∨ keysym = 0xffe4 then modCtrl
  else if keysym = 0xffe9 ∨ keysym = 0xffea then modAlt
  else if keysym = 0xffeb ∨ keysym = 0xffec then modMeta
  else 0

def modButtons : UInt32 := modButton1 ||| modButton2 ||| modButton3

namespace BrowserCore

variable (core : BrowserCore)

def updateX11Mods (state : UInt16) : BrowserCore :=
  { core with mods := core.mods &&& modButtons ||| x11Mods state }

def updateKeysymModifier (keysym : UInt32) (pressed : Bool) : BrowserCore :=
  let bit := keysymModifier keysym
  { core with mods := if pressed then core.mods ||| bit else core.mods &&& ~~~bit }

end BrowserCore

/-! ## Presenting -/

/-- A `PutImage` request in the `ZPixmap` format. -/
structure PutImage where
  width : UInt16
  height : UInt16
  dstX : Int16
  dstY : Int16
  data : Bytes

def maxRowsPerChunk (rowBytes : Nat) : Nat := max (48 * 1024 / max rowBytes 4) 1

section Present

variable (build : Build) (bw : UInt32) (framebuffer : List UInt32) (d : DamageRect)

/-- Row `r` of the chunk that begins `ry` rows below the top of the rectangle. -/
def presentRow (ry r : UInt32) : Run Bytes := do
  let py ← build.add32 (← build.add32 d.y ry) r
  let rowStart := py.toNat * bw.toNat + d.x.toNat
  let row ← Checked.slice framebuffer rowStart (rowStart + d.w.toNat)
  return row.flatMap fun px => toLeBytes 4 px.toNat

def presentChunk (ry chunkH : UInt32) : Run PutImage := do
  let rows ← (List.range chunkH.toNat).mapM fun r =>
    presentRow build bw framebuffer d ry (UInt32.ofNat r)
  let top ← build.add32 d.y ry
  return {
    width := d.w.toUInt16, height := chunkH.toUInt16
    dstX := Int16.ofNat d.x.toNat, dstY := Int16.ofNat top.toNat, data := rows.flatten }

/-- A turn of the loop over the chunks of a rectangle. -/
def presentPass : List PutImage × UInt32 → Run (Pass (List PutImage × UInt32) (List PutImage))
  | (requests, ry) =>
      if ry < d.h then do
        let chunkH := min (d.h - ry) (UInt32.ofNat (maxRowsPerChunk (d.w.toNat * 4)))
        let request ← presentChunk build bw framebuffer d ry chunkH
        return .again (requests ++ [request], ← build.add32 ry chunkH)
      else return .leave requests

def presentRect : Run (List PutImage) :=
  if d.w = 0 ∨ d.h = 0 then return []
  else loop (presentPass build bw framebuffer d) (d.h.toNat + 1) ([], 0)

end Present

def presentX11Damage (build : Build) (bw : UInt32) (framebuffer : List UInt32)
    (damage : List DamageRect) : Run (List PutImage) := do
  return (← damage.mapM fun d => presentRect build bw framebuffer d).flatten

/-! ## The loop -/

/-- The events that the loop looks at. A message of the window manager brings its first word. -/
inductive X11Event where
  | expose
  | configureNotify (width height : UInt16)
  | motionNotify (x y : Int16) (state : UInt16)
  | buttonPress (detail : UInt8) (x y : Int16) (state : UInt16)
  | buttonRelease (detail : UInt8) (x y : Int16) (state : UInt16)
  | key (pressed : Bool) (detail : UInt8) (state : UInt16)
  | clientMessage (word : UInt32)
  | other
deriving DecidableEq

/-- What waits in the channel of the events from the host. -/
inductive Arrived where
  | timeout
  | events (first : RenderEvent) (rest : List RenderEvent)
  | disconnected

/-- What the loop holds from turn to turn. -/
structure X11Loop where
  core : BrowserCore
  framebuffer : List UInt32
  lastTitle : String

/-- `Vec::resize`. -/
def resizeWords (words : List UInt32) (length : Nat) : List UInt32 :=
  words.take length ++ List.replicate (length - words.length) background

/-- What a run of the loop is given. All text is drawn in the glyphs of `font`. -/
structure X11Config where
  build : Build
  font : BasicFonts
  keymap : Keymap
  wmDeleteWindow : UInt32

/-- The core, the framebuffer and `dirty_from_x11` while a turn polls. -/
structure X11Polled where
  core : BrowserCore
  framebuffer : List UInt32
  dirty : Bool

/-- A wheel is reported as the buttons 4 to 7. -/
def BrowserCore.x11ButtonPress (build : Build) (core : BrowserCore) (detail : UInt8) (x y : Int16) :
    Run (BrowserCore × Bool) := do
  if 1 ≤ detail ∧ detail ≤ 3 then
    return (← core.onMouseButton build x.toInt32 y.toInt32 detail.toUInt32 true, true)
  else if detail = 4 then return (core.onScroll 0 (-3), false)
  else if detail = 5 then return (core.onScroll 0 3, false)
  else if detail = 6 then return (core.onScroll (-3) 0, false)
  else if detail = 7 then return (core.onScroll 3 0, false)
  else return (core, false)

namespace X11Event

variable (config : X11Config)

/-- What an event of the X server does. `none` ends the loop. -/
def handle (polled : X11Polled) : X11Event → Run (Option X11Polled)
  | .expose =>
      return some { polled with
        core := { polled.core with chromeDirty := true, fullContentDirty := true }
        dirty := true }
  | .configureNotify width height =>
      let nw := width.toUInt32
      let nh := height.toUInt32
      if (nw, nh) ≠ polled.core.winSize ∧ nw > 0 ∧ nh > 0 then do
        let core := polled.core.onResize nw nh
        let needed ← config.build.mul32 core.winSize.1 core.winSize.2
        return some {
          core, framebuffer := resizeWords polled.framebuffer needed.toNat, dirty := true }
      else return some polled
  | .motionNotify x y state =>
      return some { polled with
        core := (polled.core.updateX11Mods state).onPointerMove x.toInt32 y.toInt32 }
  | .buttonPress detail x y state => do
      let (core, dirty) ←
        (polled.core.updateX11Mods state).x11ButtonPress config.build detail x y
      return some { polled with core, dirty := polled.dirty || dirty }
  | .buttonRelease detail x y state => do
      let core := polled.core.updateX11Mods state
      if 1 ≤ detail ∧ detail ≤ 3 then
        let core ← core.onMouseButton config.build x.toInt32 y.toInt32 detail.toUInt32 false
        return some { polled with core }
      else return some { polled with core }
  | .key pressed detail state => do
      let shift := state &&& KeyButMask.shift = KeyButMask.shift
      let keysym := lookupX11Keysym config.keymap detail shift
      let core := (polled.core.updateX11Mods state).updateKeysymModifier keysym pressed
      let (core, _) ← core.onKey config.build keysym pressed none
      return some { polled with core, dirty := true }
  | .clientMessage word => return if word = config.wmDeleteWindow then none else some polled
  | .other => return some polled

/-- The events that a turn polls, one after the other. -/
def poll (polled : X11Polled) : List X11Event → Run (Option X11Polled)
  | [] => return some polled
  | event :: rest => do
      match ← event.handle config polled with
      | some next => poll next rest
      | none => return none

end X11Event

/-- What waits is handled until an event ends the loop. -/
def BrowserCore.receive (build : Build) (core : BrowserCore) : List RenderEvent → Run (Option BrowserCore)
  | [] => return some core
  | event :: rest => do
      let (next, goesOn) ← core.handleRenderEvent build event
      if goesOn then next.receive build rest else return none

def Arrived.events? : Arrived → Option (List RenderEvent)
  | .timeout => some []
  | .events first rest => some (first :: rest)
  | .disconnected => none

inductive X11Request where
  | wmName (title : String)
  | putImage (request : PutImage)

namespace X11Loop

variable (config : X11Config) (state : X11Loop)

/-- Render, without a TrueType font, and present the damage. -/
def redraw : Run (X11Loop × List X11Request) := do
  let (core, framebuffer, damage) ←
    state.core.renderInto config.build (noStdPainter config.build config.font) state.framebuffer
  let images ← presentX11Damage config.build core.winSize.1 framebuffer damage
  return ({ state with core, framebuffer }, images.map .putImage)

/-- What a turn draws, with the title if it is another one. -/
def draw : Run (X11Loop × List X11Request) := do
  let (next, images) ← { state with lastTitle := state.core.windowTitle }.redraw config
  return (next,
    (if state.core.windowTitle ≠ state.lastTitle then [.wmName state.core.windowTitle] else []) ++ images)

/-- A turn of the loop. `none` ends it. -/
def turn (events : List X11Event) (arrived : Arrived) : Run (Option (X11Loop × List X11Request)) := do
  match ← X11Event.poll config { core := state.core, framebuffer := state.framebuffer, dirty := false } events with
  | none => return none
  | some polled =>
      match arrived.events? with
      | none => return none
      | some waiting =>
          match ← polled.core.receive config.build waiting with
          | none => return none
          | some core =>
              let ready := { state with core, framebuffer := polled.framebuffer }
              if !waiting.isEmpty ∨ polled.dirty ∨ core.chromeDirty ∨ core.fullContentDirty ∨
                  core.pendingDamage ≠ [] then
                return some (← ready.draw config)
              else return some (ready, [])

/-- The loop before its first turn: the window is drawn once. -/
def start (width height : UInt32) (initialUrl : String) (editing : Bool) :
    Run (X11Loop × List X11Request) := do
  let core := BrowserCore.newNoStd width height initialUrl editing
  let needed ← config.build.mul32 width height
  { core, framebuffer := List.replicate needed.toNat background, lastTitle := core.windowTitle : X11Loop }.redraw
    config

end X11Loop

/-! ## The server -/

/-- The pixels of a window, by column and row. -/
abbrev Drawable := Int → Int → UInt32

namespace PutImage

variable (request : PutImage) (x y : Int)

def Covers : Prop :=
  request.dstX.toInt ≤ x ∧ x < request.dstX.toInt + request.width.toNat ∧
    request.dstY.toInt ≤ y ∧ y < request.dstY.toInt + request.height.toNat

instance : Decidable (request.Covers x y) := inferInstanceAs (Decidable (_ ∧ _ ∧ _ ∧ _))

/-- Four bytes stand for a pixel, row by row. -/
def pixel : UInt32 :=
  let i := ((y - request.dstY.toInt) * request.width.toNat + (x - request.dstX.toInt)).toNat
  UInt32.ofNat (ofLeBytes ((request.data.drop (4 * i)).take 4))

/-- The server copies the rows of a request to the window. -/
def onto (drawable : Drawable) : Drawable := fun x y =>
  if request.Covers x y then request.pixel x y else drawable x y

end PutImage

/-- A window of the server. It owes the client an `Expose` for each time that it lost what was
drawn. -/
structure X11Window where
  drawable : Drawable
  wmName : String
  exposures : Nat

def X11Window.apply (window : X11Window) : X11Request → X11Window
  | .wmName title => { window with wmName := title }
  | .putImage request => { window with drawable := request.onto window.drawable }

/-- The loop and its window. -/
structure X11 where
  client : X11Loop
  window : X11Window

inductive X11Happens where
  | lost (drawable : Drawable)
  | turned (events : List X11Event) (arrived : Arrived)

/-- The server loses what is drawn, or the loop takes a turn. An `Expose` comes only where one
is owed. -/
inductive X11Step (config : X11Config) : Step X11 X11Happens Empty where
  | lost {x11 drawable} : X11Step config x11 (.lost drawable) []
      { x11 with window := { x11.window with drawable, exposures := x11.window.exposures + 1 } }
  | turned {x11 events arrived next requests} :
      events.count .expose ≤ x11.window.exposures →
      x11.client.turn config events arrived = .ok (some (next, requests)) →
      X11Step config x11 (.turned events arrived) []
        { client := next
          window := { requests.foldl X11Window.apply x11.window with
            exposures := x11.window.exposures - events.count .expose } }

/-- The window before the first turn. It is created with the background and with a name. -/
def X11.begin (drawable : Drawable) (first : X11Loop × List X11Request) : X11 where
  client := first.1
  window := first.2.foldl X11Window.apply { drawable, wmName := "ExoBrowser", exposures := 0 }

end ExoBrowser.Client
