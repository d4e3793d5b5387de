import ExoBrowser.Client.Paint

/-!
# Toolbar

The tab bar, the navigation bar and the bookmarks above the content, the toast, and
the cursor.
-/

set_option autoImplicit false

namespace ExoBrowser.Client

open Library

namespace BrowserCore

variable (build : Build) (font : BasicFonts) (core : BrowserCore)

/-! ## Tabs -/

def tabColor (tab : TabInfo) : UInt32 :=
  if tab.isLoading then 0xF59E0B else if tab.isSecure then 0x10B981 else 0x6B7280

/-- The line over the active tab. -/
def drawTabMark (tabW tx : Int) (active : Bool) (buf : List UInt32) : Run (List UInt32) := do
  if active then core.window.fillRect build (← build.i32 (tx + 8)) 4 (tabW - 20) 2 0x3B82F6 buf
  else return buf

def drawTab (tabW tx : Int) (tab : TabInfo) (buf : List UInt32) : Run (List UInt32) := do
  let active : Bool := tab.id = core.activeTabId
  let bg := if active then 0x1E1E28 else 0x16161D
  let buf ← core.window.fillRoundedRect build tx 4 (tabW - 4) 28 6 bg buf
  let buf ← core.drawTabMark build tabW tx active buf
  let buf ← core.window.fillRoundedRect build (← build.i32 (tx + 10)) 14 6 6 3 (tabColor tab) buf
  let title := if tab.title.isEmpty then "New Tab" else tab.title
  let fg := if active then 0xF3F4F6 else 0x9CA3AF
  let (buf, _) ← core.window.drawText build font (← build.i32 (tx + 22)) 9 fg title (tabW - 46) buf
  if core.tabs.length > 1 then
    let closeX ← build.i32 ((← build.i32 (tx + tabW)) - 22)
    let (buf, _) ← core.window.drawText build font closeX 9 0x9CA3AF "x" 12 buf
    return buf
  else return buf

/-- The tabs from left to right. The answer is the right edge of the last one. -/
def drawTabs (tabW : Int) : List TabInfo → Int → List UInt32 → Run (List UInt32 × Int)
  | [], tx, buf => return (buf, tx)
  | tab :: rest, tx, buf => do
      let buf ← core.drawTab build font tabW tx tab buf
      drawTabs tabW rest (← build.i32 (tx + tabW)) buf

def drawTabBar (buf : List UInt32) : Run (List UInt32) := do
  let buf ← core.window.fillRect build 0 0 (asI32 core.window.bw.toNat) tabBarH.toNat 0x111116 buf
  let tabW ← core.tabWidth build
  let (buf, tx) ← core.drawTabs build font tabW core.tabs 6 buf
  let buf ← core.window.fillRoundedRect build (← build.i32 (tx + 2)) 6 26 22 5 0x252532 buf
  let (buf, _) ← core.window.drawText build font (← build.i32 (tx + 10)) 8 0xE5E7EB "+" 14 buf
  return buf

/-! ## Navigation -/

/-- A button of the navigation bar with its label. -/
def drawButton (x y w : Int) (bg : UInt32) (textX textY : Int) (fg : UInt32) (label : String)
    (maxW : Int) (buf : List UInt32) : Run (List UInt32) := do
  let buf ← core.window.fillRoundedRect build x y w 26 6 bg buf
  let (buf, _) ← core.window.drawText build font textX textY fg label maxW buf
  return buf

def navButtons : List (Int × String) :=
  [(8, "<"), (40, ">"), (72, if core.isLoading then "X" else "R"), (104, "H")]

def drawNavButton (ny : Int) (buf : List UInt32) : Int × String → Run (List UInt32)
  | (bx, label) =>
      core.drawButton build font bx (ny + 6) 28 0x2A2A38 (bx + 9) (ny + 10) 0xE5E7EB label 16 buf

def drawOmnibox (ny rightX : Int) (buf : List UInt32) : Run (List UInt32) := do
  let omniX : Int := 140
  let omniW := max (rightX - omniX - 10) 80
  let omniBg := if core.editing then 0x121218 else 0x14141C
  let buf ← core.window.fillRoundedRect build omniX (ny + 5) omniW 28 14 omniBg buf
  let borderCol := if core.editing then 0x3B82F6 else 0x323244
  let buf ← core.window.strokeRoundedRect build omniX (ny + 5) omniW 28 borderCol buf
  let isHttps := isSecureUrl core.urlBuf
  let badgeCol := if isHttps then 0x10B981 else 0x9CA3AF
  let badgeTxt := if isHttps then "HTTPS" else "URL"
  let buf ← core.window.fillRoundedRect build (omniX + 6) (ny + 9) 44 20 10 0x1E293B buf
  let (buf, _) ← core.window.drawText build font (omniX + 11) (ny + 12) badgeCol badgeTxt 38 buf
  let textX := omniX + 56
  let maxTextW := max (omniW - 66) 20
  let (buf, drawnW) ← core.window.drawText build font textX (ny + 10) 0xF3F4F6 core.urlBuf maxTextW buf
  if core.editing then
    let caretX := min (textX + drawnW + 1) (omniX + omniW - 10)
    core.window.fillRect build caretX (ny + 10) 2 18 0x60A5FA buf
  else return buf

def drawAudioButton (ny rightX : Int) (buf : List UInt32) : Run (List UInt32) :=
  let audBg := if core.audioMuted then 0x7F1D1D
    else if core.audioPlayingFramesLeft > 0 then 0x065F46
    else 0x2A2A38
  let audTxt := if core.audioMuted then "MUTE" else "AUD"
  core.drawButton build font rightX (ny + 6) 42 audBg (rightX + 6) (ny + 11) 0xF3F4F6 audTxt 34 buf

def drawZoom (ny zmX : Int) (buf : List UInt32) : Run (List UInt32) := do
  let buf ← core.drawButton build font zmX (ny + 6) 114 0x2A2A38 (zmX + 8) (ny + 10) 0xE5E7EB "-" 14 buf
  let pct := toString (core.zoomMilli / 10).toNat ++ "%"
  let (buf, _) ← core.window.drawText build font (zmX + 34) (ny + 11) 0xD1D5DB pct 48 buf
  let (buf, _) ← core.window.drawText build font (zmX + 94) (ny + 10) 0xE5E7EB "+" 14 buf
  return buf

def drawNavBar (buf : List UInt32) : Run (List UInt32) := do
  let ny : Int := tabBarH.toNat
  let buf ← core.window.fillRect build 0 ny (asI32 core.window.bw.toNat) navBarH.toNat 0x1E1E28 buf
  let buf ← core.navButtons.foldlM (core.drawNavButton build font ny) buf
  let rightX := max (← build.i32 (asI32 core.window.bw.toNat - 216)) 200
  let buf ← core.drawOmnibox build font ny rightX buf
  let buf ← core.drawAudioButton build font ny rightX buf
  let buf ← core.drawZoom build font ny (rightX + 48) buf
  let clrX := rightX + 168
  core.drawButton build font clrX (ny + 6) 40 0x3F232A (clrX + 7) (ny + 11) 0xFCA5A5 "CLR" 30 buf

/-! ## Bookmarks -/

/-- The chips from `bkx` on, up to the first that does not end before the window does. -/
def drawBookmarks (top : Int) : List (String × String) → Nat → Int → List UInt32 → Run (List UInt32)
  | [], _, _, buf => return buf
  | (label, _) :: rest, idx, bkx, buf => do
      let chipW : Int := label.utf8ByteSize * 7 + 20
      if bkx + chipW > (← build.i32 (asI32 core.window.bw.toNat - 8)) then return buf
      else
        let chipBg := if idx = 0 then 0x311B1B else 0x23232F
        let chipFg := if idx = 0 then 0xFCA5A5 else 0xD1D5DB
        let buf ← core.window.fillRoundedRect build bkx (top + 3) chipW 20 5 chipBg buf
        let (buf, _) ← core.window.drawText build font (bkx + 8) (top + 5) chipFg label (chipW - 12) buf
        drawBookmarks top rest (idx + 1) (bkx + chipW + 6) buf

def drawBookmarkBar (buf : List UInt32) : Run (List UInt32) := do
  let top : Int := (tabBarH + navBarH).toNat
  let buf ← core.window.fillRect build 0 top (asI32 core.window.bw.toNat) bookmarkBarH.toNat 0x181820 buf
  let buf ← core.drawBookmarks build font top bookmarks 0 8 buf
  let divCol := if core.isLoading then 0x3B82F6 else 0x2A2A38
  core.window.fillRect build 0 (chromeH.toNat - 1) (asI32 core.window.bw.toNat) 1 divCol buf

/-! ## All of it -/

/-- `draw_chrome`, onto the window of the core. -/
def drawChrome (buf : List UInt32) : Run (List UInt32) := do
  if asI32 (min chromeH core.window.bh).toNat ≤ 0 then return buf
  else
    let buf ← core.drawTabBar build font buf
    let buf ← core.drawNavBar build font buf
    core.drawBookmarkBar build font buf

end BrowserCore

namespace Window

variable (window : Window) (build : Build) (font : BasicFonts)

/-- The toast that `render_into` shows, and the rectangle it reports. -/
def drawToast (msg : String) (buf : List UInt32) : Run (List UInt32 × DamageRect) := do
  let tw ← build.i32 ((← build.i32 (asI32 msg.utf8ByteSize * 7)) + 24)
  let ty ← build.i32 (asI32 window.bh.toNat - 36)
  let buf ← window.fillRoundedRect build 12 ty tw 24 6 0x1E293B buf
  let (buf, _) ← window.drawText build font 22 (← build.i32 (ty + 4)) 0x93C5FD msg
    (← build.i32 (tw - 16)) buf
  return (buf, {
    x := 12, y := UInt32.ofNat (asU32 (max ty 0))
    w := min (UInt32.ofNat (asU32 tw)) window.bw, h := 24 })

def drawCursor (position : Int32 × Int32) (buf : List UInt32) : Run (List UInt32) := do
  window.fillRoundedRect build (← build.i32 (position.1.toInt - 4))
    (← build.i32 (position.2.toInt - 4)) 9 9 4 0x3B82F6 buf

end Window

/-- What drawing leaves in a `&mut [u32]`, whose length is fixed by its type. -/
def drawnOnto (buffer : List UInt32) : Run (List UInt32) → Option (Drawn buffer)
  | .ok drawn => if same : drawn.length = buffer.length then some ⟨drawn, same⟩ else none
  | .error _ => none

def toastOnto (buffer : List UInt32) :
    Run (List UInt32 × DamageRect) → Option (Drawn buffer × DamageRect)
  | .ok (drawn, rect) => (drawnOnto buffer (.ok drawn)).map fun drawn => (drawn, rect)
  | .error _ => none

/-- The painter of the build without `std`, whose text is drawn in bitmap glyphs. -/
def noStdPainter (build : Build) (font : BasicFonts) : Painter where
  chrome core buffer := drawnOnto buffer (core.drawChrome build font buffer)
  toast winSize msg buffer :=
    toastOnto buffer ((Window.mk winSize.1 winSize.2).drawToast build font msg buffer)
  cursor winSize position buffer :=
    drawnOnto buffer ((Window.mk winSize.1 winSize.2).drawCursor build position buffer)

end ExoBrowser.Client
