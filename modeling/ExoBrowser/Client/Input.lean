import ExoBrowser.Client.Core
import ExoBrowser.Client.Url

/-!
# Input

Keys, buttons and the pointer: what they change in the client, and the events they
leave for the host. The toolbar is hit by the geometry it is drawn with.
-/

set_option autoImplicit false

namespace ExoBrowser.Client

open Library Proto

/-! ## Outbound events -/

def InputEvent.intoProtoMessage (tsUs : UInt64) : InputEvent → Message
  | .navigate url => .nav url
  | .resize w h => .resize w h 100
  | .setZoom levelMilli => .setZoom levelMilli
  | .navAction action => .navAction action
  | .stop => .stop
  | .createTab tabId url => .createTab tabId url
  | .closeTab tabId => .closeTab tabId
  | .switchTab tabId => .switchTab tabId
  | .clearData clearCookies clearCache clearStorage =>
      .clearData clearCookies clearCache clearStorage
  | .motion x y mods => .inputPointer tsUs x y mods
  | .button x y which pressed mods => .inputButton tsUs x y which pressed mods
  | .key keysym mods pressed => .inputKey tsUs keysym mods pressed
  | .scroll dx dy => .inputScroll tsUs 0 dx dy .update

/-! ## Constants -/

def modCtrl : UInt32 := 1
def modAlt : UInt32 := 4
def modButton1 : UInt32 := 0x100000
def modButton2 : UInt32 := 0x200000
def modButton3 : UInt32 := 0x400000

def bookmarks : List (String × String) := [
  ("YouTube", "https://www.youtube.com"),
  ("HackerNews", "https://news.ycombinator.com"),
  ("Wikipedia", "https://www.wikipedia.org"),
  ("DuckDuckGo", "https://duckduckgo.com"),
  ("Reddit", "https://www.reddit.com"),
  ("GitHub", "https://github.com"),
  ("Rust", "https://www.rust-lang.org"),
  ("Example", "https://example.com")]

def homeUrl : String := "https://duckduckgo.com"

def clearedToast : String := "Cleared cookies, cache & storage"

/-- `char::is_control`: the category `Cc`. -/
def isControl (c : Char) : Bool := c.val < 0x20 || (0x7F ≤ c.val && c.val ≤ 0x9F)

/-- The cast `as i32`. -/
def asI32 (value : Nat) : Int := (value : Int).bmod (2 ^ 32)

namespace BrowserCore

variable (build : Build) (core : BrowserCore)

/-! ## Tabs -/

/-- What Ctrl+T and a click on `+` do. -/
def newTab : Run BrowserCore := do
  let newId := core.nextTabId
  let nextTabId ← build.add32 core.nextTabId 1
  let kept := match core.activeBuf with
    | some cur => fun key => if key = core.activeTabId then some cur else core.tabComposites key
    | none => core.tabComposites
  let opened : BrowserCore := { core with
    nextTabId
    activeBuf := none
    tabComposites := kept
    tabs := core.tabs ++ [{
      id := newId, title := "New Tab", url := homeUrl, isLoading := true, isSecure := true }]
    activeTabId := newId
    urlBuf := homeUrl
    editing := false
    fullContentDirty := true
    chromeDirty := true }
  return opened.emitInput (.createTab newId homeUrl)

/-- Behind a closed tab the first one becomes active, if there is one. -/
def activateFirst : BrowserCore :=
  match core.tabs.head? with
  | some first =>
      { core.removeComposite first.id with
        activeTabId := first.id
        urlBuf := first.url
        activeBuf := core.tabComposites first.id }.emitInput (.switchTab first.id)
  | none => core

/-- What Ctrl+W does with more than one tab. -/
def closeActiveTab : BrowserCore :=
  let id := core.activeTabId
  let told := core.emitInput (.closeTab id)
  let closed := { told.removeComposite id with tabs := told.tabs.filter (·.id ≠ id) }
  { closed.activateFirst with
    fullContentDirty := true
    chromeDirty := true }

/-- What a click on the cross of the tab at `i` does. -/
def closeTabAt (i : Nat) (tabId : UInt32) : BrowserCore :=
  let told := core.emitInput (.closeTab tabId)
  let closed := { told.removeComposite tabId with tabs := told.tabs.eraseIdx i }
  let next := if closed.activeTabId = tabId then
      { closed.activateFirst with fullContentDirty := true }
    else closed
  { next with chromeDirty := true }

/-- What Ctrl+Tab does with more than one tab. -/
def nextTab : Run BrowserCore := do
  let idx := (core.tabs.findIdx? (·.id = core.activeTabId)).getD 0
  let next ← Checked.index core.tabs ((idx + 1) % core.tabs.length)
  let switched := core.activateBuf next.id
  let shown := match core.findTab next.id with
    | some t => { switched with urlBuf := t.url }
    | none => switched
  return { shown.emitInput (.switchTab next.id) with
    fullContentDirty := true
    chromeDirty := true }

/-- What a click on a tab does. -/
def clickTab (tab : TabInfo) : BrowserCore :=
  if core.activeTabId ≠ tab.id then
    { (core.activateBuf tab.id).emitInput (.switchTab tab.id) with
      urlBuf := tab.url
      editing := false
      fullContentDirty := true
      chromeDirty := true }
  else core

/-! ## Addresses and zoom -/

/-- The active tab goes to `url`, which the host is told. -/
def load (url : String) : BrowserCore :=
  { (core.modifyTab core.activeTabId fun t =>
      { t with url, isSecure := isSecureUrl url, isLoading := true }).emitInput (.navigate url) with
    urlBuf := url
    editing := false
    isLoading := true
    chromeDirty := true }

def submitOmnibox : BrowserCore := core.load (canonicalizeUrl core.urlBuf)

def setZoom (levelMilli : UInt32) : BrowserCore :=
  { core.emitInput (.setZoom levelMilli) with zoomMilli := levelMilli, chromeDirty := true }

def zoomIn : Run BrowserCore := do
  return core.setZoom (min (← build.add32 core.zoomMilli 100) 3000)

def zoomOut : BrowserCore :=
  core.setZoom (max (if 100 ≤ core.zoomMilli then core.zoomMilli - 100 else 0) 300)

def toggleMuted : BrowserCore := { core with audioMuted := !core.audioMuted, chromeDirty := true }

/-! ## The toolbar -/

/-- The width of a tab: the space is shared, within bounds. -/
def tabWidth : Run Int := do
  let nTabs := asI32 (max core.tabs.length 1)
  let availW := max (← build.i32 (asI32 core.winSize.1.toNat - 52)) 100
  if nTabs = 0 then Checked.abort .explicit else return max 90 (min (availW.tdiv nTabs) 210)

/-- The tab under `x` with its index and left edge, or else the right edge of the last one. -/
def hitTab (x tabW : Int) : List TabInfo → Nat → Int → Run ((Nat × TabInfo × Int) ⊕ Int)
  | [], _, tx => return .inr tx
  | tab :: rest, i, tx => do
      let right ← build.i32 (tx + tabW)
      if x ≥ tx ∧ x < (← build.i32 (right - 4)) then return .inl (i, tab, tx)
      else hitTab x tabW rest (i + 1) right

def clickTabBar (x : Int) (button : UInt32) : Run BrowserCore := do
  let tabW ← core.tabWidth build
  match ← hitTab build x tabW core.tabs 0 6 with
  | .inl (i, tab, tx) =>
      let closeX ← build.i32 (tx + tabW - 24)
      if (button = 2 ∨ (button = 1 ∧ x ≥ closeX)) ∧ core.tabs.length > 1 then
        return core.closeTabAt i tab.id
      else return core.clickTab tab
  | .inr tx =>
      if x < tx then return core
      else if x ≤ (← build.i32 (tx + 32)) then core.newTab build
      else return core

def clickNavBar (x : Int) : Run BrowserCore := do
  if 8 ≤ x ∧ x < 36 then return core.emitInput (.navAction 0)
  else if 40 ≤ x ∧ x < 68 then return core.emitInput (.navAction 1)
  else if 72 ≤ x ∧ x < 100 then
    return core.emitInput (if core.isLoading then .stop else .navAction 2)
  else if 104 ≤ x ∧ x < 132 then
    return { core.emitInput (.navigate homeUrl) with
      urlBuf := homeUrl, editing := false, chromeDirty := true }
  else do
    let rightX := max (← build.i32 (asI32 core.winSize.1.toNat - 216)) 200
    let omniX : Int := 140
    let omniW := max (rightX - omniX - 10) 80
    let zmX := rightX + 48
    let clrX := rightX + 168
    if x ≥ omniX ∧ x < omniX + omniW then
      return if core.editing then core
        else { core with editing := true, urlBuf := "", chromeDirty := true }
    else if x ≥ rightX ∧ x < rightX + 42 then return core.toggleMuted
    else if x ≥ zmX ∧ x < zmX + 28 then return core.zoomOut
    else if x ≥ zmX + 28 ∧ x < zmX + 86 then return core.setZoom 1000
    else if x ≥ zmX + 86 ∧ x < zmX + 114 then core.zoomIn build
    else if x ≥ clrX ∧ x < clrX + 40 then
      return { core.emitInput (.clearData true true true) with
        statusToastText := some clearedToast
        statusToastFramesLeft := 60
        chromeDirty := true }
    else return core

/-- The bookmark under `x`. `label.len()` is the number of bytes. -/
def hitBookmark (x : Int) : List (String × String) → Int → Option String
  | [], _ => none
  | (label, url) :: rest, bkx =>
      let chipW : Int := label.utf8ByteSize * 7 + 20
      if x ≥ bkx ∧ x < bkx + chipW then some url else hitBookmark x rest (bkx + chipW + 6)

def handleChromeClick (x y : Int32) (button : UInt32) : Run BrowserCore := do
  if y.toInt < tabBarH.toNat then core.clickTabBar build x.toInt button
  else if y.toInt < (tabBarH + navBarH).toNat then core.clickNavBar build x.toInt
  else match hitBookmark x.toInt bookmarks 8 with
    | some url => return core.load url
    | none => return core

/-! ## Devices -/

def onPointerMove (x y : Int32) : BrowserCore :=
  let moved := { core with cursor := (x, y) }
  if y.toInt ≥ chromeH.toNat then moved.emitInput (.motion x (y - 96) core.mods) else moved

def onMouseButton (x y : Int32) (button : UInt32) (pressed : Bool) : Run BrowserCore := do
  let bit := if button = 1 then modButton1
    else if button = 3 then modButton3
    else if button = 2 then modButton2
    else 0
  let core := { core with mods := if pressed then core.mods ||| bit else core.mods &&& ~~~bit }
  if y.toInt < chromeH.toNat then
    if pressed then core.handleChromeClick build x y button else return core
  else
    let core := if pressed ∧ core.editing then { core with editing := false, chromeDirty := true }
      else core
    return if button ≠ 0 then core.emitInput (.button x (y - 96) button pressed core.mods) else core

def onScroll (dx dy : Int32) : BrowserCore :=
  if core.cursor.2.toInt ≥ chromeH.toNat ∧ (dx ≠ 0 ∨ dy ≠ 0) then core.emitInput (.scroll dx dy)
  else core

/-- The shortcuts with Ctrl. `none` is a key that is none. -/
def onCtrlKey (keysym : UInt32) : Option (Run BrowserCore) :=
  if keysym = 0x6c ∨ keysym = 0x4c then
    some (return { core with editing := true, urlBuf := "", chromeDirty := true })
  else if keysym = 0x74 ∨ keysym = 0x54 then some (core.newTab build)
  else if keysym = 0x77 ∨ keysym = 0x57 then
    some (return if core.tabs.length > 1 then core.closeActiveTab else core)
  else if keysym = 0x72 ∨ keysym = 0x52 then some (return core.emitInput (.navAction 2))
  else if keysym = 0x6d ∨ keysym = 0x4d then some (return core.toggleMuted)
  else if keysym = 0x3d ∨ keysym = 0x2b then some (core.zoomIn build)
  else if keysym = 0x2d then some (return core.zoomOut)
  else if keysym = 0x30 then some (return core.setZoom 1000)
  else if keysym = 0xff09 then some (if core.tabs.length > 1 then core.nextTab else return core)
  else none

/-- The keys that the omnibox takes while it is edited. -/
def onEditKey (keysym : UInt32) : Option BrowserCore :=
  if keysym = 0xff0d ∨ keysym = 0xff8d then some core.submitOmnibox
  else if keysym = 0xff1b then
    some { core with
      editing := false
      urlBuf := match core.findTab core.activeTabId with
        | some t => t.url
        | none => core.urlBuf
      chromeDirty := true }
  else if keysym = 0xff08 then
    some { core with urlBuf := String.ofList core.urlBuf.toList.dropLast, chromeDirty := true }
  else none

/-- Text typed into the omnibox: the characters that the key stands for, or else the key. -/
def typeText (keysym : UInt32) : Option String → BrowserCore
  | some t => { core with
      urlBuf := core.urlBuf ++ String.ofList (t.toList.filter (!isControl ·)), chromeDirty := true }
  | none =>
      if 0x20 ≤ keysym ∧ keysym ≤ 0x7e then
        { core with urlBuf := core.urlBuf.push (Char.ofNat keysym.toNat), chromeDirty := true }
      else core

/-- What is left of a key that no shortcut takes. -/
def onPlainKey (keysym : UInt32) (pressed modified : Bool) (text : Option String) : BrowserCore :=
  if core.editing then
    if pressed ∧ !modified then core.typeText keysym text else core
  else if keysym ≠ 0 then core.emitInput (.key keysym core.mods pressed)
  else core

/-- The answer says whether to quit. -/
def onKey (keysym : UInt32) (pressed : Bool) (text : Option String) : Run (BrowserCore × Bool) := do
  let ctrl := core.mods &&& modCtrl ≠ 0
  let alt := core.mods &&& modAlt ≠ 0
  let plain := core.onPlainKey keysym pressed (ctrl || alt) text
  if pressed then
    if keysym = 0xffc8 then return (core, true)
    else if keysym = 0xffc2 then return (core.emitInput (.navAction 2), false)
    else if alt ∧ keysym = 0xff51 then return (core.emitInput (.navAction 0), false)
    else if alt ∧ keysym = 0xff53 then return (core.emitInput (.navAction 1), false)
    else
      match if ctrl then core.onCtrlKey build keysym else none with
      | some taken => return (← taken, false)
      | none =>
          match if core.editing then core.onEditKey keysym else none with
          | some taken => return (taken, false)
          | none => return (plain, false)
  else return (plain, false)

/-- `encode_outbound_messages`: the queued events as messages, and an empty queue. -/
def drainOutbound (tsUs : UInt64) : BrowserCore × List Message :=
  ({ core with outboundInputs := [] }, core.outboundInputs.map (·.intoProtoMessage tsUs))

end BrowserCore

/-! ## Reports -/

/-- What the window system reports. It sets the modifiers by itself. -/
inductive Device where
  | modifiers (mods : UInt32)
  | key (keysym : UInt32) (pressed : Bool) (text : Option String)
  | button (x y : Int32) (button : UInt32) (pressed : Bool)
  | motion (x y : Int32)
  | scroll (dx dy : Int32)
  | resize (w h : UInt32)

def Device.input (build : Build) (core : BrowserCore) : Device → Run BrowserCore
  | .modifiers mods => return { core with mods }
  | .key keysym pressed text => return (← core.onKey build keysym pressed text).1
  | .button x y which pressed => core.onMouseButton build x y which pressed
  | .motion x y => return core.onPointerMove x y
  | .scroll dx dy => return core.onScroll dx dy
  | .resize w h => return core.onResize w h

end ExoBrowser.Client
