import ExoBrowser.Library.LossyText
import ExoBrowser.Library.Picture
import ExoBrowser.Web.Framing
import Mathlib.Logic.Function.Basic

/-!
# The page

What the script of the page keeps, and what it does with a message of the host. A message is
handled up to where the script throws, and what was done before stays done.
-/

set_option autoImplicit false

namespace ExoBrowser.Web

open Library Proto

/-! ## Tags -/

namespace PageTag

def cursorState : Nat := 0x30
def loadState : Nat := 0x31
def title : Nat := 0x32
def urlChanged : Nat := 0x33
def rawFrame : Nat := 0x40
def subframe : Nat := 0x41
def audioFrame : Nat := 0x48
def tabCreated : Nat := 0x73
def tabClosed : Nat := 0x74
def tabActivated : Nat := 0x75
def tabTitle : Nat := 0x76
def tabUrl : Nat := 0x77

end PageTag

/-! ## State -/

structure PageTab where
  id : Nat
  title : String
  url : String
  isLoading : Bool
  isSecure : Bool
deriving DecidableEq

/-- Each pixel is the number of `Uint32Array`. -/
abbrev Image := Picture UInt32

/-- The variables of the script, and the parts of the document that it writes. The canvas has no
transparency. -/
structure Page where
  activeTabId : Nat
  nextTabId : Nat
  tabs : List PageTab
  tabFrames : Nat → Option Image
  isLoading : Bool
  canvas : Image
  urlInput : String
  /-- Whether `document.activeElement` is the address field. -/
  urlFocused : Bool
  securityIcon : String
  securityClass : String
  documentTitle : String
  cursor : String

def black : UInt32 := 0xFF000000

def blankImage (width height : Nat) : Image := { width, height, pixel := fun _ _ => black }

/-- Before the first message. -/
def Page.start (width height : Nat) : Page where
  activeTabId := 1
  nextTabId := 2
  tabs := [{ id := 1, title := "DuckDuckGo", url := "https://duckduckgo.com", isLoading := false, isSecure := true }]
  tabFrames := fun _ => none
  isLoading := false
  canvas := blankImage width height
  urlInput := ""
  urlFocused := false
  securityIcon := "🔒"
  securityClass := ""
  documentTitle := "ExoBrowser Cloud"
  cursor := ""

/-! ## Reading -/

/-- An unsigned number of `DataView`, which throws outside of the view. -/
def getUint (size : Nat) (view : Bytes) (offset : Nat) : Run Nat :=
  if offset + size ≤ view.length then .ok (ofLeBytes ((view.drop offset).take size))
  else Checked.abort .outOfRange

/-- Without a byte order mark at the front. -/
def dropMark : List Char → String
  | [] => ""
  | c :: text => if c = '\uFEFF' then String.ofList text else String.ofList (c :: text)

/-- `new TextDecoder().decode(bytes)` -/
def decodeText (bytes : Bytes) : String := dropMark (decodeLossy bytes)

def readString (p : Bytes) (off : Nat) : Run String := do
  match ← readVarint p off with
  | none => return ""
  | some lenInfo =>
      let start := off + lenInfo.bytesRead
      return decodeText (subarray p start (start + lenInfo.value))

/-! ## Images -/

/-- The rows of `raw`, one behind the other. -/
def pixelBytes (raw : Bytes) (w h stride : Nat) : Run Bytes :=
  let pixelBytes := List.replicate (w * h * 4) 0
  let rowLen := w * 4
  if stride = rowLen then Checked.overwrite pixelBytes 0 (subarray raw 0 (w * h * 4 : Nat))
  else (List.range h).foldlM (fun pixelBytes row =>
    let srcOff := row * stride
    let dstOff := row * rowLen
    Checked.overwrite pixelBytes dstOff (subarray raw srcOff (srcOff + rowLen : Nat))) pixelBytes

/-- Blue and red change places, and the pixel is opaque. -/
def swapPixel (val : UInt32) : UInt32 :=
  let low : UInt32 := 0xFF
  (val &&& (0xFF00FF00 : UInt32)) ||| ((val >>> 16) &&& low) ||| ((val &&& low) <<< 16) ||| (0xFF000000 : UInt32)

/-- A little-endian number. -/
def word (first second third fourth : UInt8) : UInt32 :=
  first.toUInt32 ||| (second.toUInt32 <<< 8) ||| (third.toUInt32 <<< 16) ||| (fourth.toUInt32 <<< 24)

/-- `new Uint32Array(bytes.buffer)` -/
def toWords : Bytes → List UInt32
  | first :: second :: third :: fourth :: rest => word first second third fourth :: toWords rest
  | _ => []

/-- `new ImageData` throws for no pixels. Beside its own it has none. -/
def imageData (pixelBytes : Bytes) (w h : Nat) : Run Image :=
  let u32 := (toWords pixelBytes).map swapPixel
  if u32 = [] then Checked.abort .explicit
  else .ok {
    width := w
    height := h
    pixel := fun col row => if col < w then u32.getD (row * w + col) 0 else 0 }

namespace Page

variable (page : Page)

/-- Setting a size clears the canvas. -/
def sizeCanvas (width height : Nat) : Page :=
  if page.canvas.width ≠ width ∨ page.canvas.height ≠ height then
    { page with canvas := blankImage width height }
  else page

def putImageData (image : Image) (x y : Nat) : Page :=
  { page with canvas := page.canvas.patch ⟨x, y, image.width, image.height⟩ image.pixel }

def setTabFrame (tabId : Nat) (image : Image) : Page :=
  { page with tabFrames := Function.update page.tabFrames tabId (some image) }

def restoreTabFrame (tabId : Nat) : Page :=
  match page.tabFrames tabId with
  | some img => (page.sizeCanvas img.width img.height).putImageData img 0 0
  | none => { page with canvas := blankImage page.canvas.width page.canvas.height }

end Page

/-! ## Handling -/

/-- `playAudioFrame`, which throws where the browser does not take the channels or the rate. It
changes nothing of the page. -/
abbrev Player := Nat → Nat → Bytes → Run Unit

def updateFirst (tabId : Nat) (change : PageTab → PageTab) : List PageTab → List PageTab
  | [] => []
  | tab :: rest => if tab.id = tabId then change tab :: rest else tab :: updateFirst tabId change rest

/-- Where a handler ends. -/
structure Outcome where
  page : Page
  thrown : Bool

namespace Page

variable (page : Page)

def done : Outcome := { page, thrown := false }

/-- Go on with a value, unless it throws. -/
def after {α : Type} (value : Run α) (next : α → Outcome) : Outcome :=
  match value with
  | .ok value => next value
  | .error _ => { page, thrown := true }

/-- The canvas has its size before the image is made. -/
def handleRawFrame (p : Bytes) : Outcome :=
  page.after (getUint 2 p 8) fun w =>
  page.after (getUint 2 p 10) fun h =>
  page.after (getUint 4 p 12) fun stride =>
  let raw := p.drop 21
  let sized := page.sizeCanvas w h
  sized.after (pixelBytes raw w h stride) fun pixels =>
  sized.after (imageData pixels w h) fun imgData =>
  ((sized.putImageData imgData 0 0).setTabFrame page.activeTabId imgData).done

/-- The image of the tab is not kept up to date. -/
def handleSubframe (p : Bytes) : Outcome :=
  page.after (getUint 2 p 8) fun x =>
  page.after (getUint 2 p 10) fun y =>
  page.after (getUint 2 p 12) fun w =>
  page.after (getUint 2 p 14) fun h =>
  page.after (getUint 4 p 16) fun stride =>
  let raw := p.drop 25
  page.after (pixelBytes raw w h stride) fun pixels =>
  page.after (imageData pixels w h) fun imgData =>
  (page.putImageData imgData x y).done

def handleAudioFrame (play : Player) (p : Bytes) : Outcome :=
  page.after (getUint 1 p 8) fun codec =>
  page.after (getUint 1 p 9) fun channels =>
  page.after (getUint 4 p 10) fun sampleRate =>
  page.after (readVarint p 14) fun
    | none => page.done
    | some lenInfo =>
        let off := 14 + lenInfo.bytesRead
        let pcmData := subarray p off (off + lenInfo.value)
        if codec = 0 ∨ codec = 1 then page.after (play channels sampleRate pcmData) fun () => page.done
        else page.done

def updateTab (tabId : Nat) (change : PageTab → PageTab) : Page :=
  { page with tabs := updateFirst tabId change page.tabs }

def isHttps (url : String) : Bool := url.startsWith "https://"

def setLoading (state : Nat) : Page :=
  let isLoading := state = 0 || state = 1 || state = 2
  { page with isLoading }.updateTab page.activeTabId fun tab => { tab with isLoading }

def handleLoadState (p : Bytes) : Outcome :=
  page.after (getUint 1 p 0) fun state => (page.setLoading state).done

def showUrl (url : String) : Page :=
  { page with
    urlInput := if page.urlFocused then page.urlInput else url
    securityIcon := if isHttps url then "🔒" else "ℹ️"
    securityClass := if isHttps url then "secure" else "" }

def setUrl (url : String) : Page :=
  (page.showUrl url).updateTab page.activeTabId fun tab => { tab with url, isSecure := isHttps url }

def handleUrlChanged (p : Bytes) : Outcome :=
  page.after (readString p 0) fun url => (page.setUrl url).done

def setTitle (title : String) : Page :=
  { page with documentTitle := title ++ " — ExoBrowser Cloud" }.updateTab page.activeTabId fun tab =>
    { tab with title }

def handleTitle (p : Bytes) : Outcome :=
  page.after (readString p 0) fun title => (page.setTitle title).done

def cursors : List String :=
  ["default", "pointer", "text", "wait", "wait", "crosshair", "move", "not-allowed", "grab", "grabbing",
    "ew-resize", "ns-resize", "nesw-resize", "nwse-resize"]

def setCursor (shape : Nat) : Page := { page with cursor := cursors.getD shape "default" }

def handleCursorState (p : Bytes) : Outcome :=
  page.after (getUint 1 p 0) fun shape => (page.setCursor shape).done

/-- The title and the address behind the number of a tab. -/
def readTabTexts (p : Bytes) : Run (String × String) := do
  match ← readVarint p 4 with
  | none => return ("New Tab", "")
  | some titleLen =>
      let titleOff := 4 + titleLen.bytesRead
      let urlOff := titleOff + titleLen.value
      let title := decodeText (subarray p titleOff urlOff)
      match ← readVarint p urlOff with
      | none => return (title, "")
      | some urlLen =>
          let urlBytesOff := urlOff + urlLen.bytesRead
          return (title, decodeText (subarray p urlBytesOff (urlBytesOff + urlLen.value)))

/-- Numbers up to that of the tab are taken. -/
def countTab (tabId : Nat) : Page := { page with nextTabId := max page.nextTabId (tabId + 1) }

def listTab (tabId : Nat) (title url : String) : Page :=
  if page.tabs.any (·.id = tabId) then page
  else
    let tab : PageTab := {
      id := tabId
      title := if title = "" then "New Tab" else title
      url
      isLoading := false
      isSecure := isHttps url }
    { page with tabs := page.tabs ++ [tab] }

def handleTabCreated (p : Bytes) : Outcome :=
  page.after (getUint 4 p 0) fun tabId =>
  (page.countTab tabId).after (readTabTexts p) fun (title, url) =>
  ((page.countTab tabId).listTab tabId title url).done

def removeTab (tabId : Nat) : Page :=
  { page with
    tabs := page.tabs.filter (·.id ≠ tabId)
    tabFrames := Function.update page.tabFrames tabId none }

def handleTabClosed (p : Bytes) : Outcome :=
  page.after (getUint 4 p 0) fun tabId => (page.removeTab tabId).done

def activateTab (tabId : Nat) : Page := { page with activeTabId := tabId }.restoreTabFrame tabId

def handleTabActivated (p : Bytes) : Outcome :=
  page.after (getUint 4 p 0) fun tabId => (page.activateTab tabId).done

def setTabTitle (tabId : Nat) (title : String) : Page :=
  page.updateTab tabId fun tab => { tab with title }

def handleTabTitle (p : Bytes) : Outcome :=
  page.after (getUint 4 p 0) fun tabId =>
  page.after (readString p 4) fun title => (page.setTabTitle tabId title).done

def setTabUrl (tabId : Nat) (url : String) : Page :=
  let updated := page.updateTab tabId fun tab => { tab with url, isSecure := isHttps url }
  if page.activeTabId = tabId ∧ ¬ page.urlFocused then updated.showUrl url else updated

def handleTabUrl (p : Bytes) : Outcome :=
  page.after (getUint 4 p 0) fun tabId =>
  page.after (readString p 4) fun url => (page.setTabUrl tabId url).done

def handlePayload (play : Player) (tag : Int) (p : Bytes) : Outcome :=
  if tag = PageTag.rawFrame then page.handleRawFrame p
  else if tag = PageTag.subframe then page.handleSubframe p
  else if tag = PageTag.audioFrame then page.handleAudioFrame play p
  else if tag = PageTag.loadState then page.handleLoadState p
  else if tag = PageTag.urlChanged then page.handleUrlChanged p
  else if tag = PageTag.title then page.handleTitle p
  else if tag = PageTag.cursorState then page.handleCursorState p
  else if tag = PageTag.tabCreated then page.handleTabCreated p
  else if tag = PageTag.tabClosed then page.handleTabClosed p
  else if tag = PageTag.tabActivated then page.handleTabActivated p
  else if tag = PageTag.tabTitle then page.handleTabTitle p
  else if tag = PageTag.tabUrl then page.handleTabUrl p
  else page.done

end Page

/-- `decodePass`, with what the handlers do. -/
def pagePass (play : Player) (bytes : Bytes) : Int × Page → Run (Pass (Int × Page) Page)
  | (offset, page) =>
      if offset < bytes.length then
        match readHeader bytes offset with
        | .error _ => return .leave page
        | .ok none => return .leave page
        | .ok (some (tag, len, offset)) =>
            if offset + len > bytes.length then return .leave page
            else
              let outcome := page.handlePayload play tag (subarray bytes offset (offset + len))
              if outcome.thrown then return .leave outcome.page
              else return .again (offset + len, outcome.page)
      else return .leave page

/-- `ws.onmessage` -/
def Page.receive (page : Page) (play : Player) (bytes : Bytes) : Run Page :=
  loop (pagePass play bytes) (bytes.length + 2) (0, page)

end ExoBrowser.Web
