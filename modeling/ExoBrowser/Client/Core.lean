import ExoBrowser.Link.Receive

/-!
# Browser core

The state of the client, and what the events from the host do to it. This is the
build without `std`: audio is queued, and there is no clock but the audio's.
-/

set_option autoImplicit false

namespace ExoBrowser.Client

open Library Proto

abbrev Run := Checked Empty

/-! ## Arithmetic -/

/-- Whether integer overflow panics or wraps. -/
structure Build where
  overflowChecks : Bool

namespace Build

variable (build : Build)

def add32 (left right : UInt32) : Run UInt32 :=
  if left.toNat + right.toNat < 2 ^ 32 ∨ !build.overflowChecks then .ok (left + right)
  else Checked.abort .overflow

def mul32 (left right : UInt32) : Run UInt32 :=
  if left.toNat * right.toNat < 2 ^ 32 ∨ !build.overflowChecks then .ok (left * right)
  else Checked.abort .overflow

/-- The value of an `i32` expression. -/
def i32 (value : Int) : Run Int :=
  if (-2 ^ 31 ≤ value ∧ value < 2 ^ 31) ∨ !build.overflowChecks then .ok (value.bmod (2 ^ 32))
  else Checked.abort .overflow

def add64 (left right : UInt64) : Run UInt64 :=
  if left.toNat + right.toNat < 2 ^ 64 ∨ !build.overflowChecks then .ok (left + right)
  else Checked.abort .overflow

def mul64 (left right : UInt64) : Run UInt64 :=
  if left.toNat * right.toNat < 2 ^ 64 ∨ !build.overflowChecks then .ok (left * right)
  else Checked.abort .overflow

end Build

/-! ## State -/

def tabBarH : UInt32 := 32
def navBarH : UInt32 := 38
def bookmarkBarH : UInt32 := 26
def chromeH : UInt32 := tabBarH + navBarH + bookmarkBarH

/-- The height of the content area: `height.saturating_sub(CHROME_H)`. -/
def contentHeight (height : UInt32) : UInt32 := if chromeH ≤ height then height - chromeH else 0

structure GfxFrame where
  width : UInt32
  height : UInt32
  stride : UInt32
  pixels : Bytes
deriving DecidableEq, Repr

structure GfxSubframe where
  x : UInt32
  y : UInt32
  w : UInt32
  h : UInt32
  stride : UInt32
  pixels : Bytes
deriving DecidableEq, Repr

structure AudioChunk where
  ptsUs : UInt64
  sampleRate : UInt32
  channels : UInt8
  pcm : Bytes
deriving DecidableEq, Repr

structure TabInfo where
  id : UInt32
  title : String
  url : String
  isLoading : Bool
  isSecure : Bool
deriving DecidableEq, Repr

/-- Pixels as `0x00RRGGBB` words. -/
structure TabBuffer where
  w : UInt32
  h : UInt32
  pixels : List UInt32
deriving DecidableEq, Repr

structure DamageRect where
  x : UInt32
  y : UInt32
  w : UInt32
  h : UInt32
deriving DecidableEq, Repr

inductive InputEvent where
  | motion (x y : Int32) (mods : UInt32)
  | button (x y : Int32) (button : UInt32) (pressed : Bool) (mods : UInt32)
  | key (keysym mods : UInt32) (pressed : Bool)
  | scroll (dx dy : Int32)
  | navigate (url : String)
  | resize (w h : UInt16)
  | setZoom (levelMilli : UInt32)
  | navAction (action : UInt8)
  | stop
  | createTab (tabId : UInt32) (url : String)
  | closeTab (tabId : UInt32)
  | switchTab (tabId : UInt32)
  | clearData (clearCookies clearCache clearStorage : Bool)
deriving DecidableEq, Repr

/-- The maps `tab_composites` and `tile_cache` are functions. -/
structure BrowserCore where
  winSize : UInt32 × UInt32
  outboundInputs : List InputEvent
  tabs : List TabInfo
  activeTabId : UInt32
  nextTabId : UInt32
  activeBuf : Option TabBuffer
  tabComposites : UInt32 → Option TabBuffer
  tileCache : UInt64 → Option (List UInt32)
  cursor : Int32 × Int32
  cursorShape : CursorShape
  windowTitle : String
  mods : UInt32
  urlBuf : String
  editing : Bool
  isLoading : Bool
  zoomMilli : UInt32
  statusToastText : Option String
  statusToastFramesLeft : UInt32
  chromeDirty : Bool
  fullContentDirty : Bool
  pendingDamage : List DamageRect
  pendingFrames : List GfxFrame
  pendingSubframes : List GfxSubframe
  pendingTiles : List (UInt32 × UInt32 × UInt64)
  audioMuted : Bool
  audioPlayingFramesLeft : UInt32
  pendingAudio : List AudioChunk
  masterAudioPts : UInt64
  framesSeen : UInt64
  synthCursor : Option (Int32 × Int32)

def isSecureUrl (url : String) : Bool := url.startsWith "https://"

namespace BrowserCore

def newNoStd (width height : UInt32) (initialUrl : String) (editing : Bool) : BrowserCore where
  winSize := (width, height)
  outboundInputs := []
  tabs := [{ id := 1, title := "New Tab", url := initialUrl, isLoading := false
             isSecure := isSecureUrl initialUrl }]
  activeTabId := 1
  nextTabId := 2
  activeBuf := none
  tabComposites := fun _ => none
  tileCache := fun _ => none
  cursor := (0, 0)
  cursorShape := .default
  windowTitle := "ExoBrowser"
  mods := 0
  urlBuf := initialUrl
  editing
  isLoading := false
  zoomMilli := 1000
  statusToastText := none
  statusToastFramesLeft := 0
  chromeDirty := true
  fullContentDirty := true
  pendingDamage := []
  pendingFrames := []
  pendingSubframes := []
  pendingTiles := []
  audioMuted := false
  audioPlayingFramesLeft := 0
  pendingAudio := []
  masterAudioPts := 0
  framesSeen := 0
  synthCursor := none

end BrowserCore

/-! ## Events -/

inductive RenderEvent where
  | frame (f : GfxFrame)
  | subframe (s : GfxSubframe)
  | tileData (hash : UInt64) (pixels : Bytes)
  | tileRef (x y w h : UInt32) (hash : UInt64)
  | audio (ptsUs : UInt64) (channels : UInt8) (sampleRate : UInt32) (data : Bytes)
  | cursorShape (shape : CursorShape)
  | loadState (state : UInt8)
  | initialUrl (url : String)
  | title (title : String)
  | urlChanged (url : String)
  | tabCreated (tabId : UInt32) (title url : String)
  | tabClosed (tabId : UInt32)
  | tabActivated (tabId : UInt32)
  | tabTitle (tabId : UInt32) (title : String)
  | tabUrl (tabId : UInt32) (url : String)
  | quit
deriving DecidableEq, Repr

def RenderEvent.fromProtoMessage : Message → Option RenderEvent
  | .welcome _ _ _ _ currentUrl => if currentUrl.isEmpty then none else some (.initialUrl currentUrl)
  | .rawFrame _ width height stride _ _ pixels =>
      some (.frame { width := width.toUInt32, height := height.toUInt32, stride, pixels })
  | .subframe _ x y w h stride _ _ pixels =>
      some (.subframe { x := x.toUInt32, y := y.toUInt32, w := w.toUInt32, h := h.toUInt32
                        stride, pixels })
  | .tileData hash _ _ _ _ _ pixels => some (.tileData hash pixels)
  | .tileRef _ x y w h hash =>
      some (.tileRef x.toUInt32 y.toUInt32 w.toUInt32 h.toUInt32 hash)
  | .audioFrame ptsUs _ channels sampleRate data => some (.audio ptsUs channels sampleRate data)
  | .cursorState shape _ _ _ => some (.cursorShape shape)
  | .loadState state => some (.loadState state)
  | .title newTitle => some (.title newTitle)
  | .urlChanged url => some (.urlChanged url)
  | .tabCreated tabId newTitle url => some (.tabCreated tabId newTitle url)
  | .tabClosed tabId => some (.tabClosed tabId)
  | .tabActivated tabId => some (.tabActivated tabId)
  | .tabTitle tabId newTitle => some (.tabTitle tabId newTitle)
  | .tabUrl tabId url => some (.tabUrl tabId url)
  | _ => none

def Chunk.word (px : Chunk) : UInt32 :=
  UInt32.ofNat (ofLeBytes [px.b, px.g, px.r, 0])

/-- Convert a row of BGRA pixels into words, as many as there are of both. -/
def copyBgraRowToU32 (srcBgra : Bytes) (dstU32 : List UInt32) : List UInt32 :=
  let n := min dstU32.length (srcBgra.length / 4)
  (asChunks (srcBgra.take (n * 4))).1.map Chunk.word ++ dstU32.drop n

/-- `tabs.iter_mut().find(|t| t.id == tab_id)` and a change of the tab found. -/
def modifyFirst (tabId : UInt32) (change : TabInfo → TabInfo) : List TabInfo → List TabInfo
  | [] => []
  | t :: rest => if t.id = tabId then change t :: rest else t :: modifyFirst tabId change rest

namespace BrowserCore

variable (build : Build) (core : BrowserCore)

def emitInput (ev : InputEvent) : BrowserCore :=
  { core with outboundInputs := core.outboundInputs ++ [ev] }

def onResize (w h : UInt32) : BrowserCore :=
  let w := max w 64
  let h := max h (chromeH + 64)
  if core.winSize ≠ (w, h) then
    let contentH := max (contentHeight h) 1
    { core.emitInput (.resize (min w 65535).toUInt16 (min contentH 65535).toUInt16) with
      winSize := (w, h)
      chromeDirty := true
      fullContentDirty := true }
  else core

def findTab (tabId : UInt32) : Option TabInfo := core.tabs.find? fun t => t.id = tabId

def modifyTab (tabId : UInt32) (change : TabInfo → TabInfo) : BrowserCore :=
  { core with tabs := modifyFirst tabId change core.tabs }

def onFrame (f : GfxFrame) : Run BrowserCore := do
  if f.width = 0 ∨ f.height = 0 then return core
  else if f.pixels.length < f.stride.toNat * f.height.toNat then return core
  else return { core with
    pendingFrames := [f]
    pendingSubframes := []
    pendingTiles := []
    pendingDamage := []
    fullContentDirty := true
    framesSeen := ← build.add64 core.framesSeen 1 }

def onSubframe (s : GfxSubframe) : Run BrowserCore := do
  if s.w = 0 ∨ s.h = 0 then return core
  else if s.pixels.length < s.stride.toNat * s.h.toNat then return core
  else return { core with
    pendingDamage := core.pendingDamage ++ [{ x := s.x, y := s.y, w := s.w, h := s.h }]
    pendingSubframes := core.pendingSubframes ++ [s]
    framesSeen := ← build.add64 core.framesSeen 1 }

def tileSide : Nat := 64

def onTileData (hash : UInt64) (pixels : Bytes) : BrowserCore :=
  if pixels.length ≥ tileSide * tileSide * 4 then
    let words := copyBgraRowToU32 (pixels.take (tileSide * tileSide * 4))
      (List.replicate (tileSide * tileSide) 0)
    { core with tileCache := fun key => if key = hash then some words else core.tileCache key }
  else core

def onTileRef (x y w h : UInt32) (hash : UInt64) : BrowserCore :=
  if w = 64 ∧ h = 64 ∧ (core.tileCache hash).isSome then
    { core with
      pendingTiles := core.pendingTiles ++ [(x, y, hash)]
      pendingDamage := core.pendingDamage ++ [{ x, y, w, h }] }
  else core

def onAudio (ptsUs : UInt64) (channels : UInt8) (sampleRate : UInt32) (data : Bytes) :
    Run BrowserCore := do
  let bytesPerSample : Nat := max channels.toNat 1 * 2
  let samples := UInt64.ofNat (data.length / bytesPerSample)
  let durUs := (← build.mul64 samples 1000000) / (max sampleRate 1).toUInt64
  let wasPlaying := core.audioPlayingFramesLeft > 0
  let masterAudioPts ← build.add64 ptsUs durUs
  return { core with
    audioPlayingFramesLeft := 30
    masterAudioPts
    pendingAudio := if core.audioMuted then core.pendingAudio
      else core.pendingAudio ++ [{ ptsUs, sampleRate, channels, pcm := data }]
    chromeDirty := core.chromeDirty || !wasPlaying }

def onLoadState (state : UInt8) : BrowserCore :=
  let isLoading := state < 3
  { core.modifyTab core.activeTabId (fun t => { t with isLoading }) with
    isLoading
    chromeDirty := true }

def onUrlChanged (url : String) : BrowserCore :=
  { core.modifyTab core.activeTabId
      (fun t => { t with url, isSecure := isSecureUrl url }) with
    urlBuf := if core.editing then core.urlBuf else url
    chromeDirty := true }

def onTitle (newTitle : String) : BrowserCore :=
  { core.modifyTab core.activeTabId (fun t => { t with title := newTitle }) with
    windowTitle := if newTitle.isEmpty then "ExoBrowser" else newTitle ++ " — ExoBrowser"
    chromeDirty := true }

def onTabCreated (tabId : UInt32) (newTitle url : String) : Run BrowserCore := do
  let next ← build.add32 tabId 1
  let tabs := match core.findTab tabId with
    | some _ => modifyFirst tabId (fun t =>
        { t with
          title := if newTitle.isEmpty then t.title else newTitle
          isSecure := if url.isEmpty then t.isSecure else isSecureUrl url
          url := if url.isEmpty then t.url else url }) core.tabs
    | none => core.tabs ++ [{
        id := tabId
        title := if newTitle.isEmpty then "New Tab" else newTitle
        isSecure := isSecureUrl url
        url
        isLoading := false }]
  return { core with nextTabId := max core.nextTabId next, tabs, chromeDirty := true }

def removeComposite (tabId : UInt32) : BrowserCore :=
  { core with tabComposites := fun key => if key = tabId then none else core.tabComposites key }

def onTabClosed (tabId : UInt32) : BrowserCore :=
  let closed := { core.removeComposite tabId with tabs := core.tabs.filter (·.id ≠ tabId) }
  let next := if core.activeTabId = tabId then
      match closed.tabs.head? with
      | some first =>
          { closed.removeComposite first.id with
            activeTabId := first.id
            urlBuf := first.url
            activeBuf := closed.tabComposites first.id
            fullContentDirty := true }
      | none => closed
    else closed
  { next with chromeDirty := true }

/-- Store the active buffer and make `tabId` the active tab. -/
def activateBuf (tabId : UInt32) : BrowserCore :=
  let kept := match core.activeBuf with
    | some cur => fun key => if key = core.activeTabId then some cur else core.tabComposites key
    | none => core.tabComposites
  { core with
    activeTabId := tabId
    activeBuf := kept tabId
    tabComposites := fun key => if key = tabId then none else kept key }

def onTabActivated (tabId : UInt32) : BrowserCore :=
  let next := if core.activeTabId ≠ tabId then
      let switched := { core.activateBuf tabId with fullContentDirty := true }
      match core.findTab tabId with
      | some t => { switched with
          urlBuf := if core.editing then core.urlBuf else t.url
          isLoading := t.isLoading }
      | none => switched
    else core
  { next with chromeDirty := true }

def onTabTitle (tabId : UInt32) (newTitle : String) : BrowserCore :=
  match core.findTab tabId with
  | some _ =>
      { core.modifyTab tabId (fun t => { t with title := newTitle }) with chromeDirty := true }
  | none => core

def onTabUrl (tabId : UInt32) (url : String) : BrowserCore :=
  match core.findTab tabId with
  | some _ =>
      { core.modifyTab tabId (fun t => { t with url, isSecure := isSecureUrl url }) with
        urlBuf := if tabId = core.activeTabId ∧ !core.editing then url else core.urlBuf
        chromeDirty := true }
  | none => core

/-- The answer says whether to go on, which only `quit` denies. -/
def handleRenderEvent : RenderEvent → Run (BrowserCore × Bool)
  | .quit => return (core, false)
  | .frame f => return (← core.onFrame build f, true)
  | .subframe s => return (← core.onSubframe build s, true)
  | .tileData hash pixels => return (core.onTileData hash pixels, true)
  | .tileRef x y w h hash => return (core.onTileRef x y w h hash, true)
  | .audio ptsUs channels sampleRate data =>
      return (← core.onAudio build ptsUs channels sampleRate data, true)
  | .cursorShape shape => return ({ core with cursorShape := shape }, true)
  | .loadState state => return (core.onLoadState state, true)
  | .initialUrl url => return (core.onUrlChanged url, true)
  | .urlChanged url => return (core.onUrlChanged url, true)
  | .title newTitle => return (core.onTitle newTitle, true)
  | .tabCreated tabId newTitle url => return (← core.onTabCreated build tabId newTitle url, true)
  | .tabClosed tabId => return (core.onTabClosed tabId, true)
  | .tabActivated tabId => return (core.onTabActivated tabId, true)
  | .tabTitle tabId newTitle => return (core.onTabTitle tabId newTitle, true)
  | .tabUrl tabId url => return (core.onTabUrl tabId url, true)

def applyMessage (msg : Message) : Run BrowserCore := do
  match RenderEvent.fromProtoMessage msg with
  | some rev => return (← core.handleRenderEvent build rev).1
  | none => return core

end BrowserCore

/-! ## Ingesting bytes -/

/-- A call of `ingest_wire_bytes`: the core and the buffer it leaves, the messages it
applied, which it counts, and its result. -/
structure Ingested where
  core : BrowserCore
  inbuf : Bytes
  applied : List Message
  result : Except Error Nat

/-- One pass of the loop over a buffer of which `cur` is left. An error returns before
anything is drained. -/
def ingestPass (build : Build) (target : Target) (inbuf : Bytes) :
    BrowserCore × List Message × Bytes → Run (Pass (BrowserCore × List Message × Bytes) Ingested)
  | (core, applied, cur) =>
      match Message.decode target cur with
      | (.ok (some msg), rest) => do
          return .again (← core.applyMessage build msg, applied ++ [msg], rest)
      | (.ok none, rest) =>
          return .leave {
            core, inbuf := inbuf.drop (inbuf.length - rest.length)
            applied, result := .ok applied.length }
      | (.error (.err error), _) =>
          return .leave { core, inbuf, applied, result := .error error }
      | (.error (.panic panic), _) => Checked.abort panic

def BrowserCore.ingestWireBytes (build : Build) (target : Target) (core : BrowserCore)
    (inbuf : Bytes) : Run Ingested :=
  loop (ingestPass build target inbuf) (inbuf.length + 1) (core, [], inbuf)

/-! ## Pictures that are kept -/

/-- Frames and subframes that the client keeps. -/
def GfxFrame.Taken (f : GfxFrame) : Prop :=
  f.width ≠ 0 ∧ f.height ≠ 0 ∧ f.stride.toNat * f.height.toNat ≤ f.pixels.length

def GfxSubframe.Taken (s : GfxSubframe) : Prop :=
  s.w ≠ 0 ∧ s.h ≠ 0 ∧ s.stride.toNat * s.h.toNat ≤ s.pixels.length

instance (f : GfxFrame) : Decidable f.Taken := inferInstanceAs (Decidable (_ ∧ _))

instance (s : GfxSubframe) : Decidable s.Taken := inferInstanceAs (Decidable (_ ∧ _))

namespace BrowserCore

/-- A frame takes the place of all that was to be drawn. -/
def takeFrame (core : BrowserCore) (f : GfxFrame) (seen : UInt64) : BrowserCore :=
  { core with
    pendingFrames := [f]
    pendingSubframes := []
    pendingTiles := []
    pendingDamage := []
    fullContentDirty := true
    framesSeen := seen }

def takeSubframe (core : BrowserCore) (s : GfxSubframe) (seen : UInt64) : BrowserCore :=
  { core with
    pendingDamage := core.pendingDamage ++ [{ x := s.x, y := s.y, w := s.w, h := s.h }]
    pendingSubframes := core.pendingSubframes ++ [s]
    framesSeen := seen }

variable {build : Build} {core next : BrowserCore}

@[simp] theorem takeSubframe_pendingSubframes (s : GfxSubframe) (seen : UInt64) :
    (core.takeSubframe s seen).pendingSubframes = core.pendingSubframes ++ [s] := rfl

theorem onFrame_of_taken {f : GfxFrame} (taken : f.Taken) :
    core.onFrame build f = do return core.takeFrame f (← build.add64 core.framesSeen 1) := by
  obtain ⟨wide, tall, long⟩ := taken
  unfold onFrame
  rw [if_neg (not_or.mpr ⟨wide, tall⟩), if_neg (Nat.not_lt.mpr long)]
  rfl

theorem onFrame_of_not_taken {f : GfxFrame} (dropped : ¬ f.Taken) :
    core.onFrame build f = .ok core := by
  unfold onFrame
  split
  case isTrue => rfl
  case isFalse shown =>
      have short : f.pixels.length < f.stride.toNat * f.height.toNat := Nat.not_le.mp fun long =>
        dropped ⟨fun empty => shown (.inl empty), fun empty => shown (.inr empty), long⟩
      rw [if_pos short]
      rfl

theorem onSubframe_of_taken {s : GfxSubframe} (taken : s.Taken) :
    core.onSubframe build s = do return core.takeSubframe s (← build.add64 core.framesSeen 1) := by
  obtain ⟨wide, tall, long⟩ := taken
  unfold onSubframe
  rw [if_neg (not_or.mpr ⟨wide, tall⟩), if_neg (Nat.not_lt.mpr long)]
  rfl

theorem onSubframe_of_not_taken {s : GfxSubframe} (dropped : ¬ s.Taken) :
    core.onSubframe build s = .ok core := by
  unfold onSubframe
  split
  case isTrue => rfl
  case isFalse shown =>
      have short : s.pixels.length < s.stride.toNat * s.h.toNat := Nat.not_le.mp fun long =>
        dropped ⟨fun empty => shown (.inl empty), fun empty => shown (.inr empty), long⟩
      rw [if_pos short]
      rfl

theorem onFrame_eq_ok {f : GfxFrame} (returned : core.onFrame build f = .ok next) :
    next = core ∨ f.Taken ∧ ∃ seen, next = core.takeFrame f seen := by
  by_cases taken : f.Taken
  · rw [onFrame_of_taken taken] at returned
    obtain ⟨seen, _, result⟩ := Checked.bind_eq_ok returned
    cases result
    exact .inr ⟨taken, seen, rfl⟩
  · rw [onFrame_of_not_taken taken] at returned
    cases returned
    exact .inl rfl

theorem onSubframe_eq_ok {s : GfxSubframe} (returned : core.onSubframe build s = .ok next) :
    next = core ∨ s.Taken ∧ ∃ seen, next = core.takeSubframe s seen := by
  by_cases taken : s.Taken
  · rw [onSubframe_of_taken taken] at returned
    obtain ⟨seen, _, result⟩ := Checked.bind_eq_ok returned
    cases result
    exact .inr ⟨taken, seen, rfl⟩
  · rw [onSubframe_of_not_taken taken] at returned
    cases returned
    exact .inl rfl

end BrowserCore

end ExoBrowser.Client
