import ExoBrowser.Host.Diff
import ExoBrowser.Library.Machine
import Mathlib.Logic.Function.Basic

/-!
# Host state

The state that the frame pump, the tab operations and the frame bus share, and
each of their steps as one atomic change of it. A step returns what it publishes.
-/

set_option autoImplicit false

namespace ExoBrowser.Host

open Library Proto

structure TabEntry where
  url : String
  title : String
deriving DecidableEq, Repr

inductive LoadState where
  | started
  | redirected
  | committed
  | finished
  | unknown
deriving DecidableEq, Repr

/-- The tables `tabs`, `last_frames` and `force_full`, and the active tab. -/
structure HostState where
  tabs : UInt32 → Option TabEntry
  lastFrames : UInt32 → Option Frame
  activeTabId : UInt32
  forceFull : UInt32 → Bool

namespace HostState

def new (initialUrl : String) : HostState where
  tabs := Function.update (fun _ => none) 1 (some { url := initialUrl, title := "New Tab" })
  lastFrames := fun _ => none
  activeTabId := 1
  forceFull := fun _ => false

end HostState

/-! ## The frame pump -/

def q2Area : Nat := 96000

def regionCompression (region : Region) : UInt8 :=
  let area := region.w.toNat * region.h.toNat
  if area ≥ q2Area then Compression.lz4DeltaQ2
  else if area ≥ 32000 then Compression.zstd
  else Compression.zstdDelta

def Frame.subframe (f : Frame) (tsUs : UInt64) (region : Region) : Run Message := do
  let sub ← extractSubrect f.pixels f.stride region
  return .subframe tsUs region.x region.y region.w region.h (UInt32.ofNat (region.w.toNat * 4))
    f.format (regionCompression region) sub

/-- What the pump publishes for `f` after a frame `prev` of the same geometry: nothing,
the whole frame, or the rectangles that differ. -/
def Frame.deltaMessages (aligned : Nat → Bool) (prev f : Frame) (tsUs : UInt64) :
    Run (List Message) := do
  let regions ← diffRegions aligned prev.pixels f.pixels f.width f.height f.stride
  if regions = [] then return []
  else
    let totalPx := (regions.map fun region => region.w.toNat * region.h.toNat).sum
    let fullPx := f.width * f.height
    if totalPx * 10 ≥ fullPx * 8 ∨ regions.length > 16 then return [f.rawFrame tsUs]
    else regions.mapM (f.subframe tsUs)

def Frame.sameGeom (l f : Frame) : Prop :=
  l.width = f.width ∧ l.height = f.height ∧ l.stride = f.stride

instance (l f : Frame) : Decidable (l.sameGeom f) := inferInstanceAs (Decidable (_ ∧ _ ∧ _))

namespace HostState

variable (state : HostState)

def insertFrame (f : Frame) : HostState :=
  { state with lastFrames := Function.update state.lastFrames f.tabId (some f) }

/-- `force_full.remove`, whose answer is the flag before. -/
def removeForceFull (tabId : UInt32) : HostState :=
  { state with forceFull := Function.update state.forceFull tabId false }

/-- The frame branch of the pump. A frame of an inactive tab is stored only. -/
def receiveFrame (f : Frame) (tsUs : UInt64) (aligned : Nat → Bool) :
    Run (HostState × List Message) := do
  if state.activeTabId = f.tabId then
    let mustFull := state.forceFull f.tabId
    let stored := (state.removeForceFull f.tabId).insertFrame f
    match state.lastFrames f.tabId with
    | some prev =>
        if !mustFull ∧ prev.sameGeom f then
          return (stored, ← prev.deltaMessages aligned f tsUs)
        else return (stored, [f.rawFrame tsUs])
    | none => return (stored, [f.rawFrame tsUs])
  else return (state.insertFrame f, [])

def setForceFull (tabId : UInt32) : HostState :=
  { state with forceFull := Function.update state.forceFull tabId true }

def ifActive (tabId : UInt32) (m : Message) : List Message :=
  if state.activeTabId = tabId then [m] else []

def receiveLoad (tabId : UInt32) : LoadState → HostState × List Message
  | .started => (state.setForceFull tabId, state.ifActive tabId (.loadState 0))
  | .redirected => (state, state.ifActive tabId (.loadState 1))
  | .committed => (state.setForceFull tabId, state.ifActive tabId (.loadState 2))
  | .finished => (state, state.ifActive tabId (.loadState 3))
  | .unknown => (state, state.ifActive tabId (.loadState 255))

def modifyTab (tabId : UInt32) (change : TabEntry → TabEntry) : HostState :=
  { state with tabs := Function.update state.tabs tabId ((state.tabs tabId).map change) }

def receiveTitle (tabId : UInt32) (newTitle : String) : HostState × List Message :=
  (state.modifyTab tabId fun tab => { tab with title := newTitle },
    .tabTitle tabId newTitle :: state.ifActive tabId (.title newTitle))

def receiveUrl (tabId : UInt32) (newUrl : String) : HostState × List Message :=
  ((state.setForceFull tabId).modifyTab tabId fun tab => { tab with url := newUrl },
    .tabUrl tabId newUrl :: state.ifActive tabId (.urlChanged newUrl))

def receiveCursor (tabId : UInt32) (shapeId : UInt8) : HostState × List Message :=
  let shape := if shapeId = 1 then CursorShape.pointer
    else if shapeId = 2 then CursorShape.text
    else CursorShape.default
  (state, state.ifActive tabId (.cursorState shape 0 0 0))

/-! ## Tab operations -/

def switchTab (tabId : UInt32) (tsUs : UInt64) : HostState × List Message :=
  let switched := { state with activeTabId := tabId }
  match state.tabs tabId with
  | some tab =>
      let full := match state.lastFrames tabId with
        | some f => [f.rawFrame tsUs]
        | none => []
      (switched, full ++ [.title tab.title, .urlChanged tab.url, .tabActivated tabId])
  | none => (switched, [])

def createTab (tabId : UInt32) (url : String) (makeActive : Bool) (tsUs : UInt64) :
    HostState × List Message :=
  let created :=
    { state with
      tabs := Function.update state.tabs tabId (some { url, title := "New Tab" }) }
  if makeActive then created.switchTab tabId tsUs else (created, [])

def closeTab (tabId : UInt32) : HostState × List Message :=
  ({ state with
      tabs := Function.update state.tabs tabId none
      lastFrames := Function.update state.lastFrames tabId none }, [])

/-! ## The bus -/

def snapshot (tsUs : UInt64) : Option Message :=
  (state.lastFrames state.activeTabId).map (·.rawFrame tsUs)

end HostState

/-- What reaches the host, with the time it reads and, for a frame, which rows of the
two buffers lie at aligned addresses. -/
inductive Event where
  | frame (f : Frame) (tsUs : UInt64) (aligned : Nat → Bool)
  | load (tabId : UInt32) (load : LoadState)
  | title (tabId : UInt32) (newTitle : String)
  | url (tabId : UInt32) (newUrl : String)
  | cursor (tabId : UInt32) (shapeId : UInt8)
  | switchTab (tabId : UInt32) (tsUs : UInt64)
  | createTab (tabId : UInt32) (url : String) (makeActive : Bool) (tsUs : UInt64)
  | closeTab (tabId : UInt32)

def HostState.step (state : HostState) : Event → Run (HostState × List Message)
  | .frame f tsUs aligned => state.receiveFrame f tsUs aligned
  | .load tabId load => return state.receiveLoad tabId load
  | .title tabId newTitle => return state.receiveTitle tabId newTitle
  | .url tabId newUrl => return state.receiveUrl tabId newUrl
  | .cursor tabId shapeId => return state.receiveCursor tabId shapeId
  | .switchTab tabId tsUs => return state.switchTab tabId tsUs
  | .createTab tabId url makeActive tsUs => return state.createTab tabId url makeActive tsUs
  | .closeTab tabId => return state.closeTab tabId

/-- Frames have a size that a client can ask for, and a switch names an open tab. -/
def Event.Allowed (state : HostState) : Event → Prop
  | .frame f _ _ => f.WellFormed
  | .switchTab tabId _ => (state.tabs tabId).isSome
  | _ => True

def hostStep : Step HostState Event Message := fun state event published next =>
  event.Allowed state ∧ state.step event = .ok (next, published)

end ExoBrowser.Host
